import ServiceBroker.Proofs.NumberReadBack
import ServiceBroker.Proofs.RecordReadBack

/-!
# Reading back values

A value can be written whatever its depth, but a reader opens only so many containers inside
each other. `Json.nesting` counts how many a value has. A value of integers, strings and the
words (`Json.IsExact`) is read back if they are not too many (`Json.reads_value`), and if they
are, then nothing is read at all (`Json.fails_value`).

What is said of a value carries over to what contains it. If one member of a record cannot be
read, then the record cannot be read (`Json.Fields.Broken`).
-/

namespace ServiceBroker.Json

/-! ## The values -/

/-- **How many containers are nested** in a value, itself included. -/
def nesting : Json → Nat
  | .null | .bool _ | .number _ | .string _ => 0
  | .array items => nestingItems items + 1
  | .object members => nestingMembers members + 1
where
  /-- How many are nested in the items of an array. -/
  nestingItems : List Json → Nat
    | [] => 0
    | item :: items => max item.nesting (nestingItems items)
  /-- How many are nested in the members of an object. -/
  nestingMembers : Members → Nat
    | [] => 0
    | (_, value) :: members => max value.nesting (nestingMembers members)

example : nesting (.array [.null, .object [("a", .array [])]]) = 3 := by decide

/-- The items of an array are nested less than the array. -/
theorem nesting_array_le_iff {items : List Json} {depth : Nat} :
    (Json.array items).nesting ≤ depth + 1 ↔ ∀ item ∈ items, item.nesting ≤ depth := by
  have inside : nesting.nestingItems items ≤ depth ↔ ∀ item ∈ items, item.nesting ≤ depth := by
    induction items with
    | nil => simp [nesting.nestingItems]
    | cons item items ih =>
      rw [nesting.nestingItems, Nat.max_le, ih, List.forall_mem_cons]
  exact Nat.succ_le_succ_iff.trans inside

/-- The members of an object are nested less than the object. -/
theorem nesting_object_le_iff {members : Members} {depth : Nat} :
    (Json.object members).nesting ≤ depth + 1 ↔ ∀ member ∈ members, member.2.nesting ≤ depth := by
  have inside : nesting.nestingMembers members ≤ depth
      ↔ ∀ member ∈ members, member.2.nesting ≤ depth := by
    induction members with
    | nil => simp [nesting.nestingMembers]
    | cons member members ih =>
      rw [nesting.nestingMembers, Nat.max_le, ih, List.forall_mem_cons]
  exact Nat.succ_le_succ_iff.trans inside

/-- **A value that a text shows exactly**: it holds no double, and its objects have no key
twice. -/
inductive IsExact : Json → Prop where
  | null : IsExact .null
  | bool (b : Bool) : IsExact (.bool b)
  | whole (n : Whole) : IsExact (.number (.whole n))
  | string (s : String) : IsExact (.string s)
  | array {items : List Json} (each : ∀ item ∈ items, item.IsExact) : IsExact (.array items)
  | object {members : Members} (distinct : (members.map Prod.fst).Nodup)
      (each : ∀ member ∈ members, member.2.IsExact) : IsExact (.object members)

/-- An object without members holds no double. -/
theorem isExact_empty : (Json.object []).IsExact :=
  .object List.nodup_nil fun _ mem => absurd mem List.not_mem_nil

/-- An object of one member holds none if the member does not. -/
theorem IsExact.object_singleton {key : String} {value : Json} (exact : value.IsExact) :
    (Json.object [(key, value)]).IsExact :=
  .object (List.nodup_cons.mpr ⟨List.not_mem_nil, List.nodup_nil⟩) fun _ mem =>
    List.mem_singleton.mp mem ▸ exact

/-- If one of some things is deeper than allowed, one is so first. -/
theorem exists_first_deeper {α : Type} {measure : α → Nat} {depth : Nat} {all : List α}
    (deep : ¬ ∀ a ∈ all, measure a ≤ depth) :
    ∃ before first after, all = before ++ first :: after ∧ depth < measure first ∧
      ∀ a ∈ before, measure a ≤ depth := by
  obtain ⟨a, mem, deeper⟩ : ∃ a ∈ all, ¬ measure a ≤ depth := by simpa using deep
  obtain ⟨first, found⟩ : ∃ first, all.find? (fun b => decide (depth < measure b)) = some first :=
    Option.isSome_iff_exists.mp
      (List.find?_isSome.mpr ⟨a, mem, decide_eq_true (Nat.lt_of_not_le deeper)⟩)
  obtain ⟨deeper, before, after, eq, others⟩ := List.find?_eq_some_iff_append.mp found
  exact ⟨before, first, after, eq, of_decide_eq_true deeper, fun b mem =>
    Nat.le_of_not_lt fun lt => by simpa [lt] using others b mem⟩

/-! ## Failing -/

/-- **A reader finds nothing in a text**, whatever follows. -/
def Fails {α : Type} (read : Read α) (text : List Char) : Prop :=
  ∀ rest, ∃ fault, read (text ++ rest) = .error fault

theorem Read.map_of_error {α β : Type} {read : Read α} {s : List Char} {fault : Fault} (f : α → β)
    (failed : read s = .error fault) : Read.map f read s = .error fault := by
  unfold Read.map
  rw [failed]

theorem Fails.map {α β : Type} {read : Read α} {text : List Char} (f : α → β)
    (fails : Fails read text) : Fails (Read.map f read) text := fun rest => by
  obtain ⟨fault, failed⟩ := fails rest
  exact ⟨fault, Read.map_of_error f failed⟩

theorem enclosed_of_error {α : Type} {bracket : Bracket} {body : Read α} {s : List Char}
    {fault : Fault} (failed : body s = .error fault) :
    enclosed bracket body s = .error (fault.settle (landing bracket fault.rest)) := by
  unfold enclosed
  rw [failed]

theorem enclosed_of_ok {α : Type} {bracket : Bracket} {body : Read α} {s : List Char} {a : α}
    {rest : List Char} (found : body s = .ok (a, bracket.closing :: rest)) :
    enclosed bracket body s = .ok (a, rest) := by
  unfold enclosed
  rw [found]
  cases bracket <;> rfl

/-- A member fails with its value. -/
theorem Fails.memberValue {α : Type} {read : Read α} {text : List Char} (fails : Fails read text)
    (key : String) : Fails (memberValue key read) (':' :: text) := fun rest => by
  obtain ⟨fault, failed⟩ := fails rest
  refine ⟨fault.under (.member key), ?_⟩
  show read.under (.member key) (text ++ rest) = _
  unfold Read.under
  rw [failed]

/-- A value that is not `null` fails where it might be. -/
theorem Fails.optionReader {α : Type} {read : Reader α} {depth : Nat} {c : Char}
    {text : List Char} (fails : Fails (read depth) (c :: text)) (notSpace : isSpace c = false)
    (notNull : c ≠ 'n') : Fails (optionReader read depth) (c :: text) := fun rest => by
  have skipped : skipSpace (c :: (text ++ rest)) = c :: (text ++ rest) :=
    List.dropWhile_cons_of_neg (by simp [notSpace])
  obtain ⟨fault, failed⟩ := fails.map some rest
  refine ⟨fault, ?_⟩
  show Json.optionReader read depth (c :: (text ++ rest)) = _
  unfold Json.optionReader
  rw [skipped]
  dsimp only
  rw [if_neg notNull]
  exact failed

/-! ## Arrays -/

/-- **How an item may begin**: neither with a space nor with the end of the array. -/
def Begins (text : List Char) : Prop :=
  ∃ c rest, text = c :: rest ∧ isSpace c = false ∧ c ≠ ']'

theorem begins_string (s : String) : Begins (Json.string s).write :=
  ⟨'"', _, rfl, rfl, by decide⟩

theorem begins_object (members : Members) : Begins (Json.object members).write := by
  rw [write_object]
  exact ⟨'{', _, rfl, rfl, by decide⟩

/-- Every value without a double is written so. -/
theorem IsExact.begins {v : Json} (exact : v.IsExact) : Begins v.write := by
  cases exact with
  | null => exact ⟨'n', _, rfl, rfl, by decide⟩
  | bool b => cases b <;> exact ⟨_, _, rfl, rfl, by decide⟩
  | whole n =>
    obtain ⟨c, text, eq, begins⟩ := exists_writeInt_eq n.val
    have differs {d : Char} (h : startsNumber d = false) : c ≠ d := by
      rintro rfl
      exact nomatch begins.symm.trans h
    refine ⟨c, text, eq, ?_, differs rfl⟩
    simp [isSpace, differs (d := ' ') rfl, differs (d := '\n') rfl, differs (d := '\t') rfl,
      differs (d := '\r') rfl]
  | string s => exact begins_string s
  | @array items each => cases items <;> exact ⟨'[', _, rfl, rfl, by decide⟩
  | @object members distinct each => exact begins_object members

/-- What stands behind the opening bracket of a written array. -/
def listed : List Json → List Char
  | [] => [']']
  | item :: items => item.write ++ write.writeItems items

theorem write_array (items : List Json) : (Json.array items).write = '[' :: listed items := by
  cases items <;> rfl

/-- The first item of an array is found. -/
theorem nextItem_first {text : List Char} (begins : Begins text) (rest : List Char) :
    nextItem true (text ++ rest) = .ok (true, text ++ rest) := by
  obtain ⟨c, text, rfl, notSpace, notEnd⟩ := begins
  have skipped : skipSpace (c :: (text ++ rest)) = c :: (text ++ rest) :=
    List.dropWhile_cons_of_neg (by simp [notSpace])
  unfold nextItem
  rw [List.cons_append, skipped]
  dsimp only
  rw [if_neg notEnd, if_pos rfl]

/-- A later item is found behind its comma. -/
theorem nextItem_later {text : List Char} (begins : Begins text) (rest : List Char) :
    nextItem false (',' :: (text ++ rest)) = .ok (true, text ++ rest) := by
  obtain ⟨c, text, rfl, notSpace, notEnd⟩ := begins
  have skipped : skipSpace (c :: (text ++ rest)) = c :: (text ++ rest) :=
    List.dropWhile_cons_of_neg (by simp [notSpace])
  have comma : skipSpace (',' :: c :: (text ++ rest)) = ',' :: c :: (text ++ rest) := rfl
  unfold nextItem
  rw [List.cons_append, comma]
  dsimp only
  rw [if_neg (by decide), if_neg Bool.false_ne_true, if_pos rfl, skipped]
  dsimp only
  rw [if_neg notEnd]

theorem ends_writeItems (items : List Json) (rest : List Char) :
    Ends (write.writeItems items ++ rest) := by
  cases items with
  | nil => exact fun _ h => .inr (.inr (Option.some.inj h).symm)
  | cons item items => exact ends_comma _

/-- Every item is written with a character at least. -/
theorem length_lt_writeItems (items : List Json) :
    items.length < (write.writeItems items).length := by
  induction items with
  | nil => exact Nat.zero_lt_one
  | cons item items ih =>
    unfold write.writeItems
    simp only [List.length_cons, List.length_append]
    omega

theorem writeItems_cons_append (item : Json) (items : List Json) (rest : List Char) :
    write.writeItems (item :: items) ++ rest
      = ',' :: (item.write ++ (write.writeItems items ++ rest)) := by
  rw [write.writeItems]
  simp only [List.cons_append, List.append_assoc]

theorem listed_cons_append (item : Json) (items : List Json) (rest : List Char) :
    listed (item :: items) ++ rest = item.write ++ (write.writeItems items ++ rest) := by
  unfold listed
  rw [List.append_assoc]

/-- **An item that is found** in the form that it is written in. -/
structure IsRead {α : Type} (read : Read α) (written : Json) (item : α) : Prop where
  begins : Begins written.write
  reads : Reads read written.write item

section Typed

variable {α : Type} {read : Read α} {toJson : α → Json}

/-- The items after the first are read, one turn each. -/
theorem itemsFrom_writeItems {items : List α}
    (each : ∀ item ∈ items, IsRead read (toJson item) item)
    {turns : Nat} (enough : items.length < turns) (index : Nat) (rest : List Char) :
    itemsFrom read turns (index + 1) (write.writeItems (items.map toJson) ++ rest)
      = .ok (items, ']' :: rest) := by
  induction items generalizing turns index with
  | nil =>
    obtain ⟨turns, rfl⟩ := Nat.exists_eq_succ_of_ne_zero (Nat.ne_of_gt enough)
    rfl
  | cons item items ih =>
    obtain ⟨turns, rfl⟩ := Nat.exists_eq_succ_of_ne_zero (Nat.ne_of_gt (Nat.zero_lt_of_lt enough))
    obtain ⟨begins, reads⟩ := each item List.mem_cons_self
    rw [List.map_cons, writeItems_cons_append]
    unfold itemsFrom Read.under
    rw [beq_false_of_ne (Nat.succ_ne_zero index), nextItem_later begins]
    dsimp only
    rw [reads _ (ends_writeItems _ rest)]
    dsimp only
    rw [ih (fun other mem => each other (List.mem_cons_of_mem _ mem))
      (Nat.lt_of_succ_lt_succ enough)]

/-- **The items of a written array are read**, up to its closing bracket. -/
theorem items_listed {written : List α} (each : ∀ item ∈ written, IsRead read (toJson item) item)
    (rest : List Char) :
    items read (listed (written.map toJson) ++ rest) = .ok (written, ']' :: rest) := by
  unfold items
  cases written with
  | nil => rfl
  | cons item later =>
    obtain ⟨begins, reads⟩ := each item List.mem_cons_self
    have enough := length_lt_writeItems (later.map toJson)
    rw [List.length_map] at enough
    rw [List.map_cons, listed_cons_append]
    unfold itemsFrom Read.under
    rw [beq_self_eq_true, nextItem_first begins]
    dsimp only
    rw [reads _ (ends_writeItems _ rest)]
    dsimp only
    rw [itemsFrom_writeItems (fun other mem => each other (List.mem_cons_of_mem _ mem))
      (by simp only [List.length_append]; omega)]

/-- **A list is read back** if each of its items is. -/
theorem reads_listReader {read : Reader α} {depth : Nat} {items : List α}
    (each : ∀ item ∈ items, IsRead (read depth) (toJson item) item) :
    Reads (listReader read (depth + 1)) (Json.array (items.map toJson)).write items :=
  fun rest _ => by
  rw [write_array, List.cons_append]
  show enclosed .square (Json.items (read depth)) (listed (items.map toJson) ++ rest) = _
  exact enclosed_of_ok (items_listed each rest)

end Typed

section Failing

variable {read : Read Json}

variable {before : List Json} (after : List Json) {item : Json}

/-- The items after the first fail with one of them. -/
theorem itemsFrom_error (each : ∀ item ∈ before, IsRead read item item) (begins : Begins item.write)
    (fails : Fails read item.write) (turns index : Nat) (rest : List Char) :
    ∃ fault, itemsFrom read turns (index + 1)
      (write.writeItems (before ++ item :: after) ++ rest) = .error fault := by
  induction before generalizing turns index with
  | nil =>
    cases turns with
    | zero => exact ⟨_, rfl⟩
    | succ turns =>
      obtain ⟨fault, failed⟩ := fails (write.writeItems after ++ rest)
      refine ⟨fault.under (.item (index + 1)), ?_⟩
      rw [List.nil_append, writeItems_cons_append]
      unfold itemsFrom Read.under
      rw [beq_false_of_ne (Nat.succ_ne_zero index), nextItem_later begins]
      dsimp only
      rw [failed]
  | cons other before ih =>
    cases turns with
    | zero => exact ⟨_, rfl⟩
    | succ turns =>
      obtain ⟨othersBegin, reads⟩ := each other List.mem_cons_self
      obtain ⟨fault, failed⟩ := ih (fun another mem => each another (List.mem_cons_of_mem _ mem))
        turns (index + 1)
      refine ⟨fault, ?_⟩
      rw [List.cons_append, writeItems_cons_append]
      unfold itemsFrom Read.under
      rw [beq_false_of_ne (Nat.succ_ne_zero index), nextItem_later othersBegin]
      dsimp only
      rw [reads _ (ends_writeItems _ rest)]
      dsimp only
      rw [failed]

/-- **The items of a written array fail** with one of them. -/
theorem items_error (each : ∀ item ∈ before, IsRead read item item) (begins : Begins item.write)
    (fails : Fails read item.write) (rest : List Char) :
    ∃ fault, items read (listed (before ++ item :: after) ++ rest) = .error fault := by
  unfold items
  cases before with
  | nil =>
    obtain ⟨fault, failed⟩ := fails (write.writeItems after ++ rest)
    refine ⟨fault.under (.item 0), ?_⟩
    rw [List.nil_append, listed_cons_append]
    unfold itemsFrom Read.under
    rw [beq_self_eq_true, nextItem_first begins]
    dsimp only
    rw [failed]
  | cons other before =>
    obtain ⟨othersBegin, reads⟩ := each other List.mem_cons_self
    rw [List.cons_append, listed_cons_append]
    obtain ⟨fault, failed⟩ := itemsFrom_error after
      (fun another mem => each another (List.mem_cons_of_mem _ mem)) begins fails
      (other.write ++ (write.writeItems (before ++ item :: after) ++ rest)).length 0 rest
    refine ⟨fault, ?_⟩
    unfold itemsFrom Read.under
    rw [beq_self_eq_true, nextItem_first othersBegin]
    dsimp only
    rw [reads _ (ends_writeItems _ rest)]
    dsimp only
    rw [failed]

end Failing

/-! ## Objects -/

section Members

variable {σ : Type} {take : σ → String → Read σ} {state mid : σ} {before : Members}
  (after : Members) {key : String} {v : Json}

/-- The members after the first fail with one of them. -/
theorem membersFrom_error (takes : Takes take state before mid)
    (fails : Fails (take mid key) (':' :: v.write)) (turns : Nat) (rest : List Char) :
    ∃ fault, membersFrom take turns false state
      (write.writeMembers (before ++ (key, v) :: after) ++ rest) = .error fault := by
  have written (k : String) (w : Json) (members : Members) :
      write.writeMembers ((k, w) :: members) ++ rest
        = ',' :: (writeString k.toList
          ++ ((':' :: w.write) ++ (write.writeMembers members ++ rest))) := by
    rw [write.writeMembers]
    simp only [List.cons_append, List.append_assoc]
  induction takes generalizing turns with
  | nil state =>
    cases turns with
    | zero => exact ⟨_, rfl⟩
    | succ turns =>
      obtain ⟨fault, failed⟩ := fails (write.writeMembers after ++ rest)
      refine ⟨fault, ?_⟩
      rw [List.nil_append, written]
      unfold membersFrom Read.under
      rw [nextKey_later]
      dsimp only
      rw [failed]
  | @cons state next mid k w members head tail ih =>
    cases turns with
    | zero => exact ⟨_, rfl⟩
    | succ turns =>
      obtain ⟨fault, failed⟩ := ih fails turns
      refine ⟨fault, ?_⟩
      rw [List.cons_append, written]
      unfold membersFrom Read.under
      rw [nextKey_later]
      dsimp only
      rw [head _ (ends_writeMembers _ rest)]
      exact failed

/-- **The members of a written object fail** with one of them. -/
theorem members_error (takes : Takes take state before mid)
    (fails : Fails (take mid key) (':' :: v.write)) (rest : List Char) :
    ∃ fault, members take state (entries (before ++ (key, v) :: after) ++ rest)
      = .error fault := by
  have written (k : String) (w : Json) (members : Members) :
      entries ((k, w) :: members) ++ rest
        = writeString k.toList ++ ((':' :: w.write) ++ (write.writeMembers members ++ rest)) := by
    unfold entries
    simp only [List.cons_append, List.append_assoc]
  unfold members
  cases takes with
  | nil state =>
    obtain ⟨fault, failed⟩ := fails (write.writeMembers after ++ rest)
    refine ⟨fault, ?_⟩
    rw [List.nil_append, written]
    unfold membersFrom Read.under
    rw [nextKey_first]
    dsimp only
    rw [failed]
  | @cons state next mid k w members head tail =>
    rw [List.cons_append, written]
    obtain ⟨fault, failed⟩ := membersFrom_error after tail fails
      (writeString k.toList ++ ((':' :: w.write)
        ++ (write.writeMembers (members ++ (key, v) :: after) ++ rest))).length rest
    refine ⟨fault, ?_⟩
    unfold membersFrom Read.under
    rw [nextKey_first]
    dsimp only
    rw [head _ (ends_writeMembers _ rest)]
    exact failed

end Members

/-! ## Any value -/

theorem value_bracket (depth : Nat) (s : List Char) :
    value (depth + 1) ('[' :: s)
      = Read.map Json.array (enclosed .square (items (value depth))) s := by
  conv => lhs; unfold value
  rfl

theorem value_brace (depth : Nat) (s : List Char) :
    value (depth + 1) ('{' :: s)
      = Read.map Json.object (enclosed .brace (members (fun object key =>
          Read.map (put key · object) (memberValue key (value depth))) [])) s := by
  conv => lhs; unfold value
  rfl

/-- **A value is read back** if it is not nested too deep. -/
theorem reads_value {v : Json} (exact : v.IsExact) {depth : Nat} (within : v.nesting ≤ depth) :
    Reads (value depth) v.write v := by
  induction exact generalizing depth with
  | null =>
    intro rest _
    unfold value
    rfl
  | bool b =>
    intro rest _
    unfold value
    cases b <;> rfl
  | whole n => exact reads_value_whole depth n
  | string s => exact reads_value_string depth s
  | @array items each ih =>
    obtain ⟨depth, rfl⟩ := Nat.exists_eq_succ_of_ne_zero
      (Nat.ne_of_gt (Nat.lt_of_lt_of_le (Nat.succ_pos _) within))
    have inside := nesting_array_le_iff.mp within
    have found := @items_listed Json (value depth) id items fun item mem =>
      IsRead.mk (each item mem).begins (ih item mem (inside item mem))
    rw [List.map_id] at found
    intro rest _
    rw [write_array, List.cons_append, value_bracket]
    unfold Read.map
    rw [enclosed_of_ok (found rest)]
  | @object members distinct each ih =>
    obtain ⟨depth, rfl⟩ := Nat.exists_eq_succ_of_ne_zero
      (Nat.ne_of_gt (Nat.lt_of_lt_of_le (Nat.succ_pos _) within))
    have inside := nesting_object_le_iff.mp within
    have takes := @takes_put depth [] members distinct fun member mem =>
      ih member mem (inside member mem)
    intro rest _
    have found := members_entries takes rest
    rw [write_object, List.cons_append, value_brace]
    conv => lhs; unfold Read.map
    rw [enclosed_of_ok found]
    rfl

/-- **A value that is nested too deep is not read.** -/
theorem fails_value {v : Json} (exact : v.IsExact) {depth : Nat} (deep : depth < v.nesting) :
    Fails (value depth) v.write := by
  induction exact generalizing depth with
  | null | bool | whole | string => exact absurd deep (Nat.not_lt_zero _)
  | @array items each ih =>
    intro rest
    rw [write_array, List.cons_append]
    cases depth with
    | zero =>
      unfold value
      exact ⟨_, rfl⟩
    | succ depth =>
      obtain ⟨before, item, after, rfl, deeper, shallow⟩ :=
        exists_first_deeper (mt nesting_array_le_iff.mpr (Nat.not_le_of_gt deep))
      have among (other : Json) (mem : other ∈ before) : other ∈ before ++ item :: after :=
        List.mem_append_left _ mem
      have mem : item ∈ before ++ item :: after :=
        List.mem_append_right _ List.mem_cons_self
      obtain ⟨fault, failed⟩ := items_error after
        (fun other h => IsRead.mk (each other (among other h)).begins
          (reads_value (each other (among other h)) (shallow other h)))
        (each item mem).begins (ih item mem deeper) rest
      rw [value_bracket]
      exact ⟨_, Read.map_of_error _ (enclosed_of_error failed)⟩
  | @object members distinct each ih =>
    intro rest
    rw [write_object, List.cons_append]
    cases depth with
    | zero =>
      unfold value
      exact ⟨_, rfl⟩
    | succ depth =>
      obtain ⟨before, ⟨key, v⟩, after, rfl, deeper, shallow⟩ :=
        exists_first_deeper (mt nesting_object_le_iff.mpr (Nat.not_le_of_gt deep))
      have among (other : String × Json) (mem : other ∈ before) :
          other ∈ before ++ (key, v) :: after := List.mem_append_left _ mem
      have mem : (key, v) ∈ before ++ (key, v) :: after :=
        List.mem_append_right _ List.mem_cons_self
      have distinct' : (before.map Prod.fst).Nodup := by
        rw [List.map_append] at distinct
        exact (List.nodup_append.mp distinct).1
      have takes := @takes_put depth [] before distinct' fun other h =>
        reads_value (each other (among other h)) (shallow other h)
      obtain ⟨fault, failed⟩ := members_error after takes
        (((ih (key, v) mem deeper).memberValue key).map _) rest
      rw [value_brace]
      exact ⟨_, Read.map_of_error _ (enclosed_of_error failed)⟩

/-- **A free-form object is read back** if it is not nested too deep. -/
theorem IsExact.reads_objectReader {members : Members} (exact : (Json.object members).IsExact)
    {depth : Nat} (within : (Json.object members).nesting ≤ depth) :
    Reads (objectReader depth) (Json.object members).write members := by
  obtain ⟨depth, rfl⟩ := Nat.exists_eq_succ_of_ne_zero
    (Nat.ne_of_gt (Nat.lt_of_lt_of_le (Nat.succ_pos _) within))
  cases exact with
  | object distinct each =>
    exact Json.reads_objectReader distinct fun member mem =>
      reads_value (each member mem) (nesting_object_le_iff.mp within member mem)

/-! ## Records that cannot be read -/

namespace Fields

variable {τ δ : Type}

/-- **The members of a record of which one cannot be read.** Those before it are fields in
order, the ones without a value left out; those after it may be anything. -/
inductive Broken : {τ δ : Type} → Fields τ δ → Nat → Members → Prop where
  | here {α τ δ : Type} {head : Field α} {tail : Fields τ δ} {depth : Nat} {value : Json}
      {members : Members} (fails : Fails (head.read depth) value.write) :
      Broken (.cons head tail) depth ((head.name, value) :: members)
  | present {α τ δ : Type} {head : Field α} {tail : Fields τ δ} {depth : Nat} {a : α}
      {value : Json} {members : Members} (reads : Reads (head.read depth) value.write a)
      (rest : Broken tail depth members) :
      Broken (.cons head tail) depth ((head.name, value) :: members)
  | absent {α τ δ : Type} {head : Field α} {tail : Fields τ δ} {depth : Nat}
      {members : Members} (rest : Broken tail depth members) :
      Broken (.cons head tail) depth members

/-- **A draft can be filled up to the member that cannot be read.** -/
theorem Broken.exists_fills {fields : Fields τ δ} {depth : Nat} {members : Members}
    (broken : fields.Broken depth members) (distinct : fields.names.Nodup) :
    ∃ before key value after draft read, members = before ++ (key, value) :: after ∧
      before.map Prod.fst ⊆ fields.names ∧ key ∈ fields.names ∧
      fields.Fills depth fields.blank before draft ∧
      fields.fill depth draft key = some read ∧ Fails read (':' :: value.write) := by
  induction broken with
  | @here α τ δ head tail depth value members fails =>
    exact ⟨[], head.name, value, members, (none, tail.blank), _, rfl, List.nil_subset _,
      List.mem_cons_self, .nil _, if_pos rfl, (fails.memberValue head.name).map _⟩
  | @present α τ δ head tail depth a first members reads rest ih =>
    obtain ⟨fresh, distinct⟩ := List.nodup_cons.mp distinct
    obtain ⟨before, key, value, after, draft, read, rfl, names, mem, fills, known, fails⟩ :=
      ih distinct
    refine ⟨(head.name, first) :: before, key, value, after, (some a, draft),
      Read.map (some a, ·) read, rfl, List.cons_subset_cons _ names, List.mem_cons_of_mem _ mem,
      .cons (if_pos rfl) ((reads.memberValue head.name).map (some ·, tail.blank))
        (fills.later (fun named => fresh (names named)) (some a)), ?_, fails.map _⟩
    unfold fill
    rw [if_neg (ne_of_mem_of_not_mem mem fresh), known]
    rfl
  | @absent α τ δ head tail depth members rest ih =>
    obtain ⟨fresh, distinct⟩ := List.nodup_cons.mp distinct
    obtain ⟨before, key, value, after, draft, read, rfl, names, mem, fills, known, fails⟩ :=
      ih distinct
    refine ⟨before, key, value, after, (none, draft), Read.map (none, ·) read, rfl,
      List.subset_cons_of_subset _ names, List.mem_cons_of_mem _ mem,
      fills.later (fun named => fresh (names named)) none, ?_, fails.map _⟩
    unfold fill
    rw [if_neg (ne_of_mem_of_not_mem mem fresh), known]
    rfl

end Fields

/-- **A record is not read** if one of its members cannot be read. -/
theorem Record.exists_decode_error {α : Type} (record : Record α) {members : Members}
    (distinct : record.fields.names.Nodup) (broken : record.fields.Broken 126 members) :
    ∃ error, decode record.read (Json.object members).text = .error error := by
  obtain ⟨before, key, value, after, draft, read, rfl, -, -, fills, known, fails⟩ :=
    broken.exists_fills distinct
  have taking : Fails (record.fields.taking skipMember 126 (draft, ()) key)
      (':' :: value.write) := by
    unfold Fields.taking
    dsimp only
    rw [known]
    exact fails.map _
  obtain ⟨fault, failed⟩ := members_error after (fills.takes ()) taking []
  have unread : record.read maxDepth (Json.object (before ++ (key, value) :: after)).write
      = .error (fault.settle (landing .brace fault.rest)) := by
    rw [write_object]
    show enclosed .brace (Read.map _ (record.fields.object skipMember () 126)) (entries _) = _
    rw [List.append_nil] at failed
    refine enclosed_of_error (Read.map_of_error _ ?_)
    rw [Fields.object_eq, failed]
  unfold decode text
  rw [String.toList_ofList, unread]
  exact ⟨_, rfl⟩

end ServiceBroker.Json
