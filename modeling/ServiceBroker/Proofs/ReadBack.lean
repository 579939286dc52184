import ServiceBroker.Json.Reader

/-!
# Reading back what was written

Strings and objects are written in one way only, and this module says that the
readers find in that form what was written. Every statement is about a text with
something behind it, because a reader takes a value from the start of the input
and leaves the rest.

A number has no end of its own: it ends where a character follows that cannot
belong to it. `Json.Ends` says so of the rest, and `Json.Reads` is the one
notion of a reader that finds a value in a text, whatever ends it.

An object is read member by member into a state. `Json.Takes` says which state
the members of a written object lead to, so that a reader of objects has to be
looked at for one member only (`Json.members_entries`).
-/

namespace ServiceBroker.Json

/-! ## Strings -/

theorem unit?_hexDigits {high low : Nat} (hhigh : high < 16) (hlow : low < 16) :
    unit? '0' '0' (Text.hexDigit high) (Text.hexDigit low) = some (high * 16 + low) := by
  unfold unit?
  rw [Text.hexValue?_hexDigit hhigh, Text.hexValue?_hexDigit hlow]
  show some (0 * 0x1000 + 0 * 0x100 + high * 0x10 + low) = _
  exact congrArg some (by omega)

/-- **One character of a string is read back**, escaped or not. -/
theorem stringBody_escapeChar (c : Char) (rest : List Char) :
    stringBody (escapeChar c ++ rest) = prepend c (stringBody rest) := by
  unfold escapeChar
  by_cases quote : c = '"'
  · subst quote
    rfl
  by_cases backslash : c = '\\'
  · subst backslash
    rfl
  by_cases backspace : c = '\x08'
  · subst backspace
    rfl
  by_cases formFeed : c = '\x0c'
  · subst formFeed
    rfl
  by_cases lineFeed : c = '\n'
  · subst lineFeed
    rfl
  by_cases carriageReturn : c = '\r'
  · subst carriageReturn
    rfl
  by_cases tab : c = '\t'
  · subst tab
    rfl
  rw [if_neg quote, if_neg backslash, if_neg backspace, if_neg formFeed, if_neg lineFeed,
    if_neg carriageReturn, if_neg tab]
  by_cases control : c.toNat < 0x20
  · rw [if_pos control]
    -- A control character is its own code unit, so it is no half of a pair.
    have unit_eq : unit? '0' '0' (Text.hexDigit (c.toNat / 16)) (Text.hexDigit (c.toNat % 16))
        = some c.toNat := by
      rw [unit?_hexDigits (by omega) (by omega)]
      exact congrArg some (by omega)
    have notTrailing : isTrailing c.toNat = false := by simp [isTrailing]; omega
    have notLeading : isLeading c.toNat = false := by simp [isLeading]; omega
    simp [stringBody, shortEscape?, unit_eq, notTrailing, notLeading, Char.ofNat_toNat]
  · rw [if_neg control]
    show stringBody (c :: rest) = _
    conv => lhs; unfold stringBody
    rw [if_neg quote, if_neg backslash, if_neg control]

/-- **A string is read back** up to its closing quote. -/
theorem stringBody_escaped (text rest : List Char) :
    stringBody (text.flatMap escapeChar ++ '"' :: rest) = .ok (text, rest) := by
  induction text with
  | nil =>
    show stringBody ('"' :: rest) = _
    unfold stringBody
    exact if_pos rfl
  | cons c text ih =>
    rw [List.flatMap_cons, List.append_assoc, stringBody_escapeChar, ih]
    rfl

theorem writeString_append (text rest : List Char) :
    writeString text ++ rest = '"' :: (text.flatMap escapeChar ++ '"' :: rest) := by
  show '"' :: (text.flatMap escapeChar ++ ['"'] ++ rest) = _
  rw [List.append_assoc]
  rfl

theorem skipSpace_quote (rest : List Char) : skipSpace ('"' :: rest) = '"' :: rest := rfl

/-! ## What ends a value -/

/-- **What may follow a value**: the end of the text, or a character that separates
or closes. -/
def Ends (rest : List Char) : Prop := ∀ c ∈ rest.head?, c = ',' ∨ c = '}' ∨ c = ']'

theorem ends_nil : Ends [] := nofun

theorem ends_comma (rest : List Char) : Ends (',' :: rest) := fun _ h =>
  .inl (Option.some.inj h).symm

theorem ends_brace (rest : List Char) : Ends ('}' :: rest) := fun _ h =>
  .inr (.inl (Option.some.inj h).symm)

/-- **A reader finds a value in a text**, whatever ends it. -/
def Reads {α : Type} (read : Read α) (text : List Char) (a : α) : Prop :=
  ∀ rest, Ends rest → read (text ++ rest) = .ok (a, rest)

theorem Reads.map {α β : Type} {read : Read α} {text : List Char} {a : α} (f : α → β)
    (reads : Reads read text a) : Reads (Read.map f read) text (f a) := fun rest ends => by
  unfold Read.map
  rw [reads rest ends]

/-- **A string is read back.** -/
theorem reads_stringReader (depth : Nat) (s : String) :
    Reads (stringReader depth) (Json.string s).write s := fun rest _ => by
  show stringReader depth (writeString s.toList ++ rest) = _
  rw [writeString_append]
  show Read.map String.ofList stringBody _ = _
  unfold Read.map
  rw [stringBody_escaped]
  exact congrArg (fun text => Except.ok (text, rest)) (String.ofList_toList)

/-- A string is read back as a value. -/
theorem reads_value_string (depth : Nat) (s : String) :
    Reads (value depth) (Json.string s).write (.string s) := fun rest _ => by
  show value depth (writeString s.toList ++ rest) = _
  rw [writeString_append]
  unfold value
  show Read.map (fun text => Json.string (String.ofList text)) stringBody _ = _
  unfold Read.map
  rw [stringBody_escaped]
  exact congrArg (fun text => Except.ok (Json.string text, rest)) (String.ofList_toList)

/-- The name of a variant is read back. -/
theorem reads_variantName {α : Type} {table : List (String × α)} {name : String} {a : α}
    (known : table.lookup name = some a) (depth : Nat) :
    Reads (variantName table depth) (Json.string name).write a := fun rest _ => by
  show variantName table depth (writeString name.toList ++ rest) = _
  rw [writeString_append]
  unfold variantName
  dsimp only [skipSpace_quote]
  rw [if_pos rfl, stringBody_escaped]
  show variantNamed table (String.ofList name.toList) rest = _
  rw [String.ofList_toList]
  unfold variantNamed
  rw [known]

/-- **A variant is read back** from its name. -/
theorem reads_variantReader {α : Type} {table : List (String × α)} {name : String} {a : α}
    (known : table.lookup name = some a) (depth : Nat) :
    Reads (variantReader table depth) (Json.string name).write a := fun rest ends => by
  have found : variantName table depth (writeString name.toList ++ rest) = .ok (a, rest) :=
    reads_variantName known depth rest ends
  show variantReader table depth (writeString name.toList ++ rest) = _
  rw [writeString_append] at found ⊢
  exact found

theorem reads_boolReader (depth : Nat) (b : Bool) :
    Reads (boolReader depth) (Json.bool b).write b := fun rest _ => by
  cases b <;> rfl

/-! ## Members -/

/-- What stands behind the opening brace of a written object. -/
def entries : Members → List Char
  | [] => ['}']
  | (key, value) :: members =>
    writeString key.toList ++ ':' :: (value.write ++ write.writeMembers members)

theorem write_object (members : Members) :
    (Json.object members).write = '{' :: entries members := by
  cases members <;> rfl

theorem Reads.memberValue {α : Type} {read : Read α} {text : List Char} {a : α}
    (reads : Reads read text a) (key : String) :
    Reads (memberValue key read) (':' :: text) a := fun rest ends => by
  show read.under (.member key) (text ++ rest) = _
  unfold Read.under
  rw [reads rest ends]

section Members

variable {σ : Type} {take : σ → String → Read σ}

/-- **The state that the members of a written object lead to**, one after the
other. -/
inductive Takes (take : σ → String → Read σ) : σ → Members → σ → Prop where
  | nil (state : σ) : Takes take state [] state
  | cons {state next last : σ} {key : String} {value : Json} {members : Members}
      (head : Reads (take state key) (':' :: value.write) next)
      (tail : Takes take next members last) : Takes take state ((key, value) :: members) last

theorem Takes.append {state next last : σ} {members others : Members}
    (first : Takes take state members next) (second : Takes take next others last) :
    Takes take state (members ++ others) last := by
  induction first with
  | nil state => exact second
  | cons head tail ih => exact .cons head (ih second)

/-- The first key of an object is found. -/
theorem nextKey_first (key : String) (rest : List Char) :
    nextKey true (writeString key.toList ++ rest) = .ok (some key, rest) := by
  rw [writeString_append]
  show Read.map (fun text => some (String.ofList text)) stringBody _ = _
  unfold Read.map
  rw [stringBody_escaped]
  exact congrArg (fun text => Except.ok (some text, rest)) (String.ofList_toList)

/-- A later key is found behind its comma. -/
theorem nextKey_later (key : String) (rest : List Char) :
    nextKey false (',' :: (writeString key.toList ++ rest)) = .ok (some key, rest) := by
  rw [writeString_append]
  show Read.map (fun text => some (String.ofList text)) stringBody _ = _
  unfold Read.map
  rw [stringBody_escaped]
  exact congrArg (fun text => Except.ok (some text, rest)) (String.ofList_toList)

theorem ends_writeMembers (members : Members) (rest : List Char) :
    Ends (write.writeMembers members ++ rest) := by
  cases members with
  | nil => exact ends_brace rest
  | cons member members => exact ends_comma _

/-- Every member is written with a character at least. -/
theorem length_lt_writeMembers (members : Members) :
    members.length < (write.writeMembers members).length := by
  induction members with
  | nil => exact Nat.zero_lt_one
  | cons member members ih =>
    unfold write.writeMembers
    simp only [List.length_cons, List.length_append]
    omega

/-- The members after the first are taken, one turn each. -/
theorem membersFrom_writeMembers {state last : σ} {members : Members}
    (takes : Takes take state members last) {turns : Nat} (enough : members.length < turns)
    (rest : List Char) :
    membersFrom take turns false state (write.writeMembers members ++ rest)
      = .ok (last, '}' :: rest) := by
  induction takes generalizing turns with
  | nil state =>
    obtain ⟨turns, rfl⟩ := Nat.exists_eq_succ_of_ne_zero (Nat.ne_of_gt enough)
    rfl
  | @cons state next last key value members head tail ih =>
    obtain ⟨turns, rfl⟩ := Nat.exists_eq_succ_of_ne_zero (Nat.ne_of_gt (Nat.zero_lt_of_lt enough))
    have written : write.writeMembers ((key, value) :: members) ++ rest
        = ',' :: (writeString key.toList
          ++ ((':' :: value.write) ++ (write.writeMembers members ++ rest))) := by
      rw [write.writeMembers]
      simp only [List.cons_append, List.append_assoc]
    rw [written]
    unfold membersFrom Read.under
    rw [nextKey_later]
    dsimp only
    rw [head _ (ends_writeMembers members rest)]
    exact ih (Nat.lt_of_succ_lt_succ enough)

/-- **The members of a written object are taken**, up to its closing brace. -/
theorem members_entries {state last : σ} {written : Members}
    (takes : Takes take state written last) (rest : List Char) :
    members take state (entries written ++ rest) = .ok (last, '}' :: rest) := by
  unfold members
  cases takes with
  | nil state => rfl
  | @cons state next last key value later head tail =>
    have shape : entries ((key, value) :: later) ++ rest
        = writeString key.toList
          ++ ((':' :: value.write) ++ (write.writeMembers later ++ rest)) := by
      unfold entries
      simp only [List.cons_append, List.append_assoc]
    rw [shape]
    unfold membersFrom Read.under
    rw [nextKey_first]
    dsimp only
    rw [head _ (ends_writeMembers later rest)]
    refine membersFrom_writeMembers tail ?_ rest
    have enough := length_lt_writeMembers later
    simp only [List.length_append]
    omega

end Members

/-! ## Objects -/

/-- **A written object is opened and closed** around what its members are read as. -/
theorem reads_opened {α : Type} (body : Reader α) {depth : Nat} {members : Members} {a : α}
    (inside : ∀ rest, body depth (entries members ++ rest) = .ok (a, '}' :: rest)) :
    Reads (opened .brace body (depth + 1)) (Json.object members).write a := fun rest _ => by
  rw [write_object]
  show enclosed .brace (body depth) (entries members ++ rest) = _
  unfold enclosed
  rw [inside]
  rfl

/-- Members of different keys are put one after the other. -/
theorem takes_put {depth : Nat} {before members : Members}
    (distinct : ((before ++ members).map Prod.fst).Nodup)
    (values : ∀ member ∈ members, Reads (value depth) member.2.write member.2) :
    Takes (fun object key => Read.map (put key · object) (memberValue key (value depth)))
      before members (before ++ members) := by
  induction members generalizing before with
  | nil =>
    rw [List.append_nil]
    exact .nil before
  | cons member members ih =>
    obtain ⟨key, v⟩ := member
    have fresh : key ∉ before.map Prod.fst := by
      simp only [List.map_append, List.map_cons] at distinct
      exact fun mem => (List.nodup_append.mp distinct).2.2 key mem key List.mem_cons_self rfl
    have rearranged : before ++ (key, v) :: members = (before ++ [(key, v)]) ++ members := by simp
    rw [rearranged] at distinct ⊢
    refine .cons ?_ (ih distinct fun other h => values other (List.mem_cons_of_mem _ h))
    rw [← put_of_not_mem fresh]
    exact ((values (key, v) List.mem_cons_self).memberValue key).map _

/-- **A free-form object is read back**, if its keys differ and its values are read
back. -/
theorem reads_objectReader {depth : Nat} {members : Members}
    (distinct : (members.map Prod.fst).Nodup)
    (values : ∀ member ∈ members, Reads (value depth) member.2.write member.2) :
    Reads (objectReader (depth + 1)) (Json.object members).write members := fun rest ends => by
  have takes := @takes_put depth [] members distinct values
  have opens := reads_opened (fun depth => Json.members
    (fun object key => Read.map (put key · object) (memberValue key (value depth))) [])
    (fun rest => members_entries takes rest) rest ends
  rw [write_object] at opens ⊢
  exact opens

end ServiceBroker.Json
