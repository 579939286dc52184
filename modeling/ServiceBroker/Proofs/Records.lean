import ServiceBroker.Proofs.Parts

/-!
# Records and their trees

A record may be written as an object or as an array of its fields. What its trees tell is the
same for permuted trees up to an agreement of the fields, and so is the record that is read
(`Json.Record.decode_permuted`). Every record that is read has a tree (`Json.Record.exists_writes`),
and each of its fields was read or stands for one that is missing (`Json.Record.sourced`).
-/

namespace ServiceBroker.Json

/-- **A value that a field was read as** somewhere, or that stands for a missing one. -/
inductive Field.Sourced {α : Type} (field : Field α) (a : α) : Prop where
  | read {depth : Nat} {s left : List Char} (read : field.read depth s = .ok (a, left))
  | absent (missing : field.absent = some a)
  | short (missing : field.short = some a)

namespace Fields

variable {τ δ : Type} {fields : Fields τ δ} {agrees : τ → τ → Prop} {depth : Nat} {record : τ}
  {rest : List Char}

/-! ## What an array tells a record -/

/-- Where a square bracket is closed it stands. -/
theorem closing_of_close {s rest : List Char} (closed : close .square s = .ok rest) :
    skipSpace s = ']' :: rest := by
  unfold close at closed
  dsimp only at closed
  cases starts : skipSpace s with
  | nil =>
    rw [starts] at closed
    exact nomatch closed
  | cons c t =>
    rw [starts] at closed
    dsimp only at closed
    split at closed
    · next closing =>
      obtain rfl := Except.ok.inj closed
      rw [closing]
    · split at closed <;> exact nomatch closed

variable {items : List Tree} {s s' rest' left : List Char} {whole : String} {index : Nat}

/-- A field is read from the next item, … -/
theorem sequence_of_item {α : Type} {head : Field α} {a : α} {t : List Char}
    (next : nextItem (index == 0) s = .ok (true, t)) :
    (Fields.cons head fields).sequence whole index depth s = .ok ((a, record), left) ↔
      ∃ stop, head.read depth t = .ok (a, stop) ∧
        fields.sequence whole (index + 1) depth stop = .ok (record, left) := by
  rw [sequence, next]
  unfold Read.under Read.map
  dsimp only
  rw [if_pos rfl]
  cases head.read depth t with
  | error fault => exact iff_of_false nofun nofun
  | ok result =>
    obtain ⟨b, stop⟩ := result
    dsimp only
    cases later : fields.sequence whole (index + 1) depth stop with
    | error fault =>
      refine iff_of_false nofun ?_
      rintro ⟨stop', eq, found⟩
      obtain ⟨-, rfl⟩ := Prod.mk.inj (Except.ok.inj eq)
      exact nomatch later.symm.trans found
    | ok result =>
      constructor
      · intro same
        obtain ⟨both, rfl⟩ := Prod.mk.inj (Except.ok.inj same)
        obtain ⟨rfl, rfl⟩ := Prod.mk.inj both
        exact ⟨stop, rfl, later⟩
      · rintro ⟨stop', eq, found⟩
        obtain ⟨rfl, rfl⟩ := Prod.mk.inj (Except.ok.inj eq)
        obtain rfl := Except.ok.inj (later.symm.trans found)
        rfl

/-- … and where there is none it has its value for that. -/
theorem sequence_of_end {α : Type} {head : Field α} {a : α} {t : List Char}
    (next : nextItem (index == 0) s = .ok (false, t)) :
    (Fields.cons head fields).sequence whole index depth s = .ok ((a, record), left) ↔
      head.short = some a ∧ fields.sequence whole (index + 1) depth t = .ok (record, left) := by
  rw [sequence, next]
  unfold Read.map
  dsimp only
  rw [if_neg Bool.false_ne_true]
  cases head.short with
  | none => exact iff_of_false nofun nofun
  | some b =>
    dsimp only
    cases later : fields.sequence whole (index + 1) depth t with
    | error fault => exact iff_of_false nofun nofun
    | ok result => simp [Prod.ext_iff, and_assoc]

/-- **Items that are permuted** one by one give fields that agree, and as many items are left. -/
theorem Respects.sequence_permuted (respects : fields.Respects agrees) {items items' : List Tree}
    (spans : Tree.Spans.spansItems (index == 0) items s rest)
    (spans' : Tree.Spans.spansItems (index == 0) items' s' rest')
    (length : items.length = items'.length)
    (permuted : ∀ (i : Nat) (x y : Tree), items[i]? = some x → items'[i]? = some y → x.Permuted y)
    (found : fields.sequence whole index depth s = .ok (record, left)) :
    ∃ record' left' first more more', fields.sequence whole index depth s' = .ok (record', left') ∧
      agrees record record' ∧ Tree.Spans.spansItems first more left rest ∧
      Tree.Spans.spansItems first more' left' rest' ∧ more.length = more'.length := by
  induction respects generalizing items items' s s' index with
  | nil =>
    obtain ⟨-, rfl⟩ := Prod.mk.inj (Except.ok.inj found)
    exact ⟨(), s', _, items, items', rfl, trivial, spans, spans', length⟩
  | @cons α τ δ head tail agree agrees reads absent short others ih =>
    obtain ⟨a, t⟩ := record
    cases items with
    | nil =>
      -- No item is left on either side, so both fields are what they are without one.
      obtain rfl : items' = [] := List.length_eq_zero_iff.mp length.symm
      obtain ⟨given, found⟩ := (sequence_of_end (nextItem_closing spans)).mp found
      have closed (rest : List Char) :
          Tree.Spans.spansItems (index + 1 == 0) [] (']' :: rest) rest := rfl
      obtain ⟨u, left', first, more, more', found', agrees, left⟩ :=
        ih (closed rest) (closed rest') rfl nofun found
      exact ⟨(a, u), left', first, more, more',
        (sequence_of_end (nextItem_closing spans')).mpr ⟨given, found'⟩, ⟨short a given, agrees⟩,
        left⟩
    | cons item items =>
      obtain ⟨item', items', rfl⟩ := List.exists_cons_of_length_eq_add_one length.symm
      obtain ⟨start, stop, separated, head, later⟩ := spans
      obtain ⟨start', stop', separated', head', later'⟩ := spans'
      obtain ⟨c, next, head⟩ := separated.nextItem_eq head
      obtain ⟨c', next', head'⟩ := separated'.nextItem_eq head'
      obtain ⟨stop'', read, found⟩ := (sequence_of_item next).mp found
      obtain ⟨rfl, told⟩ := (reads.yields head a stop'').mp read
      obtain ⟨b, told', agree⟩ := reads.permuted (permuted 0 item item' rfl rfl) ⟨_, _, head'⟩ told
      obtain ⟨u, left', first, more, more', found', agrees, left⟩ :=
        ih (show Tree.Spans.spansItems (index + 1 == 0) items stop'' rest from later)
          (show Tree.Spans.spansItems (index + 1 == 0) items' stop' rest' from later')
          (Nat.succ.inj length) (fun i x y there there' => permuted (i + 1) x y there there') found
      exact ⟨(b, u), left', first, more, more',
        (sequence_of_item next').mpr ⟨stop', (reads.yields head' b stop').mpr ⟨rfl, told'⟩, found'⟩,
        ⟨agree, agrees⟩, left⟩

/-- **The items of a record that is read have trees.** -/
theorem Respects.exists_spansItems (respects : fields.Respects agrees)
    (found : fields.sequence whole index depth s = .ok (record, left))
    (closed : close .square left = .ok rest) :
    ∃ items, Tree.Spans.spansItems (index == 0) items s rest := by
  induction respects generalizing s index with
  | nil =>
    obtain ⟨-, rfl⟩ := Prod.mk.inj (Except.ok.inj found)
    exact ⟨[], closing_of_close closed⟩
  | @cons α τ δ head tail agree agrees reads absent short others ih =>
    obtain ⟨a, t⟩ := record
    cases next : nextItem (index == 0) s with
    | error fault =>
      rw [sequence, next] at found
      exact nomatch found
    | ok result =>
      obtain ⟨more, t⟩ := result
      obtain ⟨rfl, rest', rfl, closing⟩ | ⟨rfl, start, separated, same⟩ := nextItem_cases next
      · obtain ⟨-, found⟩ := (sequence_of_end next).mp found
        obtain ⟨items, spans⟩ := ih found
        -- The array ends here, so what the later fields found behind it are no items.
        cases items with
        | nil =>
          obtain ⟨-, rfl⟩ := List.cons.inj (show ']' :: rest' = ']' :: rest from spans)
          exact ⟨[], closing⟩
        | cons item items =>
          obtain ⟨start, stop, separated, -⟩ := spans
          rw [beq_false_of_ne (Nat.succ_ne_zero index)] at separated
          cases separated with
          | later comma => exact absurd (List.cons.inj comma).1 (by decide)
      · obtain ⟨stop, read, found⟩ := (sequence_of_item next).mp found
        obtain ⟨tree, head⟩ := reads.text read
        obtain ⟨items, later⟩ := ih found
        exact ⟨tree :: items, start, stop, separated, head.of_skipSpace_eq same, later⟩

/-! ## Where the fields come from -/

/-- **Fields each of which was read** somewhere, or stands for one that is missing. -/
def Sourced : {τ δ : Type} → Fields τ δ → τ → Prop
  | _, _, .nil, _ => True
  | _, _, .cons head tail, (a, rest) => head.Sourced a ∧ tail.Sourced rest

/-- What trees tell was read. -/
theorem sourced_of_told {parts : String → Option Tree} (told : fields.Told depth parts record) :
    fields.Sourced record := by
  induction fields with
  | nil => trivial
  | cons head tail ih =>
    obtain ⟨a, t⟩ := record
    obtain ⟨here, told⟩ := told
    refine ⟨?_, ih told⟩
    cases part : parts head.name with
    | none =>
      rw [part] at here
      exact .absent here
    | some tree =>
      rw [part] at here
      obtain ⟨s, left, -, found⟩ := here
      exact .read found

/-- What an array holds was read. -/
theorem sourced_of_sequence (found : fields.sequence whole index depth s = .ok (record, left)) :
    fields.Sourced record := by
  induction fields generalizing s index with
  | nil => trivial
  | cons head tail ih =>
    obtain ⟨a, t⟩ := record
    cases next : nextItem (index == 0) s with
    | error fault =>
      rw [sequence, next] at found
      exact nomatch found
    | ok result =>
      obtain ⟨more, t⟩ := result
      cases more with
      | false =>
        obtain ⟨given, found⟩ := (sequence_of_end next).mp found
        exact ⟨.short given, ih found⟩
      | true =>
        obtain ⟨stop, read, found⟩ := (sequence_of_item next).mp found
        exact ⟨.read read, ih found⟩

end Fields

/-! ## Records -/

/-- The bracket is closed where no items are left. -/
theorem close_square_eq_ok_iff {first : Bool} {items : List Tree} {s rest left : List Char}
    (spans : Tree.Spans.spansItems first items s rest) :
    close .square s = .ok left ↔ items = [] ∧ rest = left := by
  unfold close
  dsimp only
  cases items with
  | nil =>
    have closing : skipSpace s = ']' :: rest := spans
    rw [closing]
    dsimp only
    rw [if_pos rfl, Except.ok.injEq, and_iff_right rfl]
  | cons item items =>
    obtain ⟨start, stop, separated, head, -⟩ := spans
    obtain ⟨c, t, starts, notEnd⟩ : ∃ c t, skipSpace s = c :: t ∧ c ≠ ']' := by
      cases separated with
      | first =>
        obtain ⟨c, t, starts, notEnd, -⟩ := head.head
        exact ⟨c, t, starts, notEnd⟩
      | later comma => exact ⟨',', start, comma, by decide⟩
    rw [starts]
    dsimp only
    rw [if_neg notEnd]
    refine iff_of_false ?_ fun ⟨nothing, _⟩ => nomatch nothing
    split <;> exact nofun

/-- A whole text is read up to its end. -/
theorem decode_eq_ok_iff {α : Type} {read : Reader α} {text : String} {a : α} :
    decode read text = .ok a ↔
      ∃ rest, read maxDepth text.toList = .ok (a, rest) ∧ skipSpace rest = [] := by
  unfold decode
  cases read maxDepth text.toList with
  | error fault => exact iff_of_false nofun fun ⟨_, found, _⟩ => nomatch found
  | ok result =>
    obtain ⟨b, rest⟩ := result
    dsimp only
    cases finished : skipSpace rest with
    | nil =>
      constructor
      · intro found
        obtain rfl := Except.ok.inj found
        exact ⟨rest, rfl, finished⟩
      · rintro ⟨rest', found, -⟩
        obtain ⟨rfl, -⟩ := Prod.mk.inj (Except.ok.inj found)
        rfl
    | cons c t =>
      refine iff_of_false nofun ?_
      rintro ⟨rest', found, finished'⟩
      obtain ⟨-, rfl⟩ := Prod.mk.inj (Except.ok.inj found)
      exact nomatch finished.symm.trans finished'

namespace Record

variable {α : Type} {record : Record α} {agrees : record.τ → record.τ → Prop} {depth : Nat}
  {s s' inside rest rest' left : List Char} {a : α}

/-- A record in braces. -/
theorem read_brace (opening : skipSpace s = '{' :: inside) :
    record.read (depth + 1) s = .ok (a, left) ↔
      ∃ t last, record.fields.object skipMember () depth inside = .ok ((t, ()), last) ∧
        close .brace last = .ok left ∧ record.build t = a := by
  have chosen : record.read (depth + 1) s =
      enclosed .brace (Read.map (fun read => record.build read.1)
        (record.fields.object skipMember () depth)) inside := by
    unfold read
    rw [opening]
    rfl
  rw [chosen, enclosed_eq_ok_iff]
  simp only [Read.map_eq_ok_iff]
  constructor
  · rintro ⟨last, ⟨⟨t, ⟨⟩⟩, found, rfl⟩, closed⟩
    exact ⟨t, last, found, closed, rfl⟩
  · rintro ⟨t, last, found, closed, rfl⟩
    exact ⟨last, ⟨(t, ()), found, rfl⟩, closed⟩

/-- A record in square brackets. -/
theorem read_square (opening : skipSpace s = '[' :: inside) :
    record.read (depth + 1) s = .ok (a, left) ↔
      ∃ t last, record.fields.sequence record.whole 0 depth inside = .ok (t, last) ∧
        close .square last = .ok left ∧ record.build t = a := by
  have chosen : record.read (depth + 1) s =
      enclosed .square (Read.map record.build (record.fields.sequence record.whole 0 depth))
        inside := by
    unfold read
    rw [opening]
    rfl
  rw [chosen, enclosed_eq_ok_iff]
  simp only [Read.map_eq_ok_iff]
  constructor
  · rintro ⟨last, ⟨t, found, rfl⟩, closed⟩
    exact ⟨t, last, found, closed, rfl⟩
  · rintro ⟨t, last, found, closed, rfl⟩
    exact ⟨last, ⟨t, found, rfl⟩, closed⟩

/-- **A record is nested**, in braces or in square brackets. -/
theorem read_cases (found : record.read depth s = .ok (a, left)) :
    ∃ inner inside, depth = inner + 1 ∧
      (skipSpace s = '{' :: inside ∨ skipSpace s = '[' :: inside) := by
  unfold read opened at found
  cases starts : skipSpace s with
  | nil =>
    rw [starts] at found
    exact nomatch found
  | cons c t =>
    rw [starts] at found
    dsimp only at found
    split at found
    · next brace =>
      cases depth with
      | zero => exact nomatch found
      | succ inner => exact ⟨inner, t, rfl, .inl (by rw [brace])⟩
    · split at found
      · next square =>
        cases depth with
        | zero => exact nomatch found
        | succ inner => exact ⟨inner, t, rfl, .inr (by rw [square])⟩
      · exact nomatch found

section Permuted

variable (respects : record.fields.Respects agrees)

include respects

/-- A record in square brackets is read from permuted items. -/
theorem read_array_permuted {xs ys : List Tree} (length : xs.length = ys.length)
    (items : ∀ (i : Nat) (x y : Tree), xs[i]? = some x → ys[i]? = some y → x.Permuted y)
    (spans : (Tree.array xs).Spans s rest) (spans' : (Tree.array ys).Spans s' rest')
    (found : record.read (depth + 1) s = .ok (a, left)) :
    left = rest ∧ ∃ t t', record.build t = a ∧
      record.read (depth + 1) s' = .ok (record.build t', rest') ∧ agrees t t' := by
  obtain ⟨inside, opening, spans⟩ := spans
  obtain ⟨inside', opening', spans'⟩ := spans'
  obtain ⟨t, last, found, closed, eq⟩ := (read_square opening).mp found
  obtain ⟨t', last', first, more, more', found', agrees, spans, spans', lengths⟩ :=
    respects.sequence_permuted (show Tree.Spans.spansItems (0 == 0) xs inside rest from spans)
      (show Tree.Spans.spansItems (0 == 0) ys inside' rest' from spans') length items found
  obtain ⟨rfl, rfl⟩ := (close_square_eq_ok_iff spans).mp closed
  have nothing : more' = [] := List.length_eq_zero_iff.mp lengths.symm
  exact ⟨rfl, t, t', eq, (read_square opening').mpr
    ⟨t', last', found', (close_square_eq_ok_iff spans').mpr ⟨nothing, rfl⟩, rfl⟩, agrees⟩

/-- A record in braces is read from permuted members. -/
theorem read_object_permuted (distinct : record.fields.names.Nodup) {xs ys : List (Key × Tree)}
    (unique : (xs.map Prod.fst).Nodup) (keys : (xs.map Prod.fst).Perm (ys.map Prod.fst))
    (values : ∀ (key : Key) (x y : Tree),
      xs.lookup key = some x → ys.lookup key = some y → x.Permuted y)
    (spans : (Tree.object xs).Spans s rest) (spans' : (Tree.object ys).Spans s' rest')
    (found : record.read (depth + 1) s = .ok (a, left)) :
    left = rest ∧ ∃ t t', record.build t = a ∧
      record.read (depth + 1) s' = .ok (record.build t', rest') ∧ agrees t t' := by
  obtain ⟨inside, opening, spans⟩ := spans
  obtain ⟨inside', opening', spans'⟩ := spans'
  obtain ⟨t, last, found, closed, eq⟩ := (read_brace opening).mp found
  obtain ⟨rfl, told, readable⟩ := respects.told_of_object distinct spans found
  have readable' : ∀ key ∈ ys.map Prod.fst, ∃ name, key = .text name := fun key mem =>
    readable key (keys.mem_iff.mpr mem)
  obtain ⟨t', told', agrees⟩ := respects.told_permuted
    (fun name => isSome_lookup_eq_of_perm keys (.text name))
    (fun name x y there there' => ⟨values _ x y there there',
      isText_of_spansMembers spans' _ (mem_of_lookup there')⟩) told
  have found' := respects.object_of_told distinct spans' (keys.nodup unique) readable' told'
  exact ⟨(Except.ok.inj closed).symm, t, t', eq,
    (read_brace opening').mpr ⟨t', _, found', rfl, rfl⟩, agrees⟩

/-- **A record is read from permuted trees alike**: if it is read from the text of one, then from
the text of the other, and the fields agree. -/
theorem read_permuted (distinct : record.fields.names.Nodup) {tree tree' : Tree}
    (permuted : tree.Permuted tree') (spans : tree.Spans s rest) (spans' : tree'.Spans s' rest')
    (found : record.read depth s = .ok (a, left)) :
    left = rest ∧ ∃ t t', record.build t = a ∧ record.read depth s' = .ok (record.build t', rest') ∧
      agrees t t' := by
  obtain ⟨inner, inside, rfl, opening⟩ := read_cases found
  cases permuted with
  | scalar value? =>
    obtain ⟨c, t, starts, notBracket⟩ := exists_cons_of_skipHead spans.1
    refine absurd ?_ notBracket
    obtain opening | opening := opening
    all_goals simp [(List.cons.inj (starts.symm.trans opening)).1]
  | array length items => exact read_array_permuted respects length items spans spans' found
  | object unique keys values =>
    exact read_object_permuted respects distinct unique keys values spans spans' found

/-- **The texts of permuted trees are read alike.** -/
theorem decode_permuted (distinct : record.fields.names.Nodup) {tree tree' : Tree}
    (permuted : tree.Permuted tree') {text text' : String} (writes : tree.Writes text)
    (writes' : tree'.Writes text') (found : decode record.read text = .ok a) :
    ∃ t t', record.build t = a ∧ decode record.read text' = .ok (record.build t') ∧
      agrees t t' := by
  obtain ⟨rest, spans, -⟩ := writes
  obtain ⟨rest', spans', finished⟩ := writes'
  obtain ⟨left, found, -⟩ := decode_eq_ok_iff.mp found
  obtain ⟨-, t, t', eq, found', agrees⟩ :=
    read_permuted respects distinct permuted spans spans' found
  exact ⟨t, t', eq, decode_eq_ok_iff.mpr ⟨rest', found', finished⟩, agrees⟩

/-- **A text that is read as a record has a tree.** -/
theorem exists_writes {text : String} (found : decode record.read text = .ok a) :
    ∃ tree : Tree, tree.Writes text := by
  obtain ⟨rest, found, finished⟩ := decode_eq_ok_iff.mp found
  obtain ⟨inner, inside, eq, opening | opening⟩ := read_cases found
  · rw [eq] at found
    obtain ⟨t, last, found, closed, -⟩ := (read_brace opening).mp found
    obtain ⟨members, rest', rfl, spans⟩ := respects.exists_spansMembers found
    obtain rfl := eq_of_close .brace closed
    exact ⟨.object members, _, ⟨inside, opening, spans⟩, finished⟩
  · rw [eq] at found
    obtain ⟨t, last, found, closed, -⟩ := (read_square opening).mp found
    obtain ⟨items, spans⟩ := respects.exists_spansItems found closed
    exact ⟨.array items, _, ⟨inside, opening, spans⟩, finished⟩

/-- **What a record is read as** was read field by field. -/
theorem sourced (distinct : record.fields.names.Nodup) {text : String}
    (found : decode record.read text = .ok a) :
    ∃ t, record.build t = a ∧ record.fields.Sourced t := by
  obtain ⟨rest, found, -⟩ := decode_eq_ok_iff.mp found
  obtain ⟨inner, inside, eq, opening | opening⟩ := read_cases found
  · rw [eq] at found
    obtain ⟨t, last, found, -, built⟩ := (read_brace opening).mp found
    obtain ⟨members, rest', rfl, spans⟩ := respects.exists_spansMembers found
    obtain ⟨-, told, -⟩ := respects.told_of_object distinct spans found
    exact ⟨t, built, Fields.sourced_of_told told⟩
  · rw [eq] at found
    obtain ⟨t, last, found, -, built⟩ := (read_square opening).mp found
    exact ⟨t, built, Fields.sourced_of_sequence found⟩

/-- **What an object is read as** is what the trees under its keys tell. -/
theorem told (distinct : record.fields.names.Nodup) {members : List (Key × Tree)} {text : String}
    (writes : (Tree.object members).Writes text) (found : decode record.read text = .ok a) :
    ∃ t, record.build t = a ∧ record.fields.Told 126 (partsOf members) t := by
  obtain ⟨rest, ⟨inside, opening, spans⟩, -⟩ := writes
  obtain ⟨left, found, -⟩ := decode_eq_ok_iff.mp found
  obtain ⟨t, last, found, -, built⟩ := (read_brace opening).mp
    (show record.read (126 + 1) text.toList = .ok (a, left) from found)
  obtain ⟨-, told, -⟩ := respects.told_of_object distinct spans found
  exact ⟨t, built, told⟩

end Permuted

end Record

end ServiceBroker.Json
