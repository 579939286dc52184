import ServiceBroker.Proofs.Rearranged
import ServiceBroker.Proofs.RecordReadBack
import ServiceBroker.Proofs.Trees

/-!
# The parts of a record

The members of a record may come in any order, so what a record is read as depends on which tree
stands under which key and on nothing else (`Json.Fields.Told`). Readers that see nothing but the
tree and give results that agree for permuted trees (`Json.Reader.Respects`) make records that do
so too, whether these are written as objects or as arrays (`Json.Record.decode_permuted`).
-/

namespace ServiceBroker.Json

/-! ## Readers that see nothing but the tree -/

section Readers

variable {α : Type} {read : Reader α} {agree : α → α → Prop}

/-- **What a tree tells a reader**: so some text of it is read. -/
def Reader.Tells (read : Reader α) (depth : Nat) (tree : Tree) (a : α) : Prop :=
  ∃ s rest, tree.Spans s rest ∧ read depth s = .ok (a, rest)

/-- **A reader for which only the tree counts**, and the order of members only up to an
agreement. -/
structure Reader.Respects (read : Reader α) (agree : α → α → Prop) : Prop where
  text {depth : Nat} {s rest : List Char} {a : α} :
    read depth s = .ok (a, rest) → ∃ tree : Tree, tree.Spans s rest
  yields {depth : Nat} {tree : Tree} {s rest : List Char} :
    tree.Spans s rest → Yields (read depth) s rest (read.Tells depth tree)
  permuted {depth : Nat} {tree tree' : Tree} {a : α} :
    tree.Permuted tree' → tree'.IsText → read.Tells depth tree a →
      ∃ b, read.Tells depth tree' b ∧ agree a b

/-- A reader is one of these if its results are known for every tree. -/
theorem Reader.Respects.of_means (means : Nat → Tree → α → Prop)
    (text : ∀ {depth s rest a}, read depth s = .ok (a, rest) → ∃ tree : Tree, tree.Spans s rest)
    (yields : ∀ {depth tree s rest}, tree.Spans s rest →
      Yields (read depth) s rest (means depth tree))
    (permuted : ∀ {depth tree tree' a}, tree.Permuted tree' → tree'.IsText → means depth tree a →
      ∃ b, means depth tree' b ∧ agree a b) : read.Respects agree where
  text := text
  yields spans := (yields spans).congr fun a =>
    ⟨fun meant => ⟨_, _, spans, (yields spans a _).mpr ⟨rfl, meant⟩⟩,
      fun ⟨_, _, spans, found⟩ => ((yields spans a _).mp found).2⟩
  permuted same text told := by
    obtain ⟨s, rest, spans, found⟩ := told
    obtain ⟨b, meant, agrees⟩ := permuted same text ((yields spans _ _).mp found).2
    obtain ⟨s', rest', spans'⟩ := text
    exact ⟨b, ⟨s', rest', spans', (yields spans' b rest').mpr ⟨rfl, meant⟩⟩, agrees⟩

end Readers

theorem respects_value : Reader.Respects value Alike :=
  .of_means (fun depth tree v => tree.value depth = some v) exists_spans_of_value
    (fun spans => spans.yields_value _) fun same _ valued => same.value valued

section Spans

variable {tree : Tree} {s rest : List Char}

/-- Only what has no parts has a value where no container may be opened. -/
theorem Tree.value_zero_eq_some_iff {v : Json} :
    tree.value 0 = some v ↔ tree = .scalar (some v) := by
  cases tree <;> simp [Tree.value]

/-- A string is found where the value is one. -/
theorem stringReader_eq_ok_iff {depth : Nat} {x : String} :
    stringReader depth s = .ok (x, rest) ↔ Json.value 0 s = .ok (.string x, rest) := by
  rw [value_zero_eq_ok_iff]
  unfold stringReader
  generalize skipSpace s = t
  constructor
  · intro read
    cases t with
    | nil => cases read
    | cons c t =>
      dsimp only at read
      split_ifs at read with quote
      subst quote
      obtain ⟨text, found, rfl⟩ := Read.map_eq_ok_iff.mp read
      exact .string found
  · intro scalar
    cases scalar with
    | string read => simp [Read.map, read]
    | word named => cases named

/-- **A string** is a tree without parts. -/
theorem Tree.Spans.yields_string (spans : tree.Spans s rest) (depth : Nat) :
    Yields (stringReader depth) s rest fun x => tree = .scalar (some (.string x)) := fun _ left =>
  stringReader_eq_ok_iff.trans ((spans.yields_value 0 _ left).trans
    (and_congr_right fun _ => Tree.value_zero_eq_some_iff))

/-- **`null`** is what begins with its letter. -/
theorem Tree.Spans.eq_null_iff (spans : tree.Spans s rest) {c : Char} {t : List Char}
    (starts : skipSpace s = c :: t) :
    tree = .scalar (some .null) ↔ c = 'n' ∧ word ['u', 'l', 'l'] t = .ok rest := by
  have isNull : tree = .scalar (some .null) ↔ Json.value 0 s = .ok (.null, rest) := by
    rw [← Tree.value_zero_eq_some_iff]
    exact ((spans.yields_value 0 _ rest).trans (and_iff_right rfl)).symm
  rw [isNull, value_zero_eq_ok_iff, starts]
  constructor
  · intro scalar
    cases scalar with
    | word named read =>
      cases named
      exact ⟨rfl, read⟩
  · rintro ⟨rfl, read⟩
    exact .word .null read

/-- What begins with that letter is the word. -/
theorem Tree.Spans.word_null (spans : tree.Spans s rest) {t : List Char}
    (starts : skipSpace s = 'n' :: t) : word ['u', 'l', 'l'] t = .ok rest := by
  cases tree with
  | scalar value? =>
    have head := skipHead_eq_ok_iff.mp spans.1
    rw [starts] at head
    cases head with
    | word named found =>
      cases named
      exact found
    | number digit => exact absurd digit (by decide)
  | array items =>
    obtain ⟨inside, opening, -⟩ := spans
    exact absurd (List.cons.inj (starts.symm.trans opening)).1 (by decide)
  | object members =>
    obtain ⟨inside, opening, -⟩ := spans
    exact absurd (List.cons.inj (starts.symm.trans opening)).1 (by decide)

/-- **An optional value** is absent where `null` stands. -/
theorem Tree.Spans.yields_option {α : Type} {read : Reader α} {results : α → Prop} {depth : Nat}
    (spans : tree.Spans s rest)
    (yields : ∀ {s}, tree.Spans s rest → Yields (read depth) s rest results) :
    Yields (optionReader read depth) s rest fun x =>
      tree = .scalar (some .null) ∧ x = none ∨
        tree ≠ .scalar (some .null) ∧ ∃ a, results a ∧ some a = x := by
  obtain ⟨c, t, starts, -⟩ := spans.head
  have chosen : optionReader read depth s =
      if c = 'n' then (word ['u', 'l', 'l'] t).map (none, ·)
      else Read.map some (read depth) (c :: t) := by
    unfold optionReader
    rw [starts]
  by_cases letter : c = 'n'
  · subst letter
    have found := spans.word_null starts
    have isNull := (spans.eq_null_iff starts).mpr ⟨rfl, found⟩
    rw [if_pos rfl, found] at chosen
    refine yields_of_ok (a := none) chosen fun x => ?_
    simp [isNull, eq_comm]
  · have notNull : tree ≠ .scalar (some .null) := fun isNull =>
      letter ((spans.eq_null_iff starts).mp isNull).1
    rw [if_neg letter] at chosen
    have same : skipSpace (c :: t) = skipSpace s := by rw [← starts, skipSpace_skipSpace]
    intro x left
    rw [chosen, (yields (spans.of_skipSpace_eq same)).map some x left]
    simp [notNull]

/-- An optional value that is read has a tree, if what is there has one. -/
theorem exists_spans_of_option {α : Type} {read : Reader α} {depth : Nat} {x : Option α}
    (text : ∀ {s a}, read depth s = .ok (a, rest) → ∃ tree : Tree, tree.Spans s rest)
    (found : optionReader read depth s = .ok (x, rest)) : ∃ tree : Tree, tree.Spans s rest := by
  unfold optionReader at found
  cases starts : skipSpace s with
  | nil =>
    rw [starts] at found
    obtain ⟨a, found, -⟩ := Read.map_eq_ok_iff.mp found
    obtain ⟨tree, spans⟩ := text found
    exact ⟨tree, spans.of_skipSpace_eq (by rw [starts]; rfl)⟩
  | cons c t =>
    rw [starts] at found
    dsimp only at found
    split at found
    · next letter =>
      subst letter
      obtain ⟨left, word, eq⟩ := exists_of_map found
      obtain ⟨-, rfl⟩ := Prod.mk.inj eq
      have read : Json.value 0 s = .ok (.null, left) := by
        rw [value_zero_eq_ok_iff, starts]
        exact .word .null word
      exact exists_spans_of_value read
    · obtain ⟨a, found, -⟩ := Read.map_eq_ok_iff.mp found
      obtain ⟨tree, spans⟩ := text found
      exact ⟨tree, spans.of_skipSpace_eq (by rw [← starts, skipSpace_skipSpace])⟩

end Spans

theorem respects_string : Reader.Respects stringReader Eq :=
  .of_means _ (fun read => exists_spans_of_value (stringReader_eq_ok_iff.mp read))
    (fun spans => spans.yields_string _) fun {_ _ _ a} same _ eq => by
    subst eq
    cases same
    exact ⟨a, rfl, rfl⟩

/-- What may be absent is the same if what is there is. -/
theorem respects_option {α : Type} {read : Reader α} {agree : α → α → Prop}
    (respects : read.Respects agree) : Reader.Respects (optionReader read) (Option.Rel agree) :=
  .of_means _ (exists_spans_of_option respects.text)
    (fun spans => spans.yields_option respects.yields) fun {_ _ _ x} same text meant => by
    obtain ⟨rfl, rfl⟩ | ⟨notNull, a, told, rfl⟩ := meant
    · cases same
      exact ⟨none, .inl ⟨rfl, rfl⟩, .none⟩
    · obtain ⟨b, told', agrees⟩ := respects.permuted same text told
      refine ⟨some b, .inr ⟨?_, b, told', rfl⟩, .some agrees⟩
      rintro rfl
      cases same
      exact notNull rfl

/-! ## What an object tells a record -/

/-- **The trees under the keys** of an object. -/
def partsOf (members : List (Key × Tree)) (key : String) : Option Tree := members.lookup (.text key)

/-- **What the tree under its key tells a field**, if there is one. -/
def Field.Told {α : Type} (field : Field α) (depth : Nat) (part : Option Tree) (a : α) : Prop :=
  match part with
  | none => field.absent = some a
  | some tree => field.read.Tells depth tree a

namespace Fields

/-- **Fields whose readers see nothing but the tree**, and what it means for their values to
agree. -/
inductive Respects : {τ δ : Type} → Fields τ δ → (τ → τ → Prop) → Prop where
  | nil : Respects .nil fun _ _ => True
  | cons {α τ δ : Type} {head : Field α} {tail : Fields τ δ} {agree : α → α → Prop}
      {agrees : τ → τ → Prop} (reads : head.read.Respects agree)
      (absent : ∀ a, head.absent = some a → agree a a)
      (short : ∀ a, head.short = some a → agree a a) (rest : Respects tail agrees) :
      Respects (.cons head tail) fun t u => agree t.1 u.1 ∧ agrees t.2 u.2

/-- **What the trees under the keys tell** of the fields. -/
def Told : {τ δ : Type} → Fields τ δ → Nat → (String → Option Tree) → τ → Prop
  | _, _, .nil, _, _, _ => True
  | _, _, .cons head tail, depth, parts, (a, rest) =>
    head.Told depth (parts head.name) a ∧ tail.Told depth parts rest

/-- **How the trees under the keys change a draft**: a slot that one fills was empty. -/
def Drafted : {τ δ : Type} → Fields τ δ → Nat → (String → Option Tree) → δ → δ → Prop
  | _, _, .nil, _, _, _, _ => True
  | _, _, .cons head tail, depth, parts, (slot, slots), (slot', slots') =>
    (match parts head.name with
      | none => slot' = slot
      | some tree => slot = none ∧ ∃ a, head.read.Tells depth tree a ∧ slot' = some a) ∧
    tail.Drafted depth parts slots slots'

variable {τ δ : Type} {fields : Fields τ δ} {agrees : τ → τ → Prop} {depth : Nat}
  {parts : String → Option Tree} {draft last : δ}

/-- Without a tree under a name of the fields a draft stays as it is. -/
theorem drafted_iff_eq (nothing : ∀ name ∈ fields.names, parts name = none) :
    fields.Drafted depth parts draft last ↔ draft = last := by
  induction fields with
  | nil => exact iff_of_true trivial rfl
  | cons head tail ih =>
    obtain ⟨slot, slots⟩ := draft
    obtain ⟨slot', slots'⟩ := last
    unfold Drafted
    rw [nothing head.name List.mem_cons_self,
      ih fun name mem => nothing name (List.mem_cons_of_mem _ mem)]
    simp [eq_comm]

/-- No trees at all. -/
def noParts (_ : String) : Option Tree := none

/-- **One more tree**, under a key. -/
def adding (key : String) (tree : Tree) (parts : String → Option Tree) (name : String) :
    Option Tree := if name = key then some tree else parts name

theorem adding_self (key : String) (tree : Tree) (parts : String → Option Tree) :
    adding key tree parts key = some tree := if_pos rfl

theorem adding_of_ne {key name : String} (differ : name ≠ key) (tree : Tree)
    (parts : String → Option Tree) : adding key tree parts name = parts name := if_neg differ

/-- A key that fills no slot is no field's name. -/
theorem not_mem_names_of_fill {key : String} (known : fields.fill depth draft key = none) :
    key ∉ fields.names := by
  induction fields with
  | nil => exact List.not_mem_nil
  | cons head tail ih =>
    obtain ⟨slot, slots⟩ := draft
    unfold fill at known
    by_cases here : key = head.name
    · rw [if_pos here] at known
      cases known
    · rw [if_neg here, Option.map_eq_none_iff] at known
      exact fun mem => (List.mem_cons.mp mem).elim here (ih known)

/-- **A member fills a draft** as its tree does under its key. -/
theorem Respects.yields_fill (respects : fields.Respects agrees) (distinct : fields.names.Nodup)
    {key : String} {tree : Tree} {after inside stop : List Char} (behind : colon after = .ok inside)
    (spans : tree.Spans inside stop) {read : Read δ}
    (known : fields.fill depth draft key = some read) :
    Yields read after stop (fields.Drafted depth (adding key tree noParts) draft) := by
  induction respects with
  | nil => cases known
  | @cons α τ δ head tail agree agrees reads absent short rest ih =>
    obtain ⟨slot, slots⟩ := draft
    obtain ⟨fresh, distinct⟩ := List.nodup_cons.mp distinct
    unfold fill at known
    by_cases here : key = head.name
    · subst here
      rw [if_pos rfl] at known
      obtain rfl := Option.some.inj known
      have others (slots' : δ) :
          tail.Drafted depth (adding head.name tree noParts) slots slots' ↔ slots = slots' :=
        drafted_iff_eq fun name mem => adding_of_ne (by rintro rfl; exact fresh mem) tree _
      -- A slot that is filled refuses the member, and its tree fills no such slot either.
      cases slot with
      | some a =>
        refine yields_of_error rfl fun last => ?_
        obtain ⟨slot', slots'⟩ := last
        unfold Drafted
        rw [adding_self]
        rintro ⟨⟨filled, -⟩, -⟩
        cases filled
      | none =>
        refine (((reads.yields spans).memberValue behind head.name).map _).congr fun last => ?_
        obtain ⟨slot', slots'⟩ := last
        unfold Drafted
        rw [adding_self, others]
        constructor
        · rintro ⟨a, told, eq⟩
          obtain ⟨rfl, rfl⟩ := Prod.mk.inj eq
          exact ⟨⟨rfl, a, told, rfl⟩, rfl⟩
        · rintro ⟨⟨-, a, told, rfl⟩, rfl⟩
          exact ⟨a, told, rfl⟩
    · rw [if_neg here] at known
      -- The member belongs to a later field, and this slot stays as it is.
      obtain ⟨read, later, rfl⟩ := Option.map_eq_some_iff.mp known
      refine (Yields.map (ih distinct later) (slot, ·)).congr fun last => ?_
      obtain ⟨slot', slots'⟩ := last
      rw [Drafted, adding_of_ne (Ne.symm here), noParts]
      constructor
      · rintro ⟨a, drafted, eq⟩
        obtain ⟨rfl, rfl⟩ := Prod.mk.inj eq
        exact ⟨rfl, drafted⟩
      · rintro ⟨rfl, drafted⟩
        exact ⟨slots', drafted, rfl⟩

/-- **How a member changes the draft** while a record is read. -/
def Drafts (fields : Fields τ δ) (depth : Nat) (state : δ × Unit) (key : String) (tree : Tree)
    (last : δ × Unit) : Prop :=
  fields.Drafted depth (adding key tree noParts) state.1 last.1

/-- **A member is taken** as its tree tells, and one that is no field's is skipped. -/
theorem Respects.yields_taking (respects : fields.Respects agrees) (distinct : fields.names.Nodup)
    (key : String) {tree : Tree} {after inside stop : List Char} (behind : colon after = .ok inside)
    (spans : tree.Spans inside stop) (state : δ × Unit) :
    Yields (fields.taking Record.skipMember depth state key) after stop
      (fields.Drafts depth state key tree) := by
  obtain ⟨draft, ⟨⟩⟩ := state
  unfold taking
  dsimp only
  cases known : fields.fill depth draft key with
  | some read =>
    have filled := respects.yields_fill distinct behind spans known
    exact (filled.map (·, ())).congr fun (last, ()) => by simp [Drafts]
  | none =>
    have filled (last : δ) :
        fields.Drafted depth (adding key tree noParts) draft last ↔ draft = last :=
      drafted_iff_eq fun name mem =>
        adding_of_ne (by rintro rfl; exact not_mem_names_of_fill known mem) tree noParts
    have skipped : Record.skipMember depth () key after = .ok ((), stop) := by
      unfold Record.skipMember memberValue Read.under
      rw [behind]
      dsimp only
      rw [spans.skipValue_eq]
      rfl
    refine yields_of_ok (a := (draft, ())) ?_ fun (last, ()) => ?_
    · dsimp only
      unfold Read.map
      rw [skipped]
    · rw [Drafts, filled last, Prod.mk.injEq, and_iff_left rfl]

/-- The trees under the keys of an object with one more member in front. -/
theorem partsOf_cons (key : String) (tree : Tree) (members : List (Key × Tree)) :
    partsOf ((.text key, tree) :: members)
      = adding key tree (partsOf members) := by
  funext name
  unfold partsOf adding
  rw [List.lookup_cons]
  by_cases same : name = key
  · subst same
    simp
  · have differ : Key.text name ≠ .text key := fun eq => same (Key.text.inj eq)
    rw [beq_false_of_ne differ, if_neg same]

/-- One tree fills a draft, and then the others do. -/
theorem Drafted.append {key : String} {tree : Tree} {mid : δ}
    (first : fields.Drafted depth (adding key tree noParts) draft mid)
    (later : fields.Drafted depth parts mid last) :
    fields.Drafted depth (adding key tree parts) draft last := by
  induction fields with
  | nil => trivial
  | cons head tail ih =>
    obtain ⟨slot, slots⟩ := draft
    obtain ⟨slot', slots'⟩ := mid
    obtain ⟨slot'', slots''⟩ := last
    obtain ⟨first, firsts⟩ := first
    obtain ⟨later, laters⟩ := later
    refine ⟨?_, ih firsts laters⟩
    by_cases here : head.name = key
    · rw [here, adding_self] at first
      obtain ⟨rfl, a, told, rfl⟩ := first
      rw [here] at later ⊢
      rw [adding_self]
      cases other : parts key with
      | none =>
        rw [other] at later
        exact ⟨rfl, a, told, later⟩
      | some tree' =>
        rw [other] at later
        -- The slot is filled by now, and takes no second tree.
        exact nomatch later.1
    · rw [adding_of_ne here] at first
      obtain rfl := first
      rw [adding_of_ne here]
      exact later

/-- What trees do to a draft, one of them can do first. -/
theorem Drafted.exists_mid {key : String} {tree : Tree} (fresh : parts key = none)
    (drafted : fields.Drafted depth (adding key tree parts) draft last) :
    ∃ mid, fields.Drafted depth (adding key tree noParts) draft mid ∧
      fields.Drafted depth parts mid last := by
  induction fields with
  | nil => exact ⟨(), trivial, trivial⟩
  | cons head tail ih =>
    obtain ⟨slot, slots⟩ := draft
    obtain ⟨slot', slots'⟩ := last
    obtain ⟨here, others⟩ := drafted
    obtain ⟨mid, firsts, laters⟩ := ih others
    by_cases same : head.name = key
    · rw [same, adding_self] at here
      refine ⟨(slot', mid), ⟨?_, firsts⟩, ?_, laters⟩
      · rw [same, adding_self]
        exact here
      · rw [same, fresh]
    · rw [adding_of_ne same] at here
      refine ⟨(slot, mid), ⟨?_, firsts⟩, here, laters⟩
      rw [adding_of_ne same, noParts]

/-- **Members one after the other** fill a draft as the trees under their keys do. -/
theorem drafted_of_steps {state state' : δ × Unit} {members : List (Key × Tree)}
    (steps : Steps (fields.Drafts depth) state members state') :
    fields.Drafted depth (partsOf members) state.1 state'.1 := by
  induction steps with
  | nil state => exact (drafted_iff_eq fun _ _ => rfl).mpr rfl
  | cons head tail ih =>
    rw [partsOf_cons]
    exact head.append ih

/-- **And the other way round**, if the keys are distinct and can be read. -/
theorem steps_of_drafted {members : List (Key × Tree)} (distinct : (members.map Prod.fst).Nodup)
    (readable : ∀ key ∈ members.map Prod.fst, ∃ name, key = .text name)
    (drafted : fields.Drafted depth (partsOf members) draft last) :
    Steps (fields.Drafts depth) (draft, ()) members (last, ()) := by
  induction members generalizing draft with
  | nil =>
    obtain rfl := (drafted_iff_eq fun _ _ => rfl).mp drafted
    exact .nil _
  | cons member members ih =>
    obtain ⟨key, tree⟩ := member
    obtain ⟨name, rfl⟩ := readable key List.mem_cons_self
    obtain ⟨fresh, distinct⟩ := List.nodup_cons.mp distinct
    rw [partsOf_cons] at drafted
    have missing : partsOf members name = none := by
      rw [← Option.not_isSome_iff_eq_none]
      exact fun there => fresh (isSome_lookup_iff.mp there)
    obtain ⟨mid, head, tail⟩ := drafted.exists_mid missing
    refine .cons ?_ (ih distinct (fun key mem => readable key (List.mem_cons_of_mem _ mem)) tail)
    exact head

/-- A draft is finished slot by slot. -/
theorem finish_cons_eq_ok_iff {α : Type} {head : Field α} {slot : Option α} {a : α} {rest : τ} :
    (Fields.cons head fields).finish (slot, draft) = .ok (a, rest) ↔
      slot.or head.absent = some a ∧ fields.finish draft = .ok rest := by
  rw [finish]
  cases slot.or head.absent with
  | none => exact iff_of_false nofun nofun
  | some b => cases fields.finish draft <;> simp

/-- **A draft that the trees fill can be finished** if they tell of every field. -/
theorem exists_drafted_iff_told {record : τ} :
    (∃ draft, fields.Drafted depth parts fields.blank draft ∧ fields.finish draft = .ok record) ↔
      fields.Told depth parts record := by
  induction fields with
  | nil => exact iff_of_true ⟨(), trivial, rfl⟩ trivial
  | cons head tail ih =>
    obtain ⟨a, rest⟩ := record
    unfold Told
    rw [← ih]
    constructor
    · rintro ⟨⟨slot, slots⟩, ⟨here, drafted⟩, finished⟩
      obtain ⟨chosen, finished⟩ := finish_cons_eq_ok_iff.mp finished
      refine ⟨?_, slots, drafted, finished⟩
      cases part : parts head.name with
      | none =>
        rw [part] at here
        obtain rfl : slot = none := here
        exact chosen
      | some tree =>
        rw [part] at here
        obtain ⟨-, b, told, rfl⟩ := here
        obtain rfl : b = a := Option.some.inj chosen
        exact told
    · rintro ⟨here, slots, drafted, finished⟩
      cases part : parts head.name with
      | none =>
        rw [part] at here
        refine ⟨(none, slots), ⟨?_, drafted⟩, finish_cons_eq_ok_iff.mpr ⟨here, finished⟩⟩
        rw [part]
      | some tree =>
        rw [part] at here
        refine ⟨(some a, slots), ⟨?_, drafted⟩, finish_cons_eq_ok_iff.mpr ⟨rfl, finished⟩⟩
        rw [part]
        exact ⟨rfl, a, here, rfl⟩

variable {members : List (Key × Tree)} {inside rest left : List Char} {record : τ}

/-- **Reading the members of a record** drafts it, and finishes the draft. -/
theorem Respects.object_eq_ok_iff (respects : fields.Respects agrees)
    (distinct : fields.names.Nodup) (spans : Tree.Spans.spansMembers true members inside rest) :
    fields.object Record.skipMember () depth inside = .ok ((record, ()), left) ↔
      left = '}' :: rest ∧ ∃ draft,
        Steps (fields.Drafts depth) (fields.blank, ()) members (draft, ()) ∧
          fields.finish draft = .ok record := by
  -- Drafting has one result, so a draft that the steps lead to is the one that was read.
  have yields := yields_membersFrom (fields.taking Record.skipMember depth)
    (fun key tree _ {state after inside stop} behind (spans : tree.Spans inside stop) =>
      respects.yields_taking distinct key behind spans state) (fields.blank, ()) spans
    (Nat.lt_succ_of_lt (length_lt_of_spansMembers spans))
  rw [object_eq]
  unfold Json.members
  cases found : membersFrom (fields.taking Record.skipMember depth) (inside.length + 1) true
      (fields.blank, ()) inside with
  | error fault =>
    refine iff_of_false nofun ?_
    rintro ⟨-, draft, steps, -⟩
    exact yields.not_of_error found _ steps
  | ok result =>
    obtain ⟨⟨draft, ⟨⟩⟩, left'⟩ := result
    obtain ⟨rfl, steps⟩ := (yields _ _).mp found
    dsimp only
    cases finished : fields.finish draft with
    | error cause =>
      refine iff_of_false nofun ?_
      rintro ⟨-, draft', steps', finished'⟩
      obtain ⟨rfl, -⟩ := Prod.mk.inj ((yields.iff_eq_of_ok found _).mp steps')
      exact nomatch finished.symm.trans finished'
    | ok record' =>
      dsimp only
      constructor
      · intro same
        obtain ⟨both, rfl⟩ := Prod.mk.inj (Except.ok.inj same)
        obtain ⟨rfl, -⟩ := Prod.mk.inj both
        exact ⟨rfl, draft, steps, finished⟩
      · rintro ⟨rfl, draft', steps', finished'⟩
        obtain ⟨rfl, -⟩ := Prod.mk.inj ((yields.iff_eq_of_ok found _).mp steps')
        obtain rfl := Except.ok.inj (finished.symm.trans finished')
        rfl

theorem readable_of_steps {σ : Type} {step : σ → String → Tree → σ → Prop} {state last : σ}
    (steps : Steps step state members last) :
    ∀ key ∈ members.map Prod.fst, ∃ name, key = .text name := by
  induction steps with
  | nil state => exact fun key mem => absurd mem List.not_mem_nil
  | cons head tail ih => exact List.forall_mem_cons.mpr ⟨⟨_, rfl⟩, ih⟩

/-- **An object that is read tells of every field.** -/
theorem Respects.told_of_object (respects : fields.Respects agrees) (distinct : fields.names.Nodup)
    (spans : Tree.Spans.spansMembers true members inside rest)
    (found : fields.object Record.skipMember () depth inside = .ok ((record, ()), left)) :
    left = '}' :: rest ∧ fields.Told depth (partsOf members) record ∧
      ∀ key ∈ members.map Prod.fst, ∃ name, key = .text name := by
  obtain ⟨rfl, draft, steps, finished⟩ := (respects.object_eq_ok_iff distinct spans).mp found
  exact ⟨rfl, exists_drafted_iff_told.mp ⟨draft, drafted_of_steps steps, finished⟩,
    readable_of_steps steps⟩

/-- **An object that tells of every field is read**, if its keys are distinct. -/
theorem Respects.object_of_told (respects : fields.Respects agrees) (distinct : fields.names.Nodup)
    (spans : Tree.Spans.spansMembers true members inside rest)
    (keys : (members.map Prod.fst).Nodup)
    (readable : ∀ key ∈ members.map Prod.fst, ∃ name, key = .text name)
    (told : fields.Told depth (partsOf members) record) :
    fields.object Record.skipMember () depth inside = .ok ((record, ()), '}' :: rest) := by
  obtain ⟨draft, drafted, finished⟩ := exists_drafted_iff_told.mpr told
  exact (respects.object_eq_ok_iff distinct spans).mpr
    ⟨rfl, draft, steps_of_drafted keys readable drafted, finished⟩

/-- **Permuted trees under the same keys** tell fields that agree. -/
theorem Respects.told_permuted (respects : fields.Respects agrees) {others : String → Option Tree}
    (same : ∀ name, (parts name).isSome = (others name).isSome)
    (permuted : ∀ name x y, parts name = some x → others name = some y → x.Permuted y ∧ y.IsText)
    (told : fields.Told depth parts record) :
    ∃ record', fields.Told depth others record' ∧ agrees record record' := by
  induction respects with
  | nil => exact ⟨(), trivial, trivial⟩
  | @cons α τ δ head tail agree agrees reads absent short rest ih =>
    obtain ⟨a, t⟩ := record
    obtain ⟨here, told⟩ := told
    obtain ⟨u, told', agrees⟩ := ih told
    have same := same head.name
    cases part : parts head.name with
    | none =>
      rw [part] at here same
      have missing : others head.name = none := by
        rw [← Option.not_isSome_iff_eq_none, ← same]
        exact Bool.false_ne_true
      refine ⟨(a, u), ⟨?_, told'⟩, absent a here, agrees⟩
      rw [missing]
      exact here
    | some x =>
      rw [part] at here same
      obtain ⟨y, there⟩ := Option.isSome_iff_exists.mp same.symm
      obtain ⟨permuted, text⟩ := permuted _ x y part there
      obtain ⟨b, tells, agree⟩ := reads.permuted permuted text here
      refine ⟨(b, u), ⟨?_, told'⟩, agree, agrees⟩
      rw [there]
      exact tells

/-- A member that fills a draft has a tree behind its colon. -/
theorem Respects.exists_spans_of_fill (respects : fields.Respects agrees) {key : String}
    {read : Read δ} (known : fields.fill depth draft key = some read) {after : List Char}
    (found : read after = .ok (last, left)) :
    ∃ inside, colon after = .ok inside ∧ ∃ tree : Tree, tree.Spans inside left := by
  induction respects with
  | nil => exact nomatch known
  | @cons α τ δ head tail agree agrees reads absent short others ih =>
    obtain ⟨slot, slots⟩ := draft
    unfold fill at known
    split at known
    · obtain rfl := Option.some.inj known
      cases slot with
      | some a => cases found
      | none =>
        obtain ⟨a, found, -⟩ := Read.map_eq_ok_iff.mp found
        obtain ⟨inside, behind, found⟩ := memberValue_eq_ok_iff.mp found
        exact ⟨inside, behind, reads.text found⟩
    · obtain ⟨later, filled, rfl⟩ := Option.map_eq_some_iff.mp known
      obtain ⟨slots', found, -⟩ := Read.map_eq_ok_iff.mp found
      exact ih filled found

/-- **The members of a record that is read have trees.** -/
theorem Respects.exists_spansMembers (respects : fields.Respects agrees)
    (found : fields.object Record.skipMember () depth inside = .ok ((record, ()), left)) :
    ∃ members rest, left = '}' :: rest ∧ Tree.Spans.spansMembers true members inside rest := by
  rw [object_eq] at found
  unfold members at found
  cases read : membersFrom (fields.taking Record.skipMember depth) (inside.length + 1) true
      (fields.blank, ()) inside with
  | error fault =>
    rw [read] at found
    exact nomatch found
  | ok result =>
    obtain ⟨⟨draft, ⟨⟩⟩, left'⟩ := result
    have same : left' = left := by
      rw [read] at found
      dsimp only at found
      cases finished : fields.finish draft with
      | error cause =>
        rw [finished] at found
        exact nomatch found
      | ok t =>
        rw [finished] at found
        exact (Prod.mk.inj (Except.ok.inj found)).2
    subst same
    refine Json.exists_spansMembers (fun {state key after next rest} taken => ?_) read
    obtain ⟨draft, ⟨⟩⟩ := state
    unfold taking at taken
    dsimp only at taken
    cases known : fields.fill depth draft key with
    | some read =>
      rw [known] at taken
      obtain ⟨_, taken, -⟩ := Read.map_eq_ok_iff.mp taken
      exact respects.exists_spans_of_fill known taken
    | none =>
      rw [known] at taken
      obtain ⟨_, taken, -⟩ := Read.map_eq_ok_iff.mp taken
      obtain ⟨inside, behind, skipped⟩ := memberValue_eq_ok_iff.mp taken
      obtain ⟨_, whole, eq⟩ := exists_of_map skipped
      obtain ⟨-, rfl⟩ := Prod.mk.inj eq
      exact ⟨inside, behind, exists_spans_of_skipValue whole⟩

end Fields

end ServiceBroker.Json
