import ServiceBroker.Proofs.Skipping

/-!
# The grammar of texts

What a text says does not depend on who reads it. A `Json.Tree` is the text without its spaces
and without the spelling of its strings and numbers: which containers there are, which keys the
members have, and which values stand where no container does. A tree spans a stretch of the input
(`Json.Tree.Spans`), from where a value begins to the rest behind it.

The skipper takes exactly such stretches (`Json.Tree.Spans.skipValue_eq`): it keeps the open
brackets in a list, so the proof says what one value does to that list, for as many turns as the
value takes.
-/

namespace ServiceBroker.Json

/-! ## Trees -/

/-- **The key of a member**, as a text gives it. -/
inductive Key where
  | text (key : String)
  /-- Characters that can be skipped but not be read, since an escape in them makes no
  character. -/
  | broken (written : List Char)
deriving DecidableEq, Repr

/-- **A text without its spaces and its spelling.** -/
inductive Tree where
  /-- What is no container, and its value if it has one: a number may be out of range. -/
  | scalar (value? : Option Json)
  | array (items : List Tree)
  | object (members : List (Key × Tree))

/-- What holds of every tree if it holds of a tree whenever it holds of its parts. -/
@[elab_as_elim]
theorem Tree.induction {motive : Tree → Prop} (scalar : ∀ value?, motive (.scalar value?))
    (array : ∀ items, (∀ item ∈ items, motive item) → motive (.array items))
    (object : ∀ members, (∀ member ∈ members, motive member.2) → motive (.object members))
    (tree : Tree) : motive tree :=
  match tree with
  | .scalar value? => scalar value?
  | .array items => array items fun item _ => Tree.induction scalar array object item
  | .object members => object members fun member mem =>
    have := List.sizeOf_lt_of_mem mem
    have : sizeOf member.2 < sizeOf member := by
      cases member
      simp only [Prod.mk.sizeOf_spec]
      omega
    Tree.induction scalar array object member.2

/-- **Where the next part of a container begins**: a comma stands before every part but the
first. -/
inductive Separated : Bool → List Char → List Char → Prop where
  | first (s : List Char) : Separated true s s
  | later {s start : List Char} (comma : skipSpace s = ',' :: start) : Separated false s start

/-- The key of some characters up to a quote, and what follows it. -/
def Key.of (written after : List Char) : Key :=
  match stringBody written with
  | .ok (key, _) => .text (String.ofList key)
  | .error _ => .broken (written.take (written.length - after.length))

/-- **The stretch of a key**, colon included. -/
def Key.Spans (key : Key) (s rest : List Char) : Prop :=
  ∃ written after, skipSpace s = '"' :: written ∧ skipString written = .ok after ∧
    key = .of written after ∧ skipSpace after = ':' :: rest

/-- **The stretch of a tree**: from where its text begins to the rest behind it. -/
def Tree.Spans : Tree → List Char → List Char → Prop
  | .scalar value?, s, rest =>
    skipHead s = .ok (none, rest) ∧ value? = (value 0 s).toOption.map Prod.fst
  | .array items, s, rest =>
    ∃ inside, skipSpace s = '[' :: inside ∧ spansItems true items inside rest
  | .object members, s, rest =>
    ∃ inside, skipSpace s = '{' :: inside ∧ spansMembers true members inside rest
where
  /-- The stretch of items, closing bracket included. -/
  spansItems : Bool → List Tree → List Char → List Char → Prop
    | _, [], s, rest => skipSpace s = ']' :: rest
    | first, item :: items, s, rest => ∃ start stop,
      Separated first s start ∧ item.Spans start stop ∧ spansItems false items stop rest
  /-- The stretch of members, closing brace included. -/
  spansMembers : Bool → List (Key × Tree) → List Char → List Char → Prop
    | _, [], s, rest => skipSpace s = '}' :: rest
    | first, (key, tree) :: members, s, rest => ∃ start inside stop,
      Separated first s start ∧ key.Spans start inside ∧ tree.Spans inside stop ∧
        spansMembers false members stop rest

/-- **The tree of a whole text**, only white space following it. -/
def Tree.Writes (tree : Tree) (text : String) : Prop :=
  ∃ rest, tree.Spans text.toList rest ∧ skipSpace rest = []

/-- A tree that some text has. -/
def Tree.IsText (tree : Tree) : Prop := ∃ s rest, tree.Spans s rest

/-! ## Where a stretch begins -/

variable {tree : Tree} {s start rest : List Char} {first : Bool}

/-- A stretch begins with a character that closes no bracket. -/
theorem Tree.Spans.head (spans : tree.Spans s rest) :
    ∃ c t, skipSpace s = c :: t ∧ c ≠ ']' ∧ c ≠ '}' := by
  cases tree with
  | scalar value? =>
    obtain ⟨c, t, starts, notBracket⟩ := exists_cons_of_skipHead spans.1
    exact ⟨c, t, starts, fun eq => notBracket (by simp [eq]), fun eq => notBracket (by simp [eq])⟩
  | array items =>
    obtain ⟨inside, h, -⟩ := spans
    exact ⟨_, _, h, by decide, by decide⟩
  | object members =>
    obtain ⟨inside, h, -⟩ := spans
    exact ⟨_, _, h, by decide, by decide⟩

/-- Spaces in front of a stretch do not count. -/
theorem Tree.Spans.of_skipSpace_eq {t : List Char} (spans : tree.Spans s rest)
    (same : skipSpace t = skipSpace s) : tree.Spans t rest := by
  cases tree with
  | scalar value? =>
    have skipped : skipHead t = skipHead s := by rw [← skipHead_skipSpace, same, skipHead_skipSpace]
    have read : value 0 t = value 0 s := by
      unfold value
      rw [same]
    exact ⟨skipped.trans spans.1, read ▸ spans.2⟩
  | array items =>
    obtain ⟨inside, h, spans⟩ := spans
    exact ⟨inside, same.trans h, spans⟩
  | object members =>
    obtain ⟨inside, h, spans⟩ := spans
    exact ⟨inside, same.trans h, spans⟩

/-- Where items have a text, so has each of them. -/
theorem isText_of_spansItems {items : List Tree}
    (spans : Tree.Spans.spansItems first items s rest) : ∀ item ∈ items, item.IsText := by
  induction items generalizing first s with
  | nil => exact fun item mem => absurd mem List.not_mem_nil
  | cons item items ih =>
    obtain ⟨start, stop, -, head, later⟩ := spans
    exact List.forall_mem_cons.mpr ⟨⟨start, stop, head⟩, ih later⟩

/-- Where members have a text, so has the value of each. -/
theorem isText_of_spansMembers {members : List (Key × Tree)}
    (spans : Tree.Spans.spansMembers first members s rest) :
    ∀ member ∈ members, member.2.IsText := by
  induction members generalizing first s with
  | nil => exact fun member mem => absurd mem List.not_mem_nil
  | cons member members ih =>
    obtain ⟨start, inside, stop, -, -, head, later⟩ := spans
    exact List.forall_mem_cons.mpr ⟨⟨inside, stop, head⟩, ih later⟩

/-! ## Skipping a stretch -/

/-- Skipping once a value or a bracket is taken: closing what can be closed and going on with the
next part. The flag tells that a part came before. -/
def skipOn (afterPart : Bool) (turns : Nat) (stack : List Bracket) (s : List Char) :
    Except Fault (List Char) := do
  let (stack, rest) ← skipClosing afterPart stack s
  match stack with
  | [] => .ok rest
  | .square :: _ => skipValues turns stack rest
  | .brace :: _ => do
    let rest ← skipKey rest
    skipValues turns stack rest

variable {turns : Nat} {stack outer : List Bracket} {afterPart : Bool}

theorem skipValues_of_none (skipped : skipHead s = .ok (none, rest)) :
    skipValues (turns + 1) stack s = skipOn true turns stack rest := by
  rw [skipValues, skipped]
  rfl

theorem skipValues_of_some {bracket : Bracket} (skipped : skipHead s = .ok (some bracket, rest)) :
    skipValues (turns + 1) stack s = skipOn false turns (bracket :: stack) rest := by
  rw [skipValues, skipped]
  rfl

/-- A closing bracket is taken, and what it closes was a part of what is outside. -/
theorem skipOn_closing {bracket : Bracket} (closing : skipSpace s = bracket.closing :: rest) :
    skipOn afterPart turns (bracket :: outer) s = skipOn true turns outer rest := by
  unfold skipOn
  rw [skipClosing, closing]
  dsimp only
  rw [if_pos rfl]

/-- A comma is taken if a part came before. -/
theorem skipClosing_separated (bracket : Bracket) (outer : List Bracket)
    (separated : Separated first s start)
    {c : Char} {t : List Char} (starts : skipSpace start = c :: t) (open_ : c ≠ bracket.closing) :
    ∃ t, skipClosing (!first) (bracket :: outer) s = .ok (bracket :: outer, t) ∧
      skipSpace t = skipSpace start := by
  cases separated with
  | first =>
    refine ⟨c :: t, ?_, by rw [← starts, skipSpace_skipSpace]⟩
    rw [skipClosing, starts]
    dsimp only
    rw [if_neg open_]
    rfl
  | later comma =>
    refine ⟨start, ?_, rfl⟩
    rw [skipClosing, comma]
    dsimp only
    rw [if_neg (by cases bracket <;> decide)]
    rfl

/-- A key is taken with its colon. -/
theorem Key.Spans.skipKey_eq {key : Key} {t : List Char} (spans : key.Spans start rest)
    (same : skipSpace t = skipSpace start) : skipKey t = .ok rest := by
  obtain ⟨written, after, quote, skipped, -, colon⟩ := spans
  unfold skipKey
  rw [same, quote]
  dsimp only
  rw [if_pos rfl, skipped]
  dsimp only [bind, Except.bind]
  rw [colon]
  rfl

theorem skipValues_eq_of_skipSpace_eq {t : List Char} (same : skipSpace t = skipSpace s)
    (some : 0 < turns) : skipValues turns stack t = skipValues turns stack s := by
  obtain ⟨turns, rfl⟩ := Nat.exists_eq_succ_of_ne_zero (Nat.ne_of_gt some)
  rw [skipValues, skipValues, ← skipHead_skipSpace t, same, skipHead_skipSpace]

theorem length_lt_of_skipSpace {c : Char} (h : skipSpace s = c :: rest) :
    rest.length < s.length := by
  have spaces : (skipSpace s).length ≤ s.length := List.length_dropWhile_le _ s
  rw [h] at spaces
  exact spaces

/-- A separator takes no input back. -/
theorem Separated.length_le (separated : Separated first s start) : start.length ≤ s.length := by
  cases separated with
  | first => exact Nat.le_refl _
  | later comma => exact Nat.le_of_lt (length_lt_of_skipSpace comma)

/-- A key has its quote at least. -/
theorem Key.Spans.length_lt {key : Key} (spans : key.Spans s rest) : rest.length < s.length := by
  obtain ⟨written, after, quote, skipped, -, colon⟩ := spans
  have first := length_lt_of_skipSpace quote
  have second := length_lt_of_skipString skipped
  have third := length_lt_of_skipSpace colon
  omega

/-- **A stretch is skipped** in some turns, no more than it has characters. -/
def Skips (s rest : List Char) : Prop :=
  ∃ used, 0 < used ∧ used + rest.length ≤ s.length ∧
    ∀ turns stack, skipValues (turns + used) stack s = skipOn true turns stack rest

/-- **What stands inside a bracket is skipped**, the closing one included. -/
def SkipsInside (bracket : Bracket) (first : Bool) (s rest : List Char) : Prop :=
  ∃ used, used + rest.length < s.length ∧
    ∀ turns outer,
      skipOn (!first) (turns + used) (bracket :: outer) s = skipOn true turns outer rest

theorem skipsInside_closing {bracket : Bracket} (closing : skipSpace s = bracket.closing :: rest) :
    SkipsInside bracket first s rest :=
  ⟨0, by have := length_lt_of_skipSpace closing; omega, fun _ _ => skipOn_closing closing⟩

/-- An item is skipped, and then what follows it. -/
theorem SkipsInside.item {stop : List Char} (separated : Separated first s start)
    (spans : tree.Spans start stop) (skips : Skips start stop)
    (later : SkipsInside .square false stop rest) : SkipsInside .square first s rest := by
  obtain ⟨used, some, short, skips⟩ := skips
  obtain ⟨used', short', later⟩ := later
  obtain ⟨c, t, starts, open_, -⟩ := spans.head
  have := separated.length_le
  refine ⟨used' + used, by omega, fun turns outer => ?_⟩
  obtain ⟨t, closed, same⟩ := skipClosing_separated .square outer separated starts open_
  calc skipOn (!first) (turns + (used' + used)) (.square :: outer) s
      = skipValues (turns + used' + used) (.square :: outer) t := by
        unfold skipOn
        rw [closed, Nat.add_assoc]
        rfl
    _ = skipValues (turns + used' + used) (.square :: outer) start :=
        skipValues_eq_of_skipSpace_eq same (by omega)
    _ = skipOn true (turns + used') (.square :: outer) stop := skips _ _
    _ = skipOn true turns outer rest := later turns outer

/-- A member is skipped, and then what follows it. -/
theorem SkipsInside.member {key : Key} {inside stop : List Char}
    (separated : Separated first s start) (spans : key.Spans start inside)
    (skips : Skips inside stop) (later : SkipsInside .brace false stop rest) :
    SkipsInside .brace first s rest := by
  obtain ⟨used, -, short, skips⟩ := skips
  obtain ⟨used', short', later⟩ := later
  have := separated.length_le
  have := spans.length_lt
  obtain ⟨_, _, quote, -⟩ := id spans
  refine ⟨used' + used, by omega, fun turns outer => ?_⟩
  obtain ⟨t, closed, same⟩ := skipClosing_separated .brace outer separated quote (by decide)
  calc skipOn (!first) (turns + (used' + used)) (.brace :: outer) s
      = skipValues (turns + used' + used) (.brace :: outer) inside := by
        unfold skipOn
        rw [closed, ← Nat.add_assoc]
        show (do let rest ← skipKey t; skipValues (turns + used' + used) (.brace :: outer) rest) = _
        rw [spans.skipKey_eq same]
        rfl
    _ = skipOn true (turns + used') (.brace :: outer) stop := skips _ _
    _ = skipOn true turns outer rest := later turns outer

/-- A bracket is skipped with what stands inside. -/
theorem SkipsInside.skips {bracket : Bracket} {inside : List Char}
    (opening : skipHead s = .ok (some bracket, inside))
    (skips : SkipsInside bracket true inside rest) : Skips s rest := by
  obtain ⟨used, short, skips⟩ := skips
  have := length_lt_of_skipHead opening
  refine ⟨used + 1, Nat.succ_pos _, by omega, fun turns stack => ?_⟩
  rw [← Nat.add_assoc, skipValues_of_some opening]
  exact skips turns stack

/-- Items are skipped if each of them is. -/
theorem skipsInside_items {items : List Tree}
    (each : ∀ item ∈ items, ∀ {s rest}, item.Spans s rest → Skips s rest)
    (spans : Tree.Spans.spansItems first items s rest) : SkipsInside .square first s rest := by
  induction items generalizing first s with
  | nil => exact skipsInside_closing spans
  | cons item items ih =>
    obtain ⟨start, stop, separated, head, later⟩ := spans
    exact .item separated head (each item List.mem_cons_self head)
      (ih (fun other mem => each other (List.mem_cons_of_mem _ mem)) later)

/-- Members are skipped if each of their values is. -/
theorem skipsInside_members {members : List (Key × Tree)}
    (each : ∀ member ∈ members, ∀ {s rest}, member.2.Spans s rest → Skips s rest)
    (spans : Tree.Spans.spansMembers first members s rest) : SkipsInside .brace first s rest := by
  induction members generalizing first s with
  | nil => exact skipsInside_closing spans
  | cons member members ih =>
    obtain ⟨start, inside, stop, separated, key, head, later⟩ := spans
    exact .member separated key (each member List.mem_cons_self head)
      (ih (fun other mem => each other (List.mem_cons_of_mem _ mem)) later)

/-- **The stretch of a tree is skipped.** -/
theorem Tree.Spans.skips (spans : tree.Spans s rest) : Skips s rest := by
  induction tree using Tree.induction generalizing s rest with
  | scalar value? =>
    obtain ⟨skipped, -⟩ := spans
    have := length_lt_of_skipHead skipped
    exact ⟨1, Nat.one_pos, by omega, fun _ _ => skipValues_of_none skipped⟩
  | array items each =>
    obtain ⟨inside, opening, spans⟩ := spans
    refine (skipsInside_items each spans).skips (skipHead_eq_ok_iff.mpr ?_)
    rw [opening]
    exact .square inside
  | object members each =>
    obtain ⟨inside, opening, spans⟩ := spans
    refine (skipsInside_members each spans).skips (skipHead_eq_ok_iff.mpr ?_)
    rw [opening]
    exact .brace inside

/-- A stretch has a character at least. -/
theorem Tree.Spans.length_lt (spans : tree.Spans s rest) : rest.length < s.length := by
  obtain ⟨used, some, short, -⟩ := spans.skips
  omega

/-- **The skipper takes exactly the stretch of a tree.** -/
theorem Tree.Spans.skipValue_eq (spans : tree.Spans s rest) : skipValue s = .ok rest := by
  obtain ⟨used, some, short, skips⟩ := spans.skips
  obtain ⟨more, eq⟩ : ∃ more, s.length + 1 = more + used := ⟨s.length + 1 - used, by omega⟩
  unfold skipValue
  rw [eq, skips]
  rfl

end ServiceBroker.Json
