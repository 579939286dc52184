import ServiceBroker.Proofs.Meaning

/-!
# Every text that is read has a tree

The grammar leaves out nothing that counts: whatever a reader takes from the input is the stretch
of a tree (`Json.exists_spans_of_value`), and so is whatever the skipper takes
(`Json.exists_spans_of_skipValue`). The skipper has no calls to follow, only its open brackets,
so the proof follows its turns: what it does with a value or inside a bracket, it does in fewer
turns than it had.
-/

namespace ServiceBroker.Json

variable {s rest left : List Char} {first : Bool}

/-! ## Parts of a container -/

/-- **An item is found** where its stretch may begin, and none where the bracket closes. -/
theorem nextItem_cases {more : Bool} {t : List Char} (found : nextItem first s = .ok (more, t)) :
    more = false ∧ (∃ rest, t = ']' :: rest ∧ skipSpace s = ']' :: rest) ∨
      more = true ∧ ∃ start, Separated first s start ∧ skipSpace start = skipSpace t := by
  unfold nextItem at found
  cases starts : skipSpace s with
  | nil =>
    rw [starts] at found
    cases found
  | cons c u =>
    rw [starts] at found
    dsimp only at found
    split_ifs at found with closing isFirst comma
    · obtain ⟨rfl, rfl⟩ := Prod.mk.inj (Except.ok.inj found)
      exact .inl ⟨rfl, u, by rw [closing], by rw [closing]⟩
    · obtain ⟨rfl, rfl⟩ := Prod.mk.inj (Except.ok.inj found)
      subst isFirst
      exact .inr ⟨rfl, s, .first s, by rw [← starts, skipSpace_skipSpace]⟩
    · obtain rfl := Bool.eq_false_iff.mpr isFirst
      subst comma
      cases starts' : skipSpace u with
      | nil =>
        rw [starts'] at found
        cases found
      | cons d v =>
        rw [starts'] at found
        dsimp only at found
        split_ifs at found
        obtain ⟨rfl, rfl⟩ := Prod.mk.inj (Except.ok.inj found)
        exact .inr ⟨rfl, u, .later starts, by rw [← starts', skipSpace_skipSpace]⟩

/-- **Items that are read have trees**, if each of them has one. -/
theorem exists_spansItems {α : Type} {read : Read α}
    (each : ∀ {s a rest}, read s = .ok (a, rest) → ∃ tree : Tree, tree.Spans s rest)
    {turns index : Nat} {found : List α} (ok : itemsFrom read turns index s = .ok (found, left)) :
    ∃ items rest, left = ']' :: rest ∧ Tree.Spans.spansItems (index == 0) items s rest := by
  induction turns generalizing s index found with
  | zero => exact nomatch ok
  | succ turns ih =>
    cases next : nextItem (index == 0) s with
    | error fault =>
      rw [itemsFrom, next] at ok
      cases ok
    | ok result =>
      obtain ⟨more, t⟩ := result
      obtain ⟨rfl, rest, rfl, closing⟩ | ⟨rfl, start, separated, same⟩ := nextItem_cases next
      · rw [itemsFrom, next] at ok
        obtain ⟨-, rfl⟩ := Prod.mk.inj (Except.ok.inj ok)
        exact ⟨[], rest, rfl, closing⟩
      · rw [itemsFrom_of_next next] at ok
        obtain ⟨a, stop, head, later⟩ := Read.andThen_eq_ok_iff.mp ok
        obtain ⟨as, later, -⟩ := Read.map_eq_ok_iff.mp later
        obtain ⟨tree, head⟩ := each (Read.under_eq_ok_iff.mp head)
        obtain ⟨items, rest, eq, spans⟩ := ih later
        exact ⟨tree :: items, rest, eq, start, stop, separated, head.of_skipSpace_eq same, spans⟩

/-- **A key is found** where its stretch may begin, and none where the brace closes. -/
theorem nextKey_cases {key? : Option String} {t : List Char}
    (found : nextKey first s = .ok (key?, t)) :
    key? = none ∧ (∃ rest, t = '}' :: rest ∧ skipSpace s = '}' :: rest) ∨
      (∃ start written, Separated first s start ∧ skipSpace start = '"' :: written ∧
        keyBody written = .ok (key?, t)) := by
  unfold nextKey at found
  cases starts : skipSpace s with
  | nil =>
    rw [starts] at found
    cases found
  | cons c u =>
    rw [starts] at found
    dsimp only at found
    split_ifs at found with closing isFirst quote comma
    · obtain ⟨rfl, rfl⟩ := Prod.mk.inj (Except.ok.inj found)
      exact .inl ⟨rfl, u, by rw [closing], by rw [closing]⟩
    · subst isFirst
      exact .inr ⟨s, u, .first s, by rw [starts, quote], found⟩
    · obtain rfl := Bool.eq_false_iff.mpr isFirst
      subst comma
      cases starts' : skipSpace u with
      | nil =>
        rw [starts'] at found
        cases found
      | cons d v =>
        rw [starts'] at found
        dsimp only at found
        split_ifs at found with quote
        exact .inr ⟨u, v, .later starts, by rw [starts', quote], found⟩

/-- The stretch of a key that was found, its colon included. -/
theorem spans_key {start written after inside : List Char}
    (quote : skipSpace start = '"' :: written)
    {key? : Option String} (found : keyBody written = .ok (key?, after))
    (behind : colon after = .ok inside) : (Key.of written after).Spans start inside := by
  obtain ⟨text, read, -⟩ := Read.map_eq_ok_iff.mp found
  refine ⟨written, after, quote, skipString_of_stringBody read, rfl, ?_⟩
  unfold colon at behind
  cases starts : skipSpace after with
  | nil =>
    rw [starts] at behind
    exact nomatch behind
  | cons c t =>
    rw [starts] at behind
    dsimp only at behind
    split at behind
    · next isColon =>
      obtain rfl := Except.ok.inj behind
      rw [isColon]
    · exact nomatch behind

/-- **Members that are taken have trees**, if each of them has one behind its colon. -/
theorem exists_spansMembers {σ : Type} {take : σ → String → Read σ}
    (each : ∀ {state key after next rest}, take state key after = .ok (next, rest) →
      ∃ inside, colon after = .ok inside ∧ ∃ tree : Tree, tree.Spans inside rest)
    {turns : Nat} {state last : σ} (ok : membersFrom take turns first state s = .ok (last, left)) :
    ∃ members rest, left = '}' :: rest ∧ Tree.Spans.spansMembers first members s rest := by
  induction turns generalizing s first state with
  | zero => exact nomatch ok
  | succ turns ih =>
    cases next : nextKey first s with
    | error fault =>
      unfold membersFrom Read.under at ok
      rw [next] at ok
      cases ok
    | ok result =>
      obtain ⟨key?, after⟩ := result
      obtain ⟨rfl, rest, rfl, closing⟩ | ⟨start, written, separated, quote, read⟩ :=
        nextKey_cases next
      · unfold membersFrom Read.under at ok
        rw [next] at ok
        obtain ⟨-, rfl⟩ := Prod.mk.inj (Except.ok.inj ok)
        exact ⟨[], rest, rfl, closing⟩
      · obtain ⟨text, -, rfl⟩ := Read.map_eq_ok_iff.mp read
        rw [membersFrom_of_next next] at ok
        obtain ⟨mid, stop, head, later⟩ := Read.andThen_eq_ok_iff.mp ok
        obtain ⟨inside, behind, tree, head⟩ := each head
        obtain ⟨members, rest, eq, spans⟩ := ih later
        exact ⟨(_, tree) :: members, rest, eq, start, inside, stop, separated,
          spans_key quote read behind, head, spans⟩

/-! ## Values -/

/-- The value of a member is behind its colon. -/
theorem memberValue_eq_ok_iff {α : Type} {key : String} {read : Read α} {after : List Char}
    {a : α} :
    memberValue key read after = .ok (a, left) ↔
      ∃ inside, colon after = .ok inside ∧ read inside = .ok (a, left) := by
  unfold memberValue
  cases colon after with
  | error fault => exact iff_of_false nofun fun ⟨_, found, _⟩ => nomatch found
  | ok inside => simp [Read.under_eq_ok_iff]

theorem eq_of_close (bracket : Bracket)
    (closed : close bracket (bracket.closing :: rest) = .ok left) :
    rest = left := by
  cases bracket <;> exact Except.ok.inj closed

/-- **A value that is read has a tree.** -/
theorem exists_spans_of_value {depth : Nat} {v : Json} (read : value depth s = .ok (v, rest)) :
    ∃ tree : Tree, tree.Spans s rest := by
  have scalar {s rest : List Char} {v : Json} (read : value 0 s = .ok (v, rest)) :
      ∃ tree : Tree, tree.Spans s rest := ⟨.scalar _, skipHead_of_value_zero read, rfl⟩
  induction depth generalizing s v rest with
  | zero => exact scalar read
  | succ depth ih =>
    cases starts : skipSpace s with
    | nil =>
      unfold value at read
      rw [starts] at read
      cases read
    | cons c inside =>
      by_cases square : c = '['
      · subst square
        unfold value at read
        rw [starts] at read
        obtain ⟨found, read, -⟩ := Read.map_eq_ok_iff.mp read
        obtain ⟨last, read, closed⟩ := enclosed_eq_ok_iff.mp read
        obtain ⟨items, rest', rfl, spans⟩ := exists_spansItems ih read
        obtain rfl := eq_of_close .square closed
        exact ⟨.array items, inside, starts, spans⟩
      · by_cases brace : c = '{'
        · subst brace
          unfold value at read
          rw [starts] at read
          obtain ⟨found, read, -⟩ := Read.map_eq_ok_iff.mp read
          obtain ⟨last, read, closed⟩ := enclosed_eq_ok_iff.mp read
          obtain ⟨members, rest', rfl, spans⟩ := exists_spansMembers (fun taken => by
            obtain ⟨v, taken, -⟩ := Read.map_eq_ok_iff.mp taken
            obtain ⟨inside, behind, read⟩ := memberValue_eq_ok_iff.mp taken
            exact ⟨inside, behind, ih read⟩) read
          obtain rfl := eq_of_close .brace closed
          exact ⟨.object members, inside, starts, spans⟩
        -- What opens no container is read as it is at depth zero.
        · exact scalar ((value_eq_value_zero_of_head starts square brace _).symm.trans read)

/-! ## Skipped values -/

/-- The skipper takes a tree and goes on behind it, in fewer turns. -/
def TakesTree (turns : Nat) : Prop :=
  ∀ {stack : List Bracket} {s left : List Char}, skipValues turns stack s = .ok left →
    ∃ tree rest turns', turns' < turns ∧ Tree.Spans tree s rest ∧
      skipOn true turns' stack rest = .ok left

/-- How the skipper goes on after it has closed what can be closed. -/
def skipPart (turns : Nat) (outer : List Bracket) (s : List Char) :
    Bracket → Except Fault (List Char)
  | .square => skipValues turns (.square :: outer) s
  | .brace => do
    let rest ← skipKey s
    skipValues turns (.brace :: outer) rest

/-- **Inside a bracket the skipper closes it** or goes on where the next part may begin. -/
theorem skipOn_cases {turns : Nat} {bracket : Bracket} {outer : List Bracket}
    (ok : skipOn (!first) turns (bracket :: outer) s = .ok left) :
    (∃ rest, skipSpace s = bracket.closing :: rest ∧ skipOn true turns outer rest = .ok left) ∨
      ∃ start t, Separated first s start ∧ skipSpace t = skipSpace start ∧
        skipPart turns outer t bracket = .ok left := by
  cases starts : skipSpace s with
  | nil =>
    unfold skipOn at ok
    rw [skipClosing, starts] at ok
    cases ok
  | cons c u =>
    by_cases closing : c = bracket.closing
    · subst closing
      rw [skipOn_closing starts] at ok
      exact .inl ⟨u, rfl, ok⟩
    · unfold skipOn at ok
      rw [skipClosing, starts] at ok
      dsimp only at ok
      rw [if_neg closing] at ok
      cases first with
      | true =>
        refine .inr ⟨s, c :: u, .first s, by rw [← starts, skipSpace_skipSpace], ?_⟩
        cases bracket <;> exact ok
      | false =>
        rw [Bool.not_false, if_pos rfl] at ok
        by_cases comma : c = ','
        · rw [if_pos comma] at ok
          refine .inr ⟨u, u, .later (by rw [starts, comma]), rfl, ?_⟩
          cases bracket <;> exact ok
        · rw [if_neg comma] at ok
          cases ok

/-- **Inside a square bracket the skipper takes items** up to the closing one. -/
theorem exists_items_of_skipOn {turns : Nat} (takes : ∀ turns' ≤ turns, TakesTree turns')
    {outer : List Bracket} (ok : skipOn (!first) turns (.square :: outer) s = .ok left) :
    ∃ items rest turns', turns' ≤ turns ∧ Tree.Spans.spansItems first items s rest ∧
      skipOn true turns' outer rest = .ok left := by
  induction turns using Nat.strong_induction_on generalizing s first with
  | h turns ih =>
    obtain ⟨rest, closing, ok⟩ | ⟨start, t, separated, same, ok⟩ := skipOn_cases ok
    · exact ⟨[], rest, turns, Nat.le_refl _, closing, ok⟩
    · obtain ⟨tree, stop, turns', fewer, head, ok⟩ := takes turns (Nat.le_refl _) ok
      obtain ⟨items, rest, turns'', fewer', later, ok⟩ := ih turns' fewer
        (fun _ le => takes _ (Nat.le_trans le (Nat.le_of_lt fewer)))
        (show skipOn (!false) turns' (.square :: outer) stop = .ok left from ok)
      exact ⟨tree :: items, rest, turns'', Nat.le_trans fewer' (Nat.le_of_lt fewer),
        ⟨start, stop, separated, head.of_skipSpace_eq same.symm, later⟩, ok⟩

/-- A key that is skipped has a stretch. -/
theorem exists_key_of_skipKey {t inside : List Char} (ok : skipKey t = .ok inside) :
    ∃ key : Key, ∀ {start}, skipSpace t = skipSpace start → key.Spans start inside := by
  unfold skipKey at ok
  cases starts : skipSpace t with
  | nil =>
    rw [starts] at ok
    cases ok
  | cons c written =>
    rw [starts] at ok
    dsimp only at ok
    split_ifs at ok with quote
    subst quote
    cases skipped : skipString written with
    | error fault =>
      rw [skipped] at ok
      cases ok
    | ok after =>
      rw [skipped] at ok
      dsimp only [bind, Except.bind] at ok
      cases starts' : skipSpace after with
      | nil =>
        rw [starts'] at ok
        cases ok
      | cons d rest =>
        rw [starts'] at ok
        dsimp only at ok
        split_ifs at ok with colon
        subst colon
        obtain rfl := Except.ok.inj ok
        exact ⟨.of written after, fun same =>
          ⟨written, after, same.symm, skipped, rfl, starts'⟩⟩

/-- … and its value follows. -/
theorem exists_key_of_skipPart {turns : Nat} {outer : List Bracket} {t : List Char}
    (ok : skipPart turns outer t .brace = .ok left) :
    ∃ inside, ∃ key : Key, (∀ {start}, skipSpace t = skipSpace start → key.Spans start inside) ∧
      skipValues turns (.brace :: outer) inside = .ok left := by
  unfold skipPart at ok
  cases skipped : skipKey t with
  | error fault =>
    rw [skipped] at ok
    cases ok
  | ok inside =>
    rw [skipped] at ok
    obtain ⟨key, spans⟩ := exists_key_of_skipKey skipped
    exact ⟨inside, key, spans, ok⟩

/-- **Inside a brace the skipper takes members** up to the closing one. -/
theorem exists_members_of_skipOn {turns : Nat} (takes : ∀ turns' ≤ turns, TakesTree turns')
    {outer : List Bracket} (ok : skipOn (!first) turns (.brace :: outer) s = .ok left) :
    ∃ members rest turns', turns' ≤ turns ∧ Tree.Spans.spansMembers first members s rest ∧
      skipOn true turns' outer rest = .ok left := by
  induction turns using Nat.strong_induction_on generalizing s first with
  | h turns ih =>
    obtain ⟨rest, closing, ok⟩ | ⟨start, t, separated, same, ok⟩ := skipOn_cases ok
    · exact ⟨[], rest, turns, Nat.le_refl _, closing, ok⟩
    · obtain ⟨inside, key, spans, ok⟩ := exists_key_of_skipPart ok
      obtain ⟨tree, stop, turns', fewer, head, ok⟩ := takes turns (Nat.le_refl _) ok
      obtain ⟨members, rest, turns'', fewer', later, ok⟩ := ih turns' fewer
        (fun _ le => takes _ (Nat.le_trans le (Nat.le_of_lt fewer)))
        (show skipOn (!false) turns' (.brace :: outer) stop = .ok left from ok)
      exact ⟨(key, tree) :: members, rest, turns'', Nat.le_trans fewer' (Nat.le_of_lt fewer),
        ⟨start, inside, stop, separated, spans same, head, later⟩, ok⟩

theorem opening_of_skipHead {bracket : Bracket} {inside : List Char}
    (ok : skipHead s = .ok (some bracket, inside)) :
    skipSpace s = (match bracket with | .square => '[' | .brace => '{') :: inside := by
  have head := skipHead_eq_ok_iff.mp ok
  generalize skipSpace s = t at head
  cases head <;> rfl

/-- **The skipper takes a tree** whenever it succeeds. -/
theorem takesTree (turns : Nat) : TakesTree turns := by
  -- By strong induction, for what stands inside a bracket takes several turns.
  induction turns using Nat.strong_induction_on with
  | h turns ih =>
    intro stack s left ok
    cases turns with
    | zero => exact nomatch ok
    | succ turns =>
      have takes : ∀ turns' ≤ turns, TakesTree turns' := fun _ le => ih _ (Nat.lt_succ_of_le le)
      cases head : skipHead s with
      | error fault =>
        rw [skipValues, head] at ok
        cases ok
      | ok result =>
        obtain ⟨opened, inside⟩ := result
        cases opened with
        | none =>
          rw [skipValues_of_none head] at ok
          exact ⟨.scalar _, inside, turns, Nat.lt_succ_self _, ⟨head, rfl⟩, ok⟩
        | some bracket =>
          rw [skipValues_of_some head] at ok
          have opening := opening_of_skipHead head
          cases bracket with
          | square =>
            obtain ⟨items, rest, turns', fewer, spans, ok⟩ :=
              exists_items_of_skipOn takes (show skipOn (!true) _ _ _ = _ from ok)
            exact ⟨.array items, rest, turns', Nat.lt_succ_of_le fewer, ⟨inside, opening, spans⟩,
              ok⟩
          | brace =>
            obtain ⟨members, rest, turns', fewer, spans, ok⟩ :=
              exists_members_of_skipOn takes (show skipOn (!true) _ _ _ = _ from ok)
            exact ⟨.object members, rest, turns', Nat.lt_succ_of_le fewer, ⟨inside, opening, spans⟩,
              ok⟩

/-- **A value that is skipped has a tree.** -/
theorem exists_spans_of_skipValue (ok : skipValue s = .ok rest) :
    ∃ tree : Tree, tree.Spans s rest := by
  obtain ⟨tree, rest', turns', -, spans, ok⟩ := takesTree _ ok
  obtain rfl := Except.ok.inj ok
  exact ⟨tree, spans⟩

end ServiceBroker.Json
