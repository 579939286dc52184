import ServiceBroker.Proofs.Alike
import ServiceBroker.Proofs.Grammar

/-!
# What a tree means

The value of a tree is a function of the tree (`Json.Tree.value`), and reading the tree's text
gives that value, or nothing if there is none (`Json.Tree.Spans.yields_value`). It follows what
counts when a key comes twice: the last member of the key (`Json.lookup_collect`).
-/

namespace ServiceBroker.Json

/-! ## What a reader finds -/

section Yields

variable {α β : Type} {read : Read α} {s rest : List Char} {results : α → Prop}

/-- **What a reader finds at an input**: the results of a kind and no others, and then it leaves
the rest. -/
def Yields (read : Read α) (s rest : List Char) (results : α → Prop) : Prop :=
  ∀ a left, read s = .ok (a, left) ↔ left = rest ∧ results a

theorem yields_of_error {fault : Fault} (failed : read s = .error fault)
    (nothing : ∀ a, ¬ results a) : Yields read s rest results := fun a _ =>
  iff_of_false (fun found => nomatch failed.symm.trans found) fun ⟨_, result⟩ => nothing a result

theorem yields_of_ok {a : α} (found : read s = .ok (a, rest)) (only : ∀ b, results b ↔ a = b) :
    Yields read s rest results := fun b left => by
  rw [found, only b, Except.ok.injEq, Prod.mk.injEq, and_comm, eq_comm (a := left)]

theorem Yields.congr {others : α → Prop} (yields : Yields read s rest results)
    (same : ∀ a, results a ↔ others a) : Yields read s rest others := fun a left =>
  (yields a left).trans (and_congr_right fun _ => same a)

theorem Yields.not_of_error {fault : Fault} (yields : Yields read s rest results)
    (failed : read s = .error fault) (a : α) : ¬ results a := fun result =>
  nomatch failed.symm.trans ((yields a rest).mpr ⟨rfl, result⟩)

theorem Yields.iff_eq_of_ok {a : α} {left : List Char} (yields : Yields read s rest results)
    (found : read s = .ok (a, left)) (b : α) : results b ↔ a = b := by
  refine ⟨fun result => ?_, ?_⟩
  · exact (Prod.mk.inj (Except.ok.inj (found.symm.trans ((yields b rest).mpr ⟨rfl, result⟩)))).1
  · rintro rfl
    exact ((yields a left).mp found).2

/-- The results are seen through a function. -/
theorem Yields.map (yields : Yields read s rest results) (f : α → β) :
    Yields (Read.map f read) s rest fun b => ∃ a, results a ∧ f a = b := by
  cases found : read s with
  | error fault =>
    have failed : Read.map f read s = .error fault := by
      unfold Read.map
      rw [found]
    exact yields_of_error failed fun b ⟨a, result, _⟩ => yields.not_of_error found a result
  | ok result =>
    obtain ⟨a, left⟩ := result
    obtain ⟨rfl, -⟩ := (yields a left).mp found
    refine yields_of_ok (a := f a) ?_ fun b => ?_
    · unfold Read.map
      rw [found]
    · simp only [yields.iff_eq_of_ok found, exists_eq_left']

/-- The same is found inside an enclosing value. -/
theorem Yields.under (yields : Yields read s rest results) (step : Step) :
    Yields (read.under step) s rest results := fun a left => by
  unfold Read.under
  cases found : read s with
  | error fault => exact iff_of_false nofun fun ⟨_, result⟩ => yields.not_of_error found a result
  | ok result =>
    dsimp only
    rw [← found]
    exact yields a left

theorem Yields.memberValue {after : List Char} (yields : Yields read s rest results)
    (behind : colon after = .ok s) (key : String) :
    Yields (memberValue key read) after rest results := fun a left => by
  unfold Json.memberValue
  rw [behind]
  exact yields.under (.member key) a left

/-- What stands inside a bracket is found with the closing one. -/
theorem Yields.enclosed {last : List Char} (yields : Yields read s last results)
    (bracket : Bracket) (closing : close bracket last = .ok rest) :
    Yields (enclosed bracket read) s rest results := by
  cases found : read s with
  | error fault =>
    have failed : Json.enclosed bracket read s
        = .error (fault.settle (landing bracket fault.rest)) := by
      unfold Json.enclosed
      rw [found]
    exact yields_of_error failed (yields.not_of_error found)
  | ok result =>
    obtain ⟨a, left⟩ := result
    obtain ⟨rfl, -⟩ := (yields a left).mp found
    refine yields_of_ok (a := a) ?_ (yields.iff_eq_of_ok found)
    unfold Json.enclosed
    rw [found]
    dsimp only
    rw [closing]

/-- **One reader after another.** -/
def Read.andThen (first : Read α) (next : α → Read β) : Read β := fun s =>
  match first s with
  | .error fault => .error fault
  | .ok (a, rest) => next a rest

/-- What the second reader finds depends on what the first one does. -/
theorem Yields.andThen {mid : List Char} {next : α → Read β} {others : α → β → Prop}
    (yields : Yields read s mid results)
    (later : ∀ a, results a → Yields (next a) mid rest (others a)) :
    Yields (read.andThen next) s rest fun b => ∃ a, results a ∧ others a b := fun b left => by
  unfold Read.andThen
  cases found : read s with
  | error fault =>
    exact iff_of_false nofun fun ⟨_, a, result, _⟩ => yields.not_of_error found a result
  | ok result =>
    obtain ⟨a, left'⟩ := result
    obtain ⟨rfl, result⟩ := (yields a left').mp found
    dsimp only
    rw [later a result b left]
    simp only [yields.iff_eq_of_ok found, exists_eq_left']

end Yields

/-! ## What was read -/

theorem Read.under_eq_ok_iff {α : Type} {step : Step} {read : Read α} {s left : List Char} {a : α} :
    read.under step s = .ok (a, left) ↔ read s = .ok (a, left) := by
  unfold Read.under
  cases read s with
  | error fault => exact iff_of_false nofun nofun
  | ok result => exact Iff.rfl

/-- What two readers found one after the other. -/
theorem Read.andThen_eq_ok_iff {α β : Type} {read : Read α} {next : α → Read β} {s left : List Char}
    {b : β} : read.andThen next s = .ok (b, left) ↔
      ∃ a mid, read s = .ok (a, mid) ∧ next a mid = .ok (b, left) := by
  unfold Read.andThen
  cases read s with
  | error fault => exact iff_of_false nofun fun ⟨_, _, found, _⟩ => nomatch found
  | ok result =>
    obtain ⟨a, mid⟩ := result
    refine ⟨fun found => ⟨a, mid, rfl, found⟩, ?_⟩
    rintro ⟨a', mid', eq, found⟩
    obtain ⟨rfl, rfl⟩ := Prod.mk.inj (Except.ok.inj eq)
    exact found

/-- What is read inside a bracket, and where the bracket is closed. -/
theorem enclosed_eq_ok_iff {α : Type} {bracket : Bracket} {body : Read α} {s left : List Char}
    {a : α} : enclosed bracket body s = .ok (a, left) ↔
      ∃ last, body s = .ok (a, last) ∧ close bracket last = .ok left := by
  unfold enclosed
  cases body s with
  | error fault => exact iff_of_false nofun nofun
  | ok result =>
    obtain ⟨b, last⟩ := result
    dsimp only
    cases closed : close bracket last with
    | error fault =>
      refine iff_of_false nofun ?_
      rintro ⟨last', eq, closed'⟩
      obtain ⟨-, rfl⟩ := Prod.mk.inj (Except.ok.inj eq)
      exact nomatch closed.symm.trans closed'
    | ok left' =>
      dsimp only
      constructor
      · intro same
        obtain ⟨rfl, rfl⟩ := Prod.mk.inj (Except.ok.inj same)
        exact ⟨last, rfl, closed⟩
      · rintro ⟨last', eq, closed'⟩
        obtain ⟨rfl, rfl⟩ := Prod.mk.inj (Except.ok.inj eq)
        obtain rfl := Except.ok.inj (closed.symm.trans closed')
        rfl

/-! ## Items -/

variable {tree : Tree} {s start stop rest : List Char} {first : Bool} {turns : Nat}

/-- **An item is found** where its stretch begins. -/
theorem Separated.nextItem_eq (separated : Separated first s start)
    (spans : tree.Spans start stop) :
    ∃ t, nextItem first s = .ok (true, t) ∧ tree.Spans t stop := by
  obtain ⟨c, t, starts, open_, -⟩ := spans.head
  refine ⟨c :: t, ?_, spans.of_skipSpace_eq (by rw [← starts, skipSpace_skipSpace])⟩
  unfold nextItem
  cases separated with
  | first =>
    rw [starts]
    dsimp only
    rw [if_neg open_, if_pos rfl]
  | later comma =>
    rw [comma]
    dsimp only
    rw [if_neg (by decide), if_neg Bool.false_ne_true, if_pos rfl, starts]
    dsimp only
    rw [if_neg open_]

theorem nextItem_closing (closing : skipSpace s = ']' :: rest) :
    nextItem first s = .ok (false, ']' :: rest) := by
  unfold nextItem
  rw [closing]
  dsimp only
  rw [if_pos rfl]

/-- One item is read, and then those behind it. -/
theorem itemsFrom_of_next {α : Type} {read : Read α} {index : Nat} {t : List Char}
    (next : nextItem (index == 0) s = .ok (true, t)) :
    itemsFrom read (turns + 1) index s = (read.under (.item index)).andThen
      (fun item => Read.map (item :: ·) (itemsFrom read turns (index + 1))) t := by
  rw [itemsFrom, next]
  unfold Read.andThen Read.map
  dsimp only
  cases read.under (.item index) t with
  | error fault => rfl
  | ok result =>
    obtain ⟨a, left⟩ := result
    dsimp only
    cases itemsFrom read turns (index + 1) left <;> rfl

/-- **The items of a stretch are found**, each as what it is by itself. -/
theorem yields_itemsFrom {α : Type} {read : Read α} {results : Tree → α → Prop} {items : List Tree}
    (each : ∀ item ∈ items, ∀ {s rest}, item.Spans s rest → Yields read s rest (results item))
    {index : Nat} (spans : Tree.Spans.spansItems (index == 0) items s rest)
    (enough : items.length < turns) :
    Yields (itemsFrom read turns index) s (']' :: rest) (List.Forall₂ results items) := by
  induction items generalizing s turns index with
  | nil =>
    obtain ⟨turns, rfl⟩ := Nat.exists_eq_succ_of_ne_zero (Nat.ne_of_gt enough)
    refine yields_of_ok (a := []) ?_ fun found => by rw [List.forall₂_nil_left_iff, eq_comm]
    unfold itemsFrom
    rw [nextItem_closing spans]
  | cons item items ih =>
    obtain ⟨turns, rfl⟩ := Nat.exists_eq_succ_of_ne_zero (Nat.ne_of_gt (Nat.zero_lt_of_lt enough))
    obtain ⟨start, stop, separated, head, later⟩ := spans
    obtain ⟨t, there, head⟩ := separated.nextItem_eq head
    have yields := ((each item List.mem_cons_self head).under (.item index)).andThen
      fun item _ => (ih (fun other mem => each other (List.mem_cons_of_mem _ mem))
        (show Tree.Spans.spansItems (index + 1 == 0) items stop rest from later)
        (Nat.lt_of_succ_lt_succ enough)).map (item :: ·)
    intro found left
    rw [itemsFrom_of_next there, yields found left, List.forall₂_cons_left_iff]
    refine and_congr_right fun _ => ?_
    constructor
    · rintro ⟨a, result, as, results, rfl⟩
      exact ⟨a, as, result, results, rfl⟩
    · rintro ⟨a, as, result, results, rfl⟩
      exact ⟨a, result, as, results, rfl⟩

/-- Every item has a character at least. -/
theorem length_lt_of_spansItems {items : List Tree}
    (spans : Tree.Spans.spansItems first items s rest) : items.length < s.length := by
  induction items generalizing first s with
  | nil => exact Nat.zero_lt_of_lt (length_lt_of_skipSpace spans)
  | cons item items ih =>
    obtain ⟨start, stop, separated, head, later⟩ := spans
    have := separated.length_le
    have := head.length_lt
    have := ih later
    rw [List.length_cons]
    omega

/-! ## Members -/

/-- **Taking members one by one**, each of which changes what there is. -/
inductive Steps {σ : Type} (step : σ → String → Tree → σ → Prop) :
    σ → List (Key × Tree) → σ → Prop where
  | nil (state : σ) : Steps step state [] state
  | cons {state mid last : σ} {key : String} {tree : Tree} {members : List (Key × Tree)}
      (head : step state key tree mid) (tail : Steps step mid members last) :
      Steps step state ((.text key, tree) :: members) last

/-- What is found at a key: its characters, or a fault. -/
theorem nextKey_eq (separated : Separated first s start) {written : List Char}
    (quote : skipSpace start = '"' :: written) : nextKey first s = keyBody written := by
  unfold nextKey
  cases separated with
  | first =>
    rw [quote]
    dsimp only
    rw [if_neg (by decide), if_pos rfl, if_pos rfl]
  | later comma =>
    rw [comma]
    dsimp only
    rw [if_neg (by decide), if_neg Bool.false_ne_true, if_pos rfl, quote]
    dsimp only
    rw [if_pos rfl]

/-- **A key is found** where its stretch begins, and the colon behind it. -/
theorem Separated.nextKey_text (separated : Separated first s start) {key : String}
    {inside : List Char} (spans : (Key.text key).Spans start inside) :
    ∃ after, nextKey first s = .ok (some key, after) ∧ colon after = .ok inside := by
  obtain ⟨written, after, quote, skipped, eq, behind⟩ := spans
  rw [nextKey_eq separated quote]
  unfold Key.of at eq
  unfold keyBody Read.map
  cases read : stringBody written with
  | error fault =>
    rw [read] at eq
    exact nomatch eq
  | ok result =>
    obtain ⟨text, after'⟩ := result
    obtain rfl := Except.ok.inj ((skipString_of_stringBody read).symm.trans skipped)
    rw [read] at eq
    obtain rfl := Key.text.inj eq
    refine ⟨after', rfl, ?_⟩
    unfold colon
    rw [behind]
    exact if_pos rfl

/-- A key that cannot be read is a fault. -/
theorem Separated.nextKey_broken (separated : Separated first s start) {characters : List Char}
    {inside : List Char} (spans : (Key.broken characters).Spans start inside) :
    ∃ fault, nextKey first s = .error fault := by
  obtain ⟨written, after, quote, -, eq, -⟩ := spans
  rw [nextKey_eq separated quote]
  unfold Key.of at eq
  unfold keyBody Read.map
  cases read : stringBody written with
  | error fault => exact ⟨fault, rfl⟩
  | ok result =>
    rw [read] at eq
    exact nomatch eq

/-- One member is taken, and then those behind it. -/
theorem membersFrom_of_next {σ : Type} {take : σ → String → Read σ} {state : σ} {key : String}
    {after : List Char} (next : nextKey first s = .ok (some key, after)) :
    membersFrom take (turns + 1) first state s
      = (take state key).andThen (membersFrom take turns false) after := by
  have named : (nextKey first).under .unnamed s = .ok (some key, after) := by
    unfold Read.under
    rw [next]
  unfold membersFrom
  rw [named]
  rfl

/-- **The members of a stretch are found**, each changing the state as it does by itself. -/
theorem yields_membersFrom {σ : Type} (take : σ → String → Read σ)
    {step : σ → String → Tree → σ → Prop} {members : List (Key × Tree)}
    (each : ∀ key tree, (Key.text key, tree) ∈ members → ∀ {state after inside stop},
      colon after = .ok inside → tree.Spans inside stop →
        Yields (take state key) after stop (step state key tree))
    (state : σ) (spans : Tree.Spans.spansMembers first members s rest)
    (enough : members.length < turns) :
    Yields (membersFrom take turns first state) s ('}' :: rest) (Steps step state members) := by
  induction members generalizing s first turns state with
  | nil =>
    obtain ⟨turns, rfl⟩ := Nat.exists_eq_succ_of_ne_zero (Nat.ne_of_gt enough)
    refine yields_of_ok (a := state) ?_ fun last => ⟨fun steps => ?_, ?_⟩
    · have closing : skipSpace s = '}' :: rest := spans
      unfold membersFrom Read.under nextKey
      rw [closing]
      dsimp only
      rw [if_pos rfl]
    · cases steps
      rfl
    · rintro rfl
      exact .nil state
  | cons member members ih =>
    obtain ⟨key, tree⟩ := member
    obtain ⟨turns, rfl⟩ := Nat.exists_eq_succ_of_ne_zero (Nat.ne_of_gt (Nat.zero_lt_of_lt enough))
    obtain ⟨start, inside, stop, separated, keySpans, head, later⟩ := spans
    cases key with
    | broken characters =>
      -- A key that cannot be read is a fault, and no step is made of it.
      obtain ⟨fault, failed⟩ := separated.nextKey_broken keySpans
      have failed : membersFrom take (turns + 1) first state s = .error (fault.under .unnamed) := by
        unfold membersFrom Read.under
        rw [failed]
      exact yields_of_error failed fun last steps => nomatch steps
    | text key =>
      obtain ⟨after, found, behind⟩ := separated.nextKey_text keySpans
      have here : Yields (take state key) after stop (step state key tree) :=
        each key tree List.mem_cons_self behind head
      have yields := here.andThen fun mid _ =>
        ih (fun key tree mem => each key tree (List.mem_cons_of_mem _ mem)) mid later
          (Nat.lt_of_succ_lt_succ enough)
      intro last left
      rw [membersFrom_of_next found, yields last left]
      refine and_congr_right fun _ => ⟨fun ⟨mid, head, tail⟩ => .cons head tail, fun steps => ?_⟩
      cases steps with
      | cons head tail => exact ⟨_, head, tail⟩

/-- Every member has a character at least. -/
theorem length_lt_of_spansMembers {members : List (Key × Tree)}
    (spans : Tree.Spans.spansMembers first members s rest) : members.length < s.length := by
  induction members generalizing first s with
  | nil => exact Nat.zero_lt_of_lt (length_lt_of_skipSpace spans)
  | cons member members ih =>
    obtain ⟨start, inside, stop, separated, key, head, later⟩ := spans
    have := separated.length_le
    have := key.length_lt
    have := head.length_lt
    have := ih later
    rw [List.length_cons]
    omega

/-! ## Values -/

/-- The characters of a key, unless it cannot be read. -/
def Key.text? : Key → Option String
  | .text key => some key
  | .broken _ => none

/-- **An object of some entries**, in the order in which they are added. -/
def collect (entries : Members) : Members :=
  entries.foldl (fun object (key, value) => put key value object) []

/-- The key of a member and its value, if it has both. -/
def entry (value : Tree → Option Json) (member : Key × Tree) : Option (String × Json) :=
  match member.1.text?, value member.2 with
  | some key, some v => some (key, v)
  | _, _ => none

/-- **The value of a tree**, if it has one when so many containers may be nested. -/
def Tree.value : Nat → Tree → Option Json
  | _, .scalar value? => value?
  | 0, .array _ | 0, .object _ => none
  | depth + 1, .array items => (items.mapM (Tree.value depth)).map .array
  | depth + 1, .object members =>
    (members.mapM (entry (Tree.value depth))).map fun entries => .object (collect entries)

theorem entry_eq_some_iff {value : Tree → Option Json} {key : Key} {k : String} {v : Json} :
    entry value (key, tree) = some (k, v) ↔ key = .text k ∧ value tree = some v := by
  unfold entry
  cases key with
  | text key => cases value tree <;> simp [Key.text?]
  | broken written => simp [Key.text?]

/-- Results that all are there. -/
theorem mapM_eq_some_iff {α β : Type} {f : α → Option β} {xs : List α} {ys : List β} :
    xs.mapM f = some ys ↔ List.Forall₂ (fun x y => f x = some y) xs ys := by
  induction xs generalizing ys with
  | nil => simp [eq_comm]
  | cons x xs ih =>
    rw [List.mapM_cons, List.forall₂_cons_left_iff]
    simp only [Option.bind_eq_bind, Option.bind_eq_some_iff, Option.pure_def, Option.some.injEq, ih,
      eq_comm (a := ys)]
    constructor
    · rintro ⟨y, found, later, each, eq⟩
      exact ⟨y, later, found, each, eq⟩
    · rintro ⟨y, later, found, each, eq⟩
      exact ⟨y, found, later, each, eq⟩

/-- Members are added to an object as their entries are. -/
theorem steps_put_iff {value : Tree → Option Json} {object last : Members}
    {members : List (Key × Tree)} :
    Steps (fun object key tree last => ∃ v, value tree = some v ∧ put key v object = last)
        object members last ↔
      ∃ entries, members.mapM (entry value) = some entries ∧
        entries.foldl (fun object (key, value) => put key value object) object = last := by
  simp only [mapM_eq_some_iff]
  induction members generalizing object with
  | nil =>
    constructor
    · rintro ⟨⟩
      exact ⟨[], .nil, rfl⟩
    · rintro ⟨entries, each, rfl⟩
      cases each
      exact .nil object
  | cons member members ih =>
    obtain ⟨key, tree⟩ := member
    constructor
    · rintro (_ | ⟨⟨v, found, rfl⟩, tail⟩)
      obtain ⟨entries, each, rfl⟩ := ih.mp tail
      exact ⟨_, .cons (entry_eq_some_iff.mpr ⟨rfl, found⟩) each, rfl⟩
    · rintro ⟨entries, each, rfl⟩
      cases each with
      | @cons _ head _ entries found each =>
        obtain ⟨rfl, value⟩ := entry_eq_some_iff.mp found
        exact .cons ⟨_, value, rfl⟩ (ih.mpr ⟨entries, each, rfl⟩)

/-- **Reading a stretch gives the value of its tree**, or nothing if there is none. -/
theorem Tree.Spans.yields_value (spans : tree.Spans s rest) (depth : Nat) :
    Yields (Json.value depth) s rest fun v => tree.value depth = some v := by
  induction tree using Tree.induction generalizing s rest depth with
  | scalar value? =>
    obtain ⟨skipped, rfl⟩ := spans
    -- What is no container is read in the same way at every depth.
    have same := value_eq_value_zero skipped depth
    cases read : Json.value 0 s with
    | error fault =>
      exact yields_of_error (same.trans read) fun v => by simp [Tree.value, Except.toOption]
    | ok result =>
      obtain ⟨v, left⟩ := result
      have taken := (skipHead_of_value_zero read).symm.trans skipped
      obtain ⟨-, rfl⟩ := Prod.mk.inj (Except.ok.inj taken)
      exact yields_of_ok (same.trans read) fun w => by simp [Tree.value, Except.toOption]
  | array items each =>
    obtain ⟨inside, opening, spans⟩ := spans
    intro v left
    unfold Json.value
    rw [opening]
    cases depth with
    | zero => exact iff_of_false (by simp) (by simp [Tree.value])
    | succ depth =>
      have yields := yields_itemsFrom
        (fun item mem {s rest} (spans : item.Spans s rest) => each item mem spans depth)
        (show Tree.Spans.spansItems (0 == 0) items inside rest from spans)
        (Nat.lt_succ_of_lt (length_lt_of_spansItems spans))
      refine ((yields.enclosed .square rfl).map Json.array v left).trans ?_
      simp only [Tree.value, Option.map_eq_some_iff, mapM_eq_some_iff]
  | object members each =>
    obtain ⟨inside, opening, spans⟩ := spans
    intro v left
    unfold Json.value
    rw [opening]
    cases depth with
    | zero => exact iff_of_false (by simp) (by simp [Tree.value])
    | succ depth =>
      have yields := yields_membersFrom _
        (fun key tree mem {state after inside stop} behind (spans : tree.Spans inside stop) =>
          ((each _ mem spans depth).memberValue behind key).map (put key · state)) [] spans
        (Nat.lt_succ_of_lt (length_lt_of_spansMembers spans))
      refine ((yields.enclosed .brace rfl).map Json.object v left).trans ?_
      simp only [Tree.value, Option.map_eq_some_iff, steps_put_iff, collect]
      refine and_congr_right fun _ => ?_
      constructor
      · rintro ⟨last, ⟨entries, found, rfl⟩, rfl⟩
        exact ⟨entries, found, rfl⟩
      · rintro ⟨entries, found, rfl⟩
        exact ⟨_, ⟨entries, found, rfl⟩, rfl⟩

/-! ## Keys that come twice -/

/-- A member that is added is found, and so is every other. -/
theorem lookup_put (key : String) (v : Json) (object : Members) (k : String) :
    (put key v object).lookup k = if k = key then some v else object.lookup k := by
  induction object with
  | nil =>
    by_cases same : k = key
    · simp [put, same]
    · simp [put, same, List.lookup_cons, beq_false_of_ne same]
  | cons member object ih =>
    obtain ⟨other, w⟩ := member
    unfold put
    by_cases here : other = key
    · subst here
      rw [if_pos rfl, List.lookup_cons, List.lookup_cons]
      by_cases same : k = other
      · simp [same]
      · simp [same, beq_false_of_ne same]
    · rw [if_neg here, List.lookup_cons, List.lookup_cons, ih]
      by_cases same : k = other
      · subst same
        simp [here]
      · simp [beq_false_of_ne same]

/-- **The last entry of a key counts.** -/
theorem lookup_collect (entries : Members) (key : String) :
    (collect entries).lookup key = entries.reverse.lookup key := by
  have added (object : Members) :
      (entries.foldl (fun object (key, value) => put key value object) object).lookup key
        = (entries.reverse.lookup key).or (object.lookup key) := by
    induction entries generalizing object with
    | nil => rfl
    | cons entry entries ih =>
      obtain ⟨k, v⟩ := entry
      rw [List.foldl_cons, ih, lookup_put, List.reverse_cons, List.lookup_append]
      by_cases same : key = k
      · subst same
        simp
      · simp [same, List.lookup_cons, beq_false_of_ne same]
  exact (added []).trans (Option.or_none)

section Entries

variable {value : Tree → Option Json} {members : List (Key × Tree)} {entries : Members}

/-- An entry is found where its member is. -/
theorem lookup_of_mapM_entry (found : members.mapM (entry value) = some entries) (key : String) :
    entries.lookup key = (members.lookup (.text key)).bind value := by
  rw [mapM_eq_some_iff] at found
  induction found with
  | nil => rfl
  | @cons member e members entries head tail ih =>
    obtain ⟨k, tree⟩ := member
    obtain ⟨k', v⟩ := e
    obtain ⟨rfl, valued⟩ := entry_eq_some_iff.mp head
    rw [List.lookup_cons, List.lookup_cons, ih]
    by_cases same : key = k'
    · subst same
      simp [valued]
    · have differ : Key.text key ≠ .text k' := fun eq => same (Key.text.inj eq)
      rw [beq_false_of_ne same, beq_false_of_ne differ]

/-- **What an object holds under a key** is the value of the last member of the key. -/
theorem lookup_collect_of_mapM_entry (found : members.mapM (entry value) = some entries)
    (key : String) :
    (collect entries).lookup key = (members.reverse.lookup (.text key)).bind value := by
  rw [lookup_collect]
  refine lookup_of_mapM_entry ?_ key
  rw [mapM_eq_some_iff] at found ⊢
  exact List.forall₂_reverse_iff.mpr found

/-- **The value of an object** is an object that holds under each key the value of its last
member. -/
theorem exists_object_of_value {depth : Nat} {v : Json}
    (valued : (Tree.object members).value (depth + 1) = some v) :
    ∃ object, v = .object object ∧ ∀ key, object.lookup key
      = (members.reverse.lookup (.text key)).bind (Tree.value depth) := by
  obtain ⟨entries, found, rfl⟩ := Option.map_eq_some_iff.mp valued
  exact ⟨collect entries, rfl, lookup_collect_of_mapM_entry found⟩

end Entries

/-- All results are there if each is. -/
theorem exists_mapM_eq_some {α β : Type} {f : α → Option β} {all : List α}
    (each : ∀ a ∈ all, ∃ b, f a = some b) : ∃ bs, all.mapM f = some bs := by
  induction all with
  | nil => exact ⟨[], rfl⟩
  | cons a all ih =>
    obtain ⟨b, found⟩ := each a List.mem_cons_self
    obtain ⟨bs, later⟩ := ih fun a mem => each a (List.mem_cons_of_mem _ mem)
    exact ⟨b :: bs, by rw [List.mapM_cons, found, later]; rfl⟩

/-- If all results are there, then each is. -/
theorem exists_of_mapM_eq_some {α β : Type} {f : α → Option β} {all : List α} {bs : List β}
    (found : all.mapM f = some bs) {a : α} (mem : a ∈ all) : ∃ b, f a = some b := by
  rw [mapM_eq_some_iff] at found
  induction found with
  | nil => exact absurd mem List.not_mem_nil
  | cons head tail ih =>
    obtain rfl | later := List.mem_cons.mp mem
    · exact ⟨_, head⟩
    · exact ih later

/-- Each of the results is the result of something. -/
theorem exists_of_mem_of_mapM {α β : Type} {f : α → Option β} {all : List α} {bs : List β}
    (found : all.mapM f = some bs) {b : β} (mem : b ∈ bs) : ∃ a ∈ all, f a = some b := by
  rw [mapM_eq_some_iff] at found
  induction found with
  | nil => exact absurd mem List.not_mem_nil
  | @cons a _ all _ head tail ih =>
    obtain rfl | later := List.mem_cons.mp mem
    · exact ⟨a, List.mem_cons_self, head⟩
    · obtain ⟨a, there, result⟩ := ih later
      exact ⟨a, List.mem_cons_of_mem _ there, result⟩

/-- A result is there where what it is of is. -/
theorem getElem?_of_mapM {α β : Type} {f : α → Option β} {all : List α} {bs : List β}
    (found : all.mapM f = some bs) (i : Nat) : bs[i]? = all[i]?.bind f := by
  rw [mapM_eq_some_iff] at found
  induction found generalizing i with
  | nil => rfl
  | cons head tail ih =>
    cases i with
    | zero => exact head.symm
    | succ i => exact ih i

/-- Keys stay distinct when a member is added. -/
theorem nodup_put {object : Members} (distinct : (object.map Prod.fst).Nodup) (key : String)
    (v : Json) : ((put key v object).map Prod.fst).Nodup := by
  have keys : (put key v object).map Prod.fst = object.map Prod.fst ∨
      key ∉ object.map Prod.fst := by
    induction object with
    | nil => exact .inr List.not_mem_nil
    | cons member object ih =>
      obtain ⟨other, w⟩ := member
      unfold put
      by_cases here : other = key
      · rw [if_pos here]
        exact .inl rfl
      · rw [if_neg here]
        refine (ih (List.nodup_cons.mp distinct).2).imp (fun same => ?_) fun fresh => ?_
        · rw [List.map_cons, List.map_cons, same]
        · simpa [Ne.symm here] using fresh
  obtain same | fresh := keys
  · rw [same]
    exact distinct
  · rw [put_of_not_mem fresh, List.map_append]
    exact List.nodup_append.mpr ⟨distinct, List.nodup_singleton _, fun a mem b single => by
      rintro rfl
      obtain rfl := List.mem_singleton.mp single
      exact fresh mem⟩

end ServiceBroker.Json
