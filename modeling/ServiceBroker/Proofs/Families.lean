import Mathlib.Data.List.Induction
import Mathlib.Logic.Relation
import ServiceBroker.Client.Cancellation

/-!
# Families of clones

Tokens are made and cloned, cancelled, asked and waited for, in any order and as often as one
likes (`Tokens.Event`). Which tokens belong together is a matter of the events alone: those that
clones connect, in either direction and over any number of generations (`Tokens.Akin`). The tokens
keep a number for each family, and this module says that the numbers tell the same
(`Tokens.Knows`): so a token is cancelled exactly if some relative was (`Tokens.WasCancelled`),
and what happens to one family is nothing to the others.

Someone who waits looks when the wait begins and whenever they wake, for a reason or for none.
Every look is an event of its own, so whatever else happens may happen between any two of them,
and the clock may show anything. A wait that has ended did so at one of the looks, and what it
says was true at that look.
-/

namespace ServiceBroker.Tokens

/-! ## Events -/

/-- **What happens to tokens.** -/
inductive Event where
  /-- Tokens are made, cloned or cancelled. -/
  | step (step : Step)
  /-- A token is asked whether it is cancelled. -/
  | ask (token : Nat)
  /-- A wait begins at a reading of the clock. -/
  | wait (token : Nat) (timeout : Duration) (start : Nat)
  /-- Someone who waits looks, at a reading of the clock. -/
  | look (waiter : Nat) (now : Nat)
deriving DecidableEq

/-- The events that make a token. -/
def Event.makes : Event → Bool
  | .step .new | .step (.clone _) => true
  | .step (.cancel _) | .ask _ | .wait _ _ _ | .look _ _ => false

/-- The events that begin a wait. -/
def Event.begins : Event → Bool
  | .wait _ _ _ => true
  | .step _ | .ask _ | .look _ _ => false

/-- **How many tokens there are** after some events. One is there from the start. -/
def made (events : List Event) : Nat := events.countP Event.makes + 1

/-- How many waits have begun. -/
def begun (events : List Event) : Nat := events.countP Event.begins

/-- **What an event is about is there** when it happens. -/
def Event.IsAbout (earlier : List Event) : Event → Prop
  | .step .new => True
  | .step (.clone token) | .step (.cancel token) | .ask token | .wait token _ _ =>
    token < made earlier
  | .look waiter _ => waiter < begun earlier

instance (earlier : List Event) : (event : Event) → Decidable (event.IsAbout earlier)
  | .step .new => .isTrue trivial
  | .step (.clone token) | .step (.cancel token) | .ask token | .wait token _ _ =>
    inferInstanceAs (Decidable (token < made earlier))
  | .look waiter _ => inferInstanceAs (Decidable (waiter < begun earlier))

/-- **Events that can happen one after the other**, after some that did. -/
def Possible (earlier : List Event) : List Event → Prop
  | [] => True
  | event :: later => event.IsAbout earlier ∧ Possible (earlier ++ [event]) later

instance Possible.decidable : (earlier later : List Event) → Decidable (Possible earlier later)
  | _, [] => .isTrue trivial
  | earlier, event :: later =>
    have := Possible.decidable (earlier ++ [event]) later
    inferInstanceAs (Decidable (event.IsAbout earlier ∧ Possible (earlier ++ [event]) later))

/-- **A wait that has begun.** -/
structure Waiter where
  token : Nat
  deadline : Option Nat
  /-- The moments of the looks so far. -/
  moments : List Moment := []

/-- **What the wait has come to**, if it has ended. -/
def Waiter.result? (waiter : Waiter) : Option Bool :=
  ServiceBroker.wait waiter.token waiter.deadline waiter.moments

/-- One more look. -/
def Waiter.look (waiter : Waiter) (moment : Moment) : Waiter :=
  { waiter with moments := waiter.moments ++ [moment] }

/-- **The tokens and those who wait for them.** -/
structure Scene where
  tokens : Tokens := {}
  waiters : List Waiter := []

/-- **The scene after an event.** A question changes nothing. A look is at the tokens as they
are. -/
def Scene.after (lastReading : Nat) (scene : Scene) : Event → Scene
  | .step step => { scene with tokens := scene.tokens.after step }
  | .ask _ => scene
  | .wait token timeout start =>
    { scene with waiters :=
        scene.waiters ++ [{ token, deadline := deadline? lastReading start timeout }] }
  | .look waiter now =>
    { scene with waiters := scene.waiters.modify waiter (·.look ⟨now, scene.tokens⟩) }

/-- **The scene after all events.** -/
def run (lastReading : Nat) (events : List Event) : Scene :=
  events.foldl (Scene.after lastReading) {}

/-! ## Relatives -/

/-- **One token was cloned from another.** -/
def Cloned (events : List Event) (origin clone : Nat) : Prop :=
  ∃ earlier later, events = earlier ++ .step (.clone origin) :: later ∧ clone = made earlier

/-- **Two tokens are of one family**: clones connect them. -/
def Akin (events : List Event) : Nat → Nat → Prop := Relation.EqvGen (Cloned events)

/-- **A token or a relative of it was cancelled.** -/
def WasCancelled (events : List Event) (token : Nat) : Prop :=
  ∃ relative, .step (.cancel relative) ∈ events ∧ Akin events token relative

section Last

variable {earlier events later : List Event} {event : Event} {t u : Nat}

theorem made_concat :
    made (events ++ [event]) = made events + if event.makes then 1 else 0 := by
  unfold made
  rw [List.countP_append, List.countP_singleton]
  omega

theorem begun_concat :
    begun (events ++ [event]) = begun events + if event.begins then 1 else 0 := by
  unfold begun
  rw [List.countP_append, List.countP_singleton]

theorem made_le_append : made events ≤ made (events ++ later) := by
  unfold made
  rw [List.countP_append]
  omega

/-- **The last event clones**, or all clones are from before. -/
theorem cloned_concat : Cloned (events ++ [event]) t u ↔
    Cloned events t u ∨ event = .step (.clone t) ∧ u = made events := by
  constructor
  · rintro ⟨earlier, later, split, rfl⟩
    obtain rfl | ⟨later, last, rfl⟩ := later.eq_nil_or_concat
    · obtain ⟨rfl, same⟩ := List.append_inj' split rfl
      exact .inr ⟨List.singleton_inj.mp same, rfl⟩
    · rw [List.concat_eq_append, ← List.cons_append, ← List.append_assoc] at split
      exact .inl ⟨earlier, later, (List.append_inj' split rfl).1, rfl⟩
  · rintro (⟨earlier, later, rfl, rfl⟩ | ⟨rfl, rfl⟩)
    · exact ⟨earlier, later ++ [event], by rw [List.append_assoc, List.cons_append], rfl⟩
    · exact ⟨events, [], rfl, rfl⟩

theorem Akin.append (akin : Akin events t u) (later : List Event) : Akin (events ++ later) t u := by
  refine Relation.EqvGen.mono ?_ t u akin
  rintro origin clone ⟨earlier, between, rfl, rfl⟩
  exact ⟨earlier, between ++ later, by rw [List.append_assoc, List.cons_append], rfl⟩

/-- **What can happen step by step.** -/
theorem possible_append {events : List Event} (earlier later : List Event) :
    Possible earlier (events ++ later)
      ↔ Possible earlier events ∧ Possible (earlier ++ events) later := by
  induction events generalizing earlier with
  | nil =>
    rw [List.append_nil]
    exact (iff_of_eq (true_and _)).symm
  | cons event events ih =>
    show _ ∧ Possible _ (events ++ later) ↔ (_ ∧ Possible _ events) ∧ _
    rw [ih, List.append_assoc, List.singleton_append, and_assoc]

/-- The last event is about what is there. -/
theorem possible_concat : Possible [] (events ++ [event])
    ↔ Possible [] events ∧ event.IsAbout events := by
  rw [possible_append]
  exact and_congr_right fun _ => iff_of_eq (and_true _)

theorem run_concat (lastReading : Nat) :
    run lastReading (events ++ [event]) = (run lastReading events).after lastReading event := by
  unfold run
  rw [List.foldl_append]
  rfl

end Last

/-! ## Tokens and their families -/

section Families

variable {tokens : Tokens} {t u : Nat}

/-- A token keeps its family. -/
theorem familyOf_after (there : t < tokens.family.length) (step : Step) :
    (tokens.after step).familyOf t = tokens.familyOf t := by
  have kept (family : Nat) : (tokens.family ++ [family]).getD t 0 = tokens.family.getD t 0 := by
    rw [List.getD_eq_getElem?_getD, List.getD_eq_getElem?_getD, List.getElem?_append_left there]
  cases step with
  | new => exact kept _
  | clone token => exact kept _
  | cancel token => rfl

/-- **A new token has a new family.** -/
theorem familyOf_new : (tokens.after .new).familyOf tokens.family.length
    = tokens.cancelled.length := by
  show (tokens.family ++ [_]).getD _ 0 = _
  rw [List.getD_eq_getElem?_getD, List.getElem?_concat_length]
  rfl

/-- **A clone has the family of its origin.** -/
theorem familyOf_clone : (tokens.after (.clone t)).familyOf tokens.family.length
    = tokens.familyOf t := by
  show (tokens.family ++ [_]).getD _ 0 = _
  rw [List.getD_eq_getElem?_getD, List.getElem?_concat_length]
  rfl

/-- A new family is not cancelled, and no other family is changed. -/
theorem cancelled_new (family : Nat) :
    (tokens.after .new).cancelled.getD family false = tokens.cancelled.getD family false := by
  show (tokens.cancelled ++ [false]).getD family false = _
  rw [List.getD_eq_getElem?_getD, List.getD_eq_getElem?_getD]
  obtain old | new := Nat.lt_or_ge family tokens.cancelled.length
  · rw [List.getElem?_append_left old]
  · rw [List.getElem?_append_right new, List.getElem?_eq_none new]
    cases family - tokens.cancelled.length <;> rfl

/-- **A cancellation is for one family.** -/
theorem cancelled_cancel (there : tokens.familyOf u < tokens.cancelled.length) (family : Nat) :
    (tokens.after (.cancel u)).cancelled.getD family false
      = if family = tokens.familyOf u then true else tokens.cancelled.getD family false := by
  show (tokens.cancelled.set (tokens.familyOf u) true).getD family false = _
  rw [List.getD_eq_getElem?_getD, List.getD_eq_getElem?_getD, List.getElem?_set]
  by_cases same : tokens.familyOf u = family
  · subst same
    rw [if_pos rfl, if_pos there, if_pos rfl]
    rfl
  · rw [if_neg same, if_neg (Ne.symm same)]

end Families

/-! ## What the tokens know -/

/-- **What the tokens know of the events**: how many tokens there are, which of them belong
together, and of which some relative was cancelled. -/
structure Knows (tokens : Tokens) (events : List Event) : Prop where
  length : tokens.family.length = made events
  /-- Every token has a family. -/
  family : ∀ t < made events, tokens.familyOf t < tokens.cancelled.length
  cloned : ∀ t u, Cloned events t u →
    t < made events ∧ u < made events ∧ tokens.familyOf t = tokens.familyOf u
  akin : ∀ t < made events, ∀ u < made events, tokens.familyOf t = tokens.familyOf u →
    Akin events t u
  named : ∀ u, .step (.cancel u) ∈ events → u < made events
  flag : ∀ family, tokens.cancelled.getD family false = true ↔
    ∃ u, .step (.cancel u) ∈ events ∧ family = tokens.familyOf u

/-- At the start there is one token, and nothing has happened. -/
theorem knows_start : Knows {} [] where
  length := rfl
  family t there := by
    obtain rfl := Nat.lt_one_iff.mp there
    decide
  cloned t u := by
    rintro ⟨earlier, later, split, -⟩
    exact absurd split (List.append_ne_nil_of_right_ne_nil _ (List.cons_ne_nil _ _)).symm
  akin t there u there' _ := by
    obtain rfl := Nat.lt_one_iff.mp there
    obtain rfl := Nat.lt_one_iff.mp there'
    exact .refl 0
  named u mem := absurd mem List.not_mem_nil
  flag family := by
    constructor
    · intro flag
      cases family <;> exact absurd flag Bool.false_ne_true
    · rintro ⟨u, mem, -⟩
      exact absurd mem List.not_mem_nil

namespace Knows

variable {tokens : Tokens} {events : List Event} {event : Event} {t u : Nat}

/-- **The families are those of the clones.** -/
theorem familyOf_eq_of_akin (knows : tokens.Knows events) (akin : Akin events t u) :
    tokens.familyOf t = tokens.familyOf u := by
  induction akin with
  | rel origin clone cloned => exact (knows.cloned origin clone cloned).2.2
  | refl token => rfl
  | symm first second _ ih => exact ih.symm
  | trans first second third _ _ ih ih' => exact ih.trans ih'

/-- **A token is cancelled if some relative was**, and only then. -/
theorem isCancelled_iff (knows : tokens.Knows events) (there : t < made events) :
    tokens.isCancelled t = true ↔ WasCancelled events t := by
  refine (knows.flag _).trans ?_
  constructor
  · rintro ⟨u, mem, same⟩
    exact ⟨u, mem, knows.akin t there u (knows.named u mem) same⟩
  · rintro ⟨u, mem, akin⟩
    exact ⟨u, mem, knows.familyOf_eq_of_akin akin⟩

theorem familyOf_after (knows : tokens.Knows events) (there : t < made events) (step : Step) :
    (tokens.after step).familyOf t = tokens.familyOf t :=
  Tokens.familyOf_after (knows.length.symm ▸ there) step

theorem cloned_after (knows : tokens.Knows events) (step : Step) {later : List Event}
    (cloned : Cloned events t u) : t < made (events ++ later) ∧ u < made (events ++ later) ∧
      (tokens.after step).familyOf t = (tokens.after step).familyOf u := by
  obtain ⟨origin, clone, same⟩ := knows.cloned t u cloned
  rw [knows.familyOf_after origin, knows.familyOf_after clone]
  exact ⟨Nat.lt_of_lt_of_le origin made_le_append, Nat.lt_of_lt_of_le clone made_le_append, same⟩

/-- **What was cancelled before** an event that cancels nothing is what was cancelled after it. -/
theorem exists_cancel_concat (knows : tokens.Knows events) (step : Step)
    (other : ∀ u, event ≠ .step (.cancel u)) (family : Nat) :
    (∃ u, .step (.cancel u) ∈ events ++ [event] ∧ family = (tokens.after step).familyOf u)
      ↔ ∃ u, .step (.cancel u) ∈ events ∧ family = tokens.familyOf u := by
  refine exists_congr fun u => ?_
  rw [List.mem_append, List.mem_singleton, or_iff_left (other u).symm]
  refine and_congr_right fun mem => ?_
  rw [knows.familyOf_after (knows.named u mem)]

theorem named_concat (knows : tokens.Knows events) (other : ∀ u, event ≠ .step (.cancel u))
    (mem : .step (.cancel u) ∈ events ++ [event]) : u < made (events ++ [event]) := by
  obtain mem | mem := List.mem_append.mp mem
  · exact Nat.lt_of_lt_of_le (knows.named u mem) made_le_append
  · exact absurd (List.mem_singleton.mp mem).symm (other u)

/-- What is not a step of the tokens changes nothing. -/
theorem quiet (knows : tokens.Knows events) (quiet : ∀ step, event ≠ .step step) :
    tokens.Knows (events ++ [event]) := by
  have count : made (events ++ [event]) = made events := by
    rw [made_concat, if_neg]
    · rfl
    cases event with
    | step step => exact absurd rfl (quiet step)
    | ask | wait | look => exact Bool.false_ne_true
  have cancel (u : Nat) : .step (.cancel u) ∈ events ++ [event] ↔ .step (.cancel u) ∈ events := by
    rw [List.mem_append, List.mem_singleton, or_iff_left (quiet _).symm]
  constructor
  case length => rw [count, knows.length]
  case family =>
    rw [count]
    exact knows.family
  case cloned =>
    intro t u cloned
    rw [count]
    obtain cloned | ⟨clone, -⟩ := cloned_concat.mp cloned
    · exact knows.cloned t u cloned
    · exact absurd clone (quiet _)
  case akin =>
    rw [count]
    exact fun t there u there' same => (knows.akin t there u there' same).append _
  case named => exact fun u => knows.named_concat fun u => quiet (.cancel u)
  case flag =>
    intro family
    rw [knows.flag]
    exact exists_congr fun u => and_congr_left' (cancel u).symm

/-- **A new token** is of a family of its own, which is not cancelled. -/
theorem new (knows : tokens.Knows events) :
    (tokens.after .new).Knows (events ++ [.step .new]) := by
  have count : made (events ++ [.step .new]) = made events + 1 := made_concat
  have fresh : (tokens.after .new).familyOf (made events) = tokens.cancelled.length := by
    rw [← knows.length, familyOf_new]
  have old {t : Nat} (there : t < made events) :
      (tokens.after .new).familyOf t < tokens.cancelled.length := by
    rw [knows.familyOf_after there]
    exact knows.family t there
  constructor
  case length =>
    rw [count, ← knows.length]
    exact List.length_append
  case family =>
    intro t there
    have size : (tokens.after .new).cancelled.length = tokens.cancelled.length + 1 :=
      List.length_append
    rw [size]
    obtain there | rfl := Nat.lt_succ_iff_lt_or_eq.mp (count ▸ there)
    · exact Nat.lt_succ_of_lt (old there)
    · exact Nat.lt_succ_of_le (Nat.le_of_eq fresh)
  case cloned =>
    intro t u cloned
    obtain cloned | ⟨clone, -⟩ := cloned_concat.mp cloned
    · exact knows.cloned_after .new cloned
    · exact absurd clone (by simp)
  case akin =>
    intro t there u there' same
    -- The new token has a family that no other has, and is of one family with itself.
    obtain there | rfl := Nat.lt_succ_iff_lt_or_eq.mp (count ▸ there) <;>
      obtain there' | rfl := Nat.lt_succ_iff_lt_or_eq.mp (count ▸ there')
    · rw [knows.familyOf_after there, knows.familyOf_after there'] at same
      exact (knows.akin t there u there' same).append _
    · exact absurd (same.trans fresh) (Nat.ne_of_lt (old there))
    · exact absurd (same.symm.trans fresh) (Nat.ne_of_lt (old there'))
    · exact .refl _
  case named => exact fun u => knows.named_concat (by simp)
  case flag =>
    intro family
    rw [cancelled_new, knows.flag, knows.exists_cancel_concat .new (by simp)]

/-- **A clone** is of the family of its origin. -/
theorem clone (knows : tokens.Knows events) (there : u < made events) :
    (tokens.after (.clone u)).Knows (events ++ [.step (.clone u)]) := by
  have count : made (events ++ [.step (.clone u)]) = made events + 1 := made_concat
  have cloned : Cloned (events ++ [.step (.clone u)]) u (made events) :=
    cloned_concat.mpr (.inr ⟨rfl, rfl⟩)
  have family : (tokens.after (.clone u)).familyOf (made events) = tokens.familyOf u := by
    rw [← knows.length, familyOf_clone]
  -- The origin stands for the clone wherever the clone is asked for.
  have origin (t : Nat) (there' : t < made (events ++ [.step (.clone u)])) :
      ∃ t' < made events, (tokens.after (.clone u)).familyOf t = tokens.familyOf t' ∧
        Akin (events ++ [.step (.clone u)]) t t' := by
    obtain old | rfl := Nat.lt_succ_iff_lt_or_eq.mp (count ▸ there')
    · exact ⟨t, old, knows.familyOf_after old _, .refl t⟩
    · exact ⟨u, there, family, .symm _ _ (.rel _ _ cloned)⟩
  constructor
  case length =>
    rw [count, ← knows.length]
    exact List.length_append
  case family =>
    intro t there'
    obtain ⟨t', old, same, -⟩ := origin t there'
    rw [same]
    exact knows.family t' old
  case cloned =>
    intro t u' cloned
    obtain cloned | ⟨clone, rfl⟩ := cloned_concat.mp cloned
    · exact knows.cloned_after _ cloned
    · obtain rfl : u = t := by simpa using clone
      rw [count, family, knows.familyOf_after there]
      exact ⟨Nat.lt_succ_of_lt there, Nat.lt_succ_self _, rfl⟩
  case akin =>
    intro t there' t' there'' same
    obtain ⟨o, old, family, akin⟩ := origin t there'
    obtain ⟨o', old', family', akin'⟩ := origin t' there''
    rw [family, family'] at same
    exact .trans _ _ _ akin (.trans _ _ _ ((knows.akin o old o' old' same).append _)
      (.symm _ _ akin'))
  case named => exact fun v => knows.named_concat (by simp)
  case flag =>
    intro family
    rw [knows.exists_cancel_concat (.clone u) (by simp)]
    exact knows.flag family

/-- **A cancellation** is for the family of a token. -/
theorem cancel (knows : tokens.Knows events) (there : u < made events) :
    (tokens.after (.cancel u)).Knows (events ++ [.step (.cancel u)]) := by
  have count : made (events ++ [.step (.cancel u)]) = made events := made_concat
  constructor
  case length =>
    rw [count]
    exact knows.length
  case family =>
    rw [count]
    intro t there'
    have size : (tokens.after (.cancel u)).cancelled.length = tokens.cancelled.length :=
      List.length_set
    rw [size]
    exact knows.family t there'
  case cloned =>
    intro t u' cloned
    obtain cloned | ⟨clone, -⟩ := cloned_concat.mp cloned
    · exact knows.cloned_after _ cloned
    · exact absurd clone (by simp)
  case akin =>
    rw [count]
    exact fun t there' t' there'' same => (knows.akin t there' t' there'' same).append _
  case named =>
    intro v mem
    rw [count]
    obtain mem | mem := List.mem_append.mp mem
    · exact knows.named v mem
    · obtain rfl : v = u := by simpa using mem
      exact there
  case flag =>
    intro family
    rw [cancelled_cancel (knows.family u there)]
    by_cases same : family = tokens.familyOf u
    · rw [if_pos same]
      exact iff_of_true rfl ⟨u, List.mem_append_right _ List.mem_cons_self, same⟩
    · rw [if_neg same, knows.flag]
      refine exists_congr fun v => and_congr_left fun family => ?_
      rw [List.mem_append, List.mem_singleton, or_iff_left]
      intro mem
      obtain rfl : v = u := by simpa using mem
      exact same family

/-- **The tokens know of every event.** -/
theorem after (knows : tokens.Knows events) (about : event.IsAbout events)
    (lastReading : Nat) (waiters : List Waiter) :
    (Scene.after lastReading { tokens, waiters } event).tokens.Knows (events ++ [event]) := by
  cases event with
  | step step =>
    cases step with
    | new => exact knows.new
    | clone token => exact knows.clone about
    | cancel token => exact knows.cancel about
  | ask | wait | look => exact knows.quiet nofun

end Knows

/-- **The tokens know of everything that has happened.** -/
theorem knows_run (lastReading : Nat) {events : List Event} (possible : Possible [] events) :
    (run lastReading events).tokens.Knows events := by
  induction events using List.reverseRecOn with
  | nil => exact knows_start
  | append_singleton events event ih =>
    obtain ⟨before, about⟩ := possible_concat.mp possible
    rw [run_concat]
    exact (ih before).after about lastReading _

/-! ## Looks -/

section Looks

variable {token : Nat} {deadline : Option Nat} {moment : Moment}

/-- **When a look finds the flag**, the wait is over. -/
theorem watch_of_cancelled (cancelled : moment.tokens.isCancelled token = true) :
    watch token deadline moment = .over true := if_pos cancelled

theorem watch_of_late {last : Nat} (flag : moment.tokens.isCancelled token = false)
    (late : last ≤ moment.now) : watch token (some last) moment = .over false := by
  unfold watch
  rw [flag]
  exact if_pos late

/-- **Before the deadline** there is time to sleep. -/
theorem watch_of_early (flag : moment.tokens.isCancelled token = false)
    (early : ∀ last, deadline = some last → moment.now < last) :
    watch token deadline moment = .sleep (deadline.map (· - moment.now)) := by
  unfold watch
  rw [flag]
  cases deadline with
  | none => rfl
  | some last => exact if_neg (Nat.not_le.mpr (early last rfl))

/-- **The time that remains** ends at the deadline, which has not come. -/
theorem add_remaining_eq {remaining : Nat}
    (sleeps : watch token deadline moment = .sleep (some remaining)) :
    ∃ last, deadline = some last ∧ 0 < remaining ∧ moment.now + remaining = last := by
  unfold watch at sleeps
  split at sleeps
  · cases sleeps
  · split at sleeps
    · cases sleeps
    · next last =>
      split at sleeps
      · cases sleeps
      · next early =>
        cases sleeps
        exact ⟨last, rfl, by omega, by omega⟩

theorem wait_concat (moments : List Moment) :
    ServiceBroker.wait token deadline (moments ++ [moment])
      = (ServiceBroker.wait token deadline moments).or
          (ServiceBroker.wait token deadline [moment]) := by
  induction moments with
  | nil => rfl
  | cons first moments ih =>
    rw [List.cons_append, ServiceBroker.wait, ServiceBroker.wait]
    obtain flag | remaining := watch token deadline first
    · rfl
    · exact ih

variable {waiter : Waiter}

/-- A wait that has ended stays as it is. -/
theorem Waiter.result?_look_of_ended {flag : Bool} (ended : waiter.result? = some flag) :
    (waiter.look moment).result? = some flag := by
  unfold result? look at *
  rw [wait_concat, ended]
  rfl

/-- **A look of someone who still waits** is what the wait comes to. -/
theorem Waiter.result?_look (waits : waiter.result? = none) : (waiter.look moment).result?
    = ServiceBroker.wait waiter.token waiter.deadline [moment] := by
  unfold result? look at *
  rw [wait_concat, waits]
  rfl

/-- **What a look comes to**: the flag decides, and without it the deadline. -/
structure Waiter.Looks (waiter : Waiter) (cancelled : Prop) (now : Nat) (looked : Waiter) :
    Prop where
  token : looked.token = waiter.token
  deadline : looked.deadline = waiter.deadline
  flag : looked.result? = some true ↔ cancelled
  late : looked.result? = some false ↔
    ¬ cancelled ∧ ∃ last, waiter.deadline = some last ∧ last ≤ now
  waits : looked.result? = none ↔
    ¬ cancelled ∧ ∀ last, waiter.deadline = some last → now < last

/-- **Whoever still waits looks.** -/
theorem Waiter.looks (waits : waiter.result? = none) (moment : Moment) {cancelled : Prop}
    (flag : moment.tokens.isCancelled waiter.token = true ↔ cancelled) :
    waiter.Looks cancelled moment.now (waiter.look moment) := by
  have result : (waiter.look moment).result? = _ := result?_look waits
  unfold ServiceBroker.wait at result
  by_cases known : cancelled
  · rw [watch_of_cancelled (flag.mpr known)] at result
    refine ⟨rfl, rfl, iff_of_true result known, ?_, ?_⟩
    · exact iff_of_false (by rw [result]; simp) fun both => both.1 known
    · exact iff_of_false (by rw [result]; simp) fun both => both.1 known
  · have unset := Bool.eq_false_iff.mpr (mt flag.mp known)
    by_cases late : ∃ last, waiter.deadline = some last ∧ last ≤ moment.now
    · obtain ⟨last, deadline, passed⟩ := late
      rw [deadline, watch_of_late unset passed] at result
      refine ⟨rfl, rfl, iff_of_false (by rw [result]; simp) known,
        iff_of_true result ⟨known, last, deadline, passed⟩, ?_⟩
      exact iff_of_false (by rw [result]; simp) fun both =>
        absurd passed (Nat.not_le.mpr (both.2 last deadline))
    · have early : ∀ last, waiter.deadline = some last → moment.now < last :=
        fun last deadline => Nat.not_le.mp fun passed => late ⟨last, deadline, passed⟩
      rw [watch_of_early unset early] at result
      exact ⟨rfl, rfl, iff_of_false (by rw [result]; exact nofun) known,
        iff_of_false (by rw [result]; exact nofun) fun both => late both.2,
        iff_of_true result ⟨known, early⟩⟩

end Looks

/-! ## Waits in a run -/

/-- **Where a wait comes from**: an event began it, and if it has ended, this was at a look before
which it had not. -/
structure Waiter.Comes (lastReading : Nat) (events : List Event) (i : Nat) (waiter : Waiter) :
    Prop where
  there : waiter.token < made events
  began : ∃ earlier timeout start later,
    events = earlier ++ .wait waiter.token timeout start :: later ∧ begun earlier = i ∧
      waiter.deadline = deadline? lastReading start timeout
  ended : ∀ flag, waiter.result? = some flag → ∃ earlier now later before,
    events = earlier ++ .look i now :: later ∧
      (run lastReading earlier).waiters[i]? = some before ∧ before.result? = none ∧
      before.Looks (WasCancelled earlier waiter.token) now waiter

namespace Waiter.Comes

variable {lastReading i : Nat} {events : List Event} {waiter : Waiter}

/-- **Later events** do not change where a wait comes from. -/
theorem concat (comes : waiter.Comes lastReading events i) (event : Event) :
    waiter.Comes lastReading (events ++ [event]) i where
  there := Nat.lt_of_lt_of_le comes.there made_le_append
  began := by
    obtain ⟨earlier, timeout, start, later, split, first⟩ := comes.began
    exact ⟨earlier, timeout, start, later ++ [event],
      by rw [split, List.append_assoc, List.cons_append], first⟩
  ended flag result := by
    obtain ⟨earlier, now, later, before, split, looks⟩ := comes.ended flag result
    exact ⟨earlier, now, later ++ [event], before,
      by rw [split, List.append_assoc, List.cons_append], looks⟩

/-- **One more look** is the one at which a wait ends, or it had ended before. -/
theorem look (comes : waiter.Comes lastReading events i) (possible : Possible [] events)
    (there : (run lastReading events).waiters[i]? = some waiter) (now : Nat) :
    (waiter.look ⟨now, (run lastReading events).tokens⟩).Comes lastReading
      (events ++ [.look i now]) i where
  there := (comes.concat _).there
  began := (comes.concat _).began
  ended flag result := by
    cases before : waiter.result? with
    | none =>
      have looks := Waiter.looks before ⟨now, (run lastReading events).tokens⟩
        ((knows_run lastReading possible).isCancelled_iff comes.there)
      exact ⟨events, now, [], waiter, rfl, there, before, looks⟩
    | some known =>
      obtain ⟨earlier, moment, later, asleep, split, at_i, waits, looks⟩ :=
        (comes.concat (.look i now)).ended known before
      have same : (waiter.look ⟨now, (run lastReading events).tokens⟩).result? = waiter.result? :=
        (Waiter.result?_look_of_ended before).trans before.symm
      exact ⟨earlier, moment, later, asleep, split, at_i, waits, looks.token, looks.deadline,
        same ▸ looks.flag, same ▸ looks.late, same ▸ looks.waits⟩

end Waiter.Comes

/-- As many wait as have begun to. -/
theorem length_waiters (lastReading : Nat) (events : List Event) :
    (run lastReading events).waiters.length = begun events := by
  induction events using List.reverseRecOn with
  | nil => rfl
  | append_singleton events event ih =>
    rw [run_concat, begun_concat, ← ih]
    cases event with
    | step | ask => rfl
    | wait => exact List.length_append
    | look waiter now => exact List.length_modify _ _ _

/-- **Where all waits come from.** -/
theorem comes_of_mem_run {lastReading : Nat} {events : List Event} (possible : Possible [] events)
    {i : Nat} {waiter : Waiter} (there : (run lastReading events).waiters[i]? = some waiter) :
    waiter.Comes lastReading events i := by
  -- The last event leaves a waiter as it was, or it is the one that began the wait, or a look.
  induction events using List.reverseRecOn generalizing i waiter with
  | nil => exact absurd there (by simp [run])
  | append_singleton events event ih =>
    obtain ⟨before, about⟩ := possible_concat.mp possible
    rw [run_concat] at there
    cases event with
    | step | ask => exact (ih before there).concat _
    | wait token timeout start =>
      obtain old | rfl | beyond := Nat.lt_trichotomy i (run lastReading events).waiters.length
      · have kept := (List.getElem?_append_left old).symm.trans there
        exact (ih before kept).concat _
      · obtain rfl := Option.some.inj (List.getElem?_concat_length.symm.trans there)
        refine ⟨Nat.lt_of_lt_of_le about made_le_append,
          ⟨events, timeout, start, [], rfl, (length_waiters _ _).symm, rfl⟩, fun flag result => ?_⟩
        cases result
      · refine absurd there ?_
        show (_ ++ [_])[i]? ≠ _
        rw [List.getElem?_eq_none (by rw [List.length_append]; exact beyond)]
        exact nofun
    | look j now =>
      have there : ((run lastReading events).waiters.modify j
          (·.look ⟨now, (run lastReading events).tokens⟩))[i]? = some waiter := there
      rw [List.getElem?_modify] at there
      obtain ⟨old, at_i, rfl⟩ := Option.map_eq_some_iff.mp there
      by_cases same : j = i
      · subst same
        rw [if_pos rfl]
        exact (ih before at_i).look before at_i now
      · rw [if_neg same]
        exact (ih before at_i).concat _

/-! ## What comes later -/

section Later

variable {lastReading t u : Nat} {events later : List Event}

theorem tokens_after {event : Event} (quiet : ∀ step, event ≠ .step step) (scene : Scene) :
    (scene.after lastReading event).tokens = scene.tokens := by
  cases event with
  | step step => exact absurd rfl (quiet step)
  | ask | wait | look => rfl

/-- **A token keeps its family** for ever. -/
theorem familyOf_run_append (possible : Possible [] (events ++ later)) (there : t < made events) :
    (run lastReading (events ++ later)).tokens.familyOf t
      = (run lastReading events).tokens.familyOf t := by
  induction later using List.reverseRecOn with
  | nil => rw [List.append_nil]
  | append_singleton later event ih =>
    rw [← List.append_assoc] at possible ⊢
    obtain ⟨before, -⟩ := possible_concat.mp possible
    rw [run_concat, ← ih before]
    cases event with
    | step step =>
      exact (knows_run lastReading before).familyOf_after
        (Nat.lt_of_lt_of_le there made_le_append) step
    | ask | wait | look => rfl

/-- **No later clone connects** tokens that are there already. -/
theorem akin_of_append (possible : Possible [] (events ++ later)) (there : t < made events)
    (there' : u < made events) (akin : Akin (events ++ later) t u) : Akin events t u := by
  have same := (knows_run 0 possible).familyOf_eq_of_akin akin
  rw [familyOf_run_append possible there, familyOf_run_append possible there'] at same
  exact (knows_run 0 ((possible_append _ _).mp possible).1).akin t there u there' same

/-- **Once cancelled**, cancelled for ever. -/
theorem WasCancelled.append (cancelled : WasCancelled events t) (later : List Event) :
    WasCancelled (events ++ later) t := by
  obtain ⟨u, mem, akin⟩ := cancelled
  exact ⟨u, List.mem_append_left _ mem, akin.append later⟩

/-- **Cancellations of others** are nothing to a token. -/
theorem wasCancelled_of_append (possible : Possible [] (events ++ later)) (there : t < made events)
    (apart : ∀ u, .step (.cancel u) ∈ later → ¬ Akin (events ++ later) t u)
    (cancelled : WasCancelled (events ++ later) t) : WasCancelled events t := by
  obtain ⟨u, mem, akin⟩ := cancelled
  obtain mem | mem := List.mem_append.mp mem
  · have named := (knows_run 0 ((possible_append _ _).mp possible).1).named u mem
    exact ⟨u, mem, akin_of_append possible there named akin⟩
  · exact absurd akin (apart u mem)

end Later

/-! ## The result -/

/-- **Tokens are shared by their clones**, for ever and with no one else. Let tokens be made,
cloned, cancelled, asked and waited for in any order, with any readings of the clock and any
number of looks. A token is cancelled exactly if it or a relative was. Whoever still waits and
looks has the answer true exactly if that has happened; the answer false exactly if it has not and
there is a deadline that has passed; and waits on otherwise. Every wait that has ended did so at
one of the looks, and without a deadline the answer is never false. The time to sleep ends at the
deadline and is not nothing. Questions, waits and looks leave the tokens alone. Whatever comes
later, a token that is cancelled remains so, and its flag does not change unless a relative is
cancelled. -/
theorem tokens_are_shared_by_clones (lastReading : Nat) {events : List Event}
    (possible : Possible [] events) :
    let scene := run lastReading events
    (∀ token < made events, scene.tokens.isCancelled token = true ↔ WasCancelled events token) ∧
    (∀ (i : Nat) (waiter : Waiter), scene.waiters[i]? = some waiter → waiter.result? = none →
      ∀ now, ∃ looked,
        (scene.after lastReading (.look i now)).waiters[i]? = some looked ∧
          waiter.Looks (WasCancelled events waiter.token) now looked) ∧
    (∀ (i : Nat) (waiter : Waiter), scene.waiters[i]? = some waiter →
      waiter.Comes lastReading events i ∧ (waiter.deadline = none → waiter.result? ≠ some false)) ∧
    (∀ token deadline moment remaining, watch token deadline moment = .sleep (some remaining) →
      ∃ last, deadline = some last ∧ 0 < remaining ∧ moment.now + remaining = last) ∧
    (∀ event, (∀ step, event ≠ .step step) →
      (scene.after lastReading event).tokens = scene.tokens) ∧
    ∀ later, Possible events later → ∀ token < made events,
      let last := run lastReading (events ++ later)
      (scene.tokens.isCancelled token = true → last.tokens.isCancelled token = true) ∧
      ((∀ other, .step (.cancel other) ∈ later → ¬ Akin (events ++ later) token other) →
        last.tokens.isCancelled token = scene.tokens.isCancelled token) := by
  intro scene
  have knows := knows_run lastReading possible
  refine ⟨fun token there => knows.isCancelled_iff there, fun i waiter there waits now => ?_,
    fun i waiter there => ?_, fun _ _ _ _ => add_remaining_eq,
    fun _ quiet => tokens_after quiet scene, fun later after token there => ?_⟩
  · have comes := comes_of_mem_run possible there
    refine ⟨waiter.look ⟨now, scene.tokens⟩, ?_,
      Waiter.looks waits ⟨now, scene.tokens⟩ (knows.isCancelled_iff comes.there)⟩
    show (scene.waiters.modify i _)[i]? = _
    rw [List.getElem?_modify, there]
    exact congrArg some (if_pos rfl)
  · have comes := comes_of_mem_run possible there
    refine ⟨comes, fun unbounded late => ?_⟩
    obtain ⟨_, _, _, before, -, -, -, looks⟩ := comes.ended false late
    obtain ⟨-, last, deadline, -⟩ := looks.late.mp late
    rw [← looks.deadline, unbounded] at deadline
    cases deadline
  -- The flags of both moments say whether a relative was cancelled by then.
  · have whole : Possible [] (events ++ later) := (possible_append [] later).mpr ⟨possible, after⟩
    have before := knows.isCancelled_iff there
    have now := (knows_run lastReading whole).isCancelled_iff
      (Nat.lt_of_lt_of_le there made_le_append)
    refine ⟨fun flag => now.mpr ((before.mp flag).append later), fun apart => ?_⟩
    rw [Bool.eq_iff_iff, now, before]
    exact ⟨wasCancelled_of_append whole there apart, (·.append later)⟩

/-- Two generations of clones, and a stranger. Someone waits for the youngest without a deadline,
and someone for the stranger until the reading of nine. Both look too early. Then a sibling is
cancelled: the first wait ends with the flag, and the other at its deadline. -/
theorem tokens_are_shared_by_clones_siblings :
    let events : List Event :=
      [.step (.clone 0), .step (.clone 1), .step .new, .step (.clone 0),
        .wait 2 .longest 5, .wait 3 ⟨4⟩ 5, .look 0 6, .look 1 6, .ask 2,
        .step (.cancel 4), .look 0 7, .look 1 9]
    Possible [] events ∧ WasCancelled events 2 ∧ ¬ WasCancelled events 3 ∧
      (run 10 events).waiters.map Waiter.result? = [some true, some false] := by
  intro events
  have possible : Possible [] events := by decide
  obtain ⟨flag, -⟩ := tokens_are_shared_by_clones 10 possible
  exact ⟨possible, (flag 2 (by decide)).mp (by decide),
    fun cancelled => absurd ((flag 3 (by decide)).mpr cancelled) (by decide), by decide⟩

end ServiceBroker.Tokens
