import Mathlib.Data.List.Chain
import ServiceBroker.Proofs.Consistency

/-!
# Creations and removals take turns

Many clients may ask at once for an instance of the same identifier, and many may delete it.
The broker serves one request at a time, and it should be clear of each whether it was the one
that created the instance or removed it. These two events have to take turns: who is
answered as the creator has created something new, and nothing is removed that is not there.

A creation is seen in its answer. A removal need not be: when changes are accepted first, the
instance is removed by whoever asks after the deletion and learns that it has succeeded
(`Mock.Deed.Removes`), and meanwhile deletions may be asked for again or overtake a creation.
What keeps the events apart is that each turns the instance from not stored into stored or
back, and nothing else does (`Mock.Settings.lastEvent_next`). So the store always shows which
event was the last one, and the next is the other (`Mock.creations_and_removals_alternate`).
-/

namespace ServiceBroker.Mock

/-! ## Events -/

/-- **What happens to an instance.** -/
inductive LifeEvent where
  | creation
  | removal
deriving DecidableEq, Repr

/-- **The last event of an instance**, as the store shows it. An instance that has never been
there counts as removed. -/
def Store.lastEvent (store : Store) (i : String) : LifeEvent :=
  if store.holds (.serviceInstance i) then .creation else .removal

/-- The last event was a creation exactly if the instance is stored. -/
theorem Store.lastEvent_eq_creation_iff (store : Store) (i : String) :
    store.lastEvent i = .creation ↔ store.holds (.serviceInstance i) = true := by
  unfold lastEvent
  cases store.holds (.serviceInstance i) with
  | true => exact iff_of_true rfl rfl
  | false => exact iff_of_false nofun nofun

/-- **The event of an instance that a deed is**, if it is one: a creation that is answered 201
or 202, or the end of a deletion. -/
def Deed.event? (deed : Deed) (store : Store) (i : String) : Option LifeEvent :=
  if deed.Creates (.serviceInstance i) then some .creation
  else if deed.Removes store i then some .removal
  else none

/-! ## One effect -/

section Effects

variable {settings : Settings} {random : String} {store after : Store} {aim : Aim}
  {answer : Answer} {i : String}

/-- **A creation stores an instance that was not there.** -/
theorem Effect.creates_instance (effect : Effect settings random store aim answer after)
    (creates : Deed.Creates { aim, answer } (.serviceInstance i)) :
    store.holds (.serviceInstance i) = false ∧ after.holds (.serviceInstance i) = true := by
  obtain ⟨rfl, status⟩ := creates
  dsimp only at status
  have stores {begun : Store}
      (begins : store.CanBegin (.serviceInstance i) .provision begun) :
      store.holds (.serviceInstance i) = false ∧ begun.holds (.serviceInstance i) = true := by
    rw [begins.holds_eq, decide_eq_true rfl, Bool.true_or]
    cases begins with
    | provision body absent => exact ⟨absent, rfl⟩
  cases effect with
  | declined refused => omega
  | repeated there complete => omega
  | made atOnce begins => exact stores begins
  | accepted later begins =>
    rw [Store.holds_begin]
    exact stores begins

/-- **A removal takes away an instance that was there.** -/
theorem Effect.removes_instance (effect : Effect settings random store aim answer after)
    (consistent : store.IsConsistent settings) (removes : Deed.Removes { aim, answer } store i) :
    store.holds (.serviceInstance i) = true ∧ after.holds (.serviceInstance i) = false := by
  constructor
  · obtain ⟨rfl, status⟩ | ⟨deleting, -⟩ := removes
    · dsimp only at status
      cases effect with
      | declined refused => omega
      | made atOnce begins => exact begins.of_deletion.2
      | accepted => exact nomatch status
    · refine consistent.backed ?_
      unfold Store.inFlight at deleting
      split at deleting
      · rename_i busy
        exact congrArg Option.isSome busy
      · exact nomatch deleting
  · rw [(effect.removes consistent.toIsSound removes).1, decide_eq_true (.inl rfl),
      Bool.not_true, Bool.and_false]

/-- A change on another target leaves an instance as it is. -/
theorem Store.holds_instance_conclude {target : Target} {kind : ChangeKind}
    (fits : kind = target.creation ∨ kind = target.deletion)
    (differs : .serviceInstance i ≠ target) :
    (store.conclude target kind).holds (.serviceInstance i)
      = store.holds (.serviceInstance i) := by
  have stays : ¬(kind = target.deletion ∧ Target.GoesWith (.serviceInstance i) target) := by
    rintro ⟨-, goes⟩
    obtain ⟨j, b, isBinding, -⟩ := goes.exists_binding differs
    exact nomatch isBinding
  rw [Store.holds_conclude fits, decide_eq_false stays, Bool.not_false, Bool.and_true]

/-- **Nothing else stores an instance or takes it away.** -/
theorem Effect.holds_instance_eq (effect : Effect settings random store aim answer after)
    (sound : store.IsSound settings)
    (notCreated : ¬Deed.Creates { aim, answer } (.serviceInstance i))
    (notRemoved : ¬Deed.Removes { aim, answer } store i) :
    after.holds (.serviceInstance i) = store.holds (.serviceInstance i) := by
  cases effect with
  | catalog | read | declined | repeated | idle | mismatched => rfl
  | counted => exact Store.holds_begin ..
  | @made target kind _ begun atOnce begins complete =>
    by_cases same : .serviceInstance i = target
    · subst same
      obtain creates | deletes := begins.fits
      · exact absurd ⟨congrArg _ creates, .inl (complete.trans (if_pos creates))⟩ notCreated
      · have made := complete.trans (if_neg (deletes ▸ Target.deletion_ne_creation _))
        exact absurd (.inl ⟨congrArg _ deletes, made⟩) notRemoved
    · rw [Store.holds_instance_conclude begins.fits same, begins.holds_eq,
        decide_eq_false same, Bool.false_or]
  | @accepted target kind begun polls later begins =>
    rw [Store.holds_begin]
    by_cases same : .serviceInstance i = target
    · subst same
      obtain creates | deletes := begins.fits
      · exact absurd ⟨congrArg _ creates, .inr rfl⟩ notCreated
      · subst deletes
        rw [begins.of_deletion.1]
    · rw [begins.holds_eq, decide_eq_false same, Bool.false_or]
  | @finished target token pending busy right done =>
    rw [Store.holds_finish]
    by_cases same : .serviceInstance i = target
    · subst same
      obtain creates | deletes := sound.fits busy
      -- A creation was stored when it began, and its end changes nothing.
      · rw [creates, Store.conclude_creation]
      · refine absurd (.inr ⟨?_, if_pos rfl⟩) notRemoved
        unfold Store.inFlight
        rw [busy]
        exact beq_iff_eq.mpr deletes
    · exact Store.holds_instance_conclude (sound.fits busy) same

end Effects

/-! ## Histories -/

namespace Settings

variable (settings : Settings)

/-- **The event of an instance that a turn brings about**, if it does. -/
def event? (i : String) (turn : Turn) (store : Store) : Option LifeEvent :=
  (settings.deed? turn store).bind (·.event? store i)

/-- **The events of an instance over a history**, in order. -/
def events (i : String) : List Turn → Store → List LifeEvent
  | [], _ => []
  | turn :: rest, store =>
    (settings.event? i turn store).toList ++ events i rest (settings.next turn store)

variable {settings} {store : Store} {i : String}

/-- **A turn brings about the event that did not come last**, or none. The store after it
shows the event if there was one, and the same as before if there was none. -/
theorem lastEvent_next (consistent : store.IsConsistent settings) (turn : Turn) :
    (∀ event, settings.event? i turn store = some event → store.lastEvent i ≠ event) ∧
      (settings.next turn store).lastEvent i
        = (settings.event? i turn store).getD (store.lastEvent i) := by
  unfold event? Store.lastEvent
  obtain ⟨deed, done, -, -, effect⟩ | ⟨nothing, -, same⟩ := settings.turn_cases turn store
  · rw [done, Option.bind_some]
    unfold Deed.event?
    by_cases creates : deed.Creates (.serviceInstance i)
    · obtain ⟨absent, stored⟩ := effect.creates_instance creates
      rw [if_pos creates, absent, stored]
      exact ⟨fun event same => Option.some.inj same ▸ nofun, rfl⟩
    · rw [if_neg creates]
      by_cases removes : deed.Removes store i
      · obtain ⟨stored, absent⟩ := effect.removes_instance consistent removes
        rw [if_pos removes, absent, stored]
        exact ⟨fun event same => Option.some.inj same ▸ nofun, rfl⟩
      · rw [if_neg removes,
          effect.holds_instance_eq consistent.toIsSound creates removes]
        exact ⟨nofun, rfl⟩
  · rw [nothing, same]
    exact ⟨nofun, rfl⟩

/-- **The events of an instance take turns** over any history, and the store shows the last
one. By induction on the history: the first event is not the one that the store shows. -/
theorem isChain_events (consistent : store.IsConsistent settings) (history : List Turn) :
    (store.lastEvent i :: settings.events i history store).IsChain (· ≠ ·) ∧
      (settings.after history store).lastEvent i
        = (settings.events i history store).getLastD (store.lastEvent i) := by
  induction history generalizing store with
  | nil => exact ⟨.singleton _, rfl⟩
  | cons turn rest ih =>
    obtain ⟨differs, shows⟩ := lastEvent_next (i := i) consistent turn
    obtain ⟨chain, last⟩ := ih (settings.isConsistent_next turn store consistent)
    rw [shows] at chain last
    unfold events after
    cases happens : settings.event? i turn store with
    | none =>
      rw [happens] at chain last
      exact ⟨chain, last⟩
    | some event =>
      rw [happens] at chain last
      exact ⟨.cons_cons (differs event happens) chain, last.trans (List.getLastD_cons ..).symm⟩

end Settings

namespace LifeEvent

theorem eq_creation {event : LifeEvent} (noRemoval : removal ≠ event) : event = creation := by
  cases event with
  | creation => rfl
  | removal => exact absurd rfl noRemoval

/-- **Between two creations there is a removal**: events that take turns hold one creation at
most if they hold no removal. -/
theorem count_creation_le_one {events : List LifeEvent} (chain : events.IsChain (· ≠ ·))
    (noRemoval : removal ∉ events) : events.count creation ≤ 1 := by
  match events with
  | [] => exact Nat.zero_le 1
  | [event] => exact List.count_le_length
  | first :: second :: rest =>
    have differ : first ≠ second := (List.isChain_cons_cons.mp chain).1
    have same : first = second := by
      rw [eq_creation fun removed => noRemoval (removed ▸ .head _),
        eq_creation fun removed => noRemoval (removed ▸ .tail _ (.head _))]
    exact absurd same differ

end LifeEvent

/-- **Creations and removals of an instance take turns**, beginning with a creation, and the
instance is stored exactly if the last of them was a creation. So what is removed is there, and
as long as it is not removed, one of all who ask for it at most is answered as the creator. -/
theorem creations_and_removals_alternate (settings : Settings) (history : List Turn)
    (i : String) :
    let store := settings.after history {}
    let events := settings.events i history {}
    events.IsChain (· ≠ ·) ∧ (∀ first ∈ events.head?, first = .creation) ∧
      (store.holds (.serviceInstance i) = true ↔ events.getLast? = some .creation) ∧
      (∀ turn, settings.Removes turn store i → store.holds (.serviceInstance i) = true) ∧
      ∀ later, .removal ∉ settings.events i later store →
        (settings.events i later store).count .creation ≤ 1 := by
  intro store events
  obtain ⟨chain, last⟩ := Settings.isChain_events (i := i) settings.isConsistent_empty history
  have consistent : store.IsConsistent settings := settings.isConsistent_after history
  refine ⟨chain.tail, fun first mem => ?_, ?_, ?_, fun later noRemoval => ?_⟩
  · exact LifeEvent.eq_creation ((List.isChain_cons.mp chain).1 first mem)
  · have last : store.lastEvent i = events.getLast?.getD .removal :=
      last.trans (List.getLastD_eq_getLast? ..)
    rw [← store.lastEvent_eq_creation_iff, last]
    cases events.getLast? with
    | none => exact iff_of_false nofun nofun
    | some event => exact (Option.some_inj (a := event)).symm
  · rintro turn ⟨deed, done, removes⟩
    exact ((Settings.effect_of_deed done).removes_instance consistent removes).1
  · exact LifeEvent.count_creation_le_one (Settings.isChain_events consistent later).1.tail
      noRemoval

end ServiceBroker.Mock
