import ServiceBroker.Proofs.History

/-!
# Operations on what is not there any more

What is in flight should be in flight on something: an operation on a target that is stored
(`Mock.Store.IsBacked`). Then a deletion that has finished leaves nothing behind, and who
asks after the instance or one of its bindings is told that it is gone.

A broker that accepts changes first does not always keep to this. Removing an instance
removes its bindings, but not the operations that are in flight on them. Such an operation is
stranded: it goes on without its target, and reports progress and success to who asks after
it. This is the only way in which things go wrong: a history is tidy exactly if no turn of
it strands an operation (`Mock.Settings.isTidy_iff`). One that is not takes five requests
(`Mock.stranded_binding_succeeds`).
-/

namespace ServiceBroker.Mock

namespace Store

/-- **What is in flight is in flight on something that is stored.** -/
def IsBacked (store : Store) : Prop :=
  ∀ target, store.isBusy target = true → store.holds target = true

/-- **Nothing is left of a target**: it is not stored, and nothing is in flight on it. -/
structure IsRid (store : Store) (target : Target) : Prop where
  absent : store.holds target = false
  free : store.operations.get? target = none

end Store

/-! ## Removals -/

/-- **A deed finishes the deletion of an instance**: it is made at once, or a question finds
that the deletion in flight has succeeded. -/
def Deed.Removes (deed : Deed) (store : Store) (i : String) : Prop :=
  (deed.aim = .change (.serviceInstance i) .deprovision ∧ deed.answer.status = 200) ∨
    (store.inFlight (.serviceInstance i) .deprovision = true ∧
      deed.state? (.serviceInstance i) = some "succeeded")

instance (deed : Deed) (store : Store) (i : String) : Decidable (deed.Removes store i) :=
  inferInstanceAs (Decidable (_ ∨ _))

/-- **A reported state belongs to a question.** -/
theorem Deed.exists_question {deed : Deed} {target : Target} {state : String}
    (reports : deed.state? target = some state) :
    ∃ token, deed.aim = .question target token ∧ deed.answer.text? "state" = some state := by
  obtain ⟨aim, answer⟩ := deed
  cases aim with
  | catalog | read | change => exact nomatch reports
  | question other token =>
    dsimp only [state?] at reports
    split at reports
    · rename_i same
      exact ⟨token, same ▸ rfl, reports⟩
    · exact nomatch reports

section Effects

variable {settings : Settings} {random : String} {store after : Store} {aim : Aim}
  {answer : Answer} {target : Target}

/-- **What a removal leaves**: nothing of the instance is held, and every other operation
stays in flight. -/
theorem Effect.removes (effect : Effect settings random store aim answer after)
    (sound : store.IsSound settings) {i : String}
    (removes : Deed.Removes { aim, answer } store i) :
    (∀ other, after.holds other
      = (store.holds other && !decide (other.GoesWith (.serviceInstance i)))) ∧
    ∀ other, after.isBusy other
      = (!decide (other = .serviceInstance i) && store.isBusy other) := by
  obtain ⟨rfl, status⟩ | ⟨deleting, reports⟩ := removes
  · dsimp only at status
    cases effect with
    | declined refused => omega
    | accepted => exact nomatch status
    | @made _ _ _ begun atOnce begins =>
      -- A broker that deletes at once has nothing in flight, before or after.
      obtain ⟨rfl, -⟩ := Store.CanBegin.of_deletion begins
      refine ⟨Store.holds_conclude_deletion _ (.serviceInstance i), fun other => ?_⟩
      have idle : begun.isBusy other = false := congrArg Option.isSome (sound.idle atOnce other)
      rw [idle, Bool.and_false]
      exact idle
  · obtain ⟨token, rfl, succeeded⟩ := Deed.exists_question reports
    unfold Store.inFlight at deleting
    cases effect with
    | mismatched => exact nomatch succeeded
    | counted =>
      have inProgress : "in progress" = "succeeded" := Option.some.inj succeeded
      exact absurd inProgress (by decide)
    | idle free =>
      rw [free] at deleting
      exact nomatch deleting
    | @finished _ _ pending busy =>
      rw [busy] at deleting
      have deletion : pending.kind = .deprovision := eq_of_beq deleting
      rw [deletion]
      refine ⟨fun other => ?_, fun other => store.isBusy_finish ..⟩
      rw [Store.holds_finish]
      exact store.holds_conclude_deletion (.serviceInstance i) other

/-- **What is in flight stays backed** unless the effect removes the instance of a binding. -/
theorem Effect.isBacked_target (effect : Effect settings random store aim answer after)
    (sound : store.IsSound settings)
    (backed : store.isBusy target = true → store.holds target = true)
    (notStranded : ∀ i b, target = .serviceBinding i b → Deed.Removes { aim, answer } store i →
      store.isBusy target = false)
    (targetBusy : after.isBusy target = true) : after.holds target = true := by
  cases effect with
  | catalog | read | declined | repeated | idle | mismatched => exact backed targetBusy
  | made atOnce begins =>
    have busy : (store.operations.get? target).isSome = true :=
      begins.operations_eq ▸ targetBusy
    rw [sound.idle atOnce] at busy
    exact nomatch busy
  | accepted later begins =>
    rw [Store.isBusy_begin, Bool.or_eq_true] at targetBusy
    rw [Store.holds_begin, begins.holds_eq, Bool.or_eq_true]
    refine targetBusy.imp id fun busy => backed ?_
    unfold Store.isBusy at busy ⊢
    rwa [begins.operations_eq] at busy
  | counted busy =>
    rw [Store.isBusy_begin, Bool.or_eq_true, decide_eq_true_iff] at targetBusy
    rw [Store.holds_begin]
    obtain rfl | targetBusy := targetBusy
    · exact backed (congrArg Option.isSome busy)
    · exact backed targetBusy
  | finished busy =>
    rw [Store.isBusy_finish, Bool.and_eq_true, Bool.not_eq_true', decide_eq_false_iff_not]
      at targetBusy
    obtain ⟨differs, targetBusy⟩ := targetBusy
    rw [Store.holds_finish, Store.holds_conclude (sound.fits busy), backed targetBusy,
      Bool.true_and, Bool.not_eq_true', decide_eq_false_iff_not]
    rintro ⟨deletes, goes⟩
    -- What goes with an instance is one of its bindings, and would be stranded.
    obtain ⟨i, b, rfl, rfl⟩ := goes.exists_binding differs
    have free := notStranded i b rfl <| .inr ⟨?_, if_pos rfl⟩
    · rw [free] at targetBusy
      exact nomatch targetBusy
    · unfold Store.inFlight
      rw [busy]
      exact beq_iff_eq.mpr deletes

/-- **An effect that strands nothing keeps the operations backed.** -/
theorem Effect.isBacked (effect : Effect settings random store aim answer after)
    (sound : store.IsSound settings) (backed : store.IsBacked)
    (strandsNothing : ∀ i b, Deed.Removes { aim, answer } store i →
      store.isBusy (.serviceBinding i b) = false) : after.IsBacked := by
  intro other otherBusy
  refine effect.isBacked_target sound (backed other) (fun i b same removes => ?_) otherBusy
  rw [same]
  exact strandsNothing i b removes

/-- **A change can begin on what is gone only by creating it.** -/
theorem Store.IsRid.ne_of_canBegin {begun : Store} {made : Target} {kind : ChangeKind}
    (rid : store.IsRid target) (begins : store.CanBegin made kind begun)
    (notCreated : ¬(made = target ∧ kind = target.creation)) : target ≠ made := by
  rintro rfl
  obtain rfl | rfl := begins.fits
  · exact notCreated ⟨rfl, rfl⟩
  · exact nomatch rid.absent.symm.trans begins.of_deletion.2

/-- **What is gone stays gone** unless it is created. -/
theorem Effect.isRid (effect : Effect settings random store aim answer after)
    (sound : store.IsSound settings) (rid : store.IsRid target)
    (notCreated : ¬Deed.Creates { aim, answer } target) : after.IsRid target := by
  cases effect with
  | catalog | read | declined | repeated | idle | mismatched => exact rid
  | made atOnce begins complete =>
    have differs := rid.ne_of_canBegin begins fun ⟨same, creates⟩ => by
      obtain rfl := same
      exact notCreated ⟨congrArg _ creates, .inl (complete.trans (if_pos creates))⟩
    exact {
      absent := by
        rw [Store.holds_conclude begins.fits, begins.holds_eq, decide_eq_false differs,
          rid.absent]
        rfl
      free := (congrArg (·.get? target) begins.operations_eq).trans rid.free }
  | accepted later begins =>
    have differs := rid.ne_of_canBegin begins fun ⟨same, creates⟩ => by
      obtain rfl := same
      exact notCreated ⟨congrArg _ creates, .inr rfl⟩
    exact {
      absent := by
        rw [Store.holds_begin, begins.holds_eq, decide_eq_false differs, rid.absent]
        rfl
      free := by
        rw [Store.get?_operations_begin, if_neg differs, begins.operations_eq, rid.free] }
  | @counted other _ _ _ busy =>
    have differs : target ≠ other := by
      rintro rfl
      exact nomatch rid.free.symm.trans busy
    exact {
      absent := (store.holds_begin ..).trans rid.absent
      free := by rw [Store.get?_operations_begin, if_neg differs, rid.free] }
  | finished busy =>
    exact {
      absent := by
        rw [Store.holds_finish, Store.holds_conclude (sound.fits busy), rid.absent]
        rfl
      free := by rw [Store.get?_operations_finish, rid.free, ite_self] }

/-- **Who asks after what is gone** is told so. -/
theorem Effect.gone {token : Option String}
    (effect : Effect settings random store (.question target token) answer after)
    (rid : store.IsRid target) : answer.status = 410 := by
  cases effect with
  | idle =>
    rw [rid.absent]
    rfl
  | mismatched busy | counted busy | finished busy => exact nomatch rid.free.symm.trans busy

end Effects

/-! ## Histories -/

namespace Settings

variable (settings : Settings)

/-- **A turn removes an instance.** -/
def Removes (turn : Turn) (store : Store) (i : String) : Prop :=
  ∃ deed, settings.deed? turn store = some deed ∧ deed.Removes store i

/-- **A turn strands an operation**: it removes an instance while an operation is in flight
on one of its bindings. -/
def Strands (turn : Turn) (store : Store) : Prop :=
  ∃ i b, settings.Removes turn store i ∧ store.isBusy (.serviceBinding i b) = true

/-- **A tidy history.** In every store that it passes through, what is in flight is in flight
on something that is stored. And after an instance has been removed, whoever asks after it or
after one of its bindings is told that it is gone, until it is created again. -/
structure IsTidy (history : List Turn) : Prop where
  backed : ∀ earlier later, history = earlier ++ later → (settings.after earlier {}).IsBacked
  gone : ∀ earlier removal between question later i target token,
    history = earlier ++ removal :: (between ++ question :: later) →
    let removed := settings.next removal (settings.after earlier {})
    settings.Removes removal (settings.after earlier {}) i → target.instanceId = i →
    (∀ deed ∈ settings.deeds between removed, ¬deed.Creates target) →
    settings.asked? question = some (.question target token) →
    settings.status question (settings.after between removed) = 410

variable {settings} {store : Store}

/-- A turn that strands nothing keeps the operations backed. -/
theorem isBacked_next {turn : Turn} (sound : store.IsSound settings) (backed : store.IsBacked)
    (strandsNothing : ¬settings.Strands turn store) : (settings.next turn store).IsBacked := by
  obtain ⟨deed, done, -, -, effect⟩ | ⟨-, -, same⟩ := settings.turn_cases turn store
  · exact effect.isBacked sound backed fun i b removes =>
      Bool.eq_false_iff.mpr fun busy => strandsNothing ⟨i, b, ⟨deed, done, removes⟩, busy⟩
  · rwa [same]

/-- **A turn that strands an operation leaves it without its target.** -/
theorem Strands.not_isBacked {turn : Turn} (sound : store.IsSound settings)
    (strands : settings.Strands turn store) : ¬(settings.next turn store).IsBacked := by
  obtain ⟨i, b, ⟨deed, done, removes⟩, busy⟩ := strands
  obtain ⟨holds, isBusy⟩ := (effect_of_deed done).removes sound removes
  intro backed
  have held := backed (.serviceBinding i b) (by rw [isBusy, busy]; rfl)
  rw [holds, decide_eq_true (.inr rfl), Bool.not_true, Bool.and_false] at held
  exact nomatch held

/-- **A removal that strands nothing leaves nothing of the instance.** -/
theorem Removes.isRid {turn : Turn} {i : String} (sound : store.IsSound settings)
    (removes : settings.Removes turn store i) (strandsNothing : ¬settings.Strands turn store)
    {target : Target} (belongs : target.instanceId = i) :
    (settings.next turn store).IsRid target := by
  obtain ⟨deed, done, deedRemoves⟩ := removes
  obtain ⟨holds, isBusy⟩ := (effect_of_deed done).removes sound deedRemoves
  have goes : target.GoesWith (.serviceInstance i) := .inr (by rw [belongs])
  have idle : (settings.next turn store).isBusy target = false := by
    rw [isBusy]
    cases target with
    | serviceInstance j =>
      obtain rfl : j = i := belongs
      rw [decide_eq_true rfl]
      rfl
    | serviceBinding j b =>
      obtain rfl : j = i := belongs
      have free : store.isBusy (.serviceBinding j b) = false :=
        Bool.eq_false_iff.mpr fun busy => strandsNothing ⟨j, b, ⟨deed, done, deedRemoves⟩, busy⟩
      rw [free, Bool.and_false]
  exact {
    absent := by rw [holds, decide_eq_true goes, Bool.not_true, Bool.and_false]
    free := Option.isNone_iff_eq_none.mp (Option.isSome_eq_false_iff.mp idle) }

/-- What is gone stays gone over a history in which it is not created. -/
theorem isRid_after {target : Target} (history : List Turn) (sound : store.IsSound settings)
    (rid : store.IsRid target)
    (notCreated : ∀ deed ∈ settings.deeds history store, ¬deed.Creates target) :
    (settings.after history store).IsRid target := by
  induction history generalizing store with
  | nil => exact rid
  | cons turn rest ih =>
    have restNot := fun deed mem => notCreated deed (List.mem_append_right _ mem)
    refine ih (settings.isSound_next turn store sound) ?_ restNot
    obtain ⟨deed, done, -, -, effect⟩ | ⟨-, -, same⟩ := settings.turn_cases turn store
    · exact effect.isRid sound rid (notCreated deed (mem_deeds_cons done rest))
    · rwa [same]

/-- The operations stay backed over a history that strands nothing. -/
theorem isBacked_after (history : List Turn) (sound : store.IsSound settings)
    (backed : store.IsBacked)
    (strandsNothing : ∀ earlier turn later, history = earlier ++ turn :: later →
      ¬settings.Strands turn (settings.after earlier store)) :
    (settings.after history store).IsBacked := by
  induction history generalizing store with
  | nil => exact backed
  | cons turn rest ih =>
    refine ih (settings.isSound_next turn store sound)
      (isBacked_next sound backed (strandsNothing [] turn rest rfl)) ?_
    intro earlier other later split
    exact strandsNothing (turn :: earlier) other later (congrArg (turn :: ·) split)

variable (settings)

/-- **A history is tidy exactly if it strands nothing.** -/
theorem isTidy_iff (history : List Turn) :
    settings.IsTidy history ↔ ∀ earlier turn later, history = earlier ++ turn :: later →
      ¬settings.Strands turn (settings.after earlier {}) := by
  constructor
  · intro tidy earlier turn later split strands
    refine strands.not_isBacked (settings.isSound_after earlier) ?_
    have backed := tidy.backed (earlier ++ [turn]) later (by rw [split, List.append_assoc]; rfl)
    rwa [settings.after_append] at backed
  · intro strandsNothing
    refine { backed := fun earlier later split => ?_, gone := ?_ }
    · refine isBacked_after earlier (settings.isSound_after []) (fun _ busy => nomatch busy) ?_
      intro first turn rest parts
      refine strandsNothing first turn (rest ++ later) ?_
      rw [split, parts, List.append_assoc]
      rfl
    · intro earlier removal between question later i target token split removed removes belongs
        notCreated asks
      have sound := settings.isSound_after earlier
      have rid : removed.IsRid target :=
        removes.isRid sound (strandsNothing earlier removal _ split) belongs
      have ridThen := isRid_after between (settings.isSound_next removal _ sound) rid notCreated
      obtain ⟨answer, -, status, effect⟩ :=
        exists_effect asks (settings.after between removed)
      rw [status, effect.gone ridThen]

end Settings

/-- **An operation on a binding that is gone.** An instance is created, bound and deleted;
the deletion finishes before anyone asks after the binding. Then the binding is not stored,
an operation is in flight on it, and the question after it is answered with success. -/
theorem stranded_binding_succeeds :
    let settings : Settings := { mode := .async 0 }
    let requests : List Turn :=
      [.put "0" "i", .put "1" "i/service_bindings/b", .delete "2" "i"]
    let removal : Turn := .get "i/last_operation"
    let question : Turn := .get "i/service_bindings/b/last_operation"
    let store := settings.after (requests ++ [removal]) {}
    ((settings.deed? removal (settings.after requests {})).bind
        (·.state? (.serviceInstance "i")) = some "succeeded" ∧
      store.holds (.serviceBinding "i" "b") = false ∧
      store.isBusy (.serviceBinding "i" "b") = true ∧
      (settings.deed? question store).bind (·.state? (.serviceBinding "i" "b"))
        = some "succeeded") ∧
    ¬settings.IsTidy (requests ++ [removal, question]) := by
  intro settings requests removal question store
  refine (and_iff_left_of_imp ?_).mpr (by decide +kernel)
  rintro ⟨-, absent, busy, -⟩ tidy
  have held := tidy.backed (requests ++ [removal]) [question] rfl _ busy
  exact nomatch absent.symm.trans held

end ServiceBroker.Mock
