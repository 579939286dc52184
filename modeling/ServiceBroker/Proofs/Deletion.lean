import ServiceBroker.Proofs.Arrivals
import ServiceBroker.Proofs.Consistency

/-!
# Deletions come to their end

Whoever deletes something wants it gone, and does not care what the broker was doing with it.
This module shows that a driver always gets there. Let the mock broker have served any requests
at all: the target may be held or not, and any operation may be in flight on it. The deletion
takes the place of that operation, or finds that there is nothing left to delete, which counts
as success. When it has come to its end, the target is gone with all that belongs to it, and
nothing else has changed (`Mock.Store.Loses`); and deleting it again changes nothing any more
(`Driver.deletions_come_to_their_end`).

The broker does the same for an instance and for a binding, so the two are one function of the
target (`Mock.Store.delete`).
-/

namespace ServiceBroker

/-! ## What is deleted -/

/-- **A deletion** that names its service and its plan. -/
inductive Change.IsDeletion : Change → Prop where
  | deprovision {request : DeprovisionRequest} (service : request.serviceId ≠ "")
      (plan : request.planId ≠ "") : IsDeletion (.deprovision request)
  | unbind {request : UnbindRequest} (service : request.serviceId ≠ "")
      (plan : request.planId ≠ "") : IsDeletion (.unbind request)

namespace Mock

/-- **Deleting a target**, for a client that names the service and the plan and consents to a
later answer. -/
def Store.delete (store : Store) (settings : Settings) (random : String) (target : Target) :
    Answer × Store :=
  if store.holds target then
    match settings.mode with
    | .sync => (.bare 200, store.conclude target target.deletion)
    | .async polls => accept settings random polls target target.deletion store
  else (.gone, store)

/-- **An operation that names a service and a plan** has both in its query. -/
theorem hasCorrelation_query {operation : Operation} {input : operation.Input}
    {serviceId planId : String} (fields : operation.correlation input
      = [("service_id", some serviceId), ("plan_id", some planId)])
    (service : serviceId ≠ "") (plan : planId ≠ "") :
    Query.hasCorrelation (operation.query input) = true := by
  have serviceField : operation.field? input "service_id" = some serviceId := by
    unfold Operation.field?
    rw [if_neg (by decide), fields]
    exact if_pos (decide_eq_true service)
  have planField : operation.field? input "plan_id" = some planId := by
    unfold Operation.field?
    rw [if_neg (by decide), fields]
    exact if_pos (decide_eq_true plan)
  unfold Query.hasCorrelation
  rw [operation.get?_query, operation.get?_query, serviceField, planField]
  rfl

section Handlers

variable {query : Query} (correlated : query.hasCorrelation = true)
  (consents : query.acceptsIncomplete = true) (settings : Settings) (random i b : String)
  (store : Store)

include correlated consents

/-- The handler for instances deletes the instance. -/
theorem deprovision_eq : deprovision settings random i query store
    = store.delete settings random (.serviceInstance i) := by
  unfold deprovision Store.delete
  rw [correlated, consents]
  show (if !store.instances.contains i then _ else _)
    = (if store.instances.contains i then _ else _)
  cases store.instances.contains i with
  | false => rfl
  | true => cases settings.mode <;> rfl

/-- The handler for bindings deletes the binding. -/
theorem unbind_eq : unbind settings random i b query store
    = store.delete settings random (.serviceBinding i b) := by
  unfold unbind Store.delete
  rw [correlated, consents]
  show (if !store.bindings.contains (i, b) then _ else _)
    = (if store.bindings.contains (i, b) then _ else _)
  cases store.bindings.contains (i, b) with
  | false => rfl
  | true => cases settings.mode <;> rfl

end Handlers

/-! ## What is lost -/

namespace Store

/-- **A store loses a target and all that goes with it**, and nothing else. -/
structure Loses (before : Store) (target : Target) (after : Store) : Prop where
  absent : ∀ other, other.GoesWith target → after.holds other = false
  instances : ∀ i, ¬(Target.serviceInstance i).GoesWith target →
    after.instances.get? i = before.instances.get? i
  bindings : ∀ i b, ¬(Target.serviceBinding i b).GoesWith target →
    after.bindings.get? (i, b) = before.bindings.get? (i, b)

/-- What is not there is lost already: an instance that is not there has no bindings. -/
theorem loses_of_absent {store : Store} (rooted : store.IsRooted) {target : Target}
    (absent : store.holds target = false) : store.Loses target store where
  absent := fun other goes => by
    by_cases same : other = target
    · rw [same, absent]
    · obtain ⟨i, b, rfl, rfl⟩ := goes.exists_binding same
      exact Bool.eq_false_iff.mpr fun held => nomatch absent.symm.trans (rooted i b held)
  instances := fun _ _ => rfl
  bindings := fun _ _ _ => rfl

/-- **A deletion that is made loses its target**, whatever is in flight. -/
theorem loses_conclude (store : Store) (target : Target) :
    store.Loses target (store.conclude target target.deletion) where
  absent := fun other goes => by
    rw [holds_conclude_deletion, decide_eq_true goes, Bool.not_true, Bool.and_false]
  instances := fun i stays => by
    cases target with
    | serviceInstance j =>
      show (store.instances.erase j).get? i = _
      rw [Table.get?_erase, if_neg]
      exact fun same => stays (.inl (congrArg _ same))
    | serviceBinding j b => rfl
  bindings := fun i b stays => by
    cases target with
    | serviceInstance j =>
      show (store.bindings.keep (·.1 ≠ j)).get? (i, b) = _
      rw [Table.get?_keep, if_pos]
      exact decide_eq_true fun same => stays (.inr (congrArg _ same.symm))
    | serviceBinding j c =>
      show (store.bindings.erase (j, c)).get? (i, b) = _
      rw [Table.get?_erase, if_neg]
      intro same
      obtain ⟨rfl, rfl⟩ := Prod.mk.inj same
      exact stays (.inl rfl)

/-- **A deletion that has finished loses its target**, too. -/
theorem loses_finish (store : Store) (target : Target) :
    store.Loses target (store.finish target target.deletion) := by
  obtain ⟨absent, instances, bindings⟩ := store.loses_conclude target
  rw [finish_eq]
  refine ⟨fun other goes => ?_, instances, bindings⟩
  rw [holds_operations]
  exact absent other goes

end Store

end Mock

/-! ## Asking for a deletion -/

namespace Change.IsDeletion

variable {change : Change} (deletes : change.IsDeletion)

include deletes

theorem kind_eq : change.kind = change.target.deletion := by
  cases deletes <;> rfl

theorem granted?_eq : change.granted? = none := by
  cases deletes <;> rfl

/-- **What is gone has been deleted**, says the driver. -/
theorem outcome_gone :
    change.outcome (.ok Mock.Answer.gone.toResponse) = .ok (.complete none) := by
  cases deletes <;> rfl

theorem outcome_made : change.outcome (.ok (Mock.Answer.bare 200).toResponse)
    = .ok (.complete none) := by
  cases deletes <;> rfl

/-- **What is asked for is the deletion of the target.** -/
theorem performed_eq (settings : Mock.Settings) (random : String) (store : Mock.Store) :
    change.toAsk.performed settings random store
      = store.delete settings random change.target := by
  -- The query is the same for every broker.
  have consents := Mock.acceptsIncomplete_request (Broker.make "" "" "") change
  cases deletes with
  | @deprovision request service plan =>
    have correlated := @Mock.hasCorrelation_query .deprovision request _ _ rfl service plan
    exact Mock.deprovision_eq correlated consents settings random _ store
  | @unbind request service plan =>
    have correlated := @Mock.hasCorrelation_query .unbind request _ _ rfl service plan
    exact Mock.unbind_eq correlated consents settings random _ _ store

/-- **A known client that asks for a deletion** has the target deleted. -/
theorem reply_eq {broker : Broker} {settings : Mock.Settings} (known : broker.IsKnown settings)
    (plain : change.endpoint.IsPlain) (random : Nat → String) (state : Loopback.State) :
    (broker.connection settings random).world.reply state (change.request broker)
      = let deleted := state.store.delete settings (random state.served) change.target
        (.ok deleted.1.toResponse,
          { state with store := deleted.2, served := state.served + 1 }) := by
  have proper : change.toAsk.IsProper := by
    cases deletes <;> exact ⟨plain, nofun⟩
  have fit : change.toAsk.operation.Fits change.toAsk.input := by
    cases deletes <;> exact ⟨nofun, nofun⟩
  have request : change.toAsk.request broker = change.request broker := by
    cases deletes <;> rfl
  have replies := known.reply_ask random state proper fit
  rw [request, deletes.performed_eq] at replies
  rw [Loopback.world_reply]
  exact replies

end Change.IsDeletion

namespace Driver

section Runs

variable {driver : Driver} {settings : Mock.Settings} {random : Nat → String} {change : Change}
  {state : Loopback.State}

/-- **The start of a deletion that is complete at once**, with the store after it. -/
theorem run_start_deleted (known : driver.broker.IsKnown settings) (deletes : change.IsDeletion)
    (plain : change.endpoint.IsPlain) {answer : Mock.Answer} {store : Mock.Store}
    (deleted : state.store.delete settings (random state.served) change.target = (answer, store))
    (complete : answer = .gone ∨ answer = .bare 200) :
    (driver.start change).run (driver.broker.connection settings random).world state
      = { result := .ok (.complete none)
          state := { state with store, served := state.served + 1 }
          requests := [change.request driver.broker] } := by
  have replies := deletes.reply_eq known plain random state
  rw [deleted] at replies
  refine run_start driver replies ?_
  obtain rfl | rfl := complete
  · rw [deletes.outcome_gone]
    rfl
  · rw [deletes.outcome_made]
    rfl

/-- **Deleting what is gone** changes nothing. -/
theorem run_start_absent (known : driver.broker.IsKnown settings) (deletes : change.IsDeletion)
    (plain : change.endpoint.IsPlain) (absent : state.store.holds change.target = false) :
    (driver.start change).run (driver.broker.connection settings random).world state
      = { result := .ok (.complete none), state := { state with served := state.served + 1 }
          requests := [change.request driver.broker] } := by
  refine run_start_deleted known deletes plain ?_ (.inl rfl)
  unfold Mock.Store.delete
  rw [absent]
  rfl

/-- **Deleting what is gone any number of times** changes nothing, by induction on the
number. -/
theorem runAll_start_absent (known : driver.broker.IsKnown settings)
    (deletes : change.IsDeletion) (plain : change.endpoint.IsPlain)
    (absent : state.store.holds change.target = false) (times : Nat) :
    let world := (driver.broker.connection settings random).world
    let repeated := Dialogue.runAll world driver.start (List.replicate times change) state
    repeated.1 = List.replicate times (.ok (.complete none)) ∧
      repeated.2.store = state.store := by
  induction times generalizing state with
  | zero => exact ⟨rfl, rfl⟩
  | succ times ih =>
    have first := @run_start_absent driver settings random change state known deletes plain absent
    obtain ⟨results, store⟩ := @ih { state with served := state.served + 1 } absent
    rw [List.replicate_succ]
    unfold Dialogue.runAll
    dsimp only
    rw [first]
    exact ⟨congrArg _ results, store⟩

/-- **A deletion that is accepted, followed to its end**, has succeeded, and the target is lost. -/
theorem run_deletion_accepted (known : driver.broker.IsKnown settings)
    (policy : driver.settings.missingToken = .pollWithoutToken) (deletes : change.IsDeletion)
    (plain : change.endpoint.IsPlain) (interval : Duration) {polls rounds : Nat}
    (later : settings.mode = .async polls) (enough : polls ≤ rounds)
    (held : state.store.holds change.target = true) (running : state.cancelled = false) :
    let run := ((driver.start change).bind (driver.follow rounds interval)).run
      (driver.broker.connection settings random).world state
    run.result = some (.ok (.succeeded none)) ∧
      state.store.Loses change.target run.state.store := by
  have deleted : state.store.delete settings (random state.served) change.target
      = Mock.accept settings (random state.served) polls change.target change.target.deletion
          state.store := by
    unfold Mock.Store.delete
    rw [if_pos held, later]
  have replies := deletes.reply_eq known plain random state
  rw [deleted, ← deletes.kind_eq] at replies
  have nonempty : change.kind.name ++ "-" ++ random state.served ≠ "" := by simp
  have inFlight : driver.takeUp change (change.outcome (.ok (Mock.Answer.accepted settings
      (change.kind.name ++ "-" ++ random state.served)).toResponse))
      = .done (.ok (.inFlight (change.track (settings.shownToken _)) none)) :=
    takeUp_of_accepts policy ⟨_, rfl, rfl, Mock.tokenOf_accepted settings nonempty⟩
  -- Whatever was in flight on the target, it is the deletion that is polled from here on.
  have making : change.Making (settings.shownToken _) state.store polls
      { state with
        store := state.store.begin change.target change.kind
          (change.kind.name ++ "-" ++ random state.served) polls
        served := state.served + 1 } :=
    ⟨held, ⟨_, nonempty, settings.shownToken_eq _, rfl⟩, running⟩
  obtain ⟨succeeded, made⟩ := @run_pollUntilTerminal_making driver settings random change _ _ _
    known plain interval polls rounds enough making
  have lost := state.store.loses_finish change.target
  rw [← deletes.kind_eq, ← made.store] at lost
  rw [deletes.granted?_eq] at succeeded
  rw [Dialogue.run_bind, run_start driver replies inFlight]
  exact ⟨succeeded, lost⟩

/-- **A deletion, followed to its end**: it is complete or has succeeded, and the target is
lost. -/
theorem run_deletion (known : driver.broker.IsKnown settings)
    (policy : driver.settings.missingToken = .pollWithoutToken) (deletes : change.IsDeletion)
    (plain : change.endpoint.IsPlain) (interval : Duration) {rounds : Nat}
    (enough : ∀ polls, settings.mode = .async polls → polls ≤ rounds)
    (rooted : state.store.IsRooted) (running : state.cancelled = false) :
    let run := ((driver.start change).bind (driver.follow rounds interval)).run
      (driver.broker.connection settings random).world state
    (run.result = some (.ok (.complete none)) ∨ run.result = some (.ok (.succeeded none))) ∧
      state.store.Loses change.target run.state.store := by
  cases held : state.store.holds change.target with
  | false =>
    rw [Dialogue.run_bind, run_start_absent known deletes plain held]
    exact ⟨.inl rfl, Mock.Store.loses_of_absent rooted held⟩
  | true =>
    cases mode : settings.mode with
    | sync =>
      have deleted : state.store.delete settings (random state.served) change.target
          = (.bare 200, state.store.conclude change.target change.target.deletion) := by
        unfold Mock.Store.delete
        rw [if_pos held, mode]
      rw [Dialogue.run_bind, run_start_deleted known deletes plain deleted (.inr rfl)]
      exact ⟨.inl rfl, state.store.loses_conclude change.target⟩
    | async polls =>
      obtain ⟨succeeded, lost⟩ := @run_deletion_accepted driver settings random change state known
        policy deletes plain interval polls rounds mode (enough polls mode) held running
      exact ⟨.inr succeeded, lost⟩

end Runs

/-- **Deletions come to their end.** Let a mock broker have served any requests, in either mode.
A driver with its credentials starts a deletion of an instance or a binding and, if it is
accepted, polls it to its end, with nobody else there and a token that is never cancelled. Then
the deletion is complete or has succeeded, without a binding; the target is lost with all that
goes with it, and all else is stored as before. Starting the deletion again, any number of times,
finds it complete and leaves the store as it is. -/
theorem deletions_come_to_their_end (driver : Driver) (settings : Mock.Settings)
    (random : Nat → String) (history : List Mock.Turn) (served : Nat) (change : Change)
    (rounds : Nat) (interval : Duration)
    (username : driver.broker.username = settings.username)
    (password : driver.broker.password = settings.password)
    (version : driver.broker.apiVersion.toList.all Loopback.isHeaderChar = true)
    (policy : driver.settings.missingToken = .pollWithoutToken)
    (deletes : change.IsDeletion) (plain : change.endpoint.IsPlain)
    (enough : ∀ polls, settings.mode = .async polls → polls ≤ rounds) :
    let world := (driver.broker.connection settings random).world
    let before := settings.after history {}
    let run := ((driver.start change).bind (driver.follow rounds interval)).run world
      { store := before, served }
    (run.result = some (.ok (.complete none)) ∨ run.result = some (.ok (.succeeded none))) ∧
      before.Loses change.target run.state.store ∧
      ∀ times,
        let repeated := Dialogue.runAll world driver.start (List.replicate times change) run.state
        repeated.1 = List.replicate times (.ok (.complete none)) ∧
          repeated.2.store = run.state.store := by
  intro world before run
  have known := Broker.isKnown_of_credentials username password version
  obtain ⟨result, loses⟩ := @run_deletion driver settings random change
    { store := before, served } known policy deletes plain interval rounds enough
    (settings.isConsistent_after history).rooted rfl
  exact ⟨result, loses, runAll_start_absent known deletes plain (loses.absent _ (.inl rfl))⟩

/-- An instance is still being created when a driver deletes it. -/
theorem deletions_come_to_their_end_busy :
    let settings : Mock.Settings := { mode := .async 2 }
    let driver : Driver := { broker := Broker.make "http://broker" "admin" "secret" }
    let change : Change := .deprovision { instanceId := "i", serviceId := "s", planId := "p" }
    let history : List Mock.Turn := [.put "1" "i"]
    (settings.after history {}).inFlight (.serviceInstance "i") .provision = true ∧
      let world := (driver.broker.connection settings fun _ => "2").world
      let before := settings.after history {}
      let run := ((driver.start change).bind
        (driver.follow 2 (Duration.ofMilliseconds 1))).run world { store := before, served := 0 }
      (run.result = some (.ok (.complete none)) ∨ run.result = some (.ok (.succeeded none))) ∧
        before.Loses change.target run.state.store ∧
        ∀ times,
          let repeated := Dialogue.runAll world driver.start (List.replicate times change) run.state
          repeated.1 = List.replicate times (.ok (.complete none)) ∧
            repeated.2.store = run.state.store := by
  intro settings driver change history
  have creating : (settings.after history {}).inFlight (.serviceInstance "i") .provision
      = true := by decide +kernel
  have plain : change.endpoint.IsPlain := by
    have instanceIds : ∀ id ∈ ["i"], IsPlainId id := by decide
    exact instanceIds
  exact ⟨creating, deletions_come_to_their_end driver settings (fun _ => "2") history 0 change 2
    (Duration.ofMilliseconds 1) rfl rfl (by decide) rfl (.deprovision (by decide) (by decide)) plain
    fun polls async => Nat.le_of_eq (Mock.Mode.async.inj async).symm⟩

end Driver

end ServiceBroker
