import Mathlib.Logic.Basic
import ServiceBroker.Client.Driver
import ServiceBroker.Proofs.Reply

/-!
# The steps of a driver, request by request

A driver's step is one request, what is made of its reply, and perhaps one more
request. This module says which requests these are, field by field, and brings
both steps into that form: `Driver.start_eq` and `Driver.poll_eq`. Everything
that is proved of drivers starts from these two equations, and the steps
themselves are not opened again.

The only second request is the one that fetches a binding (`Driver.fetchRequest`).
It is sent in one place, at the end of a creation of a binding that succeeded
(`Driver.succeeded_eq`).
-/

namespace ServiceBroker

/-! ## The requests -/

/-- **A correlation field in a query**: left out when it is absent or empty. -/
def correlate (name : String) (value : Option String) : List (String × String) :=
  match value with
  | none => []
  | some value => if value = "" then [] else [(name, value)]

/-- The fields of a query are those that have a value which is not empty. -/
theorem filterMap_correlate (fields : List (String × Option String)) :
    (fields.filterMap fun (name, value) =>
        (value.filter (· ≠ "")).map fun value => (name, value))
      = fields.flatMap fun (name, value) => correlate name value := by
  induction fields with
  | nil => rfl
  | cons field fields ih =>
    obtain ⟨name, _ | value⟩ := field
    · rw [List.filterMap_cons_none rfl, ih]
      rfl
    · rw [List.flatMap_cons, ← ih]
      by_cases empty : value = ""
      · rw [List.filterMap_cons_none (by simp [empty])]
        simp [correlate, empty]
      · rw [List.filterMap_cons_some (b := (name, value)) (by simp [empty])]
        simp [correlate, empty]

namespace TrackedOperation

/-- **The endpoint of the last operation**: that of the binding if the operation
works on one, and that of the instance otherwise. -/
def endpoint (tracked : TrackedOperation) : Endpoint :=
  match tracked.kind.bindingId? with
  | none => .instanceLastOperation tracked.instanceId
  | some bindingId => .bindingLastOperation tracked.instanceId bindingId

/-- The operation that asks at that endpoint. -/
def question (tracked : TrackedOperation) : Operation :=
  match tracked.kind.bindingId? with
  | none => .instanceLastOperation
  | some _ => .bindingLastOperation

/-- **The binding that the operation creates**, if it creates one. -/
def creates? (tracked : TrackedOperation) : Option String :=
  match tracked.kind with
  | .bind bindingId => some bindingId
  | .provision | .deprovision | .unbind _ => none

end TrackedOperation

namespace Driver

/-- **The request of a poll.** -/
def pollRequest (driver : Driver) (tracked : TrackedOperation) : Http.Request where
  method := .get
  path := driver.broker.baseUrl ++ tracked.endpoint.path
  query := correlate "service_id" tracked.serviceId ++ correlate "plan_id" tracked.planId
    ++ correlate "operation" tracked.operation
  headers := driver.broker.headers false
  body := none

/-- **The request that fetches a binding.** -/
def fetchRequest (driver : Driver) (tracked : TrackedOperation) (bindingId : String) :
    Http.Request where
  method := .get
  path := driver.broker.baseUrl
    ++ (Endpoint.serviceBinding tracked.instanceId bindingId).path
  query := correlate "service_id" tracked.serviceId ++ correlate "plan_id" tracked.planId
  headers := driver.broker.headers false
  body := none

end Driver

namespace Change

/-- The operation of a change. -/
def operation : Change → Operation
  | .provision _ => .provision
  | .deprovision _ => .deprovision
  | .bind _ => .bind
  | .unbind _ => .unbind

/-- The method that asks for a change: creating is a PUT, deleting a DELETE. -/
def method : Change → Http.Method
  | .provision _ | .bind _ => .put
  | .deprovision _ | .unbind _ => .delete

/-- **The request that asks for a change.** -/
def request (broker : Broker) : Change → Http.Request
  | .provision request => broker.request .provision request
  | .deprovision request => broker.request .deprovision request
  | .bind request => broker.request .bind request
  | .unbind request => broker.request .unbind request

@[simp] theorem method_request (broker : Broker) (change : Change) :
    (change.request broker).method = change.method := by
  cases change <;> rfl

theorem method_ne_get (change : Change) : change.method ≠ .get := by
  cases change <;> exact nofun

/-- **What the reply to a change says**: the outcome, with the binding if one was
created at once. -/
def outcome : Change → Reply → Except CallError (Outcome (Option Binding))
  | .provision _, reply => (Operation.provision.read reply).map (·.map fun _ => none)
  | .deprovision _, reply => (Operation.deprovision.read reply).map (·.map fun _ => none)
  | .bind _, reply => (Operation.bind.read reply).map (·.map some)
  | .unbind _, reply => (Operation.unbind.read reply).map (·.map fun _ => none)

/-- **Asking for a change is one request** and the outcome in its reply. -/
theorem ask_eq (broker : Broker) (change : Change) :
    change.ask broker
      = .send (change.request broker) fun reply => .done (change.outcome reply) := by
  cases change with
  | provision request => rw [ask, Broker.call_eq]; rfl
  | deprovision request => rw [ask, Broker.call_eq]; rfl
  | bind request => rw [ask, Broker.call_eq]; rfl
  | unbind request => rw [ask, Broker.call_eq]; rfl

end Change

/-! ## The steps -/

namespace Driver

/-- **What is made of the reply that shows a binding.** -/
def fetched (reply : Reply) : Result :=
  match readAnswer .getBinding Binding.ofBody reply with
  | .ok binding => .ok (.succeeded (some binding))
  | .error (.gone _) => .ok (.failed .gone)
  | .error error => .error error

theorem fetched_of_answer {reply : Reply} {binding : Binding}
    (answers : reply.Answers Binding.ofBody binding) :
    fetched reply = .ok (.succeeded (some binding)) := by
  unfold fetched
  rw [(readAnswer_eq_ok_iff _ _ _ _).mpr answers]

theorem fetched_of_gone {reply : Reply} (gone : reply.HasStatus 410) :
    fetched reply = .ok (.failed .gone) := by
  unfold fetched
  rw [gone.readAnswer_eq]

theorem fetched_of_failure {reply : Reply} {error : CallError}
    (fails : reply.FailsWith .getBinding Binding.ofBody error) :
    fetched reply = .error error := by
  unfold fetched
  rw [fails.readAnswer_eq]
  have notGone := fails.isGone_eq
  cases error with
  | gone operation => exact nomatch (show true = false from notGone)
  | transport fault => rfl
  | conflict operation body => rfl
  | failed operation status body code description => rfl
  | malformed operation source => rfl

/-- **The end of an operation that succeeded**: the fetch of the binding that was
created, if one was. -/
theorem succeeded_eq (driver : Driver) (tracked : TrackedOperation) :
    driver.succeeded tracked
      = match tracked.creates? with
        | none => .done (.ok (.succeeded none))
        | some bindingId =>
          .send (driver.fetchRequest tracked bindingId) fun reply => .done (fetched reply) := by
  obtain ⟨kind, instanceId, serviceId, planId, operation⟩ := tracked
  cases kind with
  | provision => rfl
  | deprovision => rfl
  | unbind bindingId => rfl
  | bind bindingId =>
    unfold succeeded
    simp only [Broker.call_eq]
    refine congrArg₂ Dialogue.send ?_ (funext fun reply => ?_)
    · simp only [Broker.request, Operation.query, Operation.correlation, filterMap_correlate]
      simp only [List.flatMap_cons, List.flatMap_nil, List.append_nil]
      rfl
    · show Dialogue.bind (.done _) _ = Dialogue.done (fetched reply)
      rw [read_getBinding]
      unfold fetched
      cases readAnswer .getBinding Binding.ofBody reply with
      | ok binding => rfl
      | error error => cases error <;> rfl

/-- **Asking for the last operation is one request** and the reading of its reply. -/
theorem lastOperation_eq (driver : Driver) (tracked : TrackedOperation) :
    driver.lastOperation tracked
      = .send (driver.pollRequest tracked) fun reply =>
          .done (readAnswer tracked.question LastOperation.ofBody reply) := by
  obtain ⟨kind, instanceId, serviceId, planId, operation⟩ := tracked
  unfold lastOperation pollRequest TrackedOperation.endpoint TrackedOperation.question
  dsimp only
  cases kind.bindingId? with
  | none =>
    dsimp only
    rw [Broker.call_eq]
    refine congrArg₂ Dialogue.send ?_
      (funext fun reply => congrArg Dialogue.done (read_instanceLastOperation reply))
    simp only [Broker.request, Operation.query, Operation.correlation, filterMap_correlate]
    simp only [List.flatMap_cons, List.flatMap_nil, List.append_nil, List.append_assoc]
    rfl
  | some bindingId =>
    dsimp only
    rw [Broker.call_eq]
    refine congrArg₂ Dialogue.send ?_
      (funext fun reply => congrArg Dialogue.done (read_bindingLastOperation reply))
    simp only [Broker.request, Operation.query, Operation.correlation, filterMap_correlate]
    simp only [List.flatMap_cons, List.flatMap_nil, List.append_nil, List.append_assoc]
    rfl

/-- **What a poll goes on with**, once the last operation has been read. -/
def settle (driver : Driver) (tracked : TrackedOperation) :
    Except CallError LastOperation → Dialogue Result
  | .error (.gone _) =>
    .done (if tracked.kind.isDelete then .ok (.succeeded none) else .ok (.failed .gone))
  | .error error => .done (.error error)
  | .ok last =>
    match last.state with
    | .inProgress => .done (.ok (.inFlight tracked last.description))
    | .succeeded => driver.succeeded tracked
    | .failed => .done (.ok (.failed (.broker last.description)))

theorem settle_succeeded (driver : Driver) (tracked : TrackedOperation) {last : LastOperation}
    (succeeded : last.state = .succeeded) :
    driver.settle tracked (.ok last) = driver.succeeded tracked := by
  unfold settle
  dsimp only
  rw [succeeded]

/-- **A poll is one request for the last operation**, and what is made of it. -/
theorem poll_eq (driver : Driver) (tracked : TrackedOperation) :
    driver.poll tracked
      = .send (driver.pollRequest tracked) fun reply =>
          driver.settle tracked (readAnswer tracked.question LastOperation.ofBody reply) := by
  unfold poll
  rw [lastOperation_eq]
  refine congrArg (Dialogue.send _) (funext fun reply => ?_)
  show Dialogue.bind (.done _) _ = _
  unfold Dialogue.bind settle
  cases readAnswer tracked.question LastOperation.ofBody reply with
  | ok last => rfl
  | error error =>
    cases error with
    | gone operation => dsimp only; split <;> rfl
    | transport fault => rfl
    | conflict operation body => rfl
    | failed operation status body code description => rfl
    | malformed operation source => rfl

/-! ### The run of a poll, by the reply to its question -/

section Poll

variable {σ : Type} (world : Dialogue.World σ) (driver : Driver) (tracked : TrackedOperation)
  (state : σ)

/-- **The reply to the question** of a poll, and the state after it. -/
def asked : Reply × σ := world.reply state (driver.pollRequest tracked)

/-- **The reply that shows the binding**, if a poll fetches one, and the state after
it. -/
def shown (bindingId : String) : Reply × σ :=
  world.reply (driver.asked world tracked state).2 (driver.fetchRequest tracked bindingId)

/-- A poll settles the reply to its question. -/
theorem run_poll :
    (driver.poll tracked).run world state =
      let rest := (driver.settle tracked (readAnswer tracked.question LastOperation.ofBody
        (driver.asked world tracked state).1)).run world (driver.asked world tracked state).2
      { rest with requests := driver.pollRequest tracked :: rest.requests } := by
  rw [poll_eq]
  rfl

variable {world driver tracked state}

/-- Gone is the goal of a deletion and the failure of a creation. -/
theorem run_poll_of_gone (gone : (driver.asked world tracked state).1.HasStatus 410) :
    (driver.poll tracked).run world state =
      { result := if tracked.kind.isDelete then .ok (.succeeded none) else .ok (.failed .gone)
        state := (driver.asked world tracked state).2
        requests := [driver.pollRequest tracked] } := by
  rw [run_poll, gone.readAnswer_eq]
  rfl

/-- The error of the round trip is that of the poll. -/
theorem run_poll_of_failure {error : CallError}
    (fails : (driver.asked world tracked state).1.FailsWith tracked.question
      LastOperation.ofBody error) :
    (driver.poll tracked).run world state =
      { result := .error error
        state := (driver.asked world tracked state).2
        requests := [driver.pollRequest tracked] } := by
  rw [run_poll, fails.readAnswer_eq]
  have notGone := fails.isGone_eq
  cases error with
  | gone operation => exact nomatch (show true = false from notGone)
  | transport fault => rfl
  | conflict operation body => rfl
  | failed operation status body code description => rfl
  | malformed operation source => rfl

/-- An answer is settled by the state that it reports. -/
theorem run_poll_of_answer {last : LastOperation}
    (answers : (driver.asked world tracked state).1.Answers LastOperation.ofBody last) :
    (driver.poll tracked).run world state =
      let rest := (driver.settle tracked (.ok last)).run world
        (driver.asked world tracked state).2
      { rest with requests := driver.pollRequest tracked :: rest.requests } := by
  rw [run_poll, (readAnswer_eq_ok_iff tracked.question _ _ _).mpr answers]

/-- What is in progress stays in flight. -/
theorem run_poll_of_inProgress {description : Option String}
    (answers : (driver.asked world tracked state).1.Answers LastOperation.ofBody
      { state := .inProgress, description }) :
    (driver.poll tracked).run world state =
      { result := .ok (.inFlight tracked description)
        state := (driver.asked world tracked state).2
        requests := [driver.pollRequest tracked] } :=
  run_poll_of_answer answers

/-- A failure is the one that the broker reports. -/
theorem run_poll_of_failed {description : Option String}
    (answers : (driver.asked world tracked state).1.Answers LastOperation.ofBody
      { state := .failed, description }) :
    (driver.poll tracked).run world state =
      { result := .ok (.failed (.broker description))
        state := (driver.asked world tracked state).2
        requests := [driver.pollRequest tracked] } :=
  run_poll_of_answer answers

/-- Success ends what creates no binding. -/
theorem run_poll_of_success (success : (driver.asked world tracked state).1.ReportsSuccess)
    (creates : tracked.creates? = none) :
    (driver.poll tracked).run world state =
      { result := .ok (.succeeded none)
        state := (driver.asked world tracked state).2
        requests := [driver.pollRequest tracked] } := by
  obtain ⟨last, answers, succeeded⟩ := success
  rw [run_poll_of_answer answers, settle_succeeded driver tracked succeeded, succeeded_eq,
    creates]
  rfl

/-- After success, the binding that was created is fetched. -/
theorem run_poll_of_success_fetch {bindingId : String}
    (success : (driver.asked world tracked state).1.ReportsSuccess)
    (creates : tracked.creates? = some bindingId) :
    (driver.poll tracked).run world state =
      { result := fetched (driver.shown world tracked state bindingId).1
        state := (driver.shown world tracked state bindingId).2
        requests := [driver.pollRequest tracked, driver.fetchRequest tracked bindingId] } := by
  obtain ⟨last, answers, succeeded⟩ := success
  rw [run_poll_of_answer answers, settle_succeeded driver tracked succeeded, succeeded_eq,
    creates]
  rfl

variable (world driver tracked state)

/-- **The reply to the question of a poll** is gone, fails, or reports one of three
states. -/
theorem asked_sorted :
    (driver.asked world tracked state).1.HasStatus 410
      ∨ (∃ error, (driver.asked world tracked state).1.FailsWith tracked.question
          LastOperation.ofBody error)
      ∨ (∃ description, (driver.asked world tracked state).1.Answers LastOperation.ofBody
          { state := .inProgress, description })
      ∨ (∃ description, (driver.asked world tracked state).1.Answers LastOperation.ofBody
          { state := .failed, description })
      ∨ (driver.asked world tracked state).1.ReportsSuccess := by
  obtain gone | fails | ⟨⟨reported, description⟩, answers⟩ :=
    Reply.sorted tracked.question LastOperation.ofBody (driver.asked world tracked state).1
  · exact .inl gone
  · exact .inr (.inl fails)
  · cases reported with
    | inProgress => exact .inr (.inr (.inl ⟨_, answers⟩))
    | failed => exact .inr (.inr (.inr (.inl ⟨_, answers⟩)))
    | succeeded => exact .inr (.inr (.inr (.inr ⟨_, answers, rfl⟩)))

end Poll

/-! ### The run of a start -/

/-- **What a start goes on with**, once the outcome has been read. -/
def takeUp (driver : Driver) (change : Change) :
    Except CallError (Outcome (Option Binding)) → Dialogue Result
  | .error error => .done (.error error)
  | .ok (.complete binding) => .done (.ok (.complete binding))
  | .ok (.accepted token) => driver.accepted (change.track token)

/-- **A start is one request for the change**, and what is made of its outcome. -/
theorem start_eq (driver : Driver) (change : Change) :
    driver.start change
      = .send (change.request driver.broker) fun reply =>
          driver.takeUp change (change.outcome reply) := by
  unfold start
  rw [Change.ask_eq]
  refine congrArg (Dialogue.send _) (funext fun reply => ?_)
  show Dialogue.bind (.done _) _ = _
  unfold Dialogue.bind takeUp
  cases change.outcome reply with
  | error error => rfl
  | ok outcome => cases outcome <;> rfl

/-! ### Going on from a step -/

/-- A step leaves an operation in flight, or has ended. -/
theorem inFlight_or_ended (result : Result) :
    (∃ tracked description, result = .ok (.inFlight tracked description)) ∨
      ∀ tracked description, result ≠ .ok (.inFlight tracked description) := by
  cases result with
  | error error => exact .inr nofun
  | ok progress =>
    cases progress with
    | inFlight tracked description => exact .inl ⟨tracked, description, rfl⟩
    | complete binding => exact .inr nofun
    | succeeded binding => exact .inr nofun
    | failed failure => exact .inr nofun

/-- A loop goes on from nothing but an operation in flight. -/
theorem goOn_eq_done (driver : Driver) (interval : Duration) (rounds : Nat) {result : Result}
    (ended : ∀ tracked description, result ≠ .ok (.inFlight tracked description)) :
    driver.goOn interval rounds result = .done (some result) := by
  unfold goOn
  cases result with
  | error error => rfl
  | ok progress =>
    cases progress with
    | inFlight tracked description => exact absurd rfl (ended tracked description)
    | complete binding => rfl
    | succeeded binding => rfl
    | failed failure => rfl

section Loop

variable {σ : Type} (world : Dialogue.World σ) (driver : Driver) (tracked : TrackedOperation)
  (interval : Duration) (rounds : Nat) (state : σ)

/-- **A loop goes on after the wait** with the next poll, unless the token is cancelled by
then. -/
theorem run_goOn_inFlight (description : Option String) :
    (driver.goOn interval (rounds + 1) (.ok (.inFlight tracked description))).run world state
      = if (world.wait state interval).1 then
          { result := some (.ok (.inFlight tracked description))
            state := (world.wait state interval).2
            requests := [] }
        else
          ((driver.poll tracked).bind (driver.goOn interval rounds)).run world
            (world.wait state interval).2 := by
  rw [goOn, Dialogue.run]
  generalize world.wait state interval = after
  obtain ⟨cancelled, after⟩ := after
  cases cancelled <;> rfl

/-- **Polling until the end begins with a poll**, unless the token is cancelled before. -/
theorem run_pollUntilTerminal :
    (driver.pollUntilTerminal rounds interval tracked).run world state
      = if world.cancelled state then
          { result := some (.ok (.inFlight tracked none)), state := state, requests := [] }
        else ((driver.poll tracked).bind (driver.goOn interval rounds)).run world state := by
  unfold pollUntilTerminal
  rw [Dialogue.run]
  cases world.cancelled state <;> rfl

end Loop

end Driver

end ServiceBroker
