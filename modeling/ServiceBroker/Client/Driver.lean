import ServiceBroker.Client.Change
import ServiceBroker.Client.Progress
import ServiceBroker.Settings

/-!
# Driving a change to its end

A driver starts a change with exactly one request. If the broker makes the
change at once, it is complete. If the broker accepts it for later, the driver
hands out the tracked operation and the caller polls it: one request asks for
the last operation, and when a binding has been created a second one fetches
it, because the acceptance did not carry its credentials.

While something is being deleted, gone is the goal; while something is being
created, gone is its failure. Nothing else that goes wrong in a poll is taken
for the end of the operation – it is an error of the call, and the operation
may still be running.

`Driver.pollUntilTerminal` repeats the poll with a wait between rounds until
the operation has ended or the token is cancelled. It is given a number of
rounds, so that it is a dialogue of finite depth; it has no result if the
rounds run out.
-/

namespace ServiceBroker

/-- **A driver of changes**: the broker and what is made of an acceptance
without a token. -/
structure Driver where
  broker : Broker
  settings : DriverSettings := {}

namespace Driver

/-- A step of a driver: how far the change has come, or the error of a call. -/
abbrev Result := Except CallError Progress

/-- **The end of an operation that succeeded.** A binding that was created is
fetched; if it is gone by then, the operation has failed. -/
def succeeded (driver : Driver) (tracked : TrackedOperation) : Dialogue Result :=
  match tracked.kind with
  | .bind bindingId => do
    let fetched ← driver.broker.call .getBinding
      { instanceId := tracked.instanceId, bindingId, serviceId := tracked.serviceId,
        planId := tracked.planId }
    match fetched with
    | .ok binding => return .ok (.succeeded (some binding))
    | .error (.gone _) => return .ok (.failed .gone)
    | .error error => return .error error
  | .provision | .deprovision | .unbind _ => .done (.ok (.succeeded none))

/-- **What is made of an acceptance.** Without a token it counts as success if
the policy says so; otherwise the operation is in flight. -/
def accepted (driver : Driver) (tracked : TrackedOperation) : Dialogue Result :=
  if tracked.operation = none ∧ driver.settings.missingToken = .assumeSucceeded then
    driver.succeeded tracked
  else .done (.ok (.inFlight tracked none))

/-- **Starting a change.** -/
def start (driver : Driver) (change : Change) : Dialogue Result := do
  match ← change.ask driver.broker with
  | .error error => return .error error
  | .ok (.complete binding) => return .ok (.complete binding)
  | .ok (.accepted token) => driver.accepted (change.track token)

/-- **Asking for the last operation** that a tracked one is: on the binding if
there is one, and on the instance otherwise. -/
def lastOperation (driver : Driver) (tracked : TrackedOperation) :
    Dialogue (Except CallError LastOperation) :=
  match tracked.kind.bindingId? with
  | none =>
    driver.broker.call .instanceLastOperation
      { instanceId := tracked.instanceId, serviceId := some tracked.serviceId,
        planId := some tracked.planId, operation := tracked.operation }
  | some bindingId =>
    driver.broker.call .bindingLastOperation
      { instanceId := tracked.instanceId, bindingId, serviceId := some tracked.serviceId,
        planId := some tracked.planId, operation := tracked.operation }

/-- **One poll of an operation in flight.** -/
def poll (driver : Driver) (tracked : TrackedOperation) : Dialogue Result := do
  match ← driver.lastOperation tracked with
  | .error (.gone _) =>
    if tracked.kind.isDelete then return .ok (.succeeded none) else return .ok (.failed .gone)
  | .error error => return .error error
  | .ok last =>
    match last.state with
    | .inProgress => return .ok (.inFlight tracked last.description)
    | .succeeded => driver.succeeded tracked
    | .failed => return .ok (.failed (.broker last.description))

/-- **Going on from a step** until the operation has ended, with a wait before
every further poll. When the wait ends with the token cancelled, the last step
is the result. -/
def goOn (driver : Driver) (interval : Duration) : Nat → Result → Dialogue (Option Result)
  | _, .error error => .done (some (.error error))
  | rounds, .ok progress =>
    match progress with
    | .inFlight tracked _ =>
      .wait interval fun cancelled =>
        if cancelled then .done (some (.ok progress))
        else
          match rounds with
          | 0 => .done none
          | rounds + 1 => (driver.poll tracked).bind (driver.goOn interval rounds)
    | _ => .done (some (.ok progress))

/-- **Polling until the operation has ended** or the token is cancelled. A token
that is cancelled at the start lets nothing be sent. -/
def pollUntilTerminal (driver : Driver) (rounds : Nat) (interval : Duration)
    (tracked : TrackedOperation) : Dialogue (Option Result) :=
  .look fun cancelled =>
    if cancelled then .done (some (.ok (.inFlight tracked none)))
    else (driver.poll tracked).bind (driver.goOn interval rounds)

end Driver

end ServiceBroker
