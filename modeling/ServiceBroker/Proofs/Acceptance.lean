import ServiceBroker.Client.Script
import ServiceBroker.Proofs.Requests

/-!
# What becomes of an acceptance

Once a broker has accepted a change, the change runs whether the caller hears of it or
not. So the call that asked for it should end with something that the caller can keep: the
operation in flight, or how it ended.

It does, with one exception. A driver may be told to take an acceptance without a token for
a success. If a binding was asked for, the driver then fetches it, and that is a second
round trip, which can fail. Its error is the result of the call (`Driver.error_start_iff`),
and nothing in it says that the change was accepted
(`Driver.accepted_binding_lost`).
-/

namespace ServiceBroker.Driver

/-- **A fetch ends with an error** exactly when its round trip fails. -/
theorem fetched_eq_error_iff (reply : Reply) (error : CallError) :
    fetched reply = .error error ↔ reply.FailsWith .getBinding Binding.ofBody error := by
  refine ⟨fun ended => ?_, fetched_of_failure⟩
  obtain gone | ⟨other, fails⟩ | ⟨binding, answers⟩ := reply.sorted .getBinding Binding.ofBody
  · rw [fetched_of_gone gone] at ended
    exact nomatch ended
  · rw [fetched_of_failure fails] at ended
    obtain rfl := Except.error.inj ended
    exact fails
  · rw [fetched_of_answer answers] at ended
    exact nomatch ended

/-- A fetch that ends without an error ends the change. -/
theorem isTerminal_of_fetched {reply : Reply} {progress : Progress}
    (ended : fetched reply = .ok progress) : progress.isTerminal = true := by
  obtain gone | ⟨error, fails⟩ | ⟨binding, answers⟩ := reply.sorted .getBinding Binding.ofBody
  · rw [fetched_of_gone gone] at ended
    obtain rfl := Except.ok.inj ended
    rfl
  · rw [fetched_of_failure fails] at ended
    exact nomatch ended
  · rw [fetched_of_answer answers] at ended
    obtain rfl := Except.ok.inj ended
    rfl

section Start

variable {σ : Type} (world : Dialogue.World σ) (driver : Driver) (change : Change) (state : σ)

/-- **The reply to the request for a change**, and the state after it. -/
def answered : Reply × σ := world.reply state (change.request driver.broker)

/-- **The reply that shows a binding** right after it was accepted without a token. -/
def shownAtOnce (bindingId : String) : Reply :=
  (world.reply (driver.answered world change state).2
    (driver.fetchRequest (change.track none) bindingId)).1

/-- A start takes up the outcome in the reply to its request. -/
theorem run_start_answered :
    (driver.start change).run world state
      = let rest := (driver.takeUp change (change.outcome
          (driver.answered world change state).1)).run world (driver.answered world change state).2
        { rest with requests := change.request driver.broker :: rest.requests } := by
  rw [start_eq]
  rfl

@[simp] theorem operation_track (token : Option String) :
    (change.track token).operation = token := by
  cases change <;> rfl

variable {world driver change state} {token : Option String}

/-- **After an acceptance, a start goes on with the tracked change.** -/
theorem run_start_of_accepts
    (accepts : (driver.answered world change state).1.Accepts token) :
    (driver.start change).run world state
      = let rest := (driver.accepted (change.track token)).run world
          (driver.answered world change state).2
        { rest with requests := change.request driver.broker :: rest.requests } := by
  rw [run_start_answered, (change.outcome_eq_accepted_iff _ token).mpr accepts]
  rfl

/-- **A token keeps a change in flight**, and so does a driver that polls without one. -/
theorem result_start_inFlight (accepts : (driver.answered world change state).1.Accepts token)
    (tracked : ¬(token = none ∧ driver.settings.missingToken = .assumeSucceeded)) :
    ((driver.start change).run world state).result
      = .ok (.inFlight (change.track token) none) := by
  rw [run_start_of_accepts accepts]
  unfold Driver.accepted
  rw [operation_track, if_neg tracked]
  rfl

/-- **An acceptance that is taken for a success** ends the change, with the fetch of the
binding if one is created. -/
theorem result_start_assumed (accepts : (driver.answered world change state).1.Accepts none)
    (assumes : driver.settings.missingToken = .assumeSucceeded) :
    ((driver.start change).run world state).result
      = match (change.track none).creates? with
        | none => .ok (.succeeded none)
        | some bindingId => fetched (driver.shownAtOnce world change state bindingId) := by
  rw [run_start_of_accepts accepts]
  unfold Driver.accepted
  rw [operation_track, if_pos ⟨rfl, assumes⟩, succeeded_eq]
  cases (change.track none).creates? <;> rfl

/-- **A change that is reported in flight has been accepted**, and is tracked with the token of
the acceptance. Nothing has been sent after the request for it. -/
theorem accepts_of_inFlight {tracked : TrackedOperation} {description : Option String}
    (started : ((driver.start change).run world state).result
      = .ok (.inFlight tracked description)) :
    ∃ token, (driver.answered world change state).1.Accepts token ∧
      tracked = change.track token ∧
      ((driver.start change).run world state).state = (driver.answered world change state).2 := by
  obtain ⟨token, accepts⟩ : ∃ token, (driver.answered world change state).1.Accepts token := by
    rw [run_start_answered] at started
    cases outcome : change.outcome (driver.answered world change state).1 with
    | error error =>
      rw [outcome] at started
      exact nomatch started
    | ok result =>
      cases result with
      | complete binding =>
        rw [outcome] at started
        exact nomatch started
      | accepted token => exact ⟨token, (change.outcome_eq_accepted_iff _ token).mp outcome⟩
  refine ⟨token, accepts, ?_⟩
  -- An acceptance that is taken for a success ends the change, so the policy was the other one.
  by_cases assumed : token = none ∧ driver.settings.missingToken = .assumeSucceeded
  · obtain ⟨rfl, assumes⟩ := assumed
    rw [result_start_assumed accepts assumes] at started
    split at started
    · exact nomatch started
    · exact nomatch isTerminal_of_fetched started
  · rw [run_start_of_accepts accepts] at started ⊢
    unfold Driver.accepted at started ⊢
    rw [operation_track, if_neg assumed] at started ⊢
    obtain ⟨rfl, -⟩ := Progress.inFlight.inj (Except.ok.inj started)
    exact ⟨rfl, rfl⟩

variable (world driver change state)

/-- **What an acceptance leaves the caller with.** The operation is in flight, unless the
acceptance has no token and is taken for a success; then the change has ended. The call
ends with an error only if the acceptance was taken for a success, a binding was asked for,
and the round trip that fetches it fails; the error is that of this round trip. -/
theorem error_start_iff (token : Option String)
    (accepts : (driver.answered world change state).1.Accepts token) :
    let result := ((driver.start change).run world state).result
    (∀ error, result = .error error ↔
      ∃ bindingId, (change.track none).creates? = some bindingId ∧ token = none ∧
        driver.settings.missingToken = .assumeSucceeded ∧
        (driver.shownAtOnce world change state bindingId).FailsWith .getBinding Binding.ofBody
          error) ∧
    ∀ progress, result = .ok progress →
      progress = .inFlight (change.track token) none ∨
        (token = none ∧ driver.settings.missingToken = .assumeSucceeded ∧
          progress.isTerminal = true) := by
  intro result
  by_cases assumed : token = none ∧ driver.settings.missingToken = .assumeSucceeded
  · obtain ⟨rfl, assumes⟩ := assumed
    have ends : result = _ := result_start_assumed accepts assumes
    rw [ends]
    cases (change.track none).creates? with
    | none =>
      refine ⟨fun error => iff_of_false (fun ended => nomatch ended)
        (fun ⟨_, created, _⟩ => nomatch created), fun progress ended => ?_⟩
      obtain rfl := Except.ok.inj ended
      exact .inr ⟨rfl, assumes, rfl⟩
    | some bindingId =>
      refine ⟨fun error => ?_, fun progress ended =>
        .inr ⟨rfl, assumes, isTerminal_of_fetched ended⟩⟩
      dsimp only
      rw [fetched_eq_error_iff]
      refine ⟨fun fails => ⟨bindingId, rfl, rfl, assumes, fails⟩, ?_⟩
      rintro ⟨other, same, -, -, fails⟩
      obtain rfl := Option.some.inj same
      exact fails
  · have inFlight : result = _ := result_start_inFlight accepts assumed
    rw [inFlight]
    refine ⟨fun error => iff_of_false (fun ended => nomatch ended)
      fun ⟨_, _, missing, assumes, _⟩ => assumed ⟨missing, assumes⟩, fun progress ended => ?_⟩
    exact .inl (Except.ok.inj ended).symm

end Start

/-- The broker accepts a binding without a token and shows it at once: a driver that takes the
acceptance for a success ends without an error. -/
theorem error_start_shown :
    let driver : Driver :=
      { broker := Broker.make "http://broker" "u" "p"
        settings := { missingToken := .assumeSucceeded } }
    let change : Change :=
      .bind { instanceId := "i", bindingId := "b", serviceId := "s", planId := "p" }
    let script : Script :=
      { entries := [{ reply := .ok { status := 202, body := "" } },
          { reply := .ok { status := 200, body := "" } }] }
    (driver.answered Script.world change script).1.Accepts none ∧
      ∀ error, ((driver.start change).run Script.world script).result ≠ .error error := by
  intro driver change script
  have accepts : (driver.answered Script.world change script).1.Accepts none :=
    ⟨_, rfl, rfl, rfl⟩
  refine ⟨accepts, fun error ended => ?_⟩
  obtain ⟨bindingId, -, -, -, fails⟩ :=
    ((error_start_iff Script.world driver change script none accepts).1 error).mp ended
  exact fails.not_answers {} ⟨_, rfl, rfl, rfl⟩

/-- **A binding that was accepted and is lost.** The broker accepts the request without a token
and cannot show the binding yet; all that the caller learns is the error of the second round
trip. -/
theorem accepted_binding_lost :
    let driver : Driver :=
      { broker := Broker.make "http://broker" "u" "p"
        settings := { missingToken := .assumeSucceeded } }
    let change : Change :=
      .bind { instanceId := "i", bindingId := "b", serviceId := "s", planId := "p" }
    let script : Script :=
      { entries := [{ reply := .ok { status := 202, body := "{}" } },
          { reply := .ok { status := 500, body := "boom" } }] }
    (driver.answered Script.world change script).1.Accepts none ∧
      ((driver.start change).run Script.world script).result
        = .error (.failed .getBinding 500 "boom" none none) := by
  intro driver change script
  have accepts : (driver.answered Script.world change script).1.Accepts none :=
    ⟨_, rfl, rfl, rfl⟩
  exact ⟨accepts, rfl⟩

end ServiceBroker.Driver
