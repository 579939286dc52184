import ServiceBroker.Proofs.Acceptance
import ServiceBroker.Proofs.Bodies
import ServiceBroker.Proofs.Sorting

/-!
# What a start makes of the replies

A start looks at one reply, to the request for the change, and at a second one only if an
acceptance without a token is taken for a success and a binding has to be fetched. Its result
depends on nothing else. `Driver.Opening` says which replies lead to which result, in terms of
statuses and bodies.

A change is made at once by an answer that counts as a success of its operation
(`Change.CompletedBy`): 200 or 201 with a body that can be read for a creation, 200 or 410 with
any body for a deletion. A 202 with a body that can be read is an acceptance, with a token or
without. All else is an error. So a driver that polls without a token never reports the end of a
change that was only accepted (`Driver.result_start_iff`).
-/

namespace ServiceBroker

/-! ## The first reply -/

/-- **The reply says that a change is made**, and shows the binding if one was asked for. -/
inductive Change.CompletedBy : Change → Reply → Option Binding → Prop where
  /-- An instance is there, new or as before. -/
  | provisioned {request : ProvisionRequest} {response : Http.Response} {provisioned : Provisioned}
      (ok : response.status = 200 ∨ response.status = 201)
      (readable : Json.decodeOr {} Provisioned.record.read response.body = .ok provisioned) :
      CompletedBy (.provision request) (.ok response) none
  /-- An instance is not there, or not any more. -/
  | deprovisioned {request : DeprovisionRequest} {response : Http.Response}
      (ok : response.status = 200 ∨ response.status = 410) :
      CompletedBy (.deprovision request) (.ok response) none
  /-- A binding is there, and is shown. -/
  | bound {request : BindRequest} {response : Http.Response} {binding : Binding}
      (ok : response.status = 200 ∨ response.status = 201)
      (readable : Binding.ofBody response.body = .ok binding) :
      CompletedBy (.bind request) (.ok response) (some binding)
  /-- A binding is not there, or not any more. -/
  | unbound {request : UnbindRequest} {response : Http.Response}
      (ok : response.status = 200 ∨ response.status = 410) :
      CompletedBy (.unbind request) (.ok response) none

theorem map_eq_complete_iff {α β : Type} (f : α → β) (read : Except CallError (Outcome α)) (b : β) :
    read.map (·.map f) = .ok (.complete b) ↔ ∃ a, read = .ok (.complete a) ∧ f a = b := by
  cases read with
  | error error => simp [Except.map]
  | ok outcome => cases outcome <;> simp [Except.map, Outcome.map]

section Complete

variable {response : Http.Response}

/-- The answer to a creation is complete with 200 or 201 and a body that can be read. -/
theorem creation_eq_complete_iff {α : Type} {empty : α} {operation : Operation}
    {reader : Json.Reader α} (creates : operation = .provision ∨ operation = .bind) (a : α) :
    creation empty operation reader response = .ok (.complete a) ↔
      (response.status = 200 ∨ response.status = 201) ∧
        Json.decodeOr empty reader response.body = .ok a := by
  rw [creation_eq _ _ _ _ creates]
  split_ifs with ok accepted
  · cases Json.decodeOr empty reader response.body <;> simp [Except.map, Except.mapError, ok]
  · cases AcceptedBody.tokenOf response.body <;> simp [Except.map, Except.mapError, ok]
  · simp [ok]

/-- The answer to a deletion is complete with 200 or 410. -/
theorem deletion_eq_complete_iff {operation : Operation}
    (deletes : operation = .deprovision ∨ operation = .unbind) :
    deletion operation response = .ok (.complete ()) ↔
      response.status = 200 ∨ response.status = 410 := by
  rw [deletion_eq _ _ deletes]
  split_ifs with ok accepted
  · simp [ok]
  · cases AcceptedBody.tokenOf response.body <;> simp [Except.map, Except.mapError, ok]
  · simp [ok]

end Complete

/-- **A change is complete** with the replies that say that it is made, and no other. -/
theorem Change.outcome_eq_complete_iff (change : Change) (reply : Reply)
    (binding? : Option Binding) :
    change.outcome reply = .ok (.complete binding?) ↔ change.CompletedBy reply binding? := by
  cases reply with
  | error fault =>
    refine iff_of_false ?_ nofun
    cases change <;> exact nofun
  | ok response =>
    cases change with
    | provision request =>
      rw [outcome, map_eq_complete_iff]
      constructor
      · rintro ⟨provisioned, complete, rfl⟩
        obtain ⟨ok, readable⟩ := (creation_eq_complete_iff (.inl rfl) provisioned).mp complete
        exact .provisioned ok readable
      · rintro (_ | _)
        exact ⟨_, (creation_eq_complete_iff (.inl rfl) _).mpr ⟨‹_›, ‹_›⟩, rfl⟩
    | deprovision request =>
      rw [outcome, map_eq_complete_iff]
      constructor
      · rintro ⟨⟨⟩, complete, rfl⟩
        exact .deprovisioned ((deletion_eq_complete_iff (.inl rfl)).mp complete)
      · rintro (_ | _)
        exact ⟨(), (deletion_eq_complete_iff (.inl rfl)).mpr ‹_›, rfl⟩
    | bind request =>
      rw [outcome, map_eq_complete_iff]
      constructor
      · rintro ⟨binding, complete, rfl⟩
        obtain ⟨ok, readable⟩ := (creation_eq_complete_iff (.inr rfl) binding).mp complete
        exact .bound ok readable
      · rintro (_ | _)
        exact ⟨_, (creation_eq_complete_iff (.inr rfl) _).mpr ⟨‹_›, ‹_›⟩, rfl⟩
    | unbind request =>
      rw [outcome, map_eq_complete_iff]
      constructor
      · rintro ⟨⟨⟩, complete, rfl⟩
        exact .unbound ((deletion_eq_complete_iff (.inr rfl)).mp complete)
      · rintro (_ | _)
        exact ⟨(), (deletion_eq_complete_iff (.inr rfl)).mpr ‹_›, rfl⟩

theorem Change.outcome_eq_error_iff (change : Change) (reply : Reply) (error : CallError) :
    change.outcome reply = .error error ↔ change.operation.read reply = .error error := by
  have map_iff {α β : Type} (f : α → β) (read : Except CallError (Outcome α)) :
      read.map (·.map f) = .error error ↔ read = .error error := by
    cases read <;> simp [Except.map]
  cases change <;> exact map_iff _ _

/-! ## The token of an acceptance -/

/-- **An acceptance has a token** if there is one in its body that is not empty. -/
theorem tokenOf_eq_some_iff (body token : String) :
    AcceptedBody.tokenOf body = .ok (some token) ↔
      Text.isBlank body = false ∧ token ≠ "" ∧
        Json.decode AcceptedBody.record.read body = .ok { operation := some token } := by
  unfold AcceptedBody.tokenOf
  cases Text.isBlank body with
  | true => simp
  | false =>
    cases Json.decode AcceptedBody.record.read body with
    | error source => simp [Except.map]
    | ok accepted =>
      obtain ⟨operation⟩ := accepted
      simp only [Except.map, Except.ok.injEq, AcceptedBody.mk.injEq, Option.filter_eq_some_iff,
        decide_eq_true_eq, Bool.false_eq_true, if_false, true_and]
      exact and_comm

/-- **An acceptance has no token** if its body is blank, or has none, or an empty one. -/
theorem tokenOf_eq_none_iff (body : String) :
    AcceptedBody.tokenOf body = .ok none ↔
      Text.isBlank body = true ∨
        Json.decode AcceptedBody.record.read body = .ok { operation := none } ∨
        Json.decode AcceptedBody.record.read body = .ok { operation := some "" } := by
  unfold AcceptedBody.tokenOf
  cases blank : Text.isBlank body with
  | true => simp
  | false =>
    cases Json.decode AcceptedBody.record.read body with
    | error source => simp [Except.map]
    | ok accepted =>
      obtain ⟨_ | token⟩ := accepted
      · simp [Except.map]
      · simp [Except.map, Option.filter_some]

/-- **The body of an acceptance is read back**: it has no token without the member, nor with
`null` or an empty text, and otherwise the one written. -/
theorem tokenOf_text (token : Option String) :
    AcceptedBody.tokenOf (Json.object []).text = .ok none ∧
      AcceptedBody.tokenOf (Json.object (Json.member "operation" (Json.ofOption token))).text
        = .ok (token.filter (· ≠ "")) := by
  have absent : Json.decode AcceptedBody.record.read (Json.object []).text
      = .ok { operation := none } :=
    AcceptedBody.record.decode_written (none, ()) (by decide) (.absent rfl (.nil 126))
  have present : Json.decode AcceptedBody.record.read
      (Json.object (Json.member "operation" (Json.ofOption token))).text
        = .ok { operation := token } :=
    AcceptedBody.record.decode_written (token, ()) (by decide)
      (.present (Json.reads_ofOption 126 token) (.nil 126))
  unfold AcceptedBody.tokenOf
  rw [isBlank_text_object, isBlank_text_object, absent, present]
  exact ⟨rfl, rfl⟩

/-! ## The result -/

/-- **A tracked operation is that of a change**: it has its kind, its identifiers, its service
and its plan. -/
def TrackedOperation.IsOf (tracked : TrackedOperation) : Change → Prop
  | .provision request =>
    tracked.kind = .provision ∧ tracked.instanceId = request.instanceId ∧
      tracked.serviceId = request.serviceId ∧ tracked.planId = request.planId
  | .deprovision request =>
    tracked.kind = .deprovision ∧ tracked.instanceId = request.instanceId ∧
      tracked.serviceId = request.serviceId ∧ tracked.planId = request.planId
  | .bind request =>
    tracked.kind = .bind request.bindingId ∧ tracked.instanceId = request.instanceId ∧
      tracked.serviceId = request.serviceId ∧ tracked.planId = request.planId
  | .unbind request =>
    tracked.kind = .unbind request.bindingId ∧ tracked.instanceId = request.instanceId ∧
      tracked.serviceId = request.serviceId ∧ tracked.planId = request.planId

theorem TrackedOperation.eq_track_iff (tracked : TrackedOperation) (change : Change)
    (token : Option String) :
    tracked = change.track token ↔ tracked.IsOf change ∧ tracked.operation = token := by
  obtain ⟨kind, instanceId, serviceId, planId, operation⟩ := tracked
  cases change <;> simp [Change.track, IsOf, and_assoc]

namespace Driver

/-- **What a start makes of the replies**: of the first, to the request for the change, and of the
second, which shows a binding. -/
inductive Opening (driver : Driver) (change : Change) (first : Reply) (second : String → Reply) :
    Result → Prop where
  /-- The change is made. -/
  | complete {binding? : Option Binding} (completed : change.CompletedBy first binding?) :
      Opening driver change first second (.ok (.complete binding?))
  /-- It is accepted, and tracked from then on. -/
  | inFlight {token : Option String} (accepts : first.Accepts token)
      (tracked : token = none → driver.settings.missingToken = .pollWithoutToken) :
      Opening driver change first second (.ok (.inFlight (change.track token) none))
  /-- It is accepted, which is taken for a success, and no binding was asked for. -/
  | assumed (accepts : first.Accepts none)
      (assumes : driver.settings.missingToken = .assumeSucceeded)
      (creates : (change.track none).creates? = none) :
      Opening driver change first second (.ok (.succeeded none))
  /-- A binding was asked for, and is shown then. -/
  | shown {bindingId : String} {binding : Binding} (accepts : first.Accepts none)
      (assumes : driver.settings.missingToken = .assumeSucceeded)
      (creates : (change.track none).creates? = some bindingId)
      (answers : (second bindingId).Answers Binding.ofBody binding) :
      Opening driver change first second (.ok (.succeeded (some binding)))
  /-- It is gone by then. -/
  | disappeared {bindingId : String} (accepts : first.Accepts none)
      (assumes : driver.settings.missingToken = .assumeSucceeded)
      (creates : (change.track none).creates? = some bindingId)
      (gone : (second bindingId).HasStatus 410) :
      Opening driver change first second (.ok (.failed .gone))
  /-- It is not shown. -/
  | hidden {bindingId : String} {error : CallError} (accepts : first.Accepts none)
      (assumes : driver.settings.missingToken = .assumeSucceeded)
      (creates : (change.track none).creates? = some bindingId)
      (fails : (second bindingId).FailsWith .getBinding Binding.ofBody error) :
      Opening driver change first second (.error error)
  /-- It is refused, or there was no answer that can be read. -/
  | refused {error : CallError} (fails : change.operation.read first = .error error) :
      Opening driver change first second (.error error)

section Start

variable {σ : Type} {world : Dialogue.World σ} {driver : Driver} {change : Change} {state : σ}

/-- A binding that was accepted is fetched if that is taken for a success. -/
theorem result_start_fetched {bindingId : String}
    (accepts : (driver.answered world change state).1.Accepts none)
    (assumes : driver.settings.missingToken = .assumeSucceeded)
    (creates : (change.track none).creates? = some bindingId) :
    ((driver.start change).run world state).result
      = fetched (driver.shownAtOnce world change state bindingId) := by
  rw [result_start_assumed accepts assumes, creates]

/-- **What is found in the replies is the result.** -/
theorem Opening.result_eq {result : Result}
    (opening : Opening driver change (driver.answered world change state).1
      (driver.shownAtOnce world change state) result) :
    ((driver.start change).run world state).result = result := by
  cases opening with
  | complete completed =>
    rw [run_start_answered, (change.outcome_eq_complete_iff _ _).mpr completed]
    rfl
  | inFlight accepts tracked =>
    refine result_start_inFlight accepts fun ⟨missing, assumes⟩ => ?_
    exact nomatch (tracked missing).symm.trans assumes
  | assumed accepts assumes creates => rw [result_start_assumed accepts assumes, creates]
  | shown accepts assumes creates answers =>
    rw [result_start_fetched accepts assumes creates, fetched_of_answer answers]
  | disappeared accepts assumes creates gone =>
    rw [result_start_fetched accepts assumes creates, fetched_of_gone gone]
  | hidden accepts assumes creates fails =>
    rw [result_start_fetched accepts assumes creates, fetched_of_failure fails]
  | refused fails =>
    rw [run_start_answered, (change.outcome_eq_error_iff _ _).mpr fails]
    rfl

variable (world driver change state)

/-- **Every start is found in the replies.** -/
theorem opening_start :
    Opening driver change (driver.answered world change state).1
      (driver.shownAtOnce world change state)
      ((driver.start change).run world state).result := by
  have found {result : Result}
      (opening : Opening driver change (driver.answered world change state).1
        (driver.shownAtOnce world change state) result) :
      Opening driver change (driver.answered world change state).1
        (driver.shownAtOnce world change state)
        ((driver.start change).run world state).result := by
    rwa [opening.result_eq]
  cases read : change.outcome (driver.answered world change state).1 with
  | error error => exact found (.refused ((change.outcome_eq_error_iff _ _).mp read))
  | ok outcome =>
    cases outcome with
    | complete binding? =>
      exact found (.complete ((change.outcome_eq_complete_iff _ _).mp read))
    | accepted token =>
      have accepts := (change.outcome_eq_accepted_iff _ _).mp read
      cases policy : driver.settings.missingToken with
      | pollWithoutToken => exact found (.inFlight accepts fun _ => policy)
      | assumeSucceeded =>
        cases token with
        | some token => exact found (.inFlight accepts nofun)
        | none =>
          cases creates : (change.track none).creates? with
          | none => exact found (.assumed accepts policy creates)
          | some bindingId =>
            obtain gone | ⟨error, fails⟩ | ⟨binding, answers⟩ :=
              (driver.shownAtOnce world change state bindingId).sorted .getBinding Binding.ofBody
            · exact found (.disappeared accepts policy creates gone)
            · exact found (.hidden accepts policy creates fails)
            · exact found (.shown accepts policy creates answers)

variable {world driver change state}

/-- **A start is complete** with a reply that says that the change is made. -/
theorem result_start_eq_complete_iff (binding? : Option Binding) :
    ((driver.start change).run world state).result = .ok (.complete binding?) ↔
      change.CompletedBy (driver.answered world change state).1 binding? := by
  constructor
  · intro ended
    have opening := opening_start world driver change state
    rw [ended] at opening
    cases opening with
    | complete completed => exact completed
  · exact fun completed => (Opening.complete completed).result_eq

/-- **A start leaves in flight** what was accepted, unless there is no token and that is taken for
a success. -/
theorem result_start_eq_inFlight_iff (tracked : TrackedOperation) (description : Option String) :
    ((driver.start change).run world state).result = .ok (.inFlight tracked description) ↔
      description = none ∧ tracked.IsOf change ∧
        (driver.answered world change state).1.Accepts tracked.operation ∧
        (tracked.operation = none → driver.settings.missingToken = .pollWithoutToken) := by
  constructor
  · intro ended
    have opening := opening_start world driver change state
    rw [ended] at opening
    cases opening with
    | @inFlight token accepts untaken =>
      obtain ⟨isOf, operation⟩ := (TrackedOperation.eq_track_iff _ change token).mp rfl
      rw [operation]
      exact ⟨rfl, isOf, accepts, untaken⟩
  · rintro ⟨rfl, isOf, accepts, untaken⟩
    rw [(tracked.eq_track_iff change tracked.operation).mpr ⟨isOf, rfl⟩]
    exact (Opening.inFlight accepts untaken).result_eq

/-- **A start succeeds** with an acceptance that is taken for a success, and with the binding that
is shown then if one was asked for. -/
theorem result_start_eq_succeeded_iff (binding? : Option Binding) :
    ((driver.start change).run world state).result = .ok (.succeeded binding?) ↔
      (driver.answered world change state).1.Accepts none ∧
        driver.settings.missingToken = .assumeSucceeded ∧
        match (change.track none).creates? with
        | none => binding? = none
        | some bindingId => ∃ binding,
          (driver.shownAtOnce world change state bindingId).Answers Binding.ofBody binding ∧
            binding? = some binding := by
  constructor
  · intro ended
    have opening := opening_start world driver change state
    rw [ended] at opening
    cases opening with
    | assumed accepts assumes creates =>
      rw [creates]
      exact ⟨accepts, assumes, rfl⟩
    | shown accepts assumes creates answers =>
      rw [creates]
      exact ⟨accepts, assumes, _, answers, rfl⟩
  · rintro ⟨accepts, assumes, ends⟩
    split at ends
    · next creates =>
      rw [ends]
      exact (Opening.assumed accepts assumes creates).result_eq
    · next creates =>
      obtain ⟨binding, answers, rfl⟩ := ends
      exact (Opening.shown accepts assumes creates answers).result_eq

/-- **A start fails** only with a binding that was accepted, which is taken for a success, and
that is gone when it is fetched. -/
theorem result_start_eq_failed_iff (failure : Failure) :
    ((driver.start change).run world state).result = .ok (.failed failure) ↔
      failure = .gone ∧ (driver.answered world change state).1.Accepts none ∧
        driver.settings.missingToken = .assumeSucceeded ∧
        ∃ bindingId, (change.track none).creates? = some bindingId ∧
          (driver.shownAtOnce world change state bindingId).HasStatus 410 := by
  constructor
  · intro ended
    have opening := opening_start world driver change state
    rw [ended] at opening
    cases opening with
    | disappeared accepts assumes creates gone =>
      exact ⟨rfl, accepts, assumes, _, creates, gone⟩
  · rintro ⟨rfl, accepts, assumes, bindingId, creates, gone⟩
    exact (Opening.disappeared accepts assumes creates gone).result_eq

/-- **A start ends with an error** if the first reply is one, or the second, which should show a
binding. -/
theorem result_start_eq_error_iff (error : CallError) :
    ((driver.start change).run world state).result = .error error ↔
      change.operation.read (driver.answered world change state).1 = .error error ∨
        (driver.answered world change state).1.Accepts none ∧
          driver.settings.missingToken = .assumeSucceeded ∧
          ∃ bindingId, (change.track none).creates? = some bindingId ∧
            (driver.shownAtOnce world change state bindingId).FailsWith .getBinding
              Binding.ofBody error := by
  constructor
  · intro ended
    have opening := opening_start world driver change state
    rw [ended] at opening
    cases opening with
    | refused fails => exact .inl fails
    | hidden accepts assumes creates fails =>
      exact .inr ⟨accepts, assumes, _, creates, fails⟩
  · rintro (fails | ⟨accepts, assumes, bindingId, creates, fails⟩)
    · exact (Opening.refused fails).result_eq
    · exact (Opening.hidden accepts assumes creates fails).result_eq

/-- **Every other answer is an error**: one that neither says that the change is made nor accepts
it. -/
theorem exists_result_start_eq_error
    (incomplete : ∀ binding?, ¬change.CompletedBy (driver.answered world change state).1 binding?)
    (unaccepted : ∀ token, ¬(driver.answered world change state).1.Accepts token) :
    ∃ error, ((driver.start change).run world state).result = .error error := by
  have opening := opening_start world driver change state
  cases ended : ((driver.start change).run world state).result with
  | error error => exact ⟨error, rfl⟩
  | ok progress =>
    rw [ended] at opening
    cases opening with
    | complete completed => exact absurd completed (incomplete _)
    | inFlight accepts => exact absurd accepts (unaccepted _)
    | assumed accepts => exact absurd accepts (unaccepted _)
    | shown accepts => exact absurd accepts (unaccepted _)
    | disappeared accepts => exact absurd accepts (unaccepted _)

end Start

/-- **The result of a start, read from the replies.** The change is complete with an answer that
says that it is made. An acceptance leaves it in flight, tracked as what was asked for with the
token of the acceptance. Only if there is none and the driver takes that for a success has the
change ended: well, with the binding that is shown if one was asked for, or badly if that binding
is gone. Every other answer is an error. An acceptance has no token if its body is blank or has
no such member, or `null` or an empty text for it. -/
theorem result_start_iff {σ : Type} (world : Dialogue.World σ) (driver : Driver) (change : Change)
    (state : σ) :
    let first := (driver.answered world change state).1
    let second := driver.shownAtOnce world change state
    let run := (driver.start change).run world state
    let assumes := driver.settings.missingToken = .assumeSucceeded
    let polls := driver.settings.missingToken = .pollWithoutToken
    (∀ binding?, run.result = .ok (.complete binding?) ↔ change.CompletedBy first binding?) ∧
    (∀ tracked description, run.result = .ok (.inFlight tracked description) ↔
      description = none ∧ tracked.IsOf change ∧ first.Accepts tracked.operation ∧
        (tracked.operation = none → polls)) ∧
    (∀ binding?, run.result = .ok (.succeeded binding?) ↔ first.Accepts none ∧ assumes ∧
      match (change.track none).creates? with
      | none => binding? = none
      | some bindingId =>
        ∃ binding, (second bindingId).Answers Binding.ofBody binding ∧ binding? = some binding) ∧
    (∀ failure, run.result = .ok (.failed failure) ↔ failure = .gone ∧ first.Accepts none ∧
      assumes ∧ ∃ bindingId, (change.track none).creates? = some bindingId ∧
        (second bindingId).HasStatus 410) ∧
    (∀ error, run.result = .error error ↔ change.operation.read first = .error error ∨
      first.Accepts none ∧ assumes ∧ ∃ bindingId, (change.track none).creates? = some bindingId ∧
        (second bindingId).FailsWith .getBinding Binding.ofBody error) ∧
    ((∀ binding?, ¬change.CompletedBy first binding?) → (∀ token, ¬first.Accepts token) →
      ∃ error, run.result = .error error) ∧
    (polls → (∀ binding?, run.result ≠ .ok (.succeeded binding?)) ∧
      ∀ failure, run.result ≠ .ok (.failed failure)) ∧
    driver.StartSends change first run.requests ∧
    (∀ body token, AcceptedBody.tokenOf body = .ok (some token) ↔
      Text.isBlank body = false ∧ token ≠ "" ∧
        Json.decode AcceptedBody.record.read body = .ok { operation := some token }) ∧
    (∀ body, AcceptedBody.tokenOf body = .ok none ↔ Text.isBlank body = true ∨
      Json.decode AcceptedBody.record.read body = .ok { operation := none } ∨
      Json.decode AcceptedBody.record.read body = .ok { operation := some "" }) ∧
    (∀ token, AcceptedBody.tokenOf (Json.object []).text = .ok none ∧
      AcceptedBody.tokenOf (Json.object (Json.member "operation" (Json.ofOption token))).text
        = .ok (token.filter (· ≠ ""))) := by
  intro first second run assumes polls
  have patient : polls → ¬assumes := fun policy assumed => nomatch policy.symm.trans assumed
  refine ⟨result_start_eq_complete_iff, result_start_eq_inFlight_iff,
    result_start_eq_succeeded_iff, result_start_eq_failed_iff, result_start_eq_error_iff,
    exists_result_start_eq_error, fun policy => ⟨fun binding? ended => ?_, fun failure ended => ?_⟩,
    startSends_run world driver change state, tokenOf_eq_some_iff, tokenOf_eq_none_iff,
    tokenOf_text⟩
  · exact patient policy ((result_start_eq_succeeded_iff binding?).mp ended).2.1
  · exact patient policy ((result_start_eq_failed_iff failure).mp ended).2.2.1

end Driver

end ServiceBroker
