import Mathlib.Tactic.Set
import ServiceBroker.Proofs.Outcome

/-!
# What a driver sends

A driver asks for a change once. Whatever the broker answers, and however often
the change is polled afterwards, the request that asked for it is not sent
again: everything that follows is a question.

The world a driver talks to is arbitrary here – any replies, any failures of
the transport, any moment at which the token is cancelled. `Driver.StartSends`
and `Driver.PollSends` say what one step sends, depending on the one reply it
looks at, and `requests_of_calls` is the statement about any sequence of calls:
every call sends what these two allow, and the requests that are no questions
are the ones that the starts sent, one for each, in their order.
-/

namespace ServiceBroker

namespace Change

/-- **A change is accepted by a 202 with a body that can be read**, and by nothing
else. -/
theorem outcome_eq_accepted_iff (change : Change) (reply : Reply) (token : Option String) :
    change.outcome reply = .ok (.accepted token) ↔ reply.Accepts token := by
  have map_iff {α β : Type} (f : α → β) (read : Except CallError (Outcome α)) :
      read.map (·.map f) = .ok (.accepted token) ↔ read = .ok (.accepted token) := by
    cases read with
    | error error => simp [Except.map]
    | ok outcome => cases outcome <;> simp [Except.map, Outcome.map]
  cases reply with
  | error fault =>
    refine iff_of_false (fun h => ?_) (fun ⟨response, h, _⟩ => nomatch h)
    cases change <;> exact nomatch h
  | ok response =>
    have accepts_iff : Reply.Accepts (.ok response) token
        ↔ response.status = 202 ∧ AcceptedBody.tokenOf response.body = .ok token := by
      simp [Reply.Accepts]
    rw [accepts_iff]
    cases change with
    | provision request =>
      rw [outcome, map_iff, ← @classify_eq_accepted_iff .provision rfl]
      exact creation_eq_accepted_iff _ _ _ response token
    | deprovision request =>
      rw [outcome, map_iff, ← @classify_eq_accepted_iff .deprovision rfl]
      exact deletion_eq_accepted_iff _ response token
    | bind request =>
      rw [outcome, map_iff, ← @classify_eq_accepted_iff .bind rfl]
      exact creation_eq_accepted_iff _ _ _ response token
    | unbind request =>
      rw [outcome, map_iff, ← @classify_eq_accepted_iff .unbind rfl]
      exact deletion_eq_accepted_iff _ response token

theorem creates?_track (change : Change) (token : Option String) :
    (change.track token).creates?
      = match change with
        | .bind request => some request.bindingId
        | _ => none := by
  cases change <;> rfl

end Change

namespace Driver

variable {σ : Type} (world : Dialogue.World σ) (driver : Driver)

/-! ## One step -/

/-- **The acceptance is taken for success**: a binding was asked for, the broker
accepted without a token, and the driver is set to assume success then. -/
def Assumes (change : Change) (reply : Reply) : Prop :=
  (∃ request, change = .bind request) ∧ driver.settings.missingToken = .assumeSucceeded
    ∧ reply.Accepts none

/-- **What a start sends**, by the reply to its first request. -/
inductive StartSends : Change → Reply → List Http.Request → Prop where
  /-- The request for the change alone. -/
  | once {change : Change} {reply : Reply} (h : ¬ driver.Assumes change reply) :
      StartSends change reply [change.request driver.broker]
  /-- And the fetch of the binding, when the acceptance is taken for success. -/
  | fetching {request : BindRequest} {reply : Reply} (h : driver.Assumes (.bind request) reply) :
      StartSends (.bind request) reply
        [(Change.bind request).request driver.broker,
          driver.fetchRequest ((Change.bind request).track none) request.bindingId]

/-- **What a poll sends**, by the reply to its first request. -/
inductive PollSends (tracked : TrackedOperation) : Reply → List Http.Request → Prop where
  /-- The question after the last operation alone. -/
  | once {reply : Reply}
      (h : ¬ ((∃ bindingId, tracked.kind = .bind bindingId) ∧ reply.ReportsSuccess)) :
      PollSends tracked reply [driver.pollRequest tracked]
  /-- And the fetch of the binding, when its creation is reported to have
  succeeded. -/
  | fetching {reply : Reply} {bindingId : String} (kind : tracked.kind = .bind bindingId)
      (h : reply.ReportsSuccess) :
      PollSends tracked reply
        [driver.pollRequest tracked, driver.fetchRequest tracked bindingId]

/-- The end of an operation that succeeded sends the fetch of a binding, if one was
created, and nothing otherwise. -/
theorem requests_succeeded (tracked : TrackedOperation) (state : σ) :
    ((driver.succeeded tracked).run world state).requests
      = (tracked.creates?.map (driver.fetchRequest tracked)).toList := by
  rw [succeeded_eq]
  cases tracked.creates? <;> rfl

/-- **A start sends its request, and a second one only to fetch a binding.** -/
theorem startSends_run (change : Change) (state : σ) :
    driver.StartSends change (world.reply state (change.request driver.broker)).1
      ((driver.start change).run world state).requests := by
  rw [start_eq, Dialogue.run_send]
  dsimp only
  set reply := (world.reply state (change.request driver.broker)).1
  set next := (world.reply state (change.request driver.broker)).2
  -- A second request needs all three: a binding, an acceptance without a token, the policy.
  have accepted_iff := change.outcome_eq_accepted_iff reply
  by_cases assumes : driver.Assumes change reply
  · obtain ⟨⟨request, rfl⟩, policy, accepts⟩ := assumes
    rw [(accepted_iff none).mpr accepts]
    show StartSends driver _ _ (_ :: ((driver.accepted _).run world next).requests)
    unfold accepted
    rw [if_pos ⟨rfl, policy⟩, requests_succeeded]
    exact .fetching ⟨⟨request, rfl⟩, policy, accepts⟩
  · have nothing : ((driver.takeUp change (change.outcome reply)).run world next).requests
        = [] := by
      cases houtcome : change.outcome reply with
      | error error => rfl
      | ok outcome =>
        cases outcome with
        | complete binding => rfl
        | accepted token =>
          show ((driver.accepted _).run world next).requests = []
          unfold accepted
          split
          · next h =>
            obtain ⟨missing, policy⟩ := h
            obtain rfl : token = none := by
              rw [← missing]
              cases change <;> rfl
            rw [requests_succeeded, Change.creates?_track]
            cases change with
            | bind request =>
              exact absurd ⟨⟨request, rfl⟩, policy, (accepted_iff none).mp houtcome⟩ assumes
            | provision request => rfl
            | deprovision request => rfl
            | unbind request => rfl
          · rfl
    rw [nothing]
    exact .once assumes

/-- **A poll sends its question, and a second one only to fetch a binding.** -/
theorem pollSends_run (tracked : TrackedOperation) (state : σ) :
    driver.PollSends tracked (driver.asked world tracked state).1
      ((driver.poll tracked).run world state).requests := by
  obtain gone | ⟨error, fails⟩ | ⟨description, answers⟩ | ⟨description, answers⟩ | success :=
    driver.asked_sorted world tracked state
  · rw [run_poll_of_gone gone]
    exact .once fun ⟨_, last, answers, _⟩ => gone.not_answers last answers
  · rw [run_poll_of_failure fails]
    exact .once fun ⟨_, last, answers, _⟩ => fails.not_answers last answers
  · rw [run_poll_of_inProgress answers]
    refine .once fun ⟨_, last, other, succeeded⟩ => ?_
    rw [other.unique answers] at succeeded
    exact nomatch succeeded
  · rw [run_poll_of_failed answers]
    refine .once fun ⟨_, last, other, succeeded⟩ => ?_
    rw [other.unique answers] at succeeded
    exact nomatch succeeded
  · cases creates : tracked.creates? with
    | none =>
      rw [run_poll_of_success success creates]
      refine .once fun ⟨⟨bindingId, kind⟩, _⟩ => ?_
      rw [(tracked.creates?_eq_some_iff bindingId).mpr kind] at creates
      exact nomatch creates
    | some bindingId =>
      rw [run_poll_of_success_fetch success creates]
      exact .fetching ((tracked.creates?_eq_some_iff bindingId).mp creates) success

/-! ## Polling to the end -/

/-- **What a loop of polls sends**: the requests of one poll, and after a wait those
of the next, for any number of rounds. -/
inductive LoopSends (interval : Duration) (tracked : TrackedOperation) :
    σ → List Http.Request → Prop where
  /-- No poll any more. -/
  | stop (state : σ) : LoopSends interval tracked state []
  /-- One poll, and what comes after the wait. -/
  | poll {state : σ} {later : List Http.Request}
      (h : LoopSends interval tracked
        (world.wait ((driver.poll tracked).run world state).state interval).2 later) :
      LoopSends interval tracked state
        (((driver.poll tracked).run world state).requests ++ later)

/-- **Going on from a step** is a loop of polls of the operation that the step left in
flight, after the wait. -/
theorem loopSends_goOn (interval : Duration) (tracked : TrackedOperation) (rounds : Nat)
    {result : Result}
    (own : ∀ other description, result = .ok (.inFlight other description) → other = tracked)
    (state : σ) :
    driver.LoopSends world interval tracked (world.wait state interval).2
      ((driver.goOn interval rounds result).run world state).requests := by
  induction rounds generalizing result state with
  | zero =>
    by_cases inFlight : ∃ description, result = .ok (.inFlight tracked description)
    · obtain ⟨description, rfl⟩ := inFlight
      unfold goOn Dialogue.run
      dsimp only
      split <;> exact .stop _
    · rw [driver.goOn_eq_done interval 0 fun other description h =>
        inFlight ⟨description, own other description h ▸ h⟩]
      exact .stop _
  | succ rounds ih =>
    by_cases inFlight : ∃ description, result = .ok (.inFlight tracked description)
    · obtain ⟨description, rfl⟩ := inFlight
      unfold goOn Dialogue.run
      dsimp only
      split
      · exact .stop _
      · rw [Dialogue.run_bind]
        exact .poll (ih (fun other description h => poll_eq_inFlight h) _)
    · rw [driver.goOn_eq_done interval (rounds + 1) fun other description h =>
        inFlight ⟨description, own other description h ▸ h⟩]
      exact .stop _

/-- **Polling to the end is a loop of polls** of the operation it was given. -/
theorem loopSends_run (rounds : Nat) (interval : Duration) (tracked : TrackedOperation)
    (state : σ) :
    driver.LoopSends world interval tracked state
      ((driver.pollUntilTerminal rounds interval tracked).run world state).requests := by
  unfold pollUntilTerminal Dialogue.run
  dsimp only
  split
  · exact .stop _
  · rw [Dialogue.run_bind]
    exact .poll (driver.loopSends_goOn world interval tracked rounds
      (fun other description h => poll_eq_inFlight h) _)

/-! ## Any sequence of calls -/

/-- **A call on a driver.** -/
inductive Call where
  | start (change : Change)
  | poll (tracked : TrackedOperation)
  | pollUntilTerminal (rounds : Nat) (interval : Duration) (tracked : TrackedOperation)

/-- What a call does. It has no result if the rounds of a loop run out. -/
def dialogue : Call → Dialogue (Option Result)
  | .start change => (driver.start change).bind fun result => .done (some result)
  | .poll tracked => (driver.poll tracked).bind fun result => .done (some result)
  | .pollUntilTerminal rounds interval tracked =>
    driver.pollUntilTerminal rounds interval tracked

/-- **What a call sends** when it is made in a state of the world. -/
def Sends (call : Call) (state : σ) (requests : List Http.Request) : Prop :=
  match call with
  | .start change =>
    (change.request driver.broker).method = change.method ∧
      driver.StartSends change (world.reply state (change.request driver.broker)).1 requests
  | .poll tracked =>
    driver.PollSends tracked (driver.asked world tracked state).1 requests
  | .pollUntilTerminal _ interval tracked =>
    driver.LoopSends world interval tracked state requests

/-- **The requests of any sequence of calls**, one call after the other. -/
def log : List Call → σ → List Http.Request
  | [], _ => []
  | call :: calls, state =>
    let run := (driver.dialogue call).run world state
    run.requests ++ log calls run.state

/-- The request by which a call asks for a change, if it does. -/
def asks? : Call → Option Http.Request
  | .start change => some (change.request driver.broker)
  | .poll _ | .pollUntilTerminal _ _ _ => none

/-- Every call sends what it may send. -/
theorem sends_run (call : Call) (state : σ) :
    driver.Sends world call state ((driver.dialogue call).run world state).requests := by
  cases call with
  | start change =>
    refine ⟨change.method_request driver.broker, ?_⟩
    have alone := driver.startSends_run world change state
    simpa only [dialogue, Dialogue.run_bind, Dialogue.run_done, List.append_nil] using alone
  | poll tracked =>
    have alone := driver.pollSends_run world tracked state
    simpa only [dialogue, Sends, Dialogue.run_bind, Dialogue.run_done, List.append_nil]
      using alone
  | pollUntilTerminal rounds interval tracked =>
    exact driver.loopSends_run world rounds interval tracked state

/-! ### What is no question -/

/-- **The requests that ask for something to be changed**: all but the GETs. -/
def changing (requests : List Http.Request) : List Http.Request :=
  requests.filter (·.method ≠ .get)

/-- A start asks for its change, and for nothing else. -/
theorem StartSends.changing_eq {change : Change} {reply : Reply}
    {requests : List Http.Request} (sends : driver.StartSends change reply requests) :
    changing requests = [change.request driver.broker] := by
  have first (change : Change) (later : List Http.Request) :
      changing (change.request driver.broker :: later)
        = change.request driver.broker :: changing later := by
    refine List.filter_cons_of_pos ?_
    simpa using change.method_ne_get
  cases sends with
  | once h => exact first change []
  | fetching h => exact first _ _

theorem PollSends.changing_eq {tracked : TrackedOperation} {reply : Reply}
    {requests : List Http.Request} (sends : driver.PollSends tracked reply requests) :
    changing requests = [] := by
  cases sends <;> rfl

/-- A loop of polls asks for no change. -/
theorem LoopSends.changing_eq {interval : Duration} {tracked : TrackedOperation} {state : σ}
    {requests : List Http.Request}
    (sends : driver.LoopSends world interval tracked state requests) :
    changing requests = [] := by
  induction sends with
  | stop state => rfl
  | poll later ih =>
    unfold changing at ih ⊢
    rw [List.filter_append, ih, List.append_nil]
    exact (driver.pollSends_run world tracked _).changing_eq

/-- **A call asks for a change once if it is a start**, and never otherwise. -/
theorem Sends.changing_eq {call : Call} {state : σ} {requests : List Http.Request}
    (sends : driver.Sends world call state requests) :
    changing requests = (driver.asks? call).toList := by
  cases call with
  | start change => exact sends.2.changing_eq
  | poll tracked => exact PollSends.changing_eq driver sends
  | pollUntilTerminal rounds interval tracked => exact LoopSends.changing_eq world driver sends

/-- **No request for a change is ever sent again.** In any world, every call sends
what its kind allows; and over any sequence of calls, the requests that are no
questions are those of the starts, one for each, in their order. -/
theorem requests_of_calls :
    (∀ call state,
      driver.Sends world call state ((driver.dialogue call).run world state).requests) ∧
    ∀ calls state,
      changing (driver.log world calls state) = calls.filterMap driver.asks? := by
  refine ⟨driver.sends_run world, fun calls => ?_⟩
  -- By induction on the calls, for every state: what a call sends is filtered on its own.
  induction calls with
  | nil => exact fun _ => rfl
  | cons call calls ih =>
    intro state
    have own := Sends.changing_eq world driver (driver.sends_run world call state)
    have later := ih ((driver.dialogue call).run world state).state
    unfold changing at own later ⊢
    rw [log, List.filter_append, own, later]
    cases hasks : driver.asks? call with
    | none => rw [List.filterMap_cons_none hasks]; rfl
    | some request => rw [List.filterMap_cons_some hasks]; rfl

end Driver

end ServiceBroker
