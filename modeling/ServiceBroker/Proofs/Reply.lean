import ServiceBroker.Client.Dialogue

/-!
# What an operation reads in a reply

A reply is a response or the failure of the round trip, and a call on a broker
is one request and the reading of its reply (`Broker.call_eq`).

Of the operations that change nothing, those on a resource read every reply by
one rule (`readAnswer`): a 410 says that the resource is gone, a 200 is the
answer if its body can be read, and every other reply is an error. The rule is
stated without the sorting of answers that the operations share, so that what
is said of a poll below is said of statuses and bodies. A round trip that failed
is passed on as it is.
-/

namespace ServiceBroker

/-- **What an operation reads in a reply.** The failure of a round trip is passed
on as it is. -/
def Operation.read (operation : Operation) : Reply → Except CallError operation.Answer
  | .ok response => operation.parse response
  | .error fault => .error (.transport fault)

/-- **A call is one request and the reading of its reply.** -/
theorem Broker.call_eq (broker : Broker) (operation : Operation) (input : operation.Input) :
    broker.call operation input
      = .send (broker.request operation input) fun reply => .done (operation.read reply) := by
  unfold Broker.call
  refine congrArg (Dialogue.send _) (funext fun reply => ?_)
  cases reply <;> rfl

/-! ## Classes of replies -/

/-- A last operation, from a body. A blank body is none. -/
def LastOperation.ofBody (body : String) : Except Json.ReadError LastOperation :=
  Json.decode LastOperation.record.read body

/-- The token of an acceptance, from its body. A blank body has none, and an empty
token is none. -/
def AcceptedBody.tokenOf (body : String) : Except Json.ReadError (Option String) :=
  if Text.isBlank body then .ok none
  else (Json.decode AcceptedBody.record.read body).map (·.operation.filter (· ≠ ""))

/-- A binding, from a body. A blank body is the empty one. -/
def Binding.ofBody (body : String) : Except Json.ReadError Binding :=
  if Text.isBlank body then .ok {} else Json.decode Binding.record.read body

namespace Reply

/-- The reply is a response with a status. -/
def HasStatus (reply : Reply) (status : Nat) : Prop :=
  ∃ response, reply = .ok response ∧ response.status = status

/-- **The reply is an answer**: a 200 whose body can be read. -/
def Answers {α : Type} (reply : Reply) (ofBody : String → Except Json.ReadError α) (a : α) :
    Prop :=
  ∃ response, reply = .ok response ∧ response.status = 200 ∧ ofBody response.body = .ok a

/-- **The reply accepts a change** for later, with a token or without. -/
def Accepts (reply : Reply) (token : Option String) : Prop :=
  ∃ response, reply = .ok response ∧ response.status = 202
    ∧ AcceptedBody.tokenOf response.body = .ok token

/-- **The reply reports success.** -/
def ReportsSuccess (reply : Reply) : Prop :=
  ∃ last, reply.Answers LastOperation.ofBody last ∧ last.state = .succeeded

/-- **The error of a round trip** that is neither an answer nor says that the
resource is gone. -/
inductive FailsWith {α : Type} (operation : Operation)
    (ofBody : String → Except Json.ReadError α) : Reply → CallError → Prop where
  /-- There was no round trip; its failure is the error, as it is. -/
  | transport (fault : TransportFault) :
      FailsWith operation ofBody (.error fault) (.transport fault)
  /-- A success whose body cannot be read. -/
  | malformed (response : Http.Response) (source : Json.ReadError)
      (ok : response.status = 200) (unreadable : ofBody response.body = .error source) :
      FailsWith operation ofBody (.ok response) (.malformed operation source)
  /-- Any status that is neither a success nor gone. -/
  | failed (response : Http.Response) (notOk : response.status ≠ 200)
      (notGone : response.status ≠ 410) :
      FailsWith operation ofBody (.ok response)
        (failure operation response.status response.body)

end Reply

/-- A failure without a meaning of its own keeps the operation, the status and the
body. -/
theorem failure_eq (operation : Operation) (status : Nat) (body : String) :
    ∃ code description,
      failure operation status body = .failed operation status body code description := by
  unfold failure
  cases Json.decode ErrorBody.record.read body with
  | ok error => exact ⟨_, _, rfl⟩
  | error source => exact ⟨none, none, rfl⟩

@[simp] theorem isGone_failure (operation : Operation) (status : Nat) (body : String) :
    (failure operation status body).isGone = false := by
  obtain ⟨code, description, h⟩ := failure_eq operation status body
  rw [h]
  rfl

/-- A complete operation is sorted so. -/
theorem classify_of_completes {operation : Operation} {response : Http.Response}
    (complete : completes operation response.status = true) :
    classify operation response = .ok (.complete ()) := by
  have status : response.status = 200 ∨ response.status = 201 := by
    cases operation <;> simp_all [completes]
  unfold classify
  rw [if_neg (by omega), if_neg (by omega), if_neg (by omega), if_pos complete]

/-! ## Questions about a resource -/

/-- **The answer to a question about a resource**, read from the status and the
body. -/
def readAnswer {α : Type} (operation : Operation) (ofBody : String → Except Json.ReadError α) :
    Reply → Except CallError α
  | .error fault => .error (.transport fault)
  | .ok response =>
    if response.status = 410 then .error (.gone operation)
    else if response.status = 200 then
      match ofBody response.body with
      | .ok a => .ok a
      | .error source => .error (.malformed operation source)
    else .error (failure operation response.status response.body)

/-- Sorting the answer to a question about a resource. -/
theorem classify_of_question {operation : Operation} (asks : operation.acceptsIncomplete = false)
    (target : operation.targetsResource = true) (response : Http.Response) :
    classify operation response
      = if response.status = 410 then .error (.gone operation)
        else if response.status = 200 then .ok (.complete ())
        else .error (failure operation response.status response.body) := by
  have notBind : operation ≠ .bind := by
    rintro rfl
    exact absurd asks (by decide)
  have completes_eq : completes operation response.status = (response.status == 200) := by
    cases operation <;> first | rfl | exact absurd asks (by decide)
  unfold classify
  simp only [target, asks, notBind, completes_eq, and_true, and_false, if_false,
    Bool.false_eq_true, beq_iff_eq]

section Reading

variable {α : Type} (operation : Operation) (ofBody : String → Except Json.ReadError α)

theorem readAnswer_gone {response : Http.Response} (gone : response.status = 410) :
    readAnswer operation ofBody (.ok response) = .error (.gone operation) :=
  if_pos gone

/-- A 200 is read for its body. -/
theorem readAnswer_success {response : Http.Response} (ok : response.status = 200) :
    readAnswer operation ofBody (.ok response)
      = match ofBody response.body with
        | .ok a => .ok a
        | .error source => .error (.malformed operation source) := by
  have notGone : response.status ≠ 410 := by rw [ok]; decide
  exact (if_neg notGone).trans (if_pos ok)

theorem readAnswer_failure {response : Http.Response} (notOk : response.status ≠ 200)
    (notGone : response.status ≠ 410) :
    readAnswer operation ofBody (.ok response)
      = .error (failure operation response.status response.body) :=
  (if_neg notGone).trans (if_neg notOk)

/-- **An answer is a 200 with a body that can be read.** -/
theorem readAnswer_eq_ok_iff (reply : Reply) (a : α) :
    readAnswer operation ofBody reply = .ok a ↔ reply.Answers ofBody a := by
  cases reply with
  | error fault => simp [readAnswer, Reply.Answers]
  | ok response =>
    rw [show Reply.Answers (.ok response) ofBody a
        ↔ response.status = 200 ∧ ofBody response.body = .ok a from by simp [Reply.Answers]]
    by_cases ok : response.status = 200
    · rw [readAnswer_success operation ofBody ok]
      cases ofBody response.body <;> simp [ok]
    · by_cases gone : response.status = 410
      · simp [readAnswer_gone operation ofBody gone, ok]
      · simp [readAnswer_failure operation ofBody ok gone, ok]

theorem Reply.HasStatus.readAnswer_eq {reply : Reply} (gone : reply.HasStatus 410) :
    readAnswer operation ofBody reply = .error (.gone operation) := by
  obtain ⟨response, rfl, gone⟩ := gone
  exact readAnswer_gone operation ofBody gone

variable {operation ofBody}

/-- A reply that fails is read as its error. -/
theorem Reply.FailsWith.readAnswer_eq {reply : Reply} {error : CallError}
    (fails : reply.FailsWith operation ofBody error) :
    readAnswer operation ofBody reply = .error error := by
  cases fails with
  | transport fault => rfl
  | malformed response source ok unreadable =>
    rw [readAnswer_success operation ofBody ok, unreadable]
  | failed response notOk notGone => exact readAnswer_failure operation ofBody notOk notGone

theorem Reply.FailsWith.isGone_eq {reply : Reply} {error : CallError}
    (fails : reply.FailsWith operation ofBody error) : error.isGone = false := by
  cases fails with
  | transport fault => rfl
  | malformed response source ok unreadable => rfl
  | failed response notOk notGone => exact isGone_failure _ _ _

theorem Reply.HasStatus.not_answers {reply : Reply} (gone : reply.HasStatus 410) (a : α) :
    ¬ reply.Answers ofBody a := by
  intro answers
  have read := (readAnswer_eq_ok_iff .catalog ofBody reply a).mpr answers
  rw [gone.readAnswer_eq] at read
  exact nomatch read

theorem Reply.FailsWith.not_answers {reply : Reply} {error : CallError}
    (fails : reply.FailsWith operation ofBody error) (a : α) : ¬ reply.Answers ofBody a := by
  intro answers
  have read := (readAnswer_eq_ok_iff operation ofBody reply a).mpr answers
  rw [fails.readAnswer_eq] at read
  exact nomatch read

theorem Reply.Answers.unique {reply : Reply} {a b : α} (first : reply.Answers ofBody a)
    (second : reply.Answers ofBody b) : a = b := by
  have read := (readAnswer_eq_ok_iff .catalog ofBody reply a).mpr first
  rw [(readAnswer_eq_ok_iff .catalog ofBody reply b).mpr second] at read
  exact (Except.ok.inj read).symm

variable (operation ofBody)

/-- **Every reply is gone, fails, or is an answer.** -/
theorem Reply.sorted (reply : Reply) :
    reply.HasStatus 410 ∨ (∃ error, reply.FailsWith operation ofBody error)
      ∨ ∃ a, reply.Answers ofBody a := by
  cases reply with
  | error fault => exact .inr (.inl ⟨_, .transport fault⟩)
  | ok response =>
    by_cases gone : response.status = 410
    · exact .inl ⟨response, rfl, gone⟩
    · by_cases ok : response.status = 200
      · cases unreadable : ofBody response.body with
        | ok a => exact .inr (.inr ⟨a, response, rfl, ok, unreadable⟩)
        | error source => exact .inr (.inl ⟨_, .malformed response source ok unreadable⟩)
      · exact .inr (.inl ⟨_, .failed response ok gone⟩)

end Reading

/-- **The reading of a poll**, by either of the two operations. -/
theorem polled_eq_readAnswer {operation : Operation} (asks : operation.acceptsIncomplete = false)
    (target : operation.targetsResource = true) (response : Http.Response) :
    polled operation response = readAnswer operation LastOperation.ofBody (.ok response) := by
  unfold polled
  rw [classify_of_question asks target]
  by_cases gone : response.status = 410
  · rw [if_pos gone, readAnswer_gone _ _ gone]
  · by_cases ok : response.status = 200
    · rw [if_neg gone, if_pos ok, readAnswer_success _ _ ok]
      rfl
    · rw [if_neg gone, if_neg ok, readAnswer_failure _ _ ok gone]

theorem read_instanceLastOperation (reply : Reply) :
    Operation.instanceLastOperation.read reply
      = readAnswer .instanceLastOperation LastOperation.ofBody reply := by
  cases reply with
  | error fault => rfl
  | ok response => exact polled_eq_readAnswer rfl rfl response

theorem read_bindingLastOperation (reply : Reply) :
    Operation.bindingLastOperation.read reply
      = readAnswer .bindingLastOperation LastOperation.ofBody reply := by
  cases reply with
  | error fault => rfl
  | ok response => exact polled_eq_readAnswer rfl rfl response

/-- **The reading of a binding** that is asked for. -/
theorem read_getBinding (reply : Reply) :
    Operation.getBinding.read reply = readAnswer .getBinding Binding.ofBody reply := by
  cases reply with
  | error fault => rfl
  | ok response =>
    show reading {} .getBinding Binding.record.read response = _
    unfold reading
    rw [classify_of_question rfl rfl]
    by_cases gone : response.status = 410
    · rw [if_pos gone, readAnswer_gone _ _ gone]
    · by_cases ok : response.status = 200
      · rw [if_neg gone, if_pos ok, readAnswer_success _ _ ok]
        unfold readBodyOr Binding.ofBody
        cases Text.isBlank response.body <;> rfl
      · rw [if_neg gone, if_neg ok, readAnswer_failure _ _ ok gone]

/-! ## The acceptance of a change -/

/-- **An acceptance is a 202 with a body that can be read**, for every operation that
changes the state. -/
theorem classify_eq_accepted_iff {operation : Operation}
    (changes : operation.acceptsIncomplete = true) (response : Http.Response)
    (token : Option String) :
    classify operation response = .ok (.accepted token)
      ↔ response.status = 202 ∧ AcceptedBody.tokenOf response.body = .ok token := by
  have acceptance_iff : acceptance operation response.body = .ok (.accepted token)
      ↔ AcceptedBody.tokenOf response.body = .ok token := by
    unfold acceptance readBodyOr readBody AcceptedBody.tokenOf
    cases Text.isBlank response.body with
    | true => simp
    | false => cases Json.decode AcceptedBody.record.read response.body <;> simp [Except.map]
  unfold classify
  by_cases accepted : response.status = 202
  · rw [if_neg (by omega), if_neg (by omega), if_pos ⟨accepted, changes⟩, acceptance_iff]
    exact (and_iff_right accepted).symm
  · rw [if_neg (c := response.status = 202 ∧ _) (fun h => accepted h.1)]
    refine iff_of_false (fun h => ?_) (fun h => accepted h.1)
    split at h
    · exact nomatch h
    · split at h
      · exact nomatch h
      · split at h <;> exact nomatch h

/-- A creation is accepted as its answer is sorted. -/
theorem creation_eq_accepted_iff {α : Type} (empty : α) (operation : Operation)
    (reader : Json.Reader α) (response : Http.Response) (token : Option String) :
    creation empty operation reader response = .ok (.accepted token)
      ↔ classify operation response = .ok (.accepted token) := by
  unfold creation
  cases classify operation response with
  | error error => simp
  | ok outcome =>
    cases outcome with
    | accepted token => simp
    | complete result =>
      dsimp only
      cases readBodyOr empty operation reader response.body <;> simp

/-- A deletion is accepted as its answer is sorted. -/
theorem deletion_eq_accepted_iff (operation : Operation) (response : Http.Response)
    (token : Option String) :
    deletion operation response = .ok (.accepted token)
      ↔ classify operation response = .ok (.accepted token) := by
  unfold deletion
  cases classify operation response with
  | error error => cases error <;> simp
  | ok outcome => rfl

end ServiceBroker
