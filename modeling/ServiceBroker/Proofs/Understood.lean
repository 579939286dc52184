import ServiceBroker.Proofs.Dispatch

/-!
# Answers that a client understands

A client reads the body of an answer if its status is one of success, and then the body has to
be of the operation's own type. The mock broker puts its bodies together by hand. This module
goes through all that it may answer to an operation and says that the client can read it
(`Mock.isReadable_meant`).

One answer shows something that came from a client. An instance is shown with the parameters
that it was created with, any value for the broker and an object for the client. They are
readable because they were sent by a client: what is stored of a request is shown as it was
given (`Mock.decode_instance`).
-/

namespace ServiceBroker

/-! ## Success -/

/-- **The statuses of success**: the operation is complete, or accepted for later if it changes
the state. -/
def Operation.succeeds (operation : Operation) (status : Nat) : Bool :=
  completes operation status || (status == 202 && operation.acceptsIncomplete)

/-- **A response that can be read**: if its status is one of success, then its body is of the
operation's type. -/
def Operation.IsReadable (operation : Operation) (response : Http.Response) : Prop :=
  operation.succeeds response.status = true → ∃ answer, operation.parse response = .ok answer

/-- Whether an error is that of a body that cannot be read. -/
def CallError.isMalformed : CallError → Bool
  | .malformed _ _ => true
  | .transport _ | .gone _ | .conflict _ _ | .failed _ _ _ _ _ => false

/-- **A result that is no misunderstanding**: there may have been a failure, but no success that
could not be read. -/
def Understood {α : Type} (result : Except CallError α) : Prop :=
  ∀ error, result = .error error → error.isMalformed = false

/-- A success is understood. -/
theorem understood_ok {α : Type} (a : α) : Understood (.ok a) := fun _ same => nomatch same

theorem understood_error {α : Type} {error : CallError} (h : error.isMalformed = false) :
    Understood (.error error : Except CallError α) := fun _ same =>
  Except.error.inj same ▸ h

theorem Operation.succeeds_of_rejected (operation : Operation) {status : Nat}
    (rejected : 400 ≤ status) : operation.succeeds status = false := by
  have ok : (status == 200) = false := beq_false_of_ne (by omega)
  have created : (status == 201) = false := beq_false_of_ne (by omega)
  have accepted : (status == 202) = false := beq_false_of_ne (by omega)
  cases operation <;> simp [succeeds, completes, ok, created, accepted]

theorem Operation.isReadable_of_rejected (operation : Operation) {response : Http.Response}
    (rejected : 400 ≤ response.status) : operation.IsReadable response := fun success => by
  rw [operation.succeeds_of_rejected rejected] at success
  exact nomatch success

/-- What is no success is an error, and none of a body. -/
theorem classify_of_unsuccessful {operation : Operation} {response : Http.Response}
    (unsuccessful : operation.succeeds response.status = false) :
    ∃ error, classify operation response = .error error ∧ error.isMalformed = false := by
  obtain ⟨incomplete, unaccepted⟩ := Bool.or_eq_false_iff.mp unsuccessful
  unfold classify
  split
  · exact ⟨_, rfl, rfl⟩
  · split
    · exact ⟨_, rfl, rfl⟩
    · have notAccepted : ¬(response.status = 202 ∧ operation.acceptsIncomplete = true) := by
        rintro ⟨status, changes⟩
        rw [status, changes] at unaccepted
        exact nomatch unaccepted
      obtain ⟨code, description, failed⟩ :=
        failure_eq operation response.status response.body
      rw [if_neg notAccepted, incomplete, if_neg Bool.false_ne_true, failed]
      exact ⟨_, rfl, rfl⟩

theorem reading_of_error {α : Type} (empty : α) {operation : Operation} {reader : Json.Reader α}
    {response : Http.Response} {error : CallError}
    (sorted : classify operation response = .error error) :
    reading empty operation reader response = .error error := by
  unfold reading
  rw [sorted]

theorem polled_of_error {operation : Operation} {response : Http.Response} {error : CallError}
    (sorted : classify operation response = .error error) :
    polled operation response = .error error := by
  unfold polled
  rw [sorted]

theorem creation_of_error {α : Type} (empty : α) {operation : Operation} {reader : Json.Reader α}
    {response : Http.Response} {error : CallError}
    (sorted : classify operation response = .error error) :
    creation empty operation reader response = .error error := by
  unfold creation
  rw [sorted]

/-- An answer to a deletion that is sorted as an error is that error, or the target is gone. -/
theorem understood_deletion {operation : Operation} {response : Http.Response} {error : CallError}
    (sorted : classify operation response = .error error) (h : error.isMalformed = false) :
    Understood (deletion operation response) := by
  unfold deletion
  rw [sorted]
  cases error with
  | gone => exact understood_ok _
  | transport | conflict | failed | malformed => exact understood_error h

/-- **A response that can be read is understood.** -/
theorem Operation.IsReadable.understood {operation : Operation} {response : Http.Response}
    (readable : operation.IsReadable response) : Understood (operation.parse response) := by
  cases success : operation.succeeds response.status with
  | true =>
    obtain ⟨answer, read⟩ := readable success
    rw [read]
    exact understood_ok answer
  | false =>
    obtain ⟨error, sorted, h⟩ := classify_of_unsuccessful success
    have passed {α : Type} {result : Except CallError α} (same : result = .error error) :
        Understood result := same ▸ understood_error h
    cases operation with
    | catalog => exact passed (reading_of_error _ sorted)
    | getInstance => exact passed (reading_of_error _ sorted)
    | getBinding => exact passed (reading_of_error _ sorted)
    | instanceLastOperation => exact passed (polled_of_error sorted)
    | bindingLastOperation => exact passed (polled_of_error sorted)
    | provision => exact passed (creation_of_error _ sorted)
    | bind => exact passed (creation_of_error _ sorted)
    | deprovision => exact understood_deletion sorted h
    | unbind => exact understood_deletion sorted h

/-! ## Readable answers -/

section Readable

variable {response : Http.Response} {members : Members}

/-- The answer to a creation is its result. -/
theorem creation_of_completes {α : Type} (empty : α) {operation : Operation}
    {reader : Json.Reader α} {a : α}
    (decoded : Json.decode reader (Json.object members).text = .ok a)
    (body : response.body = (Json.object members).text)
    (complete : completes operation response.status = true) :
    creation empty operation reader response = .ok (.complete a) := by
  unfold creation
  rw [classify_of_completes complete, body]
  dsimp only
  rw [readBodyOr_text empty operation decoded]

/-- The answer to a question is what was asked for. -/
theorem reading_of_completes {α : Type} (empty : α) {operation : Operation}
    {reader : Json.Reader α} {a : α}
    (decoded : Json.decode reader (Json.object members).text = .ok a)
    (body : response.body = (Json.object members).text)
    (complete : completes operation response.status = true) :
    reading empty operation reader response = .ok a := by
  unfold reading
  rw [classify_of_completes complete, body]
  exact readBodyOr_text empty operation decoded

/-- The answer to a poll is the state of the last operation. -/
theorem polled_of_completes {operation : Operation} {last : LastOperation}
    (decoded : LastOperation.ofBody response.body = .ok last)
    (complete : completes operation response.status = true) :
    polled operation response = .ok last := by
  have read : Json.decode LastOperation.record.read response.body = .ok last := decoded
  unfold polled readBody
  rw [classify_of_completes complete]
  dsimp only
  rw [read]

theorem deletion_of_completes {operation : Operation}
    (complete : completes operation response.status = true) :
    deletion operation response = .ok (.complete ()) := by
  unfold deletion
  rw [classify_of_completes complete]

end Readable

/-- What is read to its end is decoded. -/
theorem Json.exists_decode {α : Type} {read : Json.Reader α} {value : Json}
    (found : (read Json.maxDepth value.write).toOption.map Prod.snd = some []) :
    ∃ a, Json.decode read value.text = .ok a := by
  unfold Json.decode Json.text
  rw [String.toList_ofList]
  cases result : read Json.maxDepth value.write with
  | error fault =>
    rw [result] at found
    exact nomatch found
  | ok pair =>
    obtain ⟨a, rest⟩ := pair
    rw [result] at found
    obtain rfl : rest = [] := Option.some.inj found
    exact ⟨a, rfl⟩

section Answers

variable {answer : Mock.Answer} {members : Members}

theorem isReadable_of_catalog {catalog : Catalog}
    (decoded : Json.decode Catalog.record.read (Json.object members).text = .ok catalog)
    (body : answer.body = .object members) (ok : answer.status = 200) :
    Operation.IsReadable .catalog answer.toResponse := fun _ =>
  ⟨catalog, reading_of_completes _ decoded (congrArg Json.text body) (beq_iff_eq.mpr ok)⟩

theorem isReadable_of_provisioned {result : Provisioned}
    (decoded : Json.decode Provisioned.record.read (Json.object members).text = .ok result)
    (body : answer.body = .object members) (complete : completes .provision answer.status = true) :
    Operation.IsReadable .provision answer.toResponse := fun _ =>
  ⟨.complete result, creation_of_completes _ decoded (congrArg Json.text body) complete⟩

theorem isReadable_of_bound {binding : Binding}
    (decoded : Json.decode Binding.record.read (Json.object members).text = .ok binding)
    (body : answer.body = .object members) (complete : completes .bind answer.status = true) :
    Operation.IsReadable .bind answer.toResponse := fun _ =>
  ⟨.complete binding, creation_of_completes _ decoded (congrArg Json.text body) complete⟩

theorem isReadable_of_binding {binding : Binding}
    (decoded : Json.decode Binding.record.read (Json.object members).text = .ok binding)
    (body : answer.body = .object members) (ok : answer.status = 200) :
    Operation.IsReadable .getBinding answer.toResponse := fun _ =>
  ⟨binding, reading_of_completes _ decoded (congrArg Json.text body) (beq_iff_eq.mpr ok)⟩

theorem parse_details {details : InstanceDetails}
    (decoded : Json.decode InstanceDetails.record.read (Json.object members).text = .ok details)
    (body : answer.body = .object members) (ok : answer.status = 200) :
    Operation.parse .getInstance answer.toResponse = .ok details :=
  reading_of_completes _ decoded (congrArg Json.text body) (beq_iff_eq.mpr ok)

theorem isReadable_of_state {last : LastOperation}
    (decoded : LastOperation.ofBody answer.toResponse.body = .ok last) (ok : answer.status = 200) :
    Operation.IsReadable .instanceLastOperation answer.toResponse ∧
      Operation.IsReadable .bindingLastOperation answer.toResponse :=
  ⟨fun _ => ⟨last, polled_of_completes decoded (beq_iff_eq.mpr ok)⟩,
    fun _ => ⟨last, polled_of_completes decoded (beq_iff_eq.mpr ok)⟩⟩

theorem isReadable_of_deleted (ok : answer.status = 200) :
    Operation.IsReadable .deprovision answer.toResponse ∧
      Operation.IsReadable .unbind answer.toResponse :=
  ⟨fun _ => ⟨.complete (), deletion_of_completes (beq_iff_eq.mpr ok)⟩,
    fun _ => ⟨.complete (), deletion_of_completes (beq_iff_eq.mpr ok)⟩⟩

end Answers

namespace Mock

/-! ## What the broker answers -/

/-- No refusal is a success. -/
theorem Refusal.rejected (refusal : Refusal) : 400 ≤ refusal.toResponse.status := by
  cases refusal with
  | badBody error =>
    unfold Refusal.toResponse
    dsimp only
    cases error.category <;> exact Nat.le_of_ble_eq_true rfl
  | _ => exact Nat.le_of_ble_eq_true rfl

/-- **The acceptance of a change can be read.** -/
theorem isReadable_accept {operation : Operation} (changes : operation.acceptsIncomplete = true)
    (settings : Settings) (random : String) (polls : Nat) (target : Target) (kind : ChangeKind)
    (store : Store) :
    operation.IsReadable (accept settings random polls target kind store).1.toResponse := by
  intro _
  have nonempty : kind.name ++ "-" ++ random ≠ "" := by simp
  have sorted := (classify_eq_accepted_iff changes
    (accept settings random polls target kind store).1.toResponse _).mpr
    ⟨rfl, tokenOf_accepted settings nonempty⟩
  cases operation with
  | provision => exact ⟨_, (creation_eq_accepted_iff _ .provision _ _ _).mpr sorted⟩
  | bind => exact ⟨_, (creation_eq_accepted_iff _ .bind _ _ _).mpr sorted⟩
  | deprovision => exact ⟨_, (deletion_eq_accepted_iff .deprovision _ _).mpr sorted⟩
  | unbind => exact ⟨_, (deletion_eq_accepted_iff .unbind _ _).mpr sorted⟩
  | _ => exact nomatch changes

/-- The catalog can be read. -/
theorem isReadable_catalog :
    Operation.IsReadable .catalog { status := 200, body := catalogJson : Answer }.toResponse := by
  obtain ⟨members, same⟩ : ∃ members, catalogJson = .object members := ⟨_, rfl⟩
  -- The characters are read, not the text: a text is slow to take apart.
  obtain ⟨catalog, decoded⟩ := Json.exists_decode
    (by decide +kernel : (Catalog.record.read Json.maxDepth catalogJson.write).toOption.map
      Prod.snd = some [])
  rw [same] at decoded
  exact isReadable_of_catalog decoded same rfl

theorem isReadable_rejection (operation : Operation) (answer : Answer)
    (rejected : 400 ≤ answer.status) : operation.IsReadable answer.toResponse :=
  operation.isReadable_of_rejected rejected

theorem decode_granted (i b : String) :
    Json.decode Binding.record.read (Json.object [("credentials", credentials i b)]).text
      = .ok (grantedBinding i b) :=
  decode_credentials 200 i b

theorem isReadable_granted (status : Nat) (i b : String)
    (complete : completes .bind status = true) :
    Operation.IsReadable .bind (Answer.credentials status i b).toResponse :=
  isReadable_of_bound (decode_granted i b) rfl complete

section Perform

variable (settings : Settings) (random i b : String) (query : Query) (store : Store)

/-- The answer to the creation of an instance can be read. -/
theorem isReadable_provision (body : ProvisionBody) :
    Operation.IsReadable .provision
      (provision settings random i query body store).1.toResponse := by
  have empty : Json.decode Provisioned.record.read (Json.object []).text = .ok {} :=
    Provisioned.record.decode_written (none, ()) (by decide) (.absent rfl (.nil 126))
  unfold provision
  cases store.instances.get? i with
  | some existing =>
    dsimp only
    split
    · exact isReadable_of_provisioned empty rfl rfl
    · exact isReadable_rejection _ (.error 409 _ _) (Nat.le_of_ble_eq_true rfl)
  | none =>
    cases settings.mode with
    | sync => exact isReadable_of_provisioned (decode_dashboard _) rfl rfl
    | async polls =>
      cases query.acceptsIncomplete with
      | true => exact @isReadable_accept .provision rfl _ _ _ _ _ _
      | false => exact isReadable_rejection _ .asyncRequired (by decide)

/-- The answer to the deletion of an instance can be read. -/
theorem isReadable_deprovision :
    Operation.IsReadable .deprovision
      (deprovision settings random i query store).1.toResponse := by
  unfold deprovision
  cases query.hasCorrelation with
  | false => exact isReadable_rejection _ .uncorrelated (by decide)
  | true =>
    cases store.instances.contains i with
    | false => exact isReadable_rejection _ .gone (by decide)
    | true =>
      cases settings.mode with
      | sync => exact (isReadable_of_deleted rfl).1
      | async polls =>
        cases query.acceptsIncomplete with
        | true => exact @isReadable_accept .deprovision rfl _ _ _ _ _ _
        | false => exact isReadable_rejection _ .asyncRequired (by decide)

/-- The answer to the creation of a binding can be read. -/
theorem isReadable_bind (body : BindBody) :
    Operation.IsReadable .bind (bind settings random i b query body store).1.toResponse := by
  unfold bind
  cases store.instances.contains i with
  | false => exact isReadable_rejection _ .noInstance (by decide)
  | true =>
    cases store.bindings.get? (i, b) with
    | some existing =>
      show Operation.IsReadable .bind (if existing.same body then Answer.credentials 200 i b
        else .error 409 "Conflict" "binding exists with different attributes").toResponse
      split
      · exact isReadable_granted 200 i b rfl
      · exact isReadable_rejection _ (.error 409 _ _) (Nat.le_of_ble_eq_true rfl)
    | none =>
      cases settings.mode with
      | sync => exact isReadable_granted 201 i b rfl
      | async polls =>
        cases query.acceptsIncomplete with
        | true => exact @isReadable_accept .bind rfl _ _ _ _ _ _
        | false => exact isReadable_rejection _ .asyncRequired (by decide)

/-- The answer to the deletion of a binding can be read. -/
theorem isReadable_unbind :
    Operation.IsReadable .unbind (unbind settings random i b query store).1.toResponse := by
  unfold unbind
  cases query.hasCorrelation with
  | false => exact isReadable_rejection _ .uncorrelated (by decide)
  | true =>
    cases store.bindings.contains (i, b) with
    | false => exact isReadable_rejection _ .gone (by decide)
    | true =>
      cases settings.mode with
      | sync => exact (isReadable_of_deleted rfl).2
      | async polls =>
        cases query.acceptsIncomplete with
        | true => exact @isReadable_accept .unbind rfl _ _ _ _ _ _
        | false => exact isReadable_rejection _ .asyncRequired (by decide)

/-- The answer to the reading of a binding can be read. -/
theorem isReadable_getBinding :
    Operation.IsReadable .getBinding (getBinding i b store).toResponse := by
  unfold getBinding
  dsimp only
  split
  · exact isReadable_rejection _ .noBinding (by decide)
  · exact isReadable_of_binding (decode_granted i b) rfl rfl

/-- **The answer to a question after an operation** can be read. -/
theorem isReadable_poll (target : Target) (token : Option String) :
    Operation.IsReadable .instanceLastOperation (store.poll target token).1.toResponse ∧
      Operation.IsReadable .bindingLastOperation (store.poll target token).1.toResponse := by
  have rejection (answer : Answer) (rejected : 400 ≤ answer.status) :
      Operation.IsReadable .instanceLastOperation answer.toResponse ∧
        Operation.IsReadable .bindingLastOperation answer.toResponse :=
    ⟨isReadable_rejection _ answer rejected, isReadable_rejection _ answer rejected⟩
  unfold Store.poll
  cases store.operations.get? target with
  | none =>
    dsimp only
    split
    · exact isReadable_of_state ofBody_succeeded rfl
    · exact rejection .gone (by decide)
  | some pending =>
    dsimp only
    split
    · exact rejection (.error 400 _ _) (Nat.le_of_ble_eq_true rfl)
    · split
      · exact isReadable_of_state (ofBody_inProgress _) rfl
      · exact isReadable_of_state ofBody_succeeded rfl

end Perform

end Mock

/-- **A request whose body can be stored**: its free-form objects hold no double and fit. -/
structure ProvisionRequest.IsStorable (request : ProvisionRequest) : Prop where
  exact : ∀ members ∈ request.freeForm, (Json.object members).IsExact
  fit : Json.Fit request.freeForm

/-- **What is shown of an instance** that a request has created. -/
def ProvisionRequest.shown (request : ProvisionRequest) (i : String) : InstanceDetails where
  serviceId := some request.serviceId
  planId := some request.planId
  dashboardUrl := some (Mock.dashboardUrl i)
  parameters := request.parameters

namespace Mock

/-! ## Showing an instance -/

/-- **An instance is read as it was asked for.** -/
theorem decode_instance {request : ProvisionRequest} (storable : request.IsStorable) (i : String) :
    Json.decode InstanceDetails.record.read (Json.object
        [("service_id", .string request.stored.serviceId),
          ("plan_id", .string request.stored.planId), ("dashboard_url", .string (dashboardUrl i)),
          ("parameters", request.stored.parameters.getD .null)]).text
      = .ok (request.shown i) := by
  have parameters : Json.Reads (Json.optionReader Json.objectReader 126)
      (request.stored.parameters.getD .null).write request.parameters := by
    unfold ProvisionRequest.stored
    cases given : request.parameters with
    | none => exact fun rest _ => rfl
    | some members =>
      have mem : members ∈ request.freeForm :=
        List.mem_append_left _ (Option.mem_toList.mpr given)
      have reads := (storable.exact members mem).reads_objectReader
        (Nat.le_of_lt_succ (storable.fit members mem))
      dsimp only [Option.map_some, Option.getD_some]
      rw [Json.write_object] at reads ⊢
      exact reads.optionReader rfl (by decide)
  exact InstanceDetails.record.decode_written
    (some request.serviceId, some request.planId, some (dashboardUrl i), request.parameters, ())
    (by decide) <|
    .present (Json.reads_optional_string 126 _) <| .present (Json.reads_optional_string 126 _) <|
    .present (Json.reads_optional_string 126 _) <| .present parameters (.nil 126)

/-- **A store of instances that clients asked for.** -/
def Store.IsAskedFor (store : Store) : Prop :=
  ∀ {i body}, store.instances.get? i = some body →
    ∃ request : ProvisionRequest, request.IsStorable ∧ body = request.stored

section Instance

variable {store : Store} (i : String)

/-- **What a client reads of an instance** is what is stored, if it is shown at all. -/
theorem parse_getInstance {request : ProvisionRequest} (storable : request.IsStorable)
    (stored : store.instances.get? i = some request.stored) :
    400 ≤ (getInstance i store).status ∨
      Operation.parse .getInstance (getInstance i store).toResponse = .ok (request.shown i) := by
  unfold getInstance
  rw [stored]
  dsimp only
  split
  · exact .inl (Nat.le_of_ble_eq_true rfl)
  · exact .inr (parse_details (decode_instance storable _) rfl rfl)

/-- The answer to the reading of an instance can be read. -/
theorem isReadable_getInstance (asked : store.IsAskedFor) :
    Operation.IsReadable .getInstance (getInstance i store).toResponse := by
  cases stored : store.instances.get? i with
  | none =>
    unfold getInstance
    rw [stored]
    exact isReadable_rejection _ .noInstance (by decide)
  | some body =>
    obtain ⟨request, storable, rfl⟩ := asked stored
    obtain rejected | read := parse_getInstance i storable stored
    · exact isReadable_rejection _ _ rejected
    · exact fun _ => ⟨_, read⟩

end Instance

/-- **Whatever a client means, it can read the answer**, if the instances are those that clients
asked for. -/
theorem isReadable_meant (operation : Operation) (input : operation.Input) (query : Query)
    (settings : Settings) (random : String) {store : Store} (asked : store.IsAskedFor) :
    operation.IsReadable
      ((operation.meant input query).perform settings random store).1.toResponse := by
  cases operation with
  | catalog => exact isReadable_catalog
  | provision => exact isReadable_provision settings random _ query store _
  | deprovision => exact isReadable_deprovision settings random _ query store
  | getInstance => exact isReadable_getInstance input asked
  | bind => exact isReadable_bind settings random _ _ query store _
  | unbind => exact isReadable_unbind settings random _ _ query store
  | getBinding => exact isReadable_getBinding _ _ store
  | instanceLastOperation => exact (isReadable_poll store _ _).1
  | bindingLastOperation => exact (isReadable_poll store _ _).2

end Mock

end ServiceBroker
