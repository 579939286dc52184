import ServiceBroker.Mock.Request
import ServiceBroker.Proofs.RecordReadBack
import ServiceBroker.Proofs.Requests

/-!
# What a client reads in the mock broker's answers

The mock broker answers in JSON, and a client reads records. For each answer that
matters to a change this module says what the client reads in it: the token of an
acceptance, the state of a poll, the binding that was created, and the outcome of a
change that was made at once.

None of these bodies is blank, so the empty forms that blank bodies stand for never
come into it.
-/

namespace ServiceBroker

theorem isBlank_text_object (members : Members) :
    Text.isBlank (Json.object members).text = false := by
  unfold Text.isBlank Json.text
  rw [String.toList_ofList, Json.write_object, List.all_cons]
  rfl

/-- **The body of a record's object is read**, also where a blank one would have a
meaning. -/
theorem readBodyOr_text {α : Type} (empty : α) (operation : Operation) {read : Json.Reader α}
    {members : Members} {a : α} (h : Json.decode read (Json.object members).text = .ok a) :
    readBodyOr empty operation read (Json.object members).text = .ok a := by
  unfold readBodyOr readBody
  rw [isBlank_text_object, h]
  rfl

namespace Mock

/-! ## The bodies -/

/-- **A poll finds an operation in progress.** -/
theorem ofBody_inProgress (kind : ChangeKind) :
    LastOperation.ofBody (Answer.inProgress kind).toResponse.body
      = .ok { state := .inProgress, description := some (kind.name ++ " in progress") } :=
  LastOperation.record.decode_written (.inProgress, some (kind.name ++ " in progress"), ())
    (by decide) <|
    .present (Json.reads_variantReader rfl 126) <|
    .present (Json.reads_optional_string 126 _) (.nil 126)

/-- **A poll finds that an operation has succeeded.** -/
theorem ofBody_succeeded :
    LastOperation.ofBody Answer.succeeded.toResponse.body = .ok { state := .succeeded } :=
  LastOperation.record.decode_written (.succeeded, none, ()) (by decide) <|
    .present (Json.reads_variantReader rfl 126) <| .absent rfl (.nil 126)

/-- **The token that an acceptance shows**: the broker's own, unless it is left out. -/
def Settings.shownToken (settings : Settings) (token : String) : Option String :=
  if settings.omitToken then none else some token

/-- A token that is shown is the broker's own. -/
theorem Settings.shownToken_eq (settings : Settings) (token : String) :
    settings.shownToken token = none ∨ settings.shownToken token = some token := by
  unfold shownToken
  split
  · exact .inl rfl
  · exact .inr rfl

/-- **The token of an acceptance** is the one that it shows. -/
theorem tokenOf_accepted (settings : Settings) {token : String} (nonempty : token ≠ "") :
    AcceptedBody.tokenOf (Answer.accepted settings token).toResponse.body
      = .ok (settings.shownToken token) := by
  have decoded : Json.decode AcceptedBody.record.read
      (Json.object (if settings.omitToken then [] else [("operation", .string token)])).text
      = .ok { operation := settings.shownToken token } := by
    unfold Settings.shownToken
    cases settings.omitToken with
    | true =>
      exact AcceptedBody.record.decode_written (none, ()) (by decide) <|
        .absent rfl (.nil 126)
    | false =>
      exact AcceptedBody.record.decode_written (some token, ()) (by decide) <|
        .present (Json.reads_optional_string 126 token) (.nil 126)
  unfold AcceptedBody.tokenOf
  show (if Text.isBlank (Json.object _).text then _ else _) = _
  rw [isBlank_text_object, if_neg Bool.false_ne_true]
  show (Json.decode _ (Json.object _).text).map _ = _
  rw [decoded]
  obtain shown | shown := settings.shownToken_eq token
  · rw [shown]
    rfl
  · rw [shown]
    exact congrArg Except.ok (if_pos (decide_eq_true nonempty))

/-- The binding that the mock broker grants. -/
def grantedBinding (instanceId bindingId : String) : Binding where
  credentials :=
    [("uri", .string ("mockdb://" ++ bindingId ++ "@mock-db/" ++ instanceId)),
      ("username", .string bindingId)]

/-- **The binding is shown with its credentials.** -/
theorem decode_credentials (status : Nat) (instanceId bindingId : String) :
    Json.decode Binding.record.read
        (Answer.credentials status instanceId bindingId).toResponse.body
      = .ok (grantedBinding instanceId bindingId) :=
  have distinct : ["uri", "username"].Nodup := by decide
  Binding.record.decode_written ((grantedBinding instanceId bindingId).credentials, none, none, ())
    (by decide) <|
    .present (Json.reads_objectReader distinct fun member mem => by
      simp only [List.mem_cons, List.not_mem_nil, or_false] at mem
      obtain rfl | rfl := mem
      · exact Json.reads_value_string 125 _
      · exact Json.reads_value_string 125 _) <|
    .absent rfl <| .absent rfl (.nil 126)

/-- It is what a client reads that asks for the binding. -/
theorem ofBody_credentials (status : Nat) (instanceId bindingId : String) :
    Binding.ofBody (Answer.credentials status instanceId bindingId).toResponse.body
      = .ok (grantedBinding instanceId bindingId) := by
  unfold Binding.ofBody
  show (if Text.isBlank (Json.object _).text then _ else _) = _
  rw [isBlank_text_object, if_neg Bool.false_ne_true]
  exact decode_credentials status instanceId bindingId

theorem decode_dashboard (url : String) :
    Json.decode Provisioned.record.read (Json.object [("dashboard_url", .string url)]).text
      = .ok { dashboardUrl := some url } :=
  Provisioned.record.decode_written (some url, ()) (by decide) <|
    .present (Json.reads_optional_string 126 url) (.nil 126)

end Mock

end ServiceBroker
