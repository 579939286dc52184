import ServiceBroker.Proofs.Countdown
import ServiceBroker.Proofs.SentBodies

/-!
# Requests find their handlers

A client puts a request together from the parts of an operation, and the mock broker takes it
apart again: the gate of the headers, the endpoint of the path, the method, the identifiers, the
query, the body. The two are written independently of each other. This module says that they
agree: what the broker understands is what the client meant (`Operation.meant`), with the same
identifiers, and the query has the fields that the client gave and no others
(`Operation.field?`).

An identifier may be any word of a path, `last_operation` for example, because the words of a
path stand in fixed places. A service, a plan or a token may be any text. Only the credentials
have to be the broker's, the version has to be a header, and what is sent has to fit into a body
(`Operation.Fits`). That is no matter of course: a text of any length can be written down and
sent, and the broker takes in no more than its limit (`Mock.long_body_is_refused`).
-/

namespace ServiceBroker

/-! ## The URL -/

/-- Slashes at the end of a text make no difference. -/
theorem stripSlashes_append_slashes (text : String) (slashes : Nat) :
    stripSlashes (text ++ String.ofList (List.replicate slashes '/')) = stripSlashes text := by
  have skipped : (List.replicate slashes '/' ++ text.toList.reverse).dropWhile (· = '/')
      = text.toList.reverse.dropWhile (· = '/') := by
    induction slashes with
    | zero => rfl
    | succ slashes ih => exact ih
  unfold stripSlashes
  rw [String.toList_append, String.toList_ofList, List.reverse_append, List.reverse_replicate,
    skipped]

/-- A text that ends in no slash stays as it is. -/
theorem stripSlashes_eq_self {text : String} (bare : text.toList.getLast? ≠ some '/') :
    stripSlashes text = text := by
  have kept : text.toList.reverse.dropWhile (· = '/') = text.toList.reverse := by
    cases reversed : text.toList.reverse with
    | nil => rfl
    | cons c rest =>
      have last : text.toList.getLast? = some c := by
        rw [← List.head?_reverse, reversed]
        rfl
      refine List.dropWhile_cons_of_neg fun slash => bare ?_
      rw [last, of_decide_eq_true slash]
  unfold stripSlashes
  rw [kept, List.reverse_reverse, String.ofList_toList]

/-- The slashes at the end of a text are left out. -/
theorem stripSlashes_append {origin : String} (bare : origin.toList.getLast? ≠ some '/')
    (slashes : Nat) :
    stripSlashes (origin ++ String.ofList (List.replicate slashes '/')) = origin := by
  rw [stripSlashes_append_slashes, stripSlashes_eq_self bare]

/-! ## The headers -/

theorem isHeaderChar_base64Digit {n : Nat} (h : n < 64) :
    Loopback.isHeaderChar (Text.base64Digit n) = true :=
  (by decide : ∀ n : Fin 64, Loopback.isHeaderChar (Text.base64Digit n.val) = true) ⟨n, h⟩

/-- **Bytes in base 64 may stand in a header.** -/
theorem all_isHeaderChar_base64 (bytes : List UInt8) :
    (Text.base64 bytes).all Loopback.isHeaderChar = true := by
  have pad : Loopback.isHeaderChar '=' = true := by decide
  induction bytes using Text.base64.induct with
  | case1 => rfl
  | case2 a =>
    have first := a.toNat_lt
    unfold Text.base64
    simp only [List.all_cons, List.all_nil, pad, Bool.and_true]
    rw [isHeaderChar_base64Digit (by omega), isHeaderChar_base64Digit (by omega)]
    rfl
  | case3 a b =>
    have first := a.toNat_lt
    have second := b.toNat_lt
    unfold Text.base64
    simp only [List.all_cons, List.all_nil, pad, Bool.and_true]
    rw [isHeaderChar_base64Digit (by omega), isHeaderChar_base64Digit (by omega),
      isHeaderChar_base64Digit (by omega)]
    rfl
  | case4 a b c rest ih =>
    have first := a.toNat_lt
    have second := b.toNat_lt
    have third := c.toNat_lt
    unfold Text.base64
    simp only [List.all_cons]
    rw [isHeaderChar_base64Digit (by omega), isHeaderChar_base64Digit (by omega),
      isHeaderChar_base64Digit (by omega), isHeaderChar_base64Digit (by omega), ih]
    rfl

/-- Credentials can always be sent. -/
theorem Broker.all_isHeaderChar_authorization (broker : Broker) :
    broker.authorization.toList.all Loopback.isHeaderChar = true := by
  have scheme : "Basic ".toList.all Loopback.isHeaderChar = true := by decide
  unfold Broker.authorization Broker.basicAuthorization
  rw [String.toList_append, List.all_append, scheme, String.toList_ofList,
    all_isHeaderChar_base64]
  rfl

/-- **A client with the credentials of a broker is known to it**, as long as its version is a
header. -/
theorem Broker.isKnown_of_credentials {broker : Broker} {settings : Mock.Settings}
    (username : broker.username = settings.username)
    (password : broker.password = settings.password)
    (version : broker.apiVersion.toList.all Loopback.isHeaderChar = true) :
    broker.IsKnown settings where
  sent := by
    unfold Loopback.isSendable
    rw [broker.all_isHeaderChar_authorization, version]
    rfl
  admitted := by
    unfold Mock.Settings.Admits authorization
    rw [username, password]

/-! ## The query -/

namespace Operation

/-- **What the query of an operation says about a name.** -/
def field? (operation : Operation) (input : operation.Input) (name : String) : Option String :=
  if name = "accepts_incomplete" then
    if operation.acceptsIncomplete then some "true" else none
  else ((operation.correlation input).lookup name).join.filter (· ≠ "")

/-- The names of the correlation fields differ, and none is that of the consent. -/
theorem names_correlation (operation : Operation) (input : operation.Input) :
    ("accepts_incomplete" :: (operation.correlation input).map Prod.fst).Nodup := by
  have one : ["accepts_incomplete"].Nodup := by decide
  have two : ["accepts_incomplete", "service_id", "plan_id"].Nodup := by decide
  have three : ["accepts_incomplete", "service_id", "plan_id", "operation"].Nodup := by decide
  cases operation with
  | catalog | provision | getInstance | bind => exact one
  | deprovision | unbind | getBinding => exact two
  | instanceLastOperation | bindingLastOperation => exact three

end Operation

/-- A name that no field has is not found. -/
theorem lookup_eq_none_of_not_mem {fields : List (String × Option String)} {name : String}
    (fresh : name ∉ fields.map Prod.fst) : fields.lookup name = none :=
  List.lookup_eq_none_iff.mpr fun (other, value) mem =>
    bne_iff_ne.mpr fun same => fresh (List.mem_map.mpr ⟨(other, value), mem, same.symm⟩)

/-- **Correlation fields in a query** are found by their names; others are as they were. -/
theorem Mock.Query.get?_append_correlates {fields : List (String × Option String)}
    (distinct : (fields.map Prod.fst).Nodup) (query : Query) (name : String) :
    get? (query ++ fields.flatMap fun (name, value) => correlate name value) name
      = ((fields.lookup name).join.filter (· ≠ "")).or (query.get? name) := by
  induction fields generalizing query with
  | nil =>
    rw [List.flatMap_nil, List.append_nil]
    rfl
  | cons field fields ih =>
    obtain ⟨other, value⟩ := field
    obtain ⟨fresh, distinct⟩ := List.nodup_cons.mp distinct
    rw [List.flatMap_cons, ← List.append_assoc, ih distinct, List.lookup_cons]
    by_cases same : name = other
    · subst same
      -- The other fields have other names, so they add nothing under this one.
      rw [lookup_eq_none_of_not_mem fresh, beq_self_eq_true]
      cases value with
      | none =>
        show get? (query ++ []) name = _
        rw [List.append_nil]
        rfl
      | some value =>
        by_cases empty : value = ""
        · subst empty
          show get? (query ++ []) name = _
          rw [List.append_nil]
          rfl
        · have kept : (some value).filter (· ≠ "") = some value := if_pos (decide_eq_true empty)
          rw [get?_append_correlate query name empty]
          dsimp only [Option.join_some]
          rw [kept]
          rfl
    · rw [get?_append_correlate_of_ne query same, beq_false_of_ne same]

/-- **The query of an operation has its fields and no others.** -/
theorem Operation.get?_query (operation : Operation) (input : operation.Input) (name : String) :
    Mock.Query.get? (operation.query input) name = operation.field? input name := by
  obtain ⟨fresh, distinct⟩ := List.nodup_cons.mp (operation.names_correlation input)
  unfold Operation.query
  rw [filterMap_correlate, Mock.Query.get?_append_correlates distinct]
  unfold Operation.field? Operation.consent
  by_cases consent : name = "accepts_incomplete"
  · subst consent
    rw [lookup_eq_none_of_not_mem fresh, if_pos rfl]
    cases operation.acceptsIncomplete <;> rfl
  · rw [if_neg consent]
    have unasked : Mock.Query.get? (if operation.acceptsIncomplete then
        [("accepts_incomplete", "true")] else []) name = none := by
      have differs : (name == "accepts_incomplete") = false := beq_false_of_ne consent
      unfold Mock.Query.get?
      cases operation.acceptsIncomplete with
      | false => rfl
      | true =>
        show List.lookup name [("accepts_incomplete", "true")] = none
        rw [List.lookup_cons, differs]
        rfl
    rw [unasked, Option.or_none]

/-! ## What is meant -/

namespace Operation

/-- The free-form objects that an operation sends. -/
def freeForm : (operation : Operation) → operation.Input → List Members
  | .provision, request => request.freeForm
  | .bind, request => request.freeForm
  | .catalog, _ | .deprovision, _ | .getInstance, _ | .instanceLastOperation, _ | .unbind, _
  | .getBinding, _ | .bindingLastOperation, _ => []

/-- **What an operation sends fits into a body**: the text is no longer than a broker takes in, and
its free-form objects are not nested too deep. -/
structure Fits (operation : Operation) (input : operation.Input) : Prop where
  size : ∀ body ∈ operation.body input, body.text.utf8ByteSize ≤ Mock.bodyLimit
  depth : Json.Fit (operation.freeForm input)

/-- **What a client means by an operation**: the handler, the identifiers, and what the handler
is given besides. Where the handler is given the whole query, that is a parameter. -/
def meant : (operation : Operation) → operation.Input → Mock.Query → Mock.Action
  | .catalog, _, _ => .catalog
  | .provision, request, query => .provision request.instanceId query request.stored
  | .deprovision, request, query => .deprovision request.instanceId query
  | .getInstance, instanceId, _ => .getInstance instanceId
  | .instanceLastOperation, request, _ =>
    .lastOperation (.serviceInstance request.instanceId) (request.operation.filter (· ≠ ""))
  | .bind, request, query => .bind request.instanceId request.bindingId query request.stored
  | .unbind, request, query => .unbind request.instanceId request.bindingId query
  | .getBinding, request, _ => .getBinding request.instanceId request.bindingId
  | .bindingLastOperation, request, _ =>
    .lastOperation (.serviceBinding request.instanceId request.bindingId)
      (request.operation.filter (· ≠ ""))

end Operation

namespace Mock

section Body

variable {broker : Broker} {arrival : Request}

/-- The type of a body is named if there is one. -/
theorem contentType_eq (headers : arrival.headers = broker.headers true) :
    arrival.header? "Content-Type" = some "application/json" := by
  have authorization : Http.sameName "Authorization" "Content-Type" = false := by decide
  have version : Http.sameName "X-Broker-Api-Version" "Content-Type" = false := by decide
  have same : Http.sameName "Content-Type" "Content-Type" = true := by decide
  unfold Request.header? Http.valueOf?
  rw [headers, Broker.headers]
  simp only [if_true, List.cons_append, List.nil_append, List.find?_cons, authorization, version,
    same, Option.map_some]

/-- **A body that a client sends** is read as a record if it is not too long. -/
theorem bodyAs_eq {α : Type} (record : Json.Record α) {body : Json}
    (headers : arrival.headers = broker.headers true) (sent : arrival.body = some body.text) :
    bodyAs record arrival =
      if body.text.utf8ByteSize ≤ bodyLimit then
        match Json.decode record.read body.text with
        | .ok a => .ok a
        | .error error => .error (.badBody error)
      else .error .oversizedBody := by
  have json : MediaType.isJson "application/json" = true := by decide
  have text : arrival.text = body.text := by
    unfold Request.text
    rw [sent]
    rfl
  unfold bodyAs
  rw [contentType_eq headers, text]
  exact if_pos json

end Body

variable {broker : Broker} {operation : Operation} {input : operation.Input}
  (plain : (operation.endpoint input).IsPlain)
  (exact : ∀ members ∈ operation.freeForm input, (Json.object members).IsExact)

include plain

/-- **A body that is too long is refused** at its endpoint, before it is read. -/
theorem actionAt_of_long {body : Json} (sent : operation.body input = some body)
    (long : bodyLimit < body.text.utf8ByteSize) :
    actionAt (operation.endpoint input) (operation.query input)
        ((operation.endpoint input).arrival (broker.request operation input))
      = .error .oversizedBody := by
  have oversized := Nat.not_le_of_lt long
  set arrival := (operation.endpoint input).arrival (broker.request operation input)
  cases operation with
  | provision =>
    obtain rfl := Option.some.inj sent
    refine (actionAt_provision (plain _ (.head _)) rfl).trans ?_
    rw [@bodyAs_eq broker arrival _ _ input.body rfl rfl, if_neg oversized]
    rfl
  | bind =>
    obtain rfl := Option.some.inj sent
    refine (actionAt_bind (plain _ (.head _)) (plain _ (.tail _ (.head _))) rfl).trans ?_
    rw [@bodyAs_eq broker arrival _ _ input.body rfl rfl, if_neg oversized]
    rfl
  | catalog | deprovision | getInstance | instanceLastOperation | unbind | getBinding
  | bindingLastOperation => exact nomatch sent

include exact

/-- **What is asked for at an endpoint is what is meant**, if it fits into a body. -/
theorem actionAt_meant (fit : operation.Fits input) :
    actionAt (operation.endpoint input) (operation.query input)
        ((operation.endpoint input).arrival (broker.request operation input))
      = .ok (operation.meant input (operation.query input)) := by
  have token := operation.get?_query input "operation"
  set arrival := (operation.endpoint input).arrival (broker.request operation input)
  cases operation with
  | catalog => rfl
  | provision =>
    refine (actionAt_provision (plain _ (.head _)) rfl).trans ?_
    rw [@bodyAs_eq broker arrival _ _ input.body rfl rfl, if_pos (fit.size _ rfl),
      input.decode_body exact fit.depth]
    rfl
  | deprovision =>
    show (instanceIdOf input.instanceId).bind (fun i =>
      .ok (Action.deprovision i (Operation.query .deprovision input))) = _
    rw [instanceIdOf_eq (plain _ (.head _))]
    rfl
  | getInstance =>
    show (instanceIdOf input).bind (fun i => .ok (Action.getInstance i)) = _
    rw [instanceIdOf_eq (plain _ (.head _))]
    rfl
  | instanceLastOperation =>
    refine (actionAt_instanceLastOperation (plain _ (.head _)) rfl).trans ?_
    rw [token]
    rfl
  | bind =>
    refine (actionAt_bind (plain _ (.head _)) (plain _ (.tail _ (.head _))) rfl).trans ?_
    rw [@bodyAs_eq broker arrival _ _ input.body rfl rfl, if_pos (fit.size _ rfl),
      input.decode_body exact fit.depth]
    rfl
  | unbind =>
    show (instanceIdOf input.instanceId).bind (fun i => (bindingIdOf input.bindingId).bind fun b =>
      .ok (Action.unbind i b (Operation.query .unbind input))) = _
    rw [instanceIdOf_eq (plain _ (.head _)), bindingIdOf_eq (plain _ (.tail _ (.head _)))]
    rfl
  | getBinding =>
    exact actionAt_getBinding (plain _ (.head _)) (plain _ (.tail _ (.head _))) rfl
  | bindingLastOperation =>
    refine (actionAt_bindingLastOperation (plain _ (.head _)) (plain _ (.tail _ (.head _)))
      rfl).trans ?_
    rw [token]
    rfl

end Mock

/-! ## The result -/

/-- **The way of a request** of a known client: it arrives, passes the gate of the headers and
comes to the operation's endpoint, with the operation's query. What it is understood as is decided
there. -/
theorem Loopback.exists_arrival {loopback : Loopback} {broker : Broker} {operation : Operation}
    {input : operation.Input} (origin : broker.baseUrl = loopback.origin)
    (known : broker.IsKnown loopback.settings) (plain : (operation.endpoint input).IsPlain) :
    ∃ arrival, loopback.arrival? (broker.request operation input) = some arrival ∧
      Mock.checkHeaders loopback.settings arrival = none ∧
      Mock.endpointOf? (Mock.splitTarget arrival.target).1 = some (operation.endpoint input) ∧
      Text.formPairs (Mock.splitTarget arrival.target).2 = operation.query input ∧
      Mock.understand loopback.settings arrival
        = Mock.actionAt (operation.endpoint input) (operation.query input)
            ((operation.endpoint input).arrival (broker.request operation input)) := by
  have path : (broker.request operation input).path
      = loopback.origin ++ (operation.endpoint input).path := by
    rw [← origin]
    rfl
  have headers : (broker.request operation input).headers
      = broker.headers (operation.body input).isSome := rfl
  have arrives := loopback.arrival?_eq path headers
  rw [Loopback.all_isUrlChar plain, known.sent] at arrives
  have understood := Mock.understand_arrival loopback.settings headers plain
  rw [if_pos known.admitted] at understood
  have target : Mock.splitTarget
      ((operation.endpoint input).arrival (broker.request operation input)).target
      = ((operation.endpoint input).path.toList, Text.formQuery (operation.query input)) :=
    Loopback.splitTarget_targetOf plain (operation.query input)
  refine ⟨_, arrives, ?_, ?_, ?_, understood⟩
  · rw [@Mock.checkHeaders_eq loopback.settings _ broker _ headers, if_pos known.admitted]
  · rw [target]
    exact Mock.endpointOf?_path plain
  · rw [target]
    exact Text.formPairs_formQuery _

/-- **Requests find their handlers.** Let a client have the credentials of a mock broker, the
broker's URL with any number of slashes behind it, and any header as its version. For every
operation on identifiers that need no escape, with free-form objects that hold no double, and with
what it sends fitting into a body, the request arrives. It passes the gate of the headers, its path leads to the
operation's endpoint, and it is understood as what the client meant. In its query the broker
finds the consent exactly for the operations that change the state, the correlation fields as
they were given, unless they were left open or empty, and nothing else. -/
theorem requests_find_their_handlers (loopback : Loopback) (broker : Broker)
    (operation : Operation) (input : operation.Input)
    (bare : loopback.origin.toList.getLast? ≠ some '/') (slashes : Nat)
    (url : broker.url = loopback.origin ++ String.ofList (List.replicate slashes '/'))
    (username : broker.username = loopback.settings.username)
    (password : broker.password = loopback.settings.password)
    (version : broker.apiVersion.toList.all Loopback.isHeaderChar = true)
    (plain : (operation.endpoint input).IsPlain)
    (exact : ∀ members ∈ operation.freeForm input, (Json.object members).IsExact)
    (fit : operation.Fits input) :
    ∃ arrival, loopback.arrival? (broker.request operation input) = some arrival ∧
      Mock.checkHeaders loopback.settings arrival = none ∧
      let path := (Mock.splitTarget arrival.target).1
      let query := Text.formPairs (Mock.splitTarget arrival.target).2
      Mock.endpointOf? path = some (operation.endpoint input) ∧
      Mock.understand loopback.settings arrival = .ok (operation.meant input query) ∧
      ∀ name, Mock.Query.get? query name = operation.field? input name := by
  have origin : broker.baseUrl = loopback.origin := by
    unfold Broker.baseUrl
    rw [url, stripSlashes_append bare]
  have known := Broker.isKnown_of_credentials username password version
  obtain ⟨arrival, arrives, passes, leads, asks, understood⟩ :=
    Loopback.exists_arrival origin known plain
  refine ⟨arrival, arrives, passes, leads, ?_⟩
  rw [asks]
  exact ⟨understood.trans (Mock.actionAt_meant plain exact fit), operation.get?_query input⟩

/-- A binding is created whose identifiers are words of its path, with parameters nested three
deep, and by a URL with two slashes too many. -/
theorem requests_find_their_handlers_words :
    let loopback : Loopback := { origin := "http://localhost:3000", random := toString }
    let broker : Broker :=
      { url := "http://localhost:3000" ++ String.ofList (List.replicate 2 '/'),
        username := "admin", password := "secret", apiVersion := "2.17 é" }
    let input : BindRequest :=
      { instanceId := "service_bindings", bindingId := "last_operation", serviceId := "a&b=c",
        planId := "", parameters := some [("a", .array [.number (.whole ⟨-1, by decide, by decide⟩),
          .object []])] }
    (Operation.endpoint .bind input).IsPlain ∧ Operation.Fits .bind input ∧
      ∃ arrival, loopback.arrival? (broker.request .bind input) = some arrival ∧
        Mock.checkHeaders loopback.settings arrival = none ∧
        let path := (Mock.splitTarget arrival.target).1
        let query := Text.formPairs (Mock.splitTarget arrival.target).2
        Mock.endpointOf? path = some (.serviceBinding "service_bindings" "last_operation") ∧
        Mock.understand loopback.settings arrival
          = .ok (.bind "service_bindings" "last_operation" query input.stored) ∧
        ∀ name, Mock.Query.get? query name = Operation.field? .bind input name := by
  intro loopback broker input
  have plain : (Operation.endpoint .bind input).IsPlain := by
    intro id mem
    simp only [Operation.endpoint, Endpoint.ids, List.mem_cons, List.not_mem_nil, or_false] at mem
    obtain rfl | rfl := mem <;> decide
  have exact : ∀ members ∈ Operation.freeForm .bind input, (Json.object members).IsExact := by
    intro members mem
    obtain rfl := List.mem_singleton.mp mem
    refine .object_singleton (.array fun item mem => ?_)
    simp only [List.mem_cons, List.not_mem_nil, or_false] at mem
    obtain rfl | rfl := mem
    · exact .whole _
    · exact Json.isExact_empty
  have fit : Operation.Fits .bind input := by
    refine ⟨fun body mem => ?_, fun members mem => ?_⟩
    · obtain rfl := Option.some.inj mem
      decide +kernel
    · obtain rfl := List.mem_singleton.mp mem
      decide
  exact ⟨plain, fit, requests_find_their_handlers loopback broker .bind input (by decide) 2 rfl rfl
    rfl (by decide) plain exact fit⟩

/-- A service whose name has as many characters as a body may have bytes can be asked for by
nobody: the request comes as far as the endpoint, and its body is refused. -/
theorem Mock.long_body_is_refused :
    let loopback : Loopback := { origin := "http://localhost:3000", random := toString }
    let broker : Broker := Broker.make "http://localhost:3000" "admin" "secret"
    let input : ProvisionRequest :=
      { instanceId := "i", serviceId := String.ofList (List.replicate Mock.bodyLimit 'a'),
        planId := "p", organizationGuid := "", spaceGuid := "" }
    (Operation.endpoint .provision input).IsPlain ∧ Operation.freeForm .provision input = [] ∧
      ∃ arrival, loopback.arrival? (broker.request .provision input) = some arrival ∧
        Mock.checkHeaders loopback.settings arrival = none ∧
        Mock.endpointOf? (Mock.splitTarget arrival.target).1 = some (.serviceInstance "i") ∧
        Mock.understand loopback.settings arrival = .error .oversizedBody := by
  intro loopback broker input
  have plain : (Operation.endpoint .provision input).IsPlain := by
    intro id mem
    obtain rfl := List.mem_singleton.mp mem
    decide
  have known : broker.IsKnown loopback.settings :=
    Broker.isKnown_of_credentials rfl rfl (by decide)
  have long : Mock.bodyLimit < input.body.text.utf8ByteSize := by
    have shorter := input.length_serviceId_lt
    rwa [String.length_ofList, List.length_replicate] at shorter
  obtain ⟨arrival, arrives, passes, leads, -, understood⟩ :=
    @Loopback.exists_arrival loopback broker .provision input (by decide) known plain
  exact ⟨plain, rfl, arrival, arrives, passes, leads,
    understood.trans (Mock.actionAt_of_long plain rfl long)⟩

end ServiceBroker
