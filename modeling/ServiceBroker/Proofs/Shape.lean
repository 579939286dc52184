import Mathlib.Data.List.TakeWhile
import ServiceBroker.Proofs.Dispatch

/-!
# The shape of a request

All nine operations are put together by one function, and this module says what comes of it, for
any broker and any input (`Http.Request.IsWellFormed`): which method there is, what is in the
query and what is not, which headers there are, whether there is a body, and what the path is.

A path is a URL with words and identifiers behind it. It can be cut at its slashes, and however
many pieces the URL has, the last ones show which endpoint it is (`Endpoint.eq_of_segments`): the
words of one endpoint never end like those of another. So the method and the path say which
operation is asked for on which identifiers, whatever the two URLs are, if only the identifiers
have no slash.

The slashes at the end of a URL go nowhere. A broker that was made keeps none of them and one that
was read keeps them all, and both ask in the same way.
-/

namespace ServiceBroker

/-! ## The URL -/

/-- What is left of a text ends in no slash. -/
theorem getLast?_stripSlashes (text : String) :
    (stripSlashes text).toList.getLast? ≠ some '/' := by
  unfold stripSlashes
  rw [String.toList_ofList, List.getLast?_reverse]
  intro slash
  have first := List.head?_dropWhile_not (fun c => decide (c = '/')) text.toList.reverse
  rw [slash] at first
  exact nomatch first

/-- **A text is what is left of it and some slashes.** -/
theorem exists_eq_stripSlashes_append (text : String) :
    ∃ slashes, text = stripSlashes text ++ String.ofList (List.replicate slashes '/') := by
  have slashes : ∀ c ∈ text.toList.reverse.takeWhile (· = '/'), c = '/' := fun c mem =>
    of_decide_eq_true (List.mem_takeWhile_imp (p := fun c => decide (c = '/')) mem)
  have parts : List.replicate (text.toList.reverse.takeWhile (· = '/')).length '/'
      ++ text.toList.reverse.dropWhile (· = '/') = text.toList.reverse := by
    rw [← List.eq_replicate_of_mem slashes, List.takeWhile_append_dropWhile]
  refine ⟨(text.toList.reverse.takeWhile (· = '/')).length, String.toList_injective ?_⟩
  unfold stripSlashes
  rw [String.toList_append, String.toList_ofList, String.toList_ofList, ← List.reverse_replicate,
    ← List.reverse_append, parts, List.reverse_reverse]

/-- **Only what is left of the URL counts** for a request. -/
theorem Broker.request_congr {broker other : Broker}
    (url : stripSlashes broker.url = stripSlashes other.url)
    (username : broker.username = other.username) (password : broker.password = other.password)
    (version : broker.apiVersion = other.apiVersion) (operation : Operation)
    (input : operation.Input) : broker.request operation input = other.request operation input := by
  unfold request headers baseUrl authorization
  rw [url, username, password, version]

/-! ## The query -/

namespace Operation

/-- **The operations that ask for a change.** -/
def changing : List Operation := [.provision, .deprovision, .bind, .unbind]

/-- The service that goes into the query of an operation. -/
def serviceId? : (operation : Operation) → operation.Input → Option String
  | .deprovision, input => some input.serviceId
  | .unbind, input => some input.serviceId
  | .getBinding, input => some input.serviceId
  | .instanceLastOperation, input => input.serviceId
  | .bindingLastOperation, input => input.serviceId
  | .catalog, _ | .provision, _ | .getInstance, _ | .bind, _ => none

/-- The plan that does. -/
def planId? : (operation : Operation) → operation.Input → Option String
  | .deprovision, input => some input.planId
  | .unbind, input => some input.planId
  | .getBinding, input => some input.planId
  | .instanceLastOperation, input => input.planId
  | .bindingLastOperation, input => input.planId
  | .catalog, _ | .provision, _ | .getInstance, _ | .bind, _ => none

/-- The token that does. -/
def token? : (operation : Operation) → operation.Input → Option String
  | .instanceLastOperation, input => input.operation
  | .bindingLastOperation, input => input.operation
  | .catalog, _ | .provision, _ | .deprovision, _ | .getInstance, _ | .bind, _ | .unbind, _
  | .getBinding, _ => none

/-- **One query for all operations**, in which most leave something out. -/
theorem query_eq_correlates (operation : Operation) (input : operation.Input) :
    operation.query input
      = operation.consent ++ (correlate "service_id" (operation.serviceId? input)
        ++ (correlate "plan_id" (operation.planId? input)
          ++ correlate "operation" (operation.token? input))) := by
  unfold query
  rw [filterMap_correlate]
  cases operation <;>
    simp only [correlation, serviceId?, planId?, token?, correlate, List.flatMap_cons,
      List.flatMap_nil, List.append_nil]

theorem acceptsIncomplete_iff (operation : Operation) :
    operation.acceptsIncomplete = true ↔ operation ∈ changing := by
  cases operation <;> decide

/-- **Consent is given for a change**, and for nothing else. -/
theorem consent_eq (operation : Operation) : operation.consent
    = if operation ∈ changing then [("accepts_incomplete", "true")] else [] := by
  unfold consent
  exact if_congr operation.acceptsIncomplete_iff rfl rfl

end Operation

/-- A correlation field is in the query with its value, if that is not empty. -/
theorem mem_correlate {name other value : String} {given : Option String} :
    (other, value) ∈ correlate name given ↔ other = name ∧ given = some value ∧ value ≠ "" := by
  unfold correlate
  cases given with
  | none => simp
  | some text =>
    dsimp only
    split
    · next empty => simp [empty]
    · next full =>
      rw [List.mem_singleton, Prod.mk.injEq]
      constructor
      · rintro ⟨rfl, rfl⟩
        exact ⟨rfl, rfl, full⟩
      · rintro ⟨rfl, same, -⟩
        exact ⟨rfl, (Option.some.inj same).symm⟩

/-- It is there once at most. -/
theorem map_fst_correlate (name : String) (given : Option String) :
    ((correlate name given).map Prod.fst).Sublist [name] := by
  unfold correlate
  cases given with
  | none => exact List.nil_sublist _
  | some text =>
    dsimp only
    split
    · exact List.nil_sublist _
    · exact List.Sublist.refl _

namespace Operation

variable (operation : Operation) (input : operation.Input)

/-- **The names in a query** are some of four, in this order and each of them once at most. -/
theorem map_fst_query : ((operation.query input).map Prod.fst).Sublist
    ["accepts_incomplete", "service_id", "plan_id", "operation"] := by
  have consent : (operation.consent.map Prod.fst).Sublist ["accepts_incomplete"] := by
    rw [consent_eq]
    split
    · exact List.Sublist.refl _
    · exact List.nil_sublist _
  rw [query_eq_correlates, List.map_append, List.map_append, List.map_append]
  exact consent.append <| (map_fst_correlate _ _).append <|
    (map_fst_correlate _ _).append (map_fst_correlate _ _)

theorem nodup_query : ((operation.query input).map Prod.fst).Nodup :=
  (operation.map_fst_query input).nodup (by decide)

variable {operation input}

/-- **What is in a query**: the consent to a later answer, and each correlation field with a value
that is not empty. -/
theorem mem_query {name value : String} : (name, value) ∈ operation.query input ↔
    (name = "accepts_incomplete" ∧ value = "true" ∧ operation ∈ changing) ∨
    (name = "service_id" ∧ operation.serviceId? input = some value ∧ value ≠ "") ∨
    (name = "plan_id" ∧ operation.planId? input = some value ∧ value ≠ "") ∨
    (name = "operation" ∧ operation.token? input = some value ∧ value ≠ "") := by
  have consent : (name, value) ∈ operation.consent ↔
      name = "accepts_incomplete" ∧ value = "true" ∧ operation ∈ changing := by
    rw [consent_eq]
    split
    · next change => rw [List.mem_singleton, Prod.mk.injEq, iff_true_intro change, and_true]
    · next keep => simp only [List.not_mem_nil, iff_false_intro keep, and_false]
  rw [query_eq_correlates, List.mem_append, List.mem_append, List.mem_append, consent,
    mem_correlate, mem_correlate, mem_correlate]

theorem mem_query_consent {value : String} :
    ("accepts_incomplete", value) ∈ operation.query input
      ↔ value = "true" ∧ operation ∈ changing :=
  mem_query.trans (by simp)

/-- **Consent comes first**, where it is given. -/
theorem head?_query : (operation.query input).head? = some ("accepts_incomplete", "true")
    ↔ operation ∈ changing := by
  constructor
  · exact fun first => (mem_query_consent.mp (List.mem_of_head? first)).2
  · intro change
    rw [query_eq_correlates, consent_eq, if_pos change]
    rfl

/-- It is given once. -/
theorem count_query : ((operation.query input).map Prod.fst).count "accepts_incomplete"
    = if operation ∈ changing then 1 else 0 := by
  have consents : "accepts_incomplete" ∈ (operation.query input).map Prod.fst
      ↔ operation ∈ changing := by
    constructor
    · intro mem
      obtain ⟨⟨name, value⟩, mem, rfl⟩ := List.mem_map.mp mem
      exact (mem_query_consent.mp mem).2
    · exact fun change => List.mem_map_of_mem (List.mem_of_head? (head?_query.mpr change))
  rw [(operation.nodup_query input).count]
  exact if_congr consents rfl rfl

end Operation

/-! ## The path -/

/-- **Pieces behind a text**, a separator before each, are cut off one by one. -/
theorem Text.splitAtEach_append_flatMap {separator : Char} {pieces : List (List Char)}
    (bare : ∀ piece ∈ pieces, separator ∉ piece) (text : List Char) :
    splitAtEach separator (text ++ pieces.flatMap (separator :: ·))
      = splitAtEach separator text ++ pieces := by
  induction pieces generalizing text with
  | nil => rw [List.flatMap_nil, List.append_nil, List.append_nil]
  | cons piece pieces ih =>
    have cut := splitAtEach_of_not_mem (bare piece List.mem_cons_self)
    rw [List.flatMap_cons, List.cons_append, splitAtEach_append_cons,
      ih (fun other mem => bare other (List.mem_cons_of_mem piece mem)) piece, cut,
      List.singleton_append]

namespace Endpoint

/-- **The path below the version.** -/
def place : Endpoint → String
  | .catalog => "/catalog"
  | .serviceInstance i => "/service_instances/" ++ i
  | .instanceLastOperation i => "/service_instances/" ++ i ++ "/last_operation"
  | .serviceBinding i b => "/service_instances/" ++ i ++ "/service_bindings/" ++ b
  | .bindingLastOperation i b =>
    "/service_instances/" ++ i ++ "/service_bindings/" ++ b ++ "/last_operation"

/-- The path is the version and the rest. -/
theorem path_eq_place (endpoint : Endpoint) : endpoint.path = "/v2" ++ endpoint.place := by
  have version : "/" ++ "v2" = "/v2" := by decide
  have catalog : "/" ++ "catalog" = "/catalog" := by decide
  have last : "/" ++ "last_operation" = "/last_operation" := by decide
  have instances (rest : String) :
      "/" ++ ("service_instances" ++ ("/" ++ rest)) = "/service_instances/" ++ rest := by
    have word : "/" ++ "service_instances" ++ "/" = "/service_instances/" := by decide
    rw [← String.append_assoc, ← String.append_assoc, word]
  have bindings (rest : String) :
      "/" ++ ("service_bindings" ++ ("/" ++ rest)) = "/service_bindings/" ++ rest := by
    have word : "/" ++ "service_bindings" ++ "/" = "/service_bindings/" := by decide
    rw [← String.append_assoc, ← String.append_assoc, word]
  unfold path place
  cases endpoint <;>
    simp only [segments, List.map_cons, List.map_nil, String.join_cons, String.join_nil,
      String.append_empty, version, catalog, last, instances, bindings, String.append_assoc]

/-- **The last segments show the endpoint**, whatever stands before them. -/
theorem eq_of_segments {endpoint other : Endpoint} {before before' : List String}
    (same : before ++ endpoint.segments = before' ++ other.segments) : endpoint = other := by
  -- Read from the end, two kinds of paths differ in a word before their identifiers run out.
  have backwards := congrArg List.reverse same
  rw [List.reverse_append, List.reverse_append] at backwards
  cases endpoint <;> cases other <;> simp_all [segments]

theorem slash_not_mem_words : ∀ word ∈ words, '/' ∉ word.toList := by
  decide

/-- **A URL with a path behind it** is cut into the pieces of the URL and the segments. -/
theorem splitAtEach_append_path {endpoint : Endpoint}
    (bare : ∀ id ∈ endpoint.ids, '/' ∉ id.toList) (url : String) :
    Text.splitAtEach '/' (url ++ endpoint.path).toList
      = Text.splitAtEach '/' url.toList ++ endpoint.segments.map String.toList := by
  have pieces : ∀ piece ∈ endpoint.segments.map String.toList, '/' ∉ piece := by
    intro piece mem
    obtain ⟨segment, hsegment, rfl⟩ := List.mem_map.mp mem
    obtain word | id := mem_segments hsegment
    · exact slash_not_mem_words segment word
    · exact bare segment id
  rw [String.toList_append, toList_path, ← Text.splitAtEach_append_flatMap pieces,
    List.flatMap_map]

/-- **A path shows its endpoint**, whatever URL stands before it. -/
theorem eq_of_append_path {endpoint other : Endpoint}
    (bare : ∀ id ∈ endpoint.ids, '/' ∉ id.toList) (bare' : ∀ id ∈ other.ids, '/' ∉ id.toList)
    {url url' : String} (same : url ++ endpoint.path = url' ++ other.path) : endpoint = other := by
  have cut := splitAtEach_append_path bare url
  rw [same, splitAtEach_append_path bare' url'] at cut
  have joined := congrArg (List.map String.ofList) cut
  have kept : ∀ segments : List String,
      (segments.map String.toList).map String.ofList = segments := fun segments => by
    rw [List.map_map]
    exact Eq.trans (List.map_congr_left fun other _ => String.ofList_toList) (List.map_id _)
  rw [List.map_append, List.map_append, kept, kept] at joined
  exact (eq_of_segments joined).symm

end Endpoint

namespace Operation

/-- **The operation that is asked for at an endpoint.** -/
def ofEndpoint : Http.Method → Endpoint → Operation
  | .put, .serviceInstance _ => .provision
  | .delete, .serviceInstance _ => .deprovision
  | .get, .serviceInstance _ => .getInstance
  | .put, .serviceBinding _ _ => .bind
  | .delete, .serviceBinding _ _ => .unbind
  | .get, .serviceBinding _ _ => .getBinding
  | _, .instanceLastOperation _ => .instanceLastOperation
  | _, .bindingLastOperation _ _ => .bindingLastOperation
  | _, .catalog => .catalog

theorem ofEndpoint_endpoint (operation : Operation) (input : operation.Input) :
    ofEndpoint operation.method (operation.endpoint input) = operation := by
  cases operation <;> rfl

end Operation

/-! ## What a request says -/

/-- **A request that says what its operation says, and no more.** -/
structure Http.Request.IsWellFormed (request : Request) (broker : Broker)
    (operation : Operation) (input : operation.Input) : Prop where
  /-- Something is put or deleted exactly if the operation asks for a change. -/
  method : request.method = .put ∨ request.method = .delete ↔ operation ∈ Operation.changing
  /-- Exactly then the query starts with the consent to a later answer. -/
  consent : request.query.head? = some ("accepts_incomplete", "true")
    ↔ operation ∈ Operation.changing
  /-- The consent is there once, or not at all. -/
  count : (request.query.map Prod.fst).count "accepts_incomplete"
    = if operation ∈ Operation.changing then 1 else 0
  distinct : (request.query.map Prod.fst).Nodup
  known : ∀ name ∈ request.query.map Prod.fst,
    name ∈ ["accepts_incomplete", "service_id", "plan_id", "operation"]
  full : ∀ pair ∈ request.query, pair.2 ≠ ""
  /-- The correlation fields are those that the operation takes and that were given. -/
  serviceId (value : String) : ("service_id", value) ∈ request.query
    ↔ operation.serviceId? input = some value ∧ value ≠ ""
  planId (value : String) : ("plan_id", value) ∈ request.query
    ↔ operation.planId? input = some value ∧ value ≠ ""
  token (value : String) : ("operation", value) ∈ request.query
    ↔ operation.token? input = some value ∧ value ≠ ""
  headers : request.headers = [("Authorization", broker.authorization),
    ("X-Broker-Api-Version", broker.apiVersion)]
      ++ if request.body.isSome then [("Content-Type", "application/json")] else []
  body : request.body.isSome = true ↔ request.method = .put
  /-- The URL goes without the slashes at its end. -/
  path : ∃ base slashes, broker.url = base ++ String.ofList (List.replicate slashes '/') ∧
    base.toList.getLast? ≠ some '/' ∧
    request.path = base ++ "/v2" ++ (operation.endpoint input).place

namespace Broker

/-- **Every request is well formed.** -/
theorem isWellFormed_request (broker : Broker) (operation : Operation) (input : operation.Input) :
    (broker.request operation input).IsWellFormed broker operation input where
  method := by
    show operation.method = .put ∨ operation.method = .delete ↔ _
    cases operation <;> decide
  consent := Operation.head?_query
  count := Operation.count_query
  distinct := operation.nodup_query input
  known name mem := (operation.map_fst_query input).subset mem
  full := by
    rintro ⟨name, value⟩ mem rfl
    obtain ⟨-, empty, -⟩ | ⟨-, -, full⟩ | ⟨-, -, full⟩ | ⟨-, -, full⟩ :=
      Operation.mem_query.mp mem
    · exact absurd empty (by decide)
    · exact full rfl
    · exact full rfl
    · exact full rfl
  serviceId value := Operation.mem_query.trans (by simp)
  planId value := Operation.mem_query.trans (by simp)
  token value := Operation.mem_query.trans (by simp)
  headers := by
    show broker.headers _ = _
    unfold headers request
    rw [Option.isSome_map]
  body := by
    show ((operation.body input).map Json.text).isSome = true ↔ operation.method = .put
    rw [Option.isSome_map]
    cases operation <;> simp [Operation.body, Operation.method]
  path := by
    obtain ⟨slashes, url⟩ := exists_eq_stripSlashes_append broker.url
    refine ⟨broker.baseUrl, slashes, url, getLast?_stripSlashes broker.url, ?_⟩
    rw [String.append_assoc, ← Endpoint.path_eq_place]
    rfl

/-- **The method and the path say what is asked for**, whoever asks: which operation it is, and on
which identifiers. -/
theorem eq_of_request {broker other : Broker} {operation operation' : Operation}
    {input : operation.Input} {input' : operation'.Input}
    (bare : ∀ id ∈ (operation.endpoint input).ids, '/' ∉ id.toList)
    (bare' : ∀ id ∈ (operation'.endpoint input').ids, '/' ∉ id.toList)
    (method : (broker.request operation input).method = (other.request operation' input').method)
    (path : (broker.request operation input).path = (other.request operation' input').path) :
    operation = operation' ∧ operation.endpoint input = operation'.endpoint input' := by
  have endpoint : operation.endpoint input = operation'.endpoint input' :=
    Endpoint.eq_of_append_path bare bare' path
  refine ⟨?_, endpoint⟩
  rw [← operation.ofEndpoint_endpoint input, ← operation'.ofEndpoint_endpoint input', endpoint]
  exact congrArg (Operation.ofEndpoint · _) method

/-! ## Brokers that are read -/

/-- **A broker as it is written**, the version only if it is given. -/
def members (url username password : String) (version : Option String) : Members :=
  [("url", .string url), ("username", .string username), ("password", .string password)]
    ++ Json.member? "api_version" (version.map .string)

/-- **A broker is read as it is written**, the slashes at the end of its URL included. -/
theorem decode_members (url username password : String) (version : Option String) :
    Json.decode record.read (Json.object (members url username password version)).text
      = .ok { url, username, password, apiVersion := version.getD defaultApiVersion } := by
  refine record.decode_written (url, username, password, version.getD defaultApiVersion, ())
    (by decide) <| .present (Json.reads_stringReader 126 _) <|
      .present (Json.reads_stringReader 126 _) <| .present (Json.reads_stringReader 126 _) ?_
  cases version with
  | none => exact .absent rfl (.nil 126)
  | some version => exact .present (Json.reads_stringReader 126 _) (.nil 126)

/-- **A broker that was made and one that was read ask in the same way**, whatever slashes stand
at the end of either URL. -/
theorem request_make {url url' : String} (same : stripSlashes url = stripSlashes url')
    (username password version : String) (operation : Operation) (input : operation.Input) :
    ({ make url username password with apiVersion := version } : Broker).request operation input
      = ({ url := url', username, password, apiVersion := version } : Broker).request operation
          input := by
  have bare : stripSlashes (stripSlashes url) = stripSlashes url' := by
    rw [stripSlashes_eq_self (getLast?_stripSlashes url), same]
  apply request_congr
  · exact bare
  · rfl
  · rfl
  · rfl

end Broker

/-! ## The result -/

/-- **Requests are well formed and say no more than they should.** Every request of every broker
has the method, the query, the headers, the body and the path of its operation
(`Http.Request.IsWellFormed`). If the identifiers have no slash, its method and its path determine
the operation and the identifiers. A broker that was made from a URL and one that was read with
the same fields send equal requests, whatever slashes stand at the end of either URL. -/
theorem Broker.requests_are_well_formed :
    (∀ (broker : Broker) (operation : Operation) (input : operation.Input),
      (broker.request operation input).IsWellFormed broker operation input) ∧
    (∀ (broker other : Broker) (operation operation' : Operation) (input : operation.Input)
      (input' : operation'.Input),
      (∀ id ∈ (operation.endpoint input).ids, '/' ∉ id.toList) →
      (∀ id ∈ (operation'.endpoint input').ids, '/' ∉ id.toList) →
      (broker.request operation input).method = (other.request operation' input').method →
      (broker.request operation input).path = (other.request operation' input').path →
      operation = operation' ∧
        (operation.endpoint input).ids = (operation'.endpoint input').ids) ∧
    ∀ (url username password : String) (version : Option String) (made read : Nat),
      ∃ broker, Json.decode record.read (Json.object (members
          (url ++ String.ofList (List.replicate read '/')) username password version)).text
            = .ok broker ∧
        ∀ (operation : Operation) (input : operation.Input),
          ({ make (url ++ String.ofList (List.replicate made '/')) username password with
              apiVersion := version.getD defaultApiVersion } : Broker).request operation input
            = broker.request operation input := by
  refine ⟨isWellFormed_request, ?_, ?_⟩
  · intro broker other operation operation' input input' bare bare' method path
    obtain ⟨same, endpoint⟩ := eq_of_request bare bare' method path
    exact ⟨same, congrArg Endpoint.ids endpoint⟩
  · intro url username password version made read
    exact ⟨_, decode_members _ username password version,
      request_make (by rw [stripSlashes_append_slashes, stripSlashes_append_slashes]) username
        password (version.getD defaultApiVersion)⟩

/-- A binding whose identifiers are words of its path is deleted by two clients, one of them with
two slashes too many. Their paths are the same, and so is what they ask for. -/
theorem Broker.requests_are_well_formed_words :
    let broker : Broker :=
      { url := "http://localhost//", username := "admin", password := "secret" }
    let other := Broker.make "http://localhost" "other" ""
    let input : UnbindRequest :=
      { instanceId := "service_bindings", bindingId := "last_operation", serviceId := "",
        planId := "small" }
    let input' : UnbindRequest := { input with serviceId := "db" }
    (∀ id ∈ (Operation.endpoint .unbind input).ids, '/' ∉ id.toList) ∧
      (broker.request .unbind input).path = (other.request .unbind input').path ∧
      (broker.request .unbind input).IsWellFormed broker .unbind input ∧
      (Operation.endpoint .unbind input).ids = (Operation.endpoint .unbind input').ids := by
  intro broker other input input'
  have bare : ∀ id ∈ (Operation.endpoint .unbind input).ids, '/' ∉ id.toList := by decide
  have path : (broker.request .unbind input).path = (other.request .unbind input').path := by decide
  obtain ⟨wellFormed, unique, -⟩ := Broker.requests_are_well_formed
  exact ⟨bare, path, wellFormed broker .unbind input,
    (unique broker other .unbind .unbind input input' bare bare rfl path).2⟩

end ServiceBroker
