import ServiceBroker.Loopback
import ServiceBroker.Proofs.Form

/-!
# How a request arrives

A client puts identifiers into the path of a URL as they are and everything else
into the query. This module follows a request on its way to the mock broker. If
the identifiers need no escape (`Endpoint.IsPlain`), the broker finds the same
endpoint with the same identifiers, and always the same query
(`Mock.understand_arrival`).

Whether anything is sent at all, and whether the broker lets it in, depends on the
client's credentials and its version of the interface, and on nothing that
distinguishes one request from another. So a client that was let in once is let
in again.
-/

namespace ServiceBroker

/-! ## Paths -/

/-- **An identifier that needs no escape**: letters, figures and `-`, `.`, `_`, `~` of
ASCII, one at least. -/
def IsPlainId (id : String) : Prop := id ≠ "" ∧ ∀ c ∈ id.toList, Text.isUnreserved c = true

instance (id : String) : Decidable (IsPlainId id) :=
  decidable_of_iff (id ≠ "" ∧ id.toList.all Text.isUnreserved = true)
    (and_congr_right fun _ => List.all_eq_true)

namespace Endpoint

/-- The identifiers in a path. -/
def ids : Endpoint → List String
  | .catalog => []
  | .serviceInstance i | .instanceLastOperation i => [i]
  | .serviceBinding i b | .bindingLastOperation i b => [i, b]

/-- The words in a path. -/
def words : List String :=
  ["v2", "catalog", "service_instances", "service_bindings", "last_operation"]

theorem mem_segments {endpoint : Endpoint} {segment : String}
    (mem : segment ∈ endpoint.segments) : segment ∈ words ∨ segment ∈ endpoint.ids := by
  cases endpoint <;> simp only [segments, List.mem_cons, List.not_mem_nil, or_false] at mem <;>
    simp only [words, ids, List.mem_cons, List.not_mem_nil, or_false] <;> grind

theorem isPlainId_words : ∀ word ∈ words, IsPlainId word := by
  decide

/-- **An endpoint whose identifiers need no escape.** -/
def IsPlain (endpoint : Endpoint) : Prop := ∀ id ∈ endpoint.ids, IsPlainId id

theorem IsPlain.segment {endpoint : Endpoint} (plain : endpoint.IsPlain) {segment : String}
    (mem : segment ∈ endpoint.segments) : IsPlainId segment := by
  obtain word | id := mem_segments mem
  · exact isPlainId_words segment word
  · exact plain segment id

theorem toList_path (endpoint : Endpoint) :
    endpoint.path.toList = endpoint.segments.flatMap fun segment => '/' :: segment.toList := by
  unfold path
  rw [String.toList_join, List.flatMap_map]
  simp only [String.toList_append]
  rfl

/-- Slashes before the segments are slashes between them after the first one. -/
theorem flatMap_slash (segment : String) (segments : List String) :
    (segment :: segments).flatMap (fun segment => '/' :: segment.toList)
      = '/' :: ['/'].intercalate ((segment :: segments).map String.toList) := by
  induction segments generalizing segment with
  | nil =>
    rw [List.map_singleton, List.intercalate_singleton]
    exact List.append_nil _
  | cons next segments ih =>
    rw [List.flatMap_cons, ih, List.map_cons, List.map_cons, List.map_cons,
      List.intercalate_cons_cons, List.append_assoc]
    rfl

/-- The characters of a plain path. -/
theorem IsPlain.mem_path {endpoint : Endpoint} (plain : endpoint.IsPlain) {c : Char}
    (mem : c ∈ endpoint.path.toList) : c = '/' ∨ Text.isUnreserved c = true := by
  rw [toList_path] at mem
  obtain ⟨segment, hsegment, mem⟩ := List.mem_flatMap.mp mem
  obtain slash | mem := List.mem_cons.mp mem
  · exact .inl slash
  · exact .inr ((plain.segment hsegment).2 c mem)

/-- A character that is neither the slash nor unreserved is not in a plain path. -/
theorem IsPlain.not_mem_path {endpoint : Endpoint} (plain : endpoint.IsPlain) {c : Char}
    (notSlash : c ≠ '/') (reserved : Text.isUnreserved c = false) :
    c ∉ endpoint.path.toList := by
  intro mem
  obtain slash | unreserved := plain.mem_path mem
  · exact notSlash slash
  · rw [reserved] at unreserved
    exact nomatch unreserved

/-- A path begins with its slash. -/
theorem exists_path_eq (endpoint : Endpoint) :
    ∃ rest, endpoint.path.toList = '/' :: rest := by
  rw [toList_path]
  cases endpoint <;> exact ⟨_, rfl⟩

end Endpoint

namespace Mock

/-- **A plain path leads to its endpoint.** -/
theorem endpointOf?_path {endpoint : Endpoint} (plain : endpoint.IsPlain) :
    endpointOf? endpoint.path.toList = some endpoint := by
  obtain ⟨segment, segments, hsegments⟩ : ∃ segment segments,
      endpoint.segments = segment :: segments := by cases endpoint <;> exact ⟨_, _, rfl⟩
  have noSlash : ∀ text ∈ (segment :: segments).map String.toList, '/' ∉ text := by
    intro text mem slash
    obtain ⟨other, hother, rfl⟩ := List.mem_map.mp mem
    rw [← hsegments] at hother
    exact nomatch (plain.segment hother).2 '/' slash
  have pieces : (Text.splitAtEach '/'
      (['/'].intercalate ((segment :: segments).map String.toList))).map String.ofList
      = endpoint.segments := by
    rw [List.map_cons] at noSlash ⊢
    rw [Text.splitAtEach_intercalate noSlash, ← List.map_cons, List.map_map, hsegments]
    exact Eq.trans (List.map_congr_left fun other _ => String.ofList_toList) (List.map_id _)
  rw [Endpoint.toList_path, hsegments, Endpoint.flatMap_slash]
  show Endpoint.ofSegments? _ = _
  rw [pieces]
  refine Endpoint.ofSegments?_segments endpoint fun last => ?_
  exact (plain.segment (List.mem_of_getLast? last)).1 rfl

theorem path_ne {endpoint other : Endpoint} (plain : endpoint.IsPlain) (plain' : other.IsPlain)
    (differ : endpoint ≠ other) : endpoint.path ≠ other.path := by
  refine fun same => differ (Option.some.inj ?_)
  rw [← endpointOf?_path plain, ← endpointOf?_path plain', same]

/-- **A plain identifier is itself.** -/
theorem identifier_eq {id : String} (plain : IsPlainId id) (parameter : String) :
    identifier parameter id = .ok id := by
  have noPercent : ∀ c ∈ id.toList, c ≠ '%' := fun c mem =>
    Text.ne_percent_of_isUnreserved (plain.2 c mem)
  unfold identifier
  rw [Text.percentDecode_plain noPercent, Text.Utf8.strict?_encode]
  exact congrArg Except.ok String.ofList_toList

theorem instanceIdOf_eq {id : String} (plain : IsPlainId id) : instanceIdOf id = .ok id :=
  identifier_eq plain "instance_id"

theorem bindingIdOf_eq {id : String} (plain : IsPlainId id) : bindingIdOf id = .ok id :=
  identifier_eq plain "binding_id"

end Mock

/-! ## Targets -/

namespace Loopback

/-- **The target of a plain path**: the pairs are appended if there are any. -/
theorem targetOf_path {endpoint : Endpoint} (plain : endpoint.IsPlain)
    (pairs : List (String × String)) :
    targetOf endpoint.path.toList pairs
      = if pairs.isEmpty then endpoint.path.toList
        else endpoint.path.toList ++ '?' :: Text.formQuery pairs := by
  obtain ⟨rest, hpath⟩ := endpoint.exists_path_eq
  have noHash : '#' ∉ endpoint.path.toList := plain.not_mem_path (by decide) rfl
  have noMark : '?' ∉ endpoint.path.toList := plain.not_mem_path (by decide) rfl
  have starts : endpoint.path.toList.head? = some '/' := by
    rw [hpath]
    rfl
  unfold targetOf
  dsimp only
  rw [Text.takeWhile_of_not_mem noHash, if_pos starts,
    if_neg (fun marked => noMark (List.contains_iff_mem.mp marked))]

/-- **A target is cut into the path and the query that it was made of.** -/
theorem splitTarget_targetOf {endpoint : Endpoint} (plain : endpoint.IsPlain)
    (pairs : List (String × String)) :
    Mock.splitTarget (String.ofList (targetOf endpoint.path.toList pairs))
      = (endpoint.path.toList, Text.formQuery pairs) := by
  obtain ⟨rest, hpath⟩ := endpoint.exists_path_eq
  have noHash : '#' ∉ endpoint.path.toList := plain.not_mem_path (by decide) rfl
  have noMark : '?' ∉ endpoint.path.toList := plain.not_mem_path (by decide) rfl
  -- The path begins with a slash, so no origin stands in front of it.
  have noOrigin (text : List Char) :
      Mock.withoutOrigin (endpoint.path.toList ++ text) = endpoint.path.toList ++ text := by
    rw [hpath]
    rfl
  rw [targetOf_path plain]
  unfold Mock.splitTarget
  rw [String.toList_ofList]
  cases pairs with
  | nil =>
    show Text.cutAtFirst '?' (Mock.withoutOrigin (endpoint.path.toList.takeWhile _)) = _
    have whole := noOrigin []
    rw [List.append_nil] at whole
    rw [Text.takeWhile_of_not_mem noHash, whole, Text.cutAtFirst_of_not_mem noMark]
    rfl
  | cons pair pairs =>
    show Text.cutAtFirst '?' (Mock.withoutOrigin
      ((endpoint.path.toList ++ '?' :: Text.formQuery (pair :: pairs)).takeWhile _)) = _
    have noHash : '#' ∉ endpoint.path.toList ++ '?' :: Text.formQuery (pair :: pairs) := by
      rw [List.mem_append, List.mem_cons]
      rintro (mem | same | mem)
      · exact noHash mem
      · exact nomatch same
      · exact Text.not_mem_formQuery rfl (by decide) (by decide) _ mem
    rw [Text.takeWhile_of_not_mem noHash, noOrigin, Text.cutAtFirst_append noMark]

end Loopback

/-! ## Sending -/

/-- What arrives of a request on an endpoint. -/
def Endpoint.arrival (endpoint : Endpoint) (request : Http.Request) : Mock.Request where
  method := request.method.name
  target := String.ofList (Loopback.targetOf endpoint.path.toList request.query)
  headers := request.headers
  body := request.body

namespace Loopback

/-- **Whether a client's headers can be sent.** -/
def isSendable (broker : Broker) : Bool :=
  broker.authorization.toList.all isHeaderChar && broker.apiVersion.toList.all isHeaderChar

/-- The type of a body can always be sent. -/
theorem all_headers (broker : Broker) (hasBody : Bool) :
    (broker.headers hasBody).all (fun (name, value) =>
        name.toList.all Mock.MediaType.isTokenChar && value.toList.all isHeaderChar)
      = isSendable broker := by
  have authorization : "Authorization".toList.all Mock.MediaType.isTokenChar = true := by decide
  have version : "X-Broker-Api-Version".toList.all Mock.MediaType.isTokenChar = true := by decide
  have contentType : ("Content-Type".toList.all Mock.MediaType.isTokenChar
      && "application/json".toList.all isHeaderChar) = true := by decide
  unfold Broker.headers isSendable
  cases hasBody with
  | false =>
    simp only [Bool.false_eq_true, if_false, List.append_nil, List.all_cons, List.all_nil,
      Bool.and_true, authorization, version, Bool.true_and]
  | true =>
    simp only [if_true, List.cons_append, List.nil_append, List.all_cons, List.all_nil,
      Bool.and_true, authorization, version, contentType, Bool.true_and]

/-- What stands behind the origin is the path that was appended to it. -/
theorem behind?_append (origin : List Char) {path : List Char} (slash : path.head? = some '/') :
    behind? origin (origin ++ path) = some path := by
  unfold behind?
  rw [if_pos (List.prefix_append origin path), List.drop_left]
  cases path with
  | nil => rfl
  | cons c rest =>
    obtain rfl := Option.some.inj slash
    exact if_pos (.inl rfl)

/-- The characters of a plain path may stand in a URL. -/
theorem all_isUrlChar {endpoint : Endpoint} (plain : endpoint.IsPlain) :
    endpoint.path.toList.all isUrlChar = true := by
  refine List.all_eq_true.mpr fun c mem => ?_
  obtain rfl | unreserved := plain.mem_path mem
  · decide
  · have visible : 0x21 ≤ c.toNat := by
      have controls : ∀ n : Fin 0x21, Text.isUnreserved (Char.ofNat n.val) = false := by decide
      refine Nat.le_of_not_lt fun small => ?_
      have reserved := controls ⟨c.toNat, small⟩
      rw [Char.ofNat_toNat, unreserved] at reserved
      exact nomatch reserved
    have differs {d : Char} (h : Text.isUnreserved d = false) : c ≠ d := by
      rintro rfl
      rw [h] at unreserved
      exact nomatch unreserved
    unfold isUrlChar
    simp only [visible, decide_true, Bool.true_and, Bool.and_eq_true, bne_iff_ne, ne_eq]
    exact ⟨⟨differs rfl, differs rfl⟩, differs rfl⟩

/-- **A request on an endpoint arrives** if its path may stand in a URL and the client's
headers can be sent. -/
theorem arrival?_eq (loopback : Loopback) {request : Http.Request} {broker : Broker}
    {hasBody : Bool} {endpoint : Endpoint} (path : request.path = loopback.origin ++ endpoint.path)
    (headers : request.headers = broker.headers hasBody) :
    loopback.arrival? request
      = if endpoint.path.toList.all isUrlChar && isSendable broker then
          some (endpoint.arrival request)
        else none := by
  obtain ⟨rest, hpath⟩ := endpoint.exists_path_eq
  unfold arrival?
  rw [path, String.toList_append, behind?_append _ (by rw [hpath]; rfl)]
  dsimp only
  rw [headers, all_headers]
  split
  · unfold Endpoint.arrival
    rw [headers]
  · rfl

theorem world_reply (loopback : Loopback) : loopback.world.reply = loopback.reply := rfl

end Loopback

/-! ## The gates -/

namespace Mock

/-- **Whether a broker lets a client in**: the client's credentials are its own. -/
def Settings.Admits (settings : Settings) (broker : Broker) : Prop :=
  broker.authorization = Broker.basicAuthorization settings.username settings.password

instance (settings : Settings) (broker : Broker) : Decidable (settings.Admits broker) :=
  inferInstanceAs (Decidable (_ = _))

section Headers

variable {arrival : Request} {broker : Broker} {hasBody : Bool}
  (headers : arrival.headers = broker.headers hasBody)

include headers

theorem authorization_eq : arrival.header? "Authorization" = some broker.authorization := by
  have same : Http.sameName "Authorization" "Authorization" = true := by decide
  unfold Request.header? Http.valueOf?
  rw [headers, Broker.headers]
  simp only [List.cons_append, List.find?_cons, same, Option.map_some]

theorem version_eq : arrival.header? "X-Broker-Api-Version" = some broker.apiVersion := by
  have differ : Http.sameName "Authorization" "X-Broker-Api-Version" = false := by decide
  have same : Http.sameName "X-Broker-Api-Version" "X-Broker-Api-Version" = true := by decide
  unfold Request.header? Http.valueOf?
  rw [headers, Broker.headers]
  simp only [List.cons_append, List.find?_cons, differ, same, Option.map_some]

end Headers

/-- **The gate of the headers** looks at the credentials; a version is always named. -/
theorem checkHeaders_eq (settings : Settings) {arrival : Request} {broker : Broker}
    {hasBody : Bool} (headers : arrival.headers = broker.headers hasBody) :
    checkHeaders settings arrival
      = if settings.Admits broker then none else some .badCredentials := by
  unfold checkHeaders Settings.Admits
  rw [version_eq headers, authorization_eq headers]
  by_cases same : broker.authorization
      = Broker.basicAuthorization settings.username settings.password
  · simp [same]
  · simp [same]

/-- **A request on a plain endpoint is understood as one on that endpoint**, with the
query that the client gave, once the client is let in. -/
theorem understand_arrival (settings : Settings) {request : Http.Request} {broker : Broker}
    {hasBody : Bool} {endpoint : Endpoint} (headers : request.headers = broker.headers hasBody)
    (plain : endpoint.IsPlain) :
    understand settings (endpoint.arrival request)
      = if settings.Admits broker then actionAt endpoint request.query (endpoint.arrival request)
        else .error .badCredentials := by
  have target : splitTarget (endpoint.arrival request).target
      = (endpoint.path.toList, Text.formQuery request.query) :=
    Loopback.splitTarget_targetOf plain request.query
  unfold understand
  rw [@checkHeaders_eq settings (endpoint.arrival request) broker hasBody headers]
  by_cases admits : settings.Admits broker
  · rw [if_pos admits, if_pos admits, target]
    dsimp only
    rw [endpointOf?_path plain]
    dsimp only
    rw [Text.formPairs_formQuery]
  · rw [if_neg admits, if_neg admits]

section Put

variable {instanceId bindingId : String} {query : Query} {arrival : Request}

/-- **The creation of an instance** depends on its body alone, … -/
theorem actionAt_provision (plain : IsPlainId instanceId) (put : arrival.method = "PUT") :
    actionAt (.serviceInstance instanceId) query arrival
      = (bodyAs ProvisionBody.record arrival).map (.provision instanceId query) := by
  unfold actionAt
  rw [put]
  show (instanceIdOf instanceId).bind _ = _
  rw [instanceIdOf_eq plain]
  cases bodyAs ProvisionBody.record arrival <;> rfl

/-- … and so does that of a binding. -/
theorem actionAt_bind (instancePlain : IsPlainId instanceId) (bindingPlain : IsPlainId bindingId)
    (put : arrival.method = "PUT") :
    actionAt (.serviceBinding instanceId bindingId) query arrival
      = (bodyAs BindBody.record arrival).map (.bind instanceId bindingId query) := by
  unfold actionAt
  rw [put]
  show (instanceIdOf instanceId).bind _ = _
  rw [instanceIdOf_eq instancePlain]
  show (bindingIdOf bindingId).bind _ = _
  rw [bindingIdOf_eq bindingPlain]
  cases bodyAs BindBody.record arrival <;> rfl

end Put

/-! ## Serving -/

/-- No client uses the method HEAD. -/
theorem name_ne_head (method : Http.Method) : method.name ≠ "HEAD" := by
  cases method <;> decide

section Serve

variable {settings : Settings} (random : String) {request : Request} (store : Store)

theorem bodiless_eq (notHead : request.method ≠ "HEAD") : request.bodiless = false := by
  unfold Request.bodiless
  rw [beq_false_of_ne notHead]
  rfl

/-- **A refused request** changes nothing. -/
theorem serve_of_refused (notHead : request.method ≠ "HEAD") {refusal : Refusal}
    (refused : understand settings request = .error refusal) :
    serve settings random request store = (refusal.toResponse, store) := by
  unfold serve
  rw [refused, bodiless_eq notHead]
  rfl

/-- **A request that is understood** is performed. -/
theorem serve_of_understood (notHead : request.method ≠ "HEAD") {action : Action}
    (understood : understand settings request = .ok action) :
    serve settings random request store
      = ((action.perform settings random store).1.toResponse,
          (action.perform settings random store).2) := by
  unfold serve
  rw [understood, bodiless_eq notHead]
  rfl

end Serve

end Mock

end ServiceBroker
