import ServiceBroker.Broker
import ServiceBroker.Mock.Action
import ServiceBroker.Mock.MediaType

/-!
# From a request to an action

An HTTP request passes three gates before it becomes an action. The headers
come first, whatever the path is: the version of the interface has to be
named and the credentials have to be right. Then the path has to lead to an
endpoint, and the method has to be one the endpoint has; HEAD is GET without
the body. Then the parts are read, in the order path, query, body, and the
first that cannot be read decides the answer. A body that is declared as JSON
is taken in up to `bodyLimit` bytes, and only then looked at.

Leaving out the body is the endpoint's work, so a path that leads to none has
its refusal written in full, for HEAD too. A target that is no path at all is
answered to HEAD without a body again.

`serve` is the whole broker: settings, store and request give a response and
the next store.

Targets, headers and bodies are texts here: requests with a header or a body
whose bytes are not UTF-8 are left out.
-/

namespace ServiceBroker.Mock

/-- **An HTTP request as it arrives.** -/
structure Request where
  method : String
  /-- Path and query, and perhaps a fragment; an origin may stand before. -/
  target : String
  headers : List (String × String)
  body : Option String
deriving DecidableEq, Repr

/-- **The text of the body**, empty if there is none. -/
def Request.text (request : Request) : String := request.body.getD ""

/-- **The most bytes that a body may have.** -/
def bodyLimit : Nat := 0x200000

/-- **Why a request was not understood.** -/
inductive Refusal where
  /-- No version of the interface is named. -/
  | missingVersion
  | badCredentials
  /-- No endpoint has the path. -/
  | unknownPath
  /-- The endpoint does not have the method. -/
  | unknownMethod
  /-- An identifier in the path is no text. -/
  | badIdentifier (parameter : String)
  /-- The body is not declared as JSON. -/
  | unsupportedMedia
  /-- The body has more bytes than are taken in. -/
  | oversizedBody
  /-- The body is not the JSON that is wanted. -/
  | badBody (error : Json.ReadError)

/-- **The way to a fault**, as messages write it: keys and positions, an unknown
key as a question mark. -/
def trailText (trail : List Json.Step) : String :=
  go "" trail
where
  /-- The way on, with what separates a key from the step before. -/
  go (separator : String) : List Json.Step → String
    | [] => ""
    | .item index :: rest => "[" ++ toString index ++ "]" ++ go "." rest
    | .member key :: rest => separator ++ key ++ go "." rest
    | .unnamed :: rest => separator ++ "?" ++ go "." rest

/-- What is wrong with a body, with the way to it unless that names nothing. -/
def bodyMessage (error : Json.ReadError) : String :=
  (if error.trail.all (· == .unnamed) then "" else trailText error.trail ++ ": ")
    ++ error.message

/-- A response in JSON. -/
def Answer.toResponse (answer : Answer) : Http.Response where
  status := answer.status
  body := answer.body.text
  contentType := some "application/json"

/-- A response in plain text. -/
def plainResponse (status : Nat) (body : String) : Http.Response where
  status := status
  body := body
  contentType := some "text/plain; charset=utf-8"

/-- **The response to a refused request.** -/
def Refusal.toResponse : Refusal → Http.Response
  | .missingVersion =>
    (Answer.error 412 "MissingApiVersion" "X-Broker-Api-Version header is required").toResponse
  | .badCredentials =>
    (Answer.error 401 "Unauthorized" "invalid broker credentials").toResponse
  | .unknownPath => { status := 404, body := "" }
  | .unknownMethod => { status := 405, body := "" }
  | .badIdentifier parameter =>
    plainResponse 400 ("Invalid URL: Invalid UTF-8 in `" ++ parameter ++ "`")
  | .unsupportedMedia =>
    plainResponse 415 "Expected request with `Content-Type: application/json`"
  | .oversizedBody =>
    plainResponse 413 "Failed to buffer the request body: length limit exceeded"
  | .badBody error =>
    match error.category with
    | .data =>
      plainResponse 422
        ("Failed to deserialize the JSON body into the target type: " ++ bodyMessage error)
    | .syntactic | .eof =>
      plainResponse 400 ("Failed to parse the request body as JSON: " ++ bodyMessage error)

/-- No refusal is an acceptance. -/
theorem Refusal.status_ne (refusal : Refusal) : refusal.toResponse.status ≠ 202 := by
  cases refusal with
  | badBody error =>
    unfold Refusal.toResponse
    dsimp only
    cases error.category <;> exact nofun
  | _ => exact nofun

/-! ## The gates -/

/-- The value of the first header of a name. -/
def Request.header? (request : Request) (name : String) : Option String :=
  Http.valueOf? request.headers (Http.sameName · name)

/-- **The gate of the headers.** -/
def checkHeaders (settings : Settings) (request : Request) : Option Refusal :=
  if (request.header? "X-Broker-Api-Version").isNone then some .missingVersion
  else if request.header? "Authorization" ≠
      some (Broker.basicAuthorization settings.username settings.password) then
    some .badCredentials
  else none

/-- The characters of a URL's scheme. -/
def isSchemeChar (c : Char) : Bool := c.isAlphanum || c == '+' || c == '-' || c == '.'

/-- A target without the origin, if one stands before its path. A URL that ends
with its origin means the root. -/
def withoutOrigin (target : List Char) : List Char :=
  match target.dropWhile isSchemeChar with
  | ':' :: '/' :: '/' :: rest =>
    let path := rest.dropWhile fun c => c != '/' && c != '?'
    if path.head? = some '/' then path else '/' :: path
  | _ => target

/-- The target of a request without origin and fragment, cut into path and query. -/
def splitTarget (target : String) : List Char × List Char :=
  Text.cutAtFirst '?' (withoutOrigin (target.toList.takeWhile (· ≠ '#')))

/-- **The endpoint of a path**, its identifiers still encoded. -/
def endpointOf? : List Char → Option Endpoint
  | [] => none
  | c :: rest =>
    if c = '/' then Endpoint.ofSegments? ((Text.splitAtEach '/' rest).map String.ofList) else none

/-- An identifier as it was meant. -/
def identifier (parameter raw : String) : Except Refusal String :=
  match Text.Utf8.strict? (Text.percentDecode raw.toList) with
  | some text => .ok (String.ofList text)
  | none => .error (.badIdentifier parameter)

/-- The identifier of an instance in a path. -/
def instanceIdOf (raw : String) : Except Refusal String := identifier "instance_id" raw

/-- The identifier of a binding in a path. -/
def bindingIdOf (raw : String) : Except Refusal String := identifier "binding_id" raw

/-- **A body as a record**: it has to be declared as JSON and to keep to the
limit, and a request without a body has an empty one. -/
def bodyAs {α : Type} (record : Json.Record α) (request : Request) : Except Refusal α :=
  match request.header? "Content-Type" with
  | none => .error .unsupportedMedia
  | some mediaType =>
    if MediaType.isJson mediaType then
      if request.text.utf8ByteSize ≤ bodyLimit then
        match Json.decode record.read request.text with
        | .ok a => .ok a
        | .error error => .error (.badBody error)
      else .error .oversizedBody
    else .error .unsupportedMedia

/-- Reading in order ends well if every step does. -/
theorem exists_of_bind_eq_ok {ε α β : Type} {first : Except ε α} {next : α → Except ε β} {b : β}
    (read : first.bind next = .ok b) : ∃ a, first = .ok a ∧ next a = .ok b := by
  cases first with
  | error e => exact nomatch read
  | ok a => exact ⟨a, rfl, read⟩

/-- **The action of a request** on an endpoint: the method chooses, and the parts
are read in order. -/
def actionAt (endpoint : Endpoint) (query : Query) (request : Request) : Except Refusal Action :=
  match endpoint, (if request.method = "HEAD" then "GET" else request.method) with
  | .catalog, "GET" => .ok .catalog
  | .serviceInstance i, "GET" => do return .getInstance (← instanceIdOf i)
  | .serviceInstance i, "PUT" => do
    let i ← instanceIdOf i
    return .provision i query (← bodyAs ProvisionBody.record request)
  | .serviceInstance i, "DELETE" => do return .deprovision (← instanceIdOf i) query
  | .instanceLastOperation i, "GET" => do
    return .lastOperation (.serviceInstance (← instanceIdOf i)) (query.get? "operation")
  | .serviceBinding i b, "GET" => do return .getBinding (← instanceIdOf i) (← bindingIdOf b)
  | .serviceBinding i b, "PUT" => do
    let i ← instanceIdOf i
    let b ← bindingIdOf b
    return .bind i b query (← bodyAs BindBody.record request)
  | .serviceBinding i b, "DELETE" => do
    return .unbind (← instanceIdOf i) (← bindingIdOf b) query
  | .bindingLastOperation i b, "GET" => do
    return .lastOperation (.serviceBinding (← instanceIdOf i) (← bindingIdOf b))
      (query.get? "operation")
  | _, _ => .error .unknownMethod

/-- **Understanding a request.** -/
def understand (settings : Settings) (request : Request) : Except Refusal Action :=
  match checkHeaders settings request with
  | some refusal => .error refusal
  | none =>
    let (path, query) := splitTarget request.target
    match endpointOf? path with
    | none => .error .unknownPath
    | some endpoint => actionAt endpoint (Text.formPairs query) request

/-- **Whether the body of the response is left out.** -/
def Request.bodiless (request : Request) : Bool :=
  let (path, _) := splitTarget request.target
  request.method == "HEAD" && ((endpointOf? path).isSome || path.head? != some '/')

/-- **Serving a request**: the response and the store after it. The random part
of a token is given along, in case the request begins an operation. -/
def serve (settings : Settings) (random : String) (request : Request) (store : Store) :
    Http.Response × Store :=
  let (response, store) : Http.Response × Store :=
    match understand settings request with
    | .error refusal => (refusal.toResponse, store)
    | .ok action =>
      let (answer, store) := action.perform settings random store
      (answer.toResponse, store)
  (if request.bodiless then { response with body := "" } else response, store)

end ServiceBroker.Mock
