import ServiceBroker.Client.Dialogue
import ServiceBroker.Mock.Request

/-!
# A client and the mock broker, connected

A client's request names an absolute URL; what arrives at a broker is the part
behind the origin, with the query appended. `Loopback.arrival?` makes the one
from the other: a fragment is not sent, a question mark inside the path begins
the query already, the query's pairs are percent-encoded, and path characters
are sent as they are. A URL that is not of the origin, or holds a character
that no URL may hold, is sent nowhere, and neither is a header with a line
feed.

One idealisation is made: a target may have any length. Between real parties
one of more than 65,534 bytes is not delivered, so what is said here about a
request and its reply is said of requests whose target is no longer.

`Loopback.world` holds dialogues with a mock broker behind an origin, unless
nothing listens there. The random parts of tokens are drawn from an endless
supply by their number.
-/

namespace ServiceBroker

/-- **A mock broker behind an origin.** -/
structure Loopback where
  /-- Scheme and authority of its URLs. -/
  origin : String
  settings : Mock.Settings := {}
  /-- The random parts of tokens, by the number of requests served before. -/
  random : Nat → String
  /-- Whether anything listens at the origin. -/
  listening : Bool := true

/-- **The state of a connection.** -/
structure Loopback.State where
  store : Mock.Store := {}
  /-- How many requests have been served. -/
  served : Nat := 0
  /-- Whether the client's token is cancelled. -/
  cancelled : Bool := false

namespace Loopback

/-- The characters that may stand in a URL as they are. -/
def isUrlChar (c : Char) : Bool :=
  0x21 ≤ c.toNat && c != '<' && c != '>' && c != '`'

/-- The characters that may stand in the value of a header. -/
def isHeaderChar (c : Char) : Bool := (0x20 ≤ c.toNat || c == '\t') && c.toNat != 0x7F

/-- What stands behind the origin in a URL, if the URL is of the origin. -/
def behind? (origin url : List Char) : Option (List Char) :=
  if origin <+: url then
    match url.drop origin.length with
    | [] => some []
    | c :: rest => if c = '/' ∨ c = '?' ∨ c = '#' then some (c :: rest) else none
  else none

/-- The target that is sent: path and query, the pairs appended. -/
def targetOf (path : List Char) (pairs : List (String × String)) : List Char :=
  let sent := path.takeWhile (· ≠ '#')
  let sent := if sent.head? = some '/' then sent else '/' :: sent
  if pairs.isEmpty then sent
  else sent ++ (if sent.contains '?' then '&' else '?') :: Text.formQuery pairs

/-- **The request that arrives**, if one can be sent. -/
def arrival? (loopback : Loopback) (request : Http.Request) : Option Mock.Request :=
  match behind? loopback.origin.toList request.path.toList with
  | none => none
  | some path =>
    if path.all isUrlChar
        && request.headers.all (fun (name, value) =>
          name.toList.all Mock.MediaType.isTokenChar && value.toList.all isHeaderChar) then
      some
        { method := request.method.name
          target := String.ofList (targetOf path request.query)
          headers := request.headers
          body := request.body }
    else none

/-- **The reply to a client's request.** -/
def reply (loopback : Loopback) (state : State) (request : Http.Request) : Reply × State :=
  match (if loopback.listening then loopback.arrival? request else none) with
  | none => (.error (.http "no connection"), state)
  | some arrival =>
    let (response, store) :=
      Mock.serve loopback.settings (loopback.random state.served) arrival state.store
    (.ok response, { state with store := store, served := state.served + 1 })

/-- **The world of a connection.** -/
def world (loopback : Loopback) : Dialogue.World State where
  reply := loopback.reply
  cancelled := (·.cancelled)
  wait state _ := (state.cancelled, state)

end Loopback

end ServiceBroker
