/-!
# HTTP messages as data

A request holds the absolute URL without its query, and the query as ordered
pairs, so that an absent parameter is left out and not sent empty. A response
keeps the status as a number; what a status means is up to the reader.
-/

namespace ServiceBroker.Http

/-- **The methods a client uses.** -/
inductive Method where
  | get
  | put
  | delete
deriving DecidableEq, Repr

/-- The name of a method. -/
def Method.name : Method → String
  | .get => "GET"
  | .put => "PUT"
  | .delete => "DELETE"

/-- **A request.** -/
structure Request where
  method : Method
  /-- The URL without a query. -/
  path : String
  query : List (String × String)
  headers : List (String × String)
  body : Option String
deriving DecidableEq, Repr

/-- **A response.** -/
structure Response where
  status : Nat
  body : String
  contentType : Option String := none
deriving DecidableEq, Repr

/-- Equality of names up to the case of ASCII letters. -/
def sameName (a b : String) : Bool := a.toList.map Char.toLower == b.toList.map Char.toLower

/-- The value of the first pair whose name passes. -/
def valueOf? (pairs : List (String × String)) (passes : String → Bool) : Option String :=
  (pairs.find? (passes ·.1)).map (·.2)

namespace Request

/-- **The value of a header**; the case of its name does not count. -/
def header? (request : Request) (name : String) : Option String :=
  valueOf? request.headers (sameName · name)

/-- **The value of a query parameter**, by its exact name. -/
def queryParam? (request : Request) (name : String) : Option String :=
  valueOf? request.query (· == name)

end Request

end ServiceBroker.Http
