/-!
# Endpoints

Five kinds of resources have a path: the catalog, an instance, a binding, and
the last operation on either of these two. `Endpoint.path` writes the path,
with the identifiers as they are, and `Endpoint.ofSegments?` reads one that
has been cut at its slashes. An identifier without a slash is one segment, and
the words between the identifiers stand in fixed places, so a path that was
written is read as the same endpoint. Only an empty identifier at the very end
is not read: what is left then is a path that ends in a slash, and no endpoint
has one.
-/

namespace ServiceBroker

/-- **What a path leads to.** -/
inductive Endpoint where
  | catalog
  | serviceInstance (instanceId : String)
  | instanceLastOperation (instanceId : String)
  | serviceBinding (instanceId bindingId : String)
  | bindingLastOperation (instanceId bindingId : String)
deriving DecidableEq, Repr

namespace Endpoint

/-- **The segments of the path.** -/
def segments : Endpoint → List String
  | .catalog => ["v2", "catalog"]
  | .serviceInstance i => ["v2", "service_instances", i]
  | .instanceLastOperation i => ["v2", "service_instances", i, "last_operation"]
  | .serviceBinding i b => ["v2", "service_instances", i, "service_bindings", b]
  | .bindingLastOperation i b =>
    ["v2", "service_instances", i, "service_bindings", b, "last_operation"]

/-- **The path**: every segment after a slash. -/
def path (endpoint : Endpoint) : String := String.join (endpoint.segments.map ("/" ++ ·))

/-- **The endpoint of a list of segments**, if it is one. The last segment is
not empty; an identifier before it may be. -/
def ofSegments? : List String → Option Endpoint
  | ["v2", "catalog"] => some .catalog
  | ["v2", "service_instances", i] => if i = "" then none else some (.serviceInstance i)
  | ["v2", "service_instances", i, "last_operation"] => some (.instanceLastOperation i)
  | ["v2", "service_instances", i, "service_bindings", b] =>
    if b = "" then none else some (.serviceBinding i b)
  | ["v2", "service_instances", i, "service_bindings", b, "last_operation"] =>
    some (.bindingLastOperation i b)
  | _ => none

/-- The segments of an endpoint lead back to it, unless it ends in an empty
identifier. -/
theorem ofSegments?_segments (endpoint : Endpoint) (h : endpoint.segments.getLast? ≠ some "") :
    ofSegments? endpoint.segments = some endpoint := by
  cases endpoint <;> simp_all [segments, ofSegments?]

end Endpoint

end ServiceBroker
