/-!
# The nine operations

A client reads the catalog, creates, reads and deletes instances and bindings,
and asks after the last operation on either. Four operations change the
broker's state. Only they may be answered before the change is made, and they
say so in the request.
-/

namespace ServiceBroker

/-- **The operations of a service broker.** -/
inductive Operation where
  | catalog
  | provision
  | deprovision
  | getInstance
  | instanceLastOperation
  | bind
  | unbind
  | getBinding
  | bindingLastOperation
deriving DecidableEq, Repr

namespace Operation

/-- The name that messages give an operation. -/
def name : Operation → String
  | .catalog => "get catalog"
  | .provision => "provision"
  | .deprovision => "deprovision"
  | .getInstance => "get instance"
  | .instanceLastOperation => "get instance last operation"
  | .bind => "bind"
  | .unbind => "unbind"
  | .getBinding => "get binding"
  | .bindingLastOperation => "get binding last operation"

/-- **The operations that change the state**, and may be accepted before the
change is made. -/
def acceptsIncomplete : Operation → Bool
  | .provision | .deprovision | .bind | .unbind => true
  | _ => false

/-- **The operations on an instance or a binding**, which may be gone; the
catalog is not. -/
def targetsResource : Operation → Bool
  | .catalog => false
  | _ => true

end Operation

/-- **The four kinds of change.** -/
inductive ChangeKind where
  | provision
  | deprovision
  | bind
  | unbind
deriving DecidableEq, Repr

namespace ChangeKind

/-- The name of a kind, which also begins the tokens of its operations. -/
def name : ChangeKind → String
  | .provision => "provision"
  | .deprovision => "deprovision"
  | .bind => "bind"
  | .unbind => "unbind"

/-- The kinds by their names, in the order of their indices. -/
def names : List (String × ChangeKind) :=
  [("provision", .provision), ("deprovision", .deprovision), ("bind", .bind), ("unbind", .unbind)]

end ChangeKind

end ServiceBroker
