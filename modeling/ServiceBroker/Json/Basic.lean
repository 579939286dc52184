import ServiceBroker.Double.Basic

/-!
# JSON values

The free-form parts of broker messages – parameters, platform context,
credentials – are JSON values that travel unchanged, so a value remembers
what a text can show: the order of an object's members and whether a number
was written as an integer.

An integer is held exactly within the range of the signed and unsigned words
of 64 bits; every other number is a double. Objects are lists of members in
the order written. `Json.put` is how a reader adds one: a key that is there
already keeps its place and takes the new value, so an object that was read
has distinct keys.

Two values can be told apart as texts and still be equal as JSON.
`Json.same` is that equality: the members of an object count as a finite map,
an integer is never equal to a double, and the two zeros among the doubles are
equal.
-/

namespace ServiceBroker

/-- **An integer of a JSON text**, within the signed or the unsigned words of
64 bits. -/
structure Whole where
  /-- The number itself. -/
  val : Int
  lower : -0x8000000000000000 ≤ val := by decide
  upper : val < 0x10000000000000000 := by decide
deriving DecidableEq, Repr

/-- **A JSON number**, held exactly or as a double. -/
inductive Number where
  /-- A number written with digits alone, in range. -/
  | whole (n : Whole)
  /-- Every other number. -/
  | double (x : Double)
deriving DecidableEq, Repr

/-- **A JSON value.** -/
inductive Json where
  | null
  | bool (b : Bool)
  | number (n : Number)
  | string (s : String)
  | array (items : List Json)
  | object (members : List (String × Json))
deriving Repr, Inhabited

/-- **A free-form object**: members in the order written. -/
abbrev Members := List (String × Json)

/-- **Numeric equality of JSON numbers.** -/
def Number.same : Number → Number → Bool
  | .whole m, .whole n => m == n
  | .double x, .double y => x.same y
  | _, _ => false

namespace Json

/-- **Adding a member.** A key that is there already keeps its place and takes
the new value; a new key goes to the end. -/
def put (key : String) (value : Json) : Members → Members
  | [] => [(key, value)]
  | (k, v) :: rest => if k = key then (k, value) :: rest else (k, v) :: put key value rest

/-- A new key goes to the end. -/
theorem put_of_not_mem {key : String} {value : Json} {members : Members}
    (h : key ∉ members.map Prod.fst) : put key value members = members ++ [(key, value)] := by
  induction members with
  | nil => rfl
  | cons head rest ih =>
    obtain ⟨k, v⟩ := head
    simp only [List.map_cons, List.mem_cons, not_or] at h
    simp [put, Ne.symm h.1, ih h.2]

/-- **Equality as JSON values**: key order does not count, at any depth. -/
def same : Json → Json → Bool
  | .null, .null => true
  | .bool a, .bool b => a == b
  | .number m, .number n => m.same n
  | .string a, .string b => a == b
  | .array xs, .array ys => sameItems xs ys
  | .object xs, .object ys => xs.length == ys.length && sameMembers xs ys
  | _, _ => false
where
  /-- Equality of arrays, item by item. -/
  sameItems : List Json → List Json → Bool
    | [], [] => true
    | x :: xs, y :: ys => x.same y && sameItems xs ys
    | _, _ => false
  /-- Whether every member of the first object has its like in the second. -/
  sameMembers : Members → Members → Bool
    | [], _ => true
    | (k, v) :: rest, ys =>
      (match ys.lookup k with
        | some w => v.same w
        | none => false) && sameMembers rest ys

/-- Equality of optional values, an absent one being equal to itself only. -/
def sameOption : Option Json → Option Json → Bool
  | none, none => true
  | some a, some b => a.same b
  | _, _ => false

example : same (.object [("a", .null), ("b", .bool true)])
    (.object [("b", .bool true), ("a", .null)]) = true := by decide
example : same (.number (.whole ⟨0, by decide, by decide⟩)) (.number (.double .zero)) = false := by
  decide

end Json

end ServiceBroker
