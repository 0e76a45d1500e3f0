import CertRegistry.Json.Basic

/-!
# The order of JSON values

Numbers of all forms are compared by their exact value, texts by their code points, and lists by
the first items that differ. No other values have an order: neither null, nor objects, nor values
of different types. A value also counts as true or false: it is false when it is zero or empty.
-/

namespace CertRegistry.Json

/-- The exact value of a number of any form. -/
def number? : Json → Option Double
  | .bool b => some (.finite false (if b then 1 else 0) 0)
  | .int n => some (.finite (decide (n < 0)) n.natAbs 0)
  | .float x => some x
  | _ => none

/-- Whether a value counts as true. -/
def isTrue : Json → Bool
  | .null => false
  | .bool b => b
  | .int n => n ≠ 0
  | .float (.finite _ m _) => m ≠ 0
  | .float _ => true
  | .text t => t ≠ []
  | .list items => !items.isEmpty
  | .object members => !members.isEmpty

mutual

/-- Whether two values are equal. The order of the members of an object does not matter. -/
def same : Json → Json → Bool
  | .null, .null => true
  | .text t, .text u => t = u
  | .list vs, .list ws => sameItems vs ws
  | .object ms, .object ns => ms.length = ns.length && sameMembers ms ns
  | v, w =>
    match number? v, number? w with
    | some x, some y => x ≠ .nan && y ≠ .nan && !x.less y && !y.less x
    | _, _ => false

/-- Whether two lists have equal items. -/
def sameItems : List Json → List Json → Bool
  | [], [] => true
  | v :: vs, w :: ws => same v w && sameItems vs ws
  | _, _ => false

/-- Whether every member has its equal among others. -/
def sameMembers : List (Text × Json) → List (Text × Json) → Bool
  | [], _ => true
  | (k, v) :: ms, ns =>
    match member? ns k with
    | some w => same v w && sameMembers ms ns
    | none => false

end

mutual

/-- Whether a value is less than another one; two values without an order are the error. -/
def less : Json → Json → Except (Json × Json) Bool
  | .text t, .text u => .ok (decide (t < u))
  | .list vs, .list ws => lessItems vs ws
  | v, w =>
    match number? v, number? w with
    | some x, some y => .ok (x.less y)
    | _, _ => .error (v, w)

/-- Whether a list is less than another one: a list is less than those that continue it. -/
def lessItems : List Json → List Json → Except (Json × Json) Bool
  | [], [] => .ok false
  | [], _ :: _ => .ok true
  | _ :: _, [] => .ok false
  | v :: vs, w :: ws => if same v w then lessItems vs ws else less v w

end

end CertRegistry.Json
