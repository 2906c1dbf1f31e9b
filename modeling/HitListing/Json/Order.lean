import HitListing.Fault
import HitListing.Json

/-!
# Comparing values

Stored tables may hold values of any kind where numbers are expected, so
equality, order and difference are defined on values.  Truth values count as 0
and 1, and integers compare with doubles by their exact size.  Values of kinds
that do not compare are a fault.
-/

namespace HitListing

/-- The size of a number on the line of the rationals with its two ends. -/
inductive Magnitude where
  | bottom
  | finite (q : Rat)
  | top
  | unordered
deriving DecidableEq, Repr

namespace Magnitude

/-- The size of a double. -/
def ofBinary64 : Binary64 → Magnitude
  | .finite q => .finite q
  | .negativeZero => .finite 0
  | .infinity true => .bottom
  | .infinity false => .top
  | .nan => .unordered

/-- Whether one size is at most another. -/
def le : Magnitude → Magnitude → Bool
  | .unordered, _ => false
  | _, .unordered => false
  | .bottom, _ => true
  | _, .top => true
  | .finite p, .finite q => p ≤ q
  | _, _ => false

/-- Whether one size is below another. -/
def lt (a b : Magnitude) : Bool :=
  a.le b && a != b

end Magnitude

namespace Json

/-- The size of a value that is a number or a truth value. -/
def magnitude? : Json → Option Magnitude
  | .bool b => some (.finite (if b then 1 else 0))
  | .int n => some (.finite n)
  | .real x => some (.ofBinary64 x)
  | _ => none

mutual

/-- Whether two values are equal.  Numbers are equal if their sizes are. -/
def same : Json → Json → Bool
  | .null, .null => true
  | .bool a, b => (Json.bool a).magnitude? == b.magnitude?
  | .int a, b => (Json.int a).magnitude? == b.magnitude?
  | .real a, b => (Json.real a).magnitude? == b.magnitude?
  | .str a, .str b => a == b
  | .arr a, .arr b => a.length == b.length && sameItems a b
  | .obj a, .obj b => a.length == b.length && sameFields a b
  | _, _ => false

/-- Whether the items of a list equal those of another in turn. -/
def sameItems : List Json → List Json → Bool
  | a :: as, b :: bs => same a b && sameItems as bs
  | _, _ => true

/-- Whether all fields of an object are those of another. -/
def sameFields : List (Text × Json) → List (Text × Json) → Bool
  | [], _ => true
  | (key, a) :: rest, fields =>
    (match lookup key fields with
      | some b => same a b
      | none => false) && sameFields rest fields

end

mutual

/-- Whether one value is below another, or at most it if `orSame`; lists go by
their first items that differ. -/
def precedes (orSame : Bool) : Json → Json → Except Fault Bool
  | .str a, .str b => .ok (if orSame then Text.le a b else !Text.le b a)
  | .arr a, .arr b => precedesItems orSame a b
  | .arr _, _ => .error .wrongKind
  | a, b =>
    match a.magnitude?, b.magnitude? with
    | some x, some y => .ok (if orSame then x.le y else x.lt y)
    | _, _ => .error .wrongKind

/-- The same for the items of two lists. -/
def precedesItems (orSame : Bool) : List Json → List Json → Except Fault Bool
  | [], [] => .ok orSame
  | [], _ :: _ => .ok true
  | _ :: _, [] => .ok false
  | a :: as, b :: bs => if same a b then precedesItems orSame as bs else precedes orSame a b

end

/-- Whether one value is at most another. -/
def le (a b : Json) : Except Fault Bool :=
  precedes true a b

/-- Whether one value is below another. -/
def lt (a b : Json) : Except Fault Bool :=
  precedes false a b

/-- A number as an integer, if it is one. -/
def integer? : Json → Option Int
  | .bool b => some (if b then 1 else 0)
  | .int n => some n
  | _ => none

/-- A number as a double. -/
def toBinary64 : Json → Except Fault Binary64
  | .bool b => .ok (.finite (if b then 1 else 0))
  | .int n =>
    match Binary64.ofInt? n with
    | some x => .ok x
    | none => .error .outOfRange
  | .real x => .ok x
  | _ => .error .wrongKind

/-- The difference of two numbers, exact if both are integers. -/
def minus (a b : Json) : Except Fault Json :=
  match a.integer?, b.integer? with
  | some m, some n => .ok (.int (m - n))
  | _, _ =>
    if a.magnitude?.isSome && b.magnitude?.isSome then do
      let x ← a.toBinary64
      let y ← b.toBinary64
      return .real (x.sub y)
    else .error .wrongKind

/-- A list without the items that equal an earlier one. -/
def distinct : List Json → List Json
  | [] => []
  | item :: rest => item :: (distinct rest).filter fun other => !same item other

/-- Whether a value comes before another of the same kind in a sorted list. -/
def inOrder (a b : Json) : Bool :=
  match le a b with
  | .ok answer => answer
  | .error _ => false

/-- The members of a set in increasing order.  They must be all numbers or all
texts, unless there is only one. -/
def sortMembers (members : List Json) : Except Fault (List Json) :=
  if members.length ≤ 1 || members.all (·.magnitude?.isSome) || members.all (·.text?.isSome) then
    .ok (members.mergeSort inOrder)
  else .error .wrongKind

end Json

end HitListing
