/-
JSON values. An object is the list of its entries, so the order in which a document names things is part of the
value; entering a key that is there already keeps its place and takes the new value.
-/
namespace ClientPlan

/-- a number: an integer as written, or the bits of a double -/
inductive Number where
  | integer (n : Int)
  | double (bits : UInt64)
  deriving DecidableEq, Repr, Inhabited

inductive Json where
  | null
  | bool (b : Bool)
  | number (n : Number)
  | string (s : String)
  | array (items : List Json)
  | object (entries : List (String × Json))
  deriving Repr, Inhabited

namespace Json

/-- the value under `key`, if the value is an object that has it -/
def field? (v : Json) (key : String) : Option Json :=
  match v with
  | .object entries => entries.lookup key
  | _ => none

mutual

/-- levels of nesting: one for a scalar, one more for each array or object around it -/
def height : Json → Nat
  | .array items => heightItems items + 1
  | .object entries => heightEntries entries + 1
  | _ => 1

/-- greatest height among items -/
def heightItems : List Json → Nat
  | [] => 0
  | v :: vs => max v.height (heightItems vs)

/-- greatest height among the values of entries -/
def heightEntries : List (String × Json) → Nat
  | [] => 0
  | (_, v) :: es => max v.height (heightEntries es)

end

/-- a null literal -/
def isNull : Json → Bool
  | .null => true
  | _ => false

end Json

end ClientPlan
