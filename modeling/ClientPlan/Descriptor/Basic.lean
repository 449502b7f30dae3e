/-
Types as generated code spells them. A descriptor is made by the functions here, which keep it in normal form: nothing
is optional twice, and a union has at least two different members.
-/
import ClientPlan.Json.Value

namespace ClientPlan

/-- scalar types, refined by format -/
inductive Leaf where
  | string
  | integer
  | int64
  | number
  | boolean
  | dateTime
  | date
  | uuid
  | binary
  | null
  | any
  deriving DecidableEq, Repr, Inhabited

namespace Leaf

/-- how a descriptor text writes it -/
def text : Leaf → String
  | string => "string"
  | integer => "integer"
  | int64 => "int64"
  | number => "number"
  | boolean => "boolean"
  | dateTime => "date-time"
  | date => "date"
  | uuid => "uuid"
  | binary => "binary"
  | null => "null"
  | any => "any"

/-- its name as data -/
def tag : Leaf → String
  | dateTime => "date_time"
  | leaf => leaf.text

end Leaf

inductive Descriptor where
  | leaf (l : Leaf)
  | optional (inner : Descriptor)
  | list (item : Descriptor)
  | map (value : Descriptor)
  /-- a model of the table -/
  | named (name : String)
  | union (variants : List Descriptor)
  /-- an enumeration of the table -/
  | enumeration (name : String)
  deriving Repr, Inhabited

namespace Descriptor

mutual

/-- equality of descriptors is decided -/
def decEq : (a b : Descriptor) → Decidable (a = b)
  | leaf l, leaf m => decidable_of_iff (l = m) (by simp)
  | optional a, optional b =>
    match decEq a b with
    | isTrue h => isTrue (by rw [h])
    | isFalse h => isFalse (by simpa using h)
  | list a, list b =>
    match decEq a b with
    | isTrue h => isTrue (by rw [h])
    | isFalse h => isFalse (by simpa using h)
  | map a, map b =>
    match decEq a b with
    | isTrue h => isTrue (by rw [h])
    | isFalse h => isFalse (by simpa using h)
  | named a, named b => decidable_of_iff (a = b) (by simp)
  | union as, union bs =>
    match decEqList as bs with
    | isTrue h => isTrue (by rw [h])
    | isFalse h => isFalse (by simpa using h)
  | enumeration a, enumeration b => decidable_of_iff (a = b) (by simp)
  | leaf _, optional _ | leaf _, list _ | leaf _, map _ | leaf _, named _ | leaf _, union _ | leaf _, enumeration _
  | optional _, leaf _ | optional _, list _ | optional _, map _ | optional _, named _ | optional _, union _
  | optional _, enumeration _
  | list _, leaf _ | list _, optional _ | list _, map _ | list _, named _ | list _, union _ | list _, enumeration _
  | map _, leaf _ | map _, optional _ | map _, list _ | map _, named _ | map _, union _ | map _, enumeration _
  | named _, leaf _ | named _, optional _ | named _, list _ | named _, map _ | named _, union _ | named _, enumeration _
  | union _, leaf _ | union _, optional _ | union _, list _ | union _, map _ | union _, named _ | union _, enumeration _
  | enumeration _, leaf _ | enumeration _, optional _ | enumeration _, list _ | enumeration _, map _
  | enumeration _, named _ | enumeration _, union _ => isFalse (by simp)

/-- equality of lists of descriptors is decided -/
def decEqList : (as bs : List Descriptor) → Decidable (as = bs)
  | [], [] => isTrue rfl
  | [], _ :: _ | _ :: _, [] => isFalse (by simp)
  | a :: as, b :: bs =>
    match decEq a b, decEqList as bs with
    | isTrue h, isTrue hs => isTrue (by rw [h, hs])
    | isFalse h, _ => isFalse (by simp [h])
    | _, isFalse hs => isFalse (by simp [hs])

end

instance : DecidableEq Descriptor :=
  decEq

/-- a type that may be absent; nothing is optional twice -/
def orAbsent : Descriptor → Descriptor
  | optional inner => optional inner
  | d => optional d

/-- the union of types without repeats; one type alone stands for itself, and none for any type -/
def oneOf (variants : List Descriptor) : Descriptor :=
  match variants.eraseDups with
  | [] => leaf .any
  | [d] => d
  | ds => union ds

def isOptional : Descriptor → Bool
  | optional _ => true
  | _ => false

mutual

/-- the names of the table that a descriptor mentions, in order of first mention, after those in `found` -/
def namesAfter (found : List String) : Descriptor → List String
  | leaf _ => found
  | optional inner => inner.namesAfter found
  | list item => item.namesAfter found
  | map value => value.namesAfter found
  | named name => if found.contains name then found else found ++ [name]
  | union variants => namesAfterAll found variants
  | enumeration name => if found.contains name then found else found ++ [name]

/-- the names that descriptors mention, after those in `found` -/
def namesAfterAll (found : List String) : List Descriptor → List String
  | [] => found
  | d :: ds => namesAfterAll (d.namesAfter found) ds

end

/-- the names of the table that a descriptor mentions, in order of first mention -/
def names (d : Descriptor) : List String :=
  d.namesAfter []

mutual

/-- the scalar types in a descriptor, from left to right -/
def leaves : Descriptor → List Leaf
  | leaf l => [l]
  | optional inner => inner.leaves
  | list item => item.leaves
  | map value => value.leaves
  | named _ => []
  | union variants => leavesAll variants
  | enumeration _ => []

/-- the scalar types in descriptors -/
def leavesAll : List Descriptor → List Leaf
  | [] => []
  | d :: ds => d.leaves ++ leavesAll ds

end

mutual

/-- a descriptor as text -/
def text : Descriptor → String
  | leaf l => l.text
  | optional inner => "optional<" ++ inner.text ++ ">"
  | list item => "list<" ++ item.text ++ ">"
  | map value => "map<" ++ value.text ++ ">"
  | named name => name
  | union variants => " | ".intercalate (texts variants)
  | enumeration name => "enum " ++ name

/-- descriptors as texts -/
def texts : List Descriptor → List String
  | [] => []
  | d :: ds => d.text :: texts ds

end

/-- JSON of a descriptor of one kind -/
def tagged (kind : String) (content : Json) : Json :=
  .object [("type", .string kind), ("of", content)]

mutual

/-- JSON of a descriptor -/
def toJson : Descriptor → Json
  | leaf l => tagged "primitive" (.string l.tag)
  | optional inner => tagged "optional" inner.toJson
  | list item => tagged "list" item.toJson
  | map value => tagged "map" value.toJson
  | named name => tagged "named" (.string name)
  | union variants => tagged "union" (.array (toJsonItems variants))
  | enumeration name => tagged "enum" (.string name)

/-- JSON of descriptors in order -/
def toJsonItems : List Descriptor → List Json
  | [] => []
  | d :: ds => d.toJson :: toJsonItems ds

end

end Descriptor

end ClientPlan
