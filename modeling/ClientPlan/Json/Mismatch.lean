/-
Why a JSON value is not what was asked for. A mismatch keeps what was found and what was expected; its message is the
only place where these are put into words.
-/
import ClientPlan.Json.Writer
import ClientPlan.Text.Quoted
import ClientPlan.Text.Cut

namespace ClientPlan

/-- what a reader found instead; texts and numbers are kept, arrays and objects are not -/
inductive Found where
  | null
  | bool (b : Bool)
  | number (n : Number)
  | string (s : String)
  | sequence
  | map
  deriving DecidableEq, Repr

/-- what a reader asked for -/
inductive Expected where
  | string
  | boolean
  | map
  | sequence
  | record (name : String)
  /-- all elements of a record that is written as an array -/
  | elements (name : String) (count : Nat)
  /-- an array that ends earlier -/
  | fewerElements
  /-- a non-negative integer of one machine word -/
  | size
  | stringOrMap
  | singleKeyMap
  | unit
  deriving DecidableEq, Repr

inductive Mismatch where
  | type (found : Found) (expected : Expected)
  | value (found : Found) (expected : Expected)
  | length (found : Nat) (expected : Expected)
  | missing (key : String)
  | variant (name : String) (allowed : List String)
  /-- none of the forms that the choice `name` may take -/
  | noForm (name : String)
  deriving DecidableEq, Repr

/-- what a value is, for a message -/
def Json.found : Json → Found
  | .null => .null
  | .bool b => .bool b
  | .number n => .number n
  | .string s => .string s
  | .array _ => .sequence
  | .object _ => .map

def Found.text : Found → String
  | .null => "null"
  | .bool b => s!"boolean `{b}`"
  | .number (.integer n) => s!"integer `{n}`"
  | .number (.double bits) => "floating point `" ++ doubleText bits ++ "`"
  | .string s => "string " ++ Text.quoted s
  | .sequence => "sequence"
  | .map => "map"

def Expected.text : Expected → String
  | .string => "a string"
  | .boolean => "a boolean"
  | .map => "a map"
  | .sequence => "a sequence"
  | .record name => s!"struct {name}"
  | .elements name 1 => s!"struct {name} with 1 element"
  | .elements name count => s!"struct {name} with {count} elements"
  | .fewerElements => "fewer elements in array"
  | .size => "usize"
  | .stringOrMap => "string or map"
  | .singleKeyMap => "map with a single key"
  | .unit => "unit"

/-- the allowed names of a choice, as a message lists them -/
def allowedText : List String → String
  | [] => "there are no variants"
  | [a] => s!"expected `{a}`"
  | [a, b] => s!"expected `{a}` or `{b}`"
  | names => "expected one of " ++ Text.join ", " (names.map fun n => s!"`{n}`")

def Mismatch.message : Mismatch → String
  | .type found expected => "invalid type: " ++ found.text ++ ", expected " ++ expected.text
  | .value found expected => "invalid value: " ++ found.text ++ ", expected " ++ expected.text
  | .length found expected => s!"invalid length {found}, expected " ++ expected.text
  | .missing key => s!"missing field `{key}`"
  | .variant name allowed => s!"unknown variant `{name}`, " ++ allowedText allowed
  | .noForm name => s!"data did not match any variant of untagged enum {name}"

end ClientPlan
