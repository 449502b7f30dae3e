/-
JSON text of a value. Doubles are written with the fewest digits that read back, always with a point or an exponent:
positional from `1e-5` up to below `1e16`, with an exponent outside.
-/
import ClientPlan.Decimal.Shortest
import ClientPlan.Json.Value

namespace ClientPlan

/-- zeros in a row -/
def zeros (n : Nat) : String :=
  String.ofList (List.replicate n '0')

/-- a positive number in digits, with a point or an exponent -/
def Decimal.Scientific.text (x : Decimal.Scientific) : String :=
  let ds := Nat.toDigits 10 x.digits
  let point : Int := ds.length + x.exponent
  if point - 1 < -5 || 16 ≤ point - 1 then
    let tail := match ds.drop 1 with
      | [] => ""
      | rest => "." ++ String.ofList rest
    let sign := if point - 1 < 0 then "-" else "+"
    String.ofList (ds.take 1) ++ tail ++ "e" ++ sign ++ toString (point - 1).natAbs
  else if point ≤ 0 then
    "0." ++ zeros (-point).toNat ++ String.ofList ds
  else if ds.length ≤ point then
    String.ofList ds ++ zeros (point - ds.length).toNat ++ ".0"
  else
    String.ofList (ds.take point.toNat) ++ "." ++ String.ofList (ds.drop point.toNat)

/-- text of the finite double with these bits -/
def doubleText (bits : UInt64) : String :=
  let sign := if bits.toNat < Nat.pow 2 63 then "" else "-"
  let magnitude := Decimal.Binary.ofBits bits
  sign ++ (if magnitude.mantissa = 0 then "0.0" else magnitude.shortest.text)

/-- text of a number -/
def Number.text : Number → String
  | .integer n => toString n
  | .double bits => doubleText bits

namespace Json

/-- a character inside a JSON string -/
def escapedChar (c : Char) : List Char :=
  if c = '"' || c = '\\' then ['\\', c]
  else if c = '\n' then ['\\', 'n']
  else if c = '\r' then ['\\', 'r']
  else if c = '\t' then ['\\', 't']
  else if c = '\x08' then ['\\', 'b']
  else if c = '\x0c' then ['\\', 'f']
  else if c.toNat < 0x20 then
    ['\\', 'u', '0', '0'] ++ (if c.toNat < 0x10 then ['0'] else []) ++ Nat.toDigits 16 c.toNat
  else [c]

/-- a JSON string literal -/
def literal (s : String) : String :=
  String.ofList (['"'] ++ s.toList.flatMap escapedChar ++ ['"'])

mutual

/-- `out` followed by the text of a value -/
def writeOn (out : String) : Json → String
  | .null => out ++ "null"
  | .bool true => out ++ "true"
  | .bool false => out ++ "false"
  | .number n => out ++ n.text
  | .string s => out ++ literal s
  | .array items => writeItems (out ++ "[") true items ++ "]"
  | .object entries => writeEntries (out ++ "\x7b") true entries ++ "\x7d"

/-- `out` followed by the items, with a comma before each but the first -/
def writeItems (out : String) (first : Bool) : List Json → String
  | [] => out
  | v :: vs => writeItems (writeOn (if first then out else out ++ ",") v) false vs

/-- `out` followed by the entries, with a comma before each but the first -/
def writeEntries (out : String) (first : Bool) : List (String × Json) → String
  | [] => out
  | (k, v) :: es =>
    writeEntries (writeOn ((if first then out else out ++ ",") ++ literal k ++ ":") v) false es

end

/-- JSON text of a value -/
def write (v : Json) : String :=
  writeOn "" v

end Json

end ClientPlan
