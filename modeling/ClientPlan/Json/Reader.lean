/-
Reading JSON text. The text is cut into tokens first; the tokens of arrays and objects are then gathered into a value.
Object keys keep their order. A number is an integer if it is written without point and exponent and lies between
`-2^63` and `2^64 - 1`; minus zero and every other number is a double.
-/
import ClientPlan.Decimal.Reading
import ClientPlan.Json.Value
import ClientPlan.Keyed

namespace ClientPlan.Json

inductive Token where
  | openArray
  | closeArray
  | openObject
  | closeObject
  | comma
  | colon
  | scalar (v : Json)
  deriving Repr

/-- value of a hexadecimal digit -/
def hexValue? (c : Char) : Option Nat :=
  if '0' ≤ c && c ≤ '9' then some (c.toNat - '0'.toNat)
  else if 'a' ≤ c && c ≤ 'f' then some (c.toNat - 'a'.toNat + 10)
  else if 'A' ≤ c && c ≤ 'F' then some (c.toNat - 'A'.toNat + 10)
  else none

/-- value of four hexadecimal digits -/
def unit? (a b c d : Char) : Option Nat := do
  return (((← hexValue? a) * 16 + (← hexValue? b)) * 16 + (← hexValue? c)) * 16 + (← hexValue? d)

/-- the character that a letter after a backslash stands for -/
def simpleEscape? : Char → Option Char
  | '"' => some '"'
  | '\\' => some '\\'
  | '/' => some '/'
  | 'b' => some '\x08'
  | 'f' => some '\x0c'
  | 'n' => some '\n'
  | 'r' => some '\r'
  | 't' => some '\t'
  | _ => none

/-- the code unit starts a surrogate pair -/
def isLeading (n : Nat) : Bool :=
  0xD800 ≤ n && n < 0xDC00

/-- the code unit ends a surrogate pair -/
def isTrailing (n : Nat) : Bool :=
  0xDC00 ≤ n && n < 0xE000

/-- the characters up to the closing quote, last one first, and what follows the quote -/
def stringBody (done : List Char) : List Char → Option (List Char × List Char)
  | '"' :: rest => some (done, rest)
  | '\\' :: 'u' :: a :: b :: c :: d :: '\\' :: 'u' :: e :: f :: g :: h :: rest =>
    match unit? a b c d, unit? e f g h with
    | some m, some n =>
      if isLeading m && isTrailing n then
        stringBody (Char.ofNat (0x10000 + (m - 0xD800) * 0x400 + (n - 0xDC00)) :: done) rest
      else if isLeading m || isTrailing m then none
      else stringBody (Char.ofNat m :: done) ('\\' :: 'u' :: e :: f :: g :: h :: rest)
    | _, _ => none
  | '\\' :: 'u' :: a :: b :: c :: d :: rest =>
    match unit? a b c d with
    | some m => if isLeading m || isTrailing m then none else stringBody (Char.ofNat m :: done) rest
    | none => none
  | '\\' :: c :: rest =>
    match simpleEscape? c with
    | some e => stringBody (e :: done) rest
    | none => none
  | c :: rest => if c.toNat < 0x20 then none else stringBody (c :: done) rest
  | [] => none
termination_by cs => cs.length

/-- decimal digits at the start of a text, as numbers, and the rest -/
def digitRun (cs : List Char) : List Nat × List Char :=
  ((cs.takeWhile Char.isDigit).map (fun c => c.toNat - '0'.toNat), cs.dropWhile Char.isDigit)

/-- the exponent after its letter: sign and digits, of which there is at least one -/
def exponentPart? (cs : List Char) : Option (Int × List Char) :=
  let (negative, cs) := match cs with
    | '-' :: rest => (true, rest)
    | '+' :: rest => (false, rest)
    | _ => (false, cs)
  match digitRun cs with
  | ([], _) => none
  | (ds, rest) =>
    let n : Nat := ds.foldl (fun n d => n * 10 + d) 0
    some (if negative then -(n : Int) else n, rest)

/-- a double from its sign and gathered digits -/
def signedDouble? (negative : Bool) (g : Decimal.Gathered) : Option Number :=
  g.toFloat?.map fun f => .double (if negative then -f else f).toBits

/-- a number at the start of a text -/
def number? (cs : List Char) : Option (Number × List Char) := do
  let (negative, cs) := match cs with
    | '-' :: rest => (true, rest)
    | _ => (false, cs)
  let (ds, rest) := digitRun cs
  if ds.isEmpty || (ds.head? == some 0 && ds.length > 1) then none
  let whole := Decimal.Gathered.whole ⟨0, 0⟩ ds
  let (fraction, rest) ← match rest with
    | '.' :: more =>
      match digitRun more with
      | ([], _) => none
      | (fs, rest) => some (some fs, rest)
    | _ => some (none, rest)
  let (exponent, rest) ← match rest with
    | 'e' :: more => (exponentPart? more).map fun (e, rest) => (some e, rest)
    | 'E' :: more => (exponentPart? more).map fun (e, rest) => (some e, rest)
    | _ => some (none, rest)
  if fraction.isNone && exponent.isNone && whole.exponent == 0 then
    let n := whole.significand
    if negative then
      if n == 0 || Nat.pow 2 63 < n then return (← signedDouble? true whole, rest)
      else return (.integer (-n), rest)
    else return (.integer n, rest)
  else
    let g := whole.fraction (fraction.getD [])
    return (← signedDouble? negative { g with exponent := g.exponent + exponent.getD 0 }, rest)

/-- the tokens of a text; every token takes at least one character, so `fuel` characters give all of them -/
def tokens? : Nat → List Token → List Char → Option (List Token)
  | _, done, [] => some done.reverse
  | 0, _, _ :: _ => none
  | fuel + 1, done, c :: cs =>
    match c with
    | ' ' => tokens? fuel done cs
    | '\n' => tokens? fuel done cs
    | '\r' => tokens? fuel done cs
    | '\t' => tokens? fuel done cs
    | '[' => tokens? fuel (.openArray :: done) cs
    | ']' => tokens? fuel (.closeArray :: done) cs
    | '\x7b' => tokens? fuel (.openObject :: done) cs
    | '\x7d' => tokens? fuel (.closeObject :: done) cs
    | ',' => tokens? fuel (.comma :: done) cs
    | ':' => tokens? fuel (.colon :: done) cs
    | '"' =>
      match stringBody [] cs with
      | some (s, rest) => tokens? fuel (.scalar (.string (String.ofList s.reverse)) :: done) rest
      | none => none
    | 't' =>
      match cs with
      | 'r' :: 'u' :: 'e' :: rest => tokens? fuel (.scalar (.bool true) :: done) rest
      | _ => none
    | 'f' =>
      match cs with
      | 'a' :: 'l' :: 's' :: 'e' :: rest => tokens? fuel (.scalar (.bool false) :: done) rest
      | _ => none
    | 'n' =>
      match cs with
      | 'u' :: 'l' :: 'l' :: rest => tokens? fuel (.scalar .null :: done) rest
      | _ => none
    | _ =>
      match number? (c :: cs) with
      | some (n, rest) => tokens? fuel (.scalar (.number n) :: done) rest
      | none => none

/-- an array or object whose end has not been reached: the items so far, last first, or the entries so far and the key
whose value comes next -/
inductive Open where
  | array (done : List Json)
  | object (done : Keyed Json) (key : String)

/-- where a reader stands between tokens -/
inductive Place where
  /-- a value comes next; an array that has just been opened may also end -/
  | value (mayEnd : Bool)
  /-- a key comes next; an object that has just been opened may also end -/
  | key (done : Keyed Json) (mayEnd : Bool)
  /-- the colon after a key comes next -/
  | colon (done : Keyed Json) (key : String)
  /-- a value has been read -/
  | after (v : Json)

/-- what has been opened, innermost first, and where the reader stands -/
structure Reading where
  stack : List Open
  place : Place

/-- one token further -/
def Reading.step (r : Reading) (t : Token) : Option Reading :=
  match r.place, t with
  | .value _, .scalar v => some ⟨r.stack, .after v⟩
  | .value _, .openArray => some ⟨.array [] :: r.stack, .value true⟩
  | .value _, .openObject => some ⟨r.stack, .key [] true⟩
  | .value true, .closeArray =>
    match r.stack with
    | .array [] :: stack => some ⟨stack, .after (.array [])⟩
    | _ => none
  | .key done _, .scalar (.string k) => some ⟨r.stack, .colon done k⟩
  | .key done true, .closeObject => some ⟨r.stack, .after (.object done)⟩
  | .colon done k, .colon => some ⟨.object done k :: r.stack, .value false⟩
  | .after v, .comma =>
    match r.stack with
    | .array done :: stack => some ⟨.array (v :: done) :: stack, .value false⟩
    | .object done k :: stack => some ⟨stack, .key (done.insert k v) false⟩
    | [] => none
  | .after v, .closeArray =>
    match r.stack with
    | .array done :: stack => some ⟨stack, .after (.array (v :: done).reverse)⟩
    | _ => none
  | .after v, .closeObject =>
    match r.stack with
    | .object done k :: stack => some ⟨stack, .after (.object (done.insert k v))⟩
    | _ => none
  | _, _ => none

/-- the value that a JSON text holds, or nothing if it is not JSON text -/
def read? (text : String) : Option Json := do
  let cs := text.toList
  let ts ← tokens? cs.length [] cs
  let r ← ts.foldlM Reading.step ⟨[], .value false⟩
  match r with
  | ⟨[], .after v⟩ => some v
  | _ => none

end ClientPlan.Json
