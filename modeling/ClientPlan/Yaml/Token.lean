/-
Tokens of a YAML text. Blocks begin and end where the indentation changes, and the text does not say so: `Lexer` keeps
the columns of the blocks that are open. Nor does a key say that it is one before its colon: a token that could begin a
key is remembered, and when the colon comes a `key` token is put in front of it, with the start of a mapping in front of
that if the key stands further in than the blocks that are open.
-/
import ClientPlan.Yaml.Scalar
import ClientPlan.Yaml.Tag

namespace ClientPlan.Yaml

inductive Style where
  | plain
  | quoted
  | literal
  | folded
  deriving DecidableEq, Repr

inductive Token where
  /-- a directive that gives a version of the language which is understood -/
  | version
  /-- a directive that says what a handle stands for -/
  | handle (name : String) (meaning : Octets)
  | documentStart
  | documentEnd
  | blockSequence
  | blockMapping
  | blockEnd
  | flowSequence
  | flowSequenceEnd
  | flowMapping
  | flowMappingEnd
  | blockEntry
  | flowEntry
  | key
  | value
  | aliasOf (name : String)
  | anchor (name : String)
  | tag (t : Tag)
  | scalar (style : Style) (text : String)
  deriving DecidableEq, Repr

/-- a token that begins a key if a colon follows -/
structure PossibleKey where
  /-- number of tokens before it -/
  position : Nat
  place : Cursor
  /-- nothing but a key may stand here -/
  required : Bool

/-- a key has to end on its line, and soon -/
def PossibleKey.reaches (k : PossibleKey) (c : Cursor) : Bool :=
  k.place.line == c.line && c.index ≤ k.place.index + 1024

structure Lexer where
  cursor : Cursor
  /-- length of the text -/
  size : Nat
  tokens : Array Token := #[]
  /-- columns of the open blocks, innermost first -/
  indents : List Nat := []
  /-- the last possible key that is not settled -/
  key : Option PossibleKey := none
  /-- the same for what stands around each open flow collection, innermost first -/
  around : List (Option PossibleKey) := []
  /-- a key may begin here -/
  keyAllowed : Bool := true

namespace Lexer

/-- how many characters there are from here on -/
def left (l : Lexer) : Nat :=
  l.size - l.cursor.index

/-- inside of a flow collection -/
def inFlow (l : Lexer) : Bool :=
  !l.around.isEmpty

/-- the least column that continues the innermost block -/
def least (l : Lexer) : Nat :=
  match l.indents with
  | [] => 0
  | column :: _ => column + 1

def emit (t : Token) (l : Lexer) : Lexer :=
  { l with tokens := l.tokens.push t }

/-- a token of several characters -/
def take (n : Nat) (t : Token) (l : Lexer) : Lexer :=
  { l.emit t with cursor := l.cursor.advance n }

/-- give the possible key up -/
def dropKey (l : Lexer) : Option Lexer :=
  if l.key.any (·.required) then none else some { l with key := none }

/-- what begins here may be a key -/
def noteKey (l : Lexer) : Option Lexer :=
  if !l.keyAllowed then some l
  else l.dropKey.map fun l =>
    { l with key := some ⟨l.tokens.size, l.cursor, !l.inFlow && l.indents.head? == some l.cursor.column⟩ }

/-- end the blocks from the column `least` inwards -/
def closeBlocks (least : Nat) (l : Lexer) : Lexer :=
  if l.inFlow then l
  else
    let closed := l.indents.takeWhile (least ≤ ·)
    { l with indents := l.indents.drop closed.length, tokens := l.tokens ++ closed.map fun _ => Token.blockEnd }

/-- begin a block in front of a token, if its column is further in than the open blocks -/
def openBlock (t : Token) (column position : Nat) (l : Lexer) : Lexer :=
  if l.inFlow || column < l.least then l
  else { l with indents := column :: l.indents, tokens := l.tokens.insertIdxIfInBounds position t }

/-- begin a block here, where a key may begin -/
def openBlockHere (t : Token) (l : Lexer) : Option Lexer :=
  if l.inFlow then some l
  else if l.keyAllowed then some (l.openBlock t l.cursor.column l.tokens.size)
  else none

/-- past blanks, comments and ends of lines -/
def skip : (fuel : Nat) → Lexer → Lexer
  | 0, l => l
  | fuel + 1, l =>
    let c := if l.cursor.index = 0 && l.cursor.sees '\ufeff' then l.cursor.next else l.cursor
    let c := c.skipWhile fun ch => ch == ' ' || (ch == '\t' && (l.inFlow || !l.keyAllowed))
    let c := if c.sees '#' then c.skipWhile fun _ => true else c
    if (c.at? 0).any isBreak then skip fuel { l with cursor := c.next, keyAllowed := l.keyAllowed || !l.inFlow }
    else { l with cursor := c }

/-- a number of at most nine digits -/
def number? (c : Cursor) : Option (Nat × Cursor) :=
  let digits := c.run Char.isDigit
  if digits.isEmpty || 9 < digits.length then none
  else some (digits.foldl (fun n d => 10 * n + (d.toNat - '0'.toNat)) 0, c.advance digits.length)

/-- the version 1.1 or 1.2 -/
def version? (c : Cursor) : Option (Token × Cursor) := do
  let (major, c) ← number? (c.skipWhile isBlank)
  if !c.sees '.' then none
  let (minor, c) ← number? c.next
  if major == 1 && (minor == 1 || minor == 2) then return (.version, c) else none

/-- a handle and what it stands for -/
def handle? (c : Cursor) : Option (Token × Cursor) := do
  let (name, c) ← (c.skipWhile isBlank).handle?
  if !name.endsWith "!" || !(c.at? 0).any isBlank then none
  let (meaning, c) ← (c.skipWhile isBlank).tagRest? true c.rest.length
  if meaning.isEmpty || !c.gapAt 0 then none
  return (.handle name meaning, c)

def directive (l : Lexer) : Option Lexer := do
  let l ← (l.closeBlocks 0).dropKey
  let name := l.cursor.next.run isNameChar
  let c := l.cursor.next.advance name.length
  if !c.gapAt 0 then none
  let (t, c) ← match String.ofList name with
    | "YAML" => version? c
    | "TAG" => handle? c
    | _ => none
  let c := c.skipWhile isBlank
  let c := if c.sees '#' then c.skipWhile fun _ => true else c
  if !(c.at? 0).all isBreak then none
  return { l.emit t with cursor := c.next, keyAllowed := false }

/-- the start or end of a document -/
def marker (t : Token) (l : Lexer) : Option Lexer := do
  let l ← (l.closeBlocks 0).dropKey
  return { l.take 3 t with keyAllowed := false }

def openFlow (t : Token) (l : Lexer) : Option Lexer := do
  let l ← l.noteKey
  return { l.take 1 t with around := l.key :: l.around, key := none, keyAllowed := true }

def closeFlow (t : Token) (l : Lexer) : Option Lexer := do
  let l ← l.dropKey
  return { l.take 1 t with around := l.around.tail, key := l.around.head?.join, keyAllowed := false }

def flowEntry (l : Lexer) : Option Lexer := do
  let l ← l.dropKey
  return { l.take 1 .flowEntry with keyAllowed := true }

def blockEntry (l : Lexer) : Option Lexer := do
  let l ← (← l.openBlockHere .blockSequence).dropKey
  return { l.take 1 .blockEntry with keyAllowed := true }

/-- a question mark that begins a key -/
def explicitKey (l : Lexer) : Option Lexer := do
  let l ← (← l.openBlockHere .blockMapping).dropKey
  return { l.take 1 .key with keyAllowed := !l.inFlow }

/-- a colon: it ends the possible key if there is one -/
def value (l : Lexer) : Option Lexer :=
  match l.key with
  | some k =>
    if k.reaches l.cursor then
      let l := { l with tokens := l.tokens.insertIdxIfInBounds k.position .key, key := none }
      let l := l.openBlock .blockMapping k.place.column k.position
      some { l.take 1 .value with keyAllowed := false }
    else if k.required then none
    else bare
  | none => bare
where
  bare := do
    let l ← { l with key := none }.openBlockHere .blockMapping
    return { l.take 1 .value with keyAllowed := !l.inFlow }

/-- the name of an anchor, after its sign -/
def anchorName? (c : Cursor) : Option (String × Cursor) :=
  let name := c.run isNameChar
  let c := c.advance name.length
  if !name.isEmpty && (c.gapAt 0 || "?:,]\x7d%@\x60".toList.any c.sees) then some (String.ofList name, c)
  else none

def anchor (make : String → Token) (l : Lexer) : Option Lexer := do
  let l ← l.noteKey
  let (name, c) ← anchorName? l.cursor.next
  return { l.emit (make name) with cursor := c, keyAllowed := false }

def tag (l : Lexer) : Option Lexer := do
  let l ← l.noteKey
  let (t, c) ← l.cursor.tag?
  if !c.gapAt 0 && !(l.inFlow && c.sees ',') then none
  return { l.emit (.tag t) with cursor := c, keyAllowed := false }

def blockScalar (literal : Bool) (l : Lexer) : Option Lexer := do
  let l ← l.dropKey
  let (text, c) ← l.cursor.next.block literal l.least
  return { l.emit (.scalar (if literal then .literal else .folded) text) with cursor := c, keyAllowed := true }

def quotedScalar (single : Bool) (l : Lexer) : Option Lexer := do
  let l ← l.noteKey
  let (text, c) ← l.cursor.next.quoted single (l.left + 1) []
  return { l.emit (.scalar .quoted text) with cursor := c, keyAllowed := false }

def plainScalar (l : Lexer) : Option Lexer := do
  let l ← l.noteKey
  let (text, later, c) ← l.cursor.plain l.inFlow l.least (2 * l.left + 2) [] {} true
  return { l.emit (.scalar .plain text) with cursor := c, keyAllowed := later }

/-- signs that begin no plain scalar, unless something else than a gap follows the first three -/
def isIndicator (ch : Char) : Bool :=
  "-?:,[]\x7b\x7d#&*!|>\x27\"%@\x60".toList.contains ch

/-- a plain scalar may begin here -/
def plainBegins (l : Lexer) (ch : Char) : Bool :=
  if isBlank ch || isBreak ch then false
  else !isIndicator ch || (ch == '-' && !(l.cursor.at? 1).any isBlank)
    || (!l.inFlow && (ch == '?' || ch == ':') && !l.cursor.gapAt 1)

/-- the token that begins with this character -/
def step (l : Lexer) (ch : Char) : Option Lexer :=
  let c := l.cursor
  if c.column == 0 && ch == '%' then l.directive
  else if c.atMarker '-' then l.marker .documentStart
  else if c.atMarker '.' then l.marker .documentEnd
  else if ch == '[' then l.openFlow .flowSequence
  else if ch == ']' then l.closeFlow .flowSequenceEnd
  else if ch == '\x7b' then l.openFlow .flowMapping
  else if ch == '\x7d' then l.closeFlow .flowMappingEnd
  else if ch == ',' then l.flowEntry
  else if ch == '-' && c.gapAt 1 then l.blockEntry
  else if ch == '?' && (l.inFlow || c.gapAt 1) then l.explicitKey
  else if ch == ':' && (l.inFlow || c.gapAt 1) then l.value
  else if ch == '*' then l.anchor .aliasOf
  else if ch == '&' then l.anchor .anchor
  else if ch == '!' then l.tag
  else if ch == '|' && !l.inFlow then l.blockScalar true
  else if ch == '>' && !l.inFlow then l.blockScalar false
  else if ch == '\x27' then l.quotedScalar true
  else if ch == '"' then l.quotedScalar false
  else if l.plainBegins ch then l.plainScalar
  else none

/-- all tokens from here on -/
def run : (fuel : Nat) → Lexer → Option (List Token)
  | 0, _ => none
  | fuel + 1, l =>
    let l := l.skip (l.left + 1)
    let l := l.closeBlocks (l.cursor.column + 1)
    match l.cursor.at? 0 with
    | none => (l.closeBlocks 0).dropKey.map fun l => l.tokens.toList
    | some ch =>
      match l.step ch with
      | some l => run fuel l
      | none => none

end Lexer

/-- characters that may stand in a YAML text -/
def isAllowed (c : Char) : Bool :=
  c == '\t' || c == '\n' || c == '\r' || c == '\u0085' || (' ' ≤ c && c ≤ '~')
    || ('\u00a0' ≤ c && c ≠ '\ufffe' && c ≠ '\uffff')

/-- the tokens of a text that is well formed -/
def Token.scan (text : String) : Option (List Token) :=
  if text.toList.all isAllowed then
    Lexer.run (text.length + 1) { cursor := { rest := text.toList }, size := text.length }
  else none

end ClientPlan.Yaml
