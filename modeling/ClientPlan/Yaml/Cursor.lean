/-
A place in YAML text, with its line and column. A line may end in any of the usual ways; a carriage return and the line
feed after it are one end.
-/
namespace ClientPlan.Yaml

structure Cursor where
  rest : List Char
  /-- characters before the place -/
  index : Nat := 0
  line : Nat := 0
  column : Nat := 0
  deriving DecidableEq, Repr, Inhabited

/-- space or tab -/
def isBlank (c : Char) : Bool :=
  c == ' ' || c == '\t'

/-- end of a line -/
def isBreak (c : Char) : Bool :=
  c == '\n' || c == '\r' || c == '\u0085' || c == '\u2028' || c == '\u2029'

/-- what the end of a line stands for inside a scalar -/
def breakText (c : Char) : Char :=
  if c == '\u2028' || c == '\u2029' then c else '\n'

namespace Cursor

/-- the character `n` places on -/
def at? (c : Cursor) (n : Nat) : Option Char :=
  c.rest[n]?

/-- this character stands here -/
def sees (c : Cursor) (ch : Char) : Bool :=
  c.at? 0 == some ch

/-- a blank, the end of a line or the end of the text stands `n` places on -/
def gapAt (c : Cursor) (n : Nat) : Bool :=
  (c.at? n).all fun ch => isBlank ch || isBreak ch

/-- one character further, or past one end of a line -/
def next (c : Cursor) : Cursor :=
  match c.rest with
  | [] => c
  | '\r' :: '\n' :: rest => ⟨rest, c.index + 2, c.line + 1, 0⟩
  | ch :: rest => if isBreak ch then ⟨rest, c.index + 1, c.line + 1, 0⟩ else ⟨rest, c.index + 1, c.line, c.column + 1⟩

/-- several characters further -/
def advance (c : Cursor) : Nat → Cursor
  | 0 => c
  | n + 1 => c.next.advance n

/-- past the characters on this line that `p` picks -/
def skipWhile (c : Cursor) (p : Char → Bool) : Cursor :=
  c.advance (c.rest.takeWhile fun ch => p ch && !isBreak ch).length

/-- the characters on this line that `p` picks -/
def run (c : Cursor) (p : Char → Bool) : List Char :=
  c.rest.takeWhile fun ch => p ch && !isBreak ch

/-- three hyphens or full stops at the start of a line, and a gap after them -/
def atMarker (c : Cursor) (ch : Char) : Bool :=
  c.column == 0 && c.rest.take 3 == [ch, ch, ch] && c.gapAt 3

/-- the start or end marker of a document -/
def atDocumentMarker (c : Cursor) : Bool :=
  c.atMarker '-' || c.atMarker '.'

end Cursor

end ClientPlan.Yaml
