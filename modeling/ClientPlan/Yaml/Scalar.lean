/-
The text of YAML scalars: plain, in single or double quotes, and in blocks. Inside plain and quoted scalars a single end
of a line is folded into a space, and of several ends the first is dropped. Nothing is answered where the text is not
well formed.
-/
import ClientPlan.Json.Reader
import ClientPlan.Yaml.Cursor

namespace ClientPlan.Yaml

/-- blanks and ends of lines between two parts of a scalar -/
structure Gap where
  blanks : List Char := []
  /-- an end of a line has been passed, so blanks no longer count -/
  folding : Bool := false
  breaks : List Char := []
  /-- the first end of a line was escaped and stands for nothing -/
  escaped : Bool := false
  deriving Repr, Inhabited

/-- what a gap stands for -/
def Gap.text (g : Gap) : List Char :=
  if !g.folding then g.blanks
  else if g.escaped then g.breaks
  else match g.breaks with
    | ['\n'] => [' ']
    | '\n' :: more => more
    | breaks => breaks

/-- pass a gap; a tab may not stand before the column `least` of a later line -/
def Cursor.gap (least : Nat) : (fuel : Nat) → Gap → Cursor → Option (Gap × Cursor)
  | 0, g, c => some (g, c)
  | fuel + 1, g, c =>
    match c.at? 0 with
    | none => some (g, c)
    | some ch =>
      if isBlank ch then
        if !g.folding then c.next.gap least fuel { g with blanks := g.blanks ++ [ch] }
        else if ch == '\t' && c.column < least then none
        else c.next.gap least fuel g
      else if isBreak ch then
        c.next.gap least fuel { g with blanks := [], folding := true, breaks := g.breaks ++ [breakText ch] }
      else some (g, c)
termination_by structural fuel => fuel

/-- a plain scalar ends before this place -/
def Cursor.plainEnds (flow : Bool) (c : Cursor) : Bool :=
  c.gapAt 0 || (c.sees ':' && c.gapAt 1) || (flow && [',', '[', ']', '\x7b', '\x7d'].any c.sees)

/-- a colon that a flow collection does not allow in a plain scalar -/
def Cursor.badColon (flow : Bool) (c : Cursor) : Bool :=
  flow && c.sees ':' && [',', '?', '[', ']', '\x7b', '\x7d'].any fun ch => c.at? 1 == some ch

/-- a plain scalar: its text so far, last character first, the gap after it, and whether a new part begins here. The
answer tells also if the scalar ends on a later line than its text. -/
def Cursor.plain (flow : Bool) (least : Nat) :
    (fuel : Nat) → List Char → Gap → (fresh : Bool) → Cursor → Option (String × Bool × Cursor)
  | 0, _, _, _, _ => none
  | fuel + 1, done, g, fresh, c =>
    if fresh && (c.atDocumentMarker || c.sees '#') then some (String.ofList done.reverse, g.folding, c)
    else if c.badColon flow then none
    else if !c.plainEnds flow then
      c.next.plain flow least fuel (c.rest.take 1 ++ g.text.reverse ++ done) {} false
    else if c.rest.isEmpty || !c.gapAt 0 then some (String.ofList done.reverse, g.folding, c)
    else match c.gap least fuel g with
      | none => none
      | some (g, c) =>
        if !flow && c.column < least then some (String.ofList done.reverse, g.folding, c)
        else c.plain flow least fuel done g true
termination_by structural fuel => fuel

/-- the character that a letter after a backslash stands for in double quotes -/
def escapeLetter? : Char → Option Char
  | '0' => some '\x00'
  | 'a' => some '\x07'
  | 'b' => some '\x08'
  | 't' => some '\t'
  | '\t' => some '\t'
  | 'n' => some '\n'
  | 'v' => some '\x0b'
  | 'f' => some '\x0c'
  | 'r' => some '\r'
  | 'e' => some '\x1b'
  | ' ' => some ' '
  | '"' => some '"'
  | '/' => some '/'
  | '\\' => some '\\'
  | 'N' => some '\u0085'
  | '_' => some '\u00a0'
  | 'L' => some '\u2028'
  | 'P' => some '\u2029'
  | _ => none

/-- how many hexadecimal digits follow a letter after a backslash -/
def escapeLength? : Char → Option Nat
  | 'x' => some 2
  | 'u' => some 4
  | 'U' => some 8
  | _ => none

/-- the character with a number in hexadecimal digits -/
def hexChar? (digits : List Char) : Option Char := do
  let n ← digits.foldlM (fun n d => (Json.hexValue? d).map (n * 16 + ·)) 0
  if n.isValidChar then some (Char.ofNat n) else none

/-- the character after a backslash, and the place after it -/
def Cursor.escape? (c : Cursor) : Option (Char × Cursor) := do
  let letter ← c.at? 0
  match escapeLength? letter with
  | some n =>
    let digits := c.next.rest.take n
    if digits.length < n then none
    return (← hexChar? digits, c.next.advance n)
  | none => return (← escapeLetter? letter, c.next)

/-- the rest of a quoted scalar, after the opening quote: its text so far, last character first -/
def Cursor.quoted (single : Bool) : (fuel : Nat) → List Char → Cursor → Option (String × Cursor)
  | 0, _, _ => none
  | fuel + 1, done, c =>
    let quote := if single then '\x27' else '"'
    if c.atDocumentMarker then none
    else match c.at? 0 with
      | none => none
      | some ch =>
        if single && ch == quote && c.at? 1 == some quote then
          (c.advance 2).quoted single fuel (quote :: done)
        else if ch == quote then
          some (String.ofList done.reverse, c.next)
        else if !single && ch == '\\' then
          if (c.at? 1).any isBreak then
            match c.next.next.gap 0 fuel { folding := true, escaped := true } with
            | none => none
            | some (g, c) => c.quoted single fuel (g.text.reverse ++ done)
          else match c.next.escape? with
            | none => none
            | some (e, c) => c.quoted single fuel (e :: done)
        else if isBlank ch || isBreak ch then
          match c.gap 0 fuel {} with
          | none => none
          | some (g, c) => c.quoted single fuel (g.text.reverse ++ done)
        else c.next.quoted single fuel (ch :: done)
termination_by structural fuel => fuel

/-- what happens to the ends of lines after a block scalar -/
inductive Chomping where
  | strip
  | clip
  | keep
  deriving DecidableEq, Repr

/-- the signs after the indicator of a block scalar: chomping and indentation, in either order -/
def Cursor.blockHeader? (c : Cursor) : Option (Chomping × Nat × Cursor) :=
  let chomping? (c : Cursor) : Option Chomping :=
    if c.sees '+' then some .keep else if c.sees '-' then some .strip else none
  let indent? (c : Cursor) : Option Nat :=
    ((c.at? 0).filter Char.isDigit).map fun d => d.toNat - '0'.toNat
  let (chomping, indent, c) :=
    match chomping? c, indent? c with
    | some m, _ =>
      match indent? c.next with
      | some n => (m, some n, c.advance 2)
      | none => (m, none, c.next)
    | none, some n =>
      match chomping? c.next with
      | some m => (m, some n, c.advance 2)
      | none => (.clip, some n, c.next)
    | none, none => (.clip, none, c)
  if indent == some 0 then none else some (chomping, indent.getD 0, c)

/-- pass the indentation and empty lines before a line of a block scalar. An `indent` of 0 is not known yet: it becomes
the `widest` indentation passed. A tab may not stand where indentation is expected. -/
def Cursor.blockBreaks (indent : Nat) :
    (fuel : Nat) → (widest : Nat) → List Char → Cursor → Option (Nat × List Char × Cursor)
  | 0, _, _, _ => none
  | fuel + 1, widest, breaks, c =>
    let spaces := (c.run (· == ' ')).length
    let c := c.advance (if indent = 0 then spaces else min spaces (indent - c.column))
    let widest := max widest c.column
    if (indent = 0 || c.column < indent) && c.sees '\t' then none
    else match c.at? 0 with
      | some ch =>
        if isBreak ch then c.next.blockBreaks indent fuel widest (breaks ++ [breakText ch])
        else some (widest, breaks, c)
      | none => some (widest, breaks, c)
termination_by structural fuel => fuel

/-- the lines of a block scalar at a known indentation: the text so far, last character first, the end of the last line,
the empty lines after it, and whether the last line began with a blank -/
def Cursor.blockLines (literal : Bool) (indent : Nat) :
    (fuel : Nat) → List Char → List Char → List Char → Bool → Cursor →
      Option (List Char × List Char × List Char × Cursor)
  | 0, _, _, _, _, _ => none
  | fuel + 1, done, last, breaks, blankBefore, c =>
    if c.column ≠ indent || c.rest.isEmpty then some (done, last, breaks, c)
    else
      let blankHere := (c.at? 0).any isBlank
      let joint :=
        if !literal && last == ['\n'] && !blankBefore && !blankHere then
          if breaks.isEmpty then [' '] else []
        else last
      let content := c.run fun _ => true
      let c := c.advance content.length
      let last := ((c.at? 0).map breakText).toList
      match c.next.blockBreaks indent (fuel + 1) 0 [] with
      | none => none
      | some (_, more, c) =>
        c.blockLines literal indent fuel ((joint ++ breaks ++ content).reverse ++ done) last more blankHere
termination_by structural fuel => fuel

/-- a block scalar after its indicator, whose lines stand at the column `least` or further in -/
def Cursor.block (literal : Bool) (least : Nat) (c : Cursor) : Option (String × Cursor) := do
  let (chomping, increment, c) ← c.blockHeader?
  let c := c.skipWhile isBlank
  let c := if c.sees '#' then c.skipWhile fun _ => true else c
  if !(c.at? 0).all isBreak then none
  let c := c.next
  let given := if increment = 0 then 0 else least - 1 + increment
  let (widest, breaks, c) ← c.blockBreaks given (c.rest.length + 1) 0 []
  let indent := if increment = 0 then max (max widest least) 1 else given
  let (done, last, breaks, c) ← c.blockLines literal indent (c.rest.length + 1) [] [] breaks false
  let tail := match chomping with
    | .strip => []
    | .clip => last
    | .keep => last ++ breaks
  return (String.ofList (done.reverse ++ tail), c)

end ClientPlan.Yaml
