/-
Tags as they are written: a handle and the rest, where any octet may be written as a percent sign and two hexadecimal
digits. A handle stands for the beginning of a tag; which one is up to the document.
-/
import ClientPlan.Json.Reader
import ClientPlan.Yaml.Cursor

namespace ClientPlan.Yaml

/-- letters of anchors, handles and directives -/
def isNameChar (c : Char) : Bool :=
  c.isAlphanum || c == '_' || c == '-'

/-- a tag, or the beginning of one; its octets need not be text -/
abbrev Octets := List UInt8

def Octets.ofText (s : String) : Octets :=
  s.toUTF8.toList

def Octets.text? (bytes : Octets) : Option String :=
  String.fromUTF8? ⟨bytes.toArray⟩

structure Tag where
  /-- empty for a tag that is given in full -/
  handle : String
  rest : Octets
  deriving DecidableEq, Repr

/-- characters of tags; a tag in angle brackets may hold more -/
def isTagChar (full : Bool) (c : Char) : Bool :=
  isNameChar c || ";/?:@&=+$.%!~*\x27()".toList.contains c || (full && ",[]".toList.contains c)

/-- an octet written in hexadecimal digits after a percent sign -/
def Cursor.octet? (c : Cursor) : Option (Nat × Cursor) := do
  if !c.sees '%' then none
  let high ← Json.hexValue? (← c.at? 1)
  let low ← Json.hexValue? (← c.at? 2)
  return (16 * high + low, c.advance 3)

/-- how many octets follow a first one in the encoding of a character -/
def followers? (octet : Nat) : Option Nat :=
  if octet < 0x80 then some 0
  else if octet < 0xc0 then none
  else if octet < 0xe0 then some 1
  else if octet < 0xf0 then some 2
  else if octet < 0xf8 then some 3
  else none

/-- the octets that follow a first one -/
def Cursor.followingOctets? (c : Cursor) : (n : Nat) → Option (List Nat × Cursor)
  | 0 => some ([], c)
  | n + 1 => do
    let (octet, c) ← c.octet?
    if octet < 0x80 || 0xc0 ≤ octet then none
    let (more, c) ← c.followingOctets? n
    return (octet :: more, c)

/-- the characters of a tag from here on -/
def Cursor.tagRest? (full : Bool) : (fuel : Nat) → Cursor → Option (Octets × Cursor)
  | 0, c => some ([], c)
  | fuel + 1, c =>
    match c.at? 0 with
    | none => some ([], c)
    | some ch =>
      if !isTagChar full ch then some ([], c)
      else do
        let (octets, c) ←
          if ch == '%' then do
            let (first, c) ← c.octet?
            let (more, c) ← c.followingOctets? (← followers? first)
            some ((first :: more).map Nat.toUInt8, c)
          else some (Octets.ofText ch.toString, c.next)
        let (more, c) ← c.tagRest? full fuel
        return (octets ++ more, c)
termination_by structural fuel => fuel

/-- an exclamation mark, name characters, and another exclamation mark if it is there -/
def Cursor.handle? (c : Cursor) : Option (String × Cursor) := do
  if !c.sees '!' then none
  let name := c.next.run isNameChar
  let c := c.next.advance name.length
  if c.sees '!' then return (String.ofList ('!' :: name ++ ['!']), c.next)
  else return (String.ofList ('!' :: name), c)

/-- a tag that begins here -/
def Cursor.tag? (c : Cursor) : Option (Tag × Cursor) := do
  if c.at? 1 == some '<' then
    let (rest, c) ← (c.advance 2).tagRest? true c.rest.length
    if rest.isEmpty || !c.sees '>' then none
    return (⟨"", rest⟩, c.next)
  let (handle, c) ← c.handle?
  let (rest, c) ← c.tagRest? false c.rest.length
  if handle.length ≠ 1 && handle.endsWith "!" then
    if rest.isEmpty then none
    return (⟨handle, rest⟩, c)
  let rest := Octets.ofText (String.ofList handle.toList.tail) ++ rest
  if rest.isEmpty then return (⟨"", Octets.ofText "!"⟩, c)
  return (⟨"!", rest⟩, c)

end ClientPlan.Yaml
