/-
Nodes of a YAML document. A node may be anchored, and an alias stands for the node with its anchor, which may be one
that it is part of. So a document stays a tree with numbers for anchors, and `Place` follows aliases one at a time.
`Node.ofTokens?` reads the only document of a text.
-/
import ClientPlan.Keyed
import ClientPlan.Yaml.Token

namespace ClientPlan.Yaml

inductive Node where
  | aliasOf (anchor : Nat)
  /-- a tag counts only if it is text -/
  | scalar (anchor : Option Nat) (tag : Option String) (style : Style) (text : String)
  | sequence (anchor : Option Nat) (items : List Node)
  | mapping (anchor : Option Nat) (entries : List (Node × Node))
  deriving Repr, Inhabited

namespace Node

/-- the last node with an anchor -/
def anchored? (n : Nat) : Node → Option Node
  | .aliasOf _ => none
  | .scalar a t s x => if a = some n then some (.scalar a t s x) else none
  | .sequence a items => (inItems items).or (if a = some n then some (.sequence a items) else none)
  | .mapping a entries => (inEntries entries).or (if a = some n then some (.mapping a entries) else none)
where
  inItems : List Node → Option Node
    | [] => none
    | v :: vs => (inItems vs).or (anchored? n v)
  inEntries : List (Node × Node) → Option Node
    | [] => none
    | (k, v) :: es => (inEntries es).or ((anchored? n v).or (anchored? n k))

end Node

/-- what is left to read, and what names mean so far -/
structure Reading where
  tokens : List Token
  /-- numbers of anchors: an anchor takes the number of names known before it -/
  anchors : Keyed Nat := []
  handles : Keyed Octets := []

/-- reading goes on or the text is refused -/
abbrev Parse := StateT Reading Option

namespace Parse

/-- the next token -/
def peek : Parse (Option Token) :=
  return (← get).tokens.head?

/-- past the next token -/
def skip : Parse Unit :=
  modify fun r => { r with tokens := r.tokens.tail }

/-- past the next token if it is this one -/
def take (t : Token) : Parse Bool := do
  if (← peek) == some t then
    skip
    return true
  else return false

/-- the next token is one of these, or there is none -/
def before (ts : List Token) : Parse Bool :=
  return (← peek).all ts.contains

def anchor : Parse (Option Nat) := do
  match ← peek with
  | some (.anchor name) =>
    skip
    modifyGet fun r =>
      let n := r.anchors.length
      (some n, { r with anchors := r.anchors.insert name n })
  | _ => return none

/-- what handles stand for if the document does not say it -/
def usualHandles : Keyed Octets :=
  [("!", Octets.ofText "!"), ("!!", Octets.ofText "tag:yaml.org,2002:"), ("", [])]

def tag : Parse (Option Octets) := do
  match ← peek with
  | some (.tag t) =>
    skip
    let meaning ← (((← get).handles.get? t.handle).or (usualHandles.get? t.handle) : Option Octets)
    return some (meaning ++ t.rest)
  | _ => return none

/-- a scalar without text -/
def empty : Parse Node :=
  return .scalar none none .plain ""

/-- the node `p`, or an empty one before one of these tokens -/
def orEmpty (p : Parse Node) (ts : List Token) : Parse Node := do
  if ← before ts then empty else p

/-- items of a block sequence -/
def blockItems (item : Parse Node) : (fuel : Nat) → Parse (List Node)
  | 0 => failure
  | fuel + 1 => do
    if ← take .blockEntry then
      let v ← orEmpty item [.blockEntry, .blockEnd]
      return v :: (← blockItems item fuel)
    else if ← take .blockEnd then return []
    else failure

/-- items of a sequence that stands at the column of the keys around it -/
def alignedItems (item : Parse Node) : (fuel : Nat) → Parse (List Node)
  | 0 => failure
  | fuel + 1 => do
    if ← take .blockEntry then
      let v ← orEmpty item [.blockEntry, .key, .value, .blockEnd]
      return v :: (← alignedItems item fuel)
    else return []

def blockEntries (item : Parse Node) : (fuel : Nat) → Parse (List (Node × Node))
  | 0 => failure
  | fuel + 1 => do
    let around := [.key, .value, .blockEnd]
    if ← take .key then
      let k ← orEmpty item around
      let v ← if ← take .value then orEmpty item around else empty
      return (k, v) :: (← blockEntries item fuel)
    else if ← take .blockEnd then return []
    else failure

/-- the only entry of a mapping that stands in a flow sequence without braces, after its `key` token -/
def flowPair (item : Parse Node) : Parse Node := do
  let k ←
    if ← before [.value, .flowEntry, .flowSequenceEnd] then
      skip
      empty
    else item
  let v ← if ← take .value then orEmpty item [.flowEntry, .flowSequenceEnd] else empty
  return .mapping none [(k, v)]

/-- the comma before what stands in a flow collection, unless it is the first -/
def comma (first : Bool) : Parse Unit := do
  if !first then
    if !(← take .flowEntry) then failure

/-- items of a flow sequence; all but the first need a comma before them -/
def flowItems (item : Parse Node) : (fuel : Nat) → (first : Bool) → Parse (List Node)
  | 0, _ => failure
  | fuel + 1, first => do
    if ← take .flowSequenceEnd then return []
    comma first
    if ← take .key then
      let v ← flowPair item
      return v :: (← flowItems item fuel false)
    if ← take .flowSequenceEnd then return []
    let v ← item
    return v :: (← flowItems item fuel false)

def flowEntries (item : Parse Node) : (fuel : Nat) → (first : Bool) → Parse (List (Node × Node))
  | 0, _ => failure
  | fuel + 1, first => do
    if ← take .flowMappingEnd then return []
    comma first
    if ← take .key then
      let k ← orEmpty item [.value, .flowEntry, .flowMappingEnd]
      let v ← if ← take .value then orEmpty item [.flowEntry, .flowMappingEnd] else empty
      return (k, v) :: (← flowEntries item fuel false)
    if ← take .flowMappingEnd then return []
    let k ← item
    return (k, ← empty) :: (← flowEntries item fuel false)

/-- what may stand for a node here: anything, anything but an aligned sequence, or only what has no indentation -/
inductive Room where
  | blockOrAligned
  | block
  | flow
  deriving DecidableEq, Repr

def node : (fuel : Nat) → Room → Parse Node
  | 0, _ => failure
  | fuel + 1, room => do
    if let some (.aliasOf name) ← peek then
      skip
      let n ← ((← get).anchors.get? name : Option Nat)
      return .aliasOf n
    let early ← tag
    let a ← anchor
    let late ← if early.isNone then tag else pure none
    let t := early.or late
    match ← peek with
    | some (.scalar style text) =>
      skip
      let plainTag := if t == some (Octets.ofText "!") then none else t
      return .scalar a (plainTag.bind Octets.text?) style text
    | some .blockEntry =>
      if room == .blockOrAligned then return .sequence a (← alignedItems (node fuel .block) fuel)
    | some .flowSequence =>
      skip
      return .sequence a (← flowItems (node fuel .flow) fuel true)
    | some .flowMapping =>
      skip
      return .mapping a (← flowEntries (node fuel .flow) fuel true)
    | some .blockSequence =>
      if room ≠ .flow then
        skip
        return .sequence a (← blockItems (node fuel .block) fuel)
    | some .blockMapping =>
      if room ≠ .flow then
        skip
        return .mapping a (← blockEntries (node fuel .blockOrAligned) fuel)
    | _ => pure ()
    if a.isSome || t.isSome then return .scalar a (t.bind Octets.text?) .plain "" else failure

/-- the directives before a document; the answer tells if there are any -/
def directives : (fuel : Nat) → (version : Bool) → Parse Bool
  | 0, _ => failure
  | fuel + 1, version => do
    match ← peek with
    | some .version =>
      if version then failure
      skip
      let _ ← directives fuel true
      return true
    | some (.handle name meaning) =>
      if (← get).handles.has name then failure
      skip
      modify fun r => { r with handles := r.handles.insert name meaning }
      let _ ← directives fuel version
      return true
    | _ => return false

/-- the only document of a text, if it has one -/
def document : Parse (Option Node) := do
  let size := (← get).tokens.length + 2
  if (← peek).isNone then return none
  let directed ← directives size false
  let root ←
    if ← take .documentStart then orEmpty (node size .block) [.version, .documentStart, .documentEnd]
    else if directed then failure
    else node size .block
  if (← get).tokens.all (· == .documentEnd) then return some root else failure

end Parse

/-- the root of the only document of a text; `none` inside for a text without documents -/
def Node.ofTokens? (ts : List Token) : Option (Option Node) :=
  (Parse.document.run { tokens := ts }).map Prod.fst

/-- read a text that holds at most one document -/
def Node.ofText? (text : String) : Option (Option Node) := do
  Node.ofTokens? (← Token.scan text)

end ClientPlan.Yaml
