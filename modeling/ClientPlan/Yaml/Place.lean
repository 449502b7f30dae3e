/-
Reading values out of a YAML document. What a scalar means depends on what is asked for: every scalar is a text as it is
written, and only plain ones are also numbers or truth values. An empty plain scalar is an empty list or map as well.
-/
import ClientPlan.Json.Reader
import ClientPlan.Yaml.Node

namespace ClientPlan.Yaml

/-- a node and the root of its document, where aliases are looked up -/
structure Place where
  root : Node
  node : Node
  deriving Inhabited

namespace Place

/-- the node that an alias stands for -/
def target (p : Place) : Node :=
  match p.node with
  | .aliasOf n => (p.root.anchored? n).getD p.node
  | node => node

/-- another node of the same document -/
def withNode (p : Place) (n : Node) : Place :=
  { p with node := n }

/-- a scalar as it is written -/
def text? (p : Place) : Option String :=
  match p.target with
  | .scalar _ _ _ text => some text
  | _ => none

/-- the text of a scalar that may mean something else: a plain one, or a literal one with this tag -/
def bare? (tag : String) (p : Place) : Option String :=
  match p.target with
  | .scalar _ t style text =>
    if style == .plain || (style == .literal && t == some tag) then some text else none
  | _ => none

def flag? (p : Place) : Option Bool := do
  match ← p.bare? "tag:yaml.org,2002:bool" with
  | "true" => some true
  | "True" => some true
  | "TRUE" => some true
  | "false" => some false
  | "False" => some false
  | "FALSE" => some false
  | _ => none

/-- a number in digits of a base -/
def number? (base : Nat) : List Char → Option Nat
  | [] => none
  | digits => digits.foldlM (fun n d => ((Json.hexValue? d).filter (· < base)).map (n * base + ·)) 0

/-- a number without sign: in decimal digits, where a zero does not lead, or in another base after its mark -/
def unsigned? : List Char → Option Nat
  | '0' :: 'x' :: digits => number? 16 digits
  | '0' :: 'o' :: digits => number? 8 digits
  | '0' :: 'b' :: digits => number? 2 digits
  | '0' :: _ :: _ => none
  | digits => number? 10 digits

/-- a count of one machine word -/
def size? (p : Place) : Option Nat := do
  let digits ← match (← p.bare? "tag:yaml.org,2002:int").toList with
    | '+' :: rest => unsigned? rest
    | rest => unsigned? rest
  if digits < Nat.pow 2 64 then some digits else none

/-- the node is there but nothing is written for it -/
def isBlank (p : Place) : Bool :=
  match p.target with
  | .scalar _ _ .plain "" => true
  | _ => false

def items? (p : Place) : Option (List Place) :=
  match p.target with
  | .sequence _ items => some (items.map p.withNode)
  | _ => if p.isBlank then some [] else none

def entries? (p : Place) : Option (List (Place × Place)) :=
  match p.target with
  | .mapping _ entries => some (entries.map fun (k, v) => (p.withNode k, p.withNode v))
  | _ => if p.isBlank then some [] else none

/-- a name out of several: a scalar, or the name as a tag of its own with nothing to it -/
def name? (p : Place) : Option String :=
  match p.target with
  | .scalar _ tag style text =>
    match tag.map String.toList with
    | some ('!' :: name) =>
      if text.isEmpty || (style == .plain && ["null", "Null", "NULL", "~"].contains text) then some (String.ofList name)
      else none
    | _ => some text
  | _ => none

end Place

end ClientPlan.Yaml
