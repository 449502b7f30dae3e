/-
The import block of a file: one line for each module, with its symbols in order. Modules outside the tree come first,
sorted by name; after an empty line come the modules of the tree by their relative paths, nearest first.
-/
import ClientPlan.Imports.Planner

namespace ClientPlan.Imports

/-- a module as a block prints it -/
inductive Printed where
  /-- outside the tree -/
  | outside (module : String)
  /-- inside the tree: so many dots, and what follows them -/
  | inside (depth : Nat) (suffix : String)
  deriving DecidableEq, Repr

/-- text of a printed module -/
def Printed.text : Printed → String
  | outside module => module
  | inside depth suffix => dots depth ++ suffix

/-- order of the lines of a block -/
def Printed.le : Printed → Printed → Bool
  | outside a, outside b => a ≤ b
  | outside _, inside _ _ => true
  | inside _ _, outside _ => false
  | inside d a, inside e b => d < e || (d == e && a ≤ b)

/-- the module is outside the tree -/
def Printed.isOutside : Printed → Bool
  | outside _ => true
  | inside _ _ => false

/-- how a module is printed in a file; nothing for the file itself -/
def Tree.printed? (tree : Tree) (package path module : String) : Option Printed :=
  match tree.inside? package module with
  | none => some (.outside module)
  | some inner =>
    if moduleToFile inner = path then none else
      let relative := relativeModule path inner
      let depth := relativeDepth relative
      some (.inside depth (String.ofList (relative.toList.drop depth)))

/-- order of the symbols of a line: by name, and then by alias, none first -/
def Requirement.le (a b : Requirement) : Bool :=
  if a.symbol = b.symbol then
    match a.localName, b.localName with
    | none, _ => true
    | some _, none => false
    | some x, some y => x ≤ y
  else a.symbol ≤ b.symbol

/-- a symbol as a line prints it -/
def Requirement.text (r : Requirement) : String :=
  match r.localName with
  | some name => s!"{r.symbol} as {name}"
  | none => r.symbol

/-- the line that imports symbols of a module -/
def line (module : Printed) (rs : List Requirement) : String :=
  "from " ++ module.text ++ " import " ++ Text.join ", " ((rs.mergeSort Requirement.le).map Requirement.text)

/-- the lines for modules in order, each with those of the entries that are its own -/
def lines (entries : List (Printed × Requirement)) : List Printed → List String
  | [] => []
  | m :: ms => line m ((entries.filter (·.1 == m)).map (·.2)) :: lines entries ms

/-- the block for printed requirements -/
def blockOf (entries : List (Printed × Requirement)) : String :=
  let modules := ((entries.map (·.1)).eraseDups).mergeSort Printed.le
  let (outside, inside) := modules.partition Printed.isOutside
  let parts := [lines entries outside, lines entries inside].filter (!·.isEmpty)
  Text.join "\n\n" (parts.map (Text.join "\n"))

/-- the import block of a file -/
def Planner.block (p : Planner) (path package : String) : String :=
  blockOf ((p.requirements path).filterMap fun r => (p.tree.printed? package path r.module).map (·, r))

end ClientPlan.Imports
