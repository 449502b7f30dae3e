/-
The walk with all of its book-keeping in one state. A parser keeps the components that are being built and merged on
stacks and the depth in a counter, which its functions change and change back around every step down; the numbers in
`order` say where a name comes in the finished table. What `Source` hands down to a computation is here a state that
each computation must leave as it found it, and nothing but the state bounds the recursion: a result of `none` is a
run without end.
-/
import ClientPlan.Model.Source

namespace ClientPlan

/-- the state of a parser -/
structure Parser extends Build where
  /-- the place of each name in the finished table -/
  order : Keyed Nat
  nextOrder : Nat
  /-- the components that are being built, innermost first -/
  resolving : List String := []
  /-- the components that are being merged, innermost first -/
  merging : List String := []
  /-- levels below the root of the component that is being built -/
  depth : Nat := 0
  /-- every entry that was put into the table, in order; no step looks at it -/
  inserted : List (String × Model) := []
  deriving Inhabited

/-- a computation of a parser -/
abbrev Parsing := StateT Parser Option

namespace Parser

/-- what a parser reads and never writes -/
abbrev Input := Source

/-- a parser that has not built anything -/
def new (src : Source) : Parser :=
  let order := Keyed.ofList src.components.keys.zipIdx
  { names := src.components.keys.foldl ClaimedNames.reserve .empty, order := order, nextOrder := order.length }

/-! ## Writes to the state -/

/-- a computation that knows nothing of stacks and depth -/
def doing {α : Type} (c : Building α) : Parsing α := fun w =>
  some ((c.run w.toBuild).1, { w with toBuild := (c.run w.toBuild).2 })

/-- put a model into the table -/
def insert (name : String) (m : Model) : Parsing Unit :=
  modify fun w => { w with table := Keyed.insert w.table name m, inserted := w.inserted ++ [(name, m)] }

/-- give an inline model a name of its own, if it is to have one, and refer to it -/
def promote (context : String) (m : Model) : Parsing Model := do
  if m.isPromotable then
    let name ← doing (claimName context)
    doing (notice (.promoted context name))
    modify fun w => { w with order := Keyed.insert w.order name w.nextOrder, nextOrder := w.nextOrder + 1 }
    insert name { m with name := some name }
    return { Model.reference name with nullable := m.nullable }
  else return m

/-! ## Merging -/

/-- merge a node into `target`; the components on the way here are on the stack -/
def Input.mergeInto (src : Input) (context : String) (target : Schema SchemaNode) (node : SchemaNode) :
    Parsing (Schema SchemaNode) :=
  match node with
  | .malformed _ => do
    doing (note ⟨context, .malformed⟩)
    return target
  | .schema member => do
    let target ← member.allOf.foldlM (src |>.mergeInto context) target
    return target.absorb member
  | .ref path =>
    match component? src.components path with
    | none => do
      doing (note ⟨context, .unresolvedReference path⟩)
      return target
    | some (name, definition) => do
      if (← get).merging.contains name then
        doing (notice (.mergeCycle context name))
        return target
      else
        modify fun w => { w with merging := name :: w.merging }
        let target ← src |>.mergeInto context target definition
        modify fun w => { w with merging := w.merging.tail }
        return target
partial_fixpoint

/-! ## Building -/

mutual

/-- see to it that a component stands in the table or is being built; false if there is no such component -/
def Input.ensureNamed (src : Input) (name : String) : Parsing Bool := do
  let w ← get
  if Keyed.has w.table name || w.resolving.contains name then return true
  else match src.components.get? name with
    | none => return false
    | some node =>
      -- a component gets the whole depth, wherever it is come upon
      modify fun w => { w with resolving := name :: w.resolving, depth := 0 }
      let m ← src |>.buildNode (typeName name) node
      modify fun w' => { w' with resolving := w'.resolving.tail, depth := w.depth }
      insert name { m with name := some name }
      return true
partial_fixpoint

/-- build a schema below a context; it gets a name of its own if it is to have one -/
def Input.parseNested (src : Input) (context : String) (node : SchemaNode) : Parsing Model := do
  promote context (← src |>.descend context node)
partial_fixpoint

def Input.descend (src : Input) (context : String) (node : SchemaNode) : Parsing Model := do
  if src.limit ≤ (← get).depth then
    doing (note ⟨context, .depthExceeded src.limit⟩)
    return .placeholder
  else
    modify fun w => { w with depth := w.depth + 1 }
    let m ← src |>.buildNode context node
    modify fun w => { w with depth := w.depth - 1 }
    return m
partial_fixpoint

def Input.buildNode (src : Input) (context : String) (node : SchemaNode) : Parsing Model :=
  match node with
  | .ref path => src |>.reference context path
  | .schema s => do return Reach.annotate s (← src |>.shaped context s)
  | .malformed _ => do
    doing (note ⟨context, .malformed⟩)
    return .placeholder
partial_fixpoint

def Input.reference (src : Input) (context path : String) : Parsing Model :=
  match (schemaName? path).filter (Keyed.has src.components) with
  | none => do
    doing (note ⟨context, .unresolvedReference path⟩)
    return .placeholder
  | some name => do
    let w ← get
    if w.resolving.contains name then
      doing (notice (.forwardReference context name))
      return .reference name
    else if w.depth < src.limit then
      let _ ← src |>.ensureNamed name
      return .reference name
    else return .reference name
partial_fixpoint

/-- the model of a schema by the keyword that decides its shape -/
def Input.shaped (src : Input) (context : String) (s : Schema SchemaNode) : Parsing Model :=
  match s.constant with
  | some v => return .ofLiterals [v]
  | none =>
    if !s.literals.isEmpty then return .ofLiterals s.literals
    else if !s.allOf.isEmpty then src |>.merged context s
    else if !s.oneOf.isEmpty || !s.anyOf.isEmpty then src |>.union context s
    else src |>.typed context s
partial_fixpoint

def Input.typed (src : Input) (context : String) (s : Schema SchemaNode) : Parsing Model :=
  match (s.types.map (·.nonNull)).getD [] with
  | [] =>
    if !s.properties.isEmpty || s.additional.isSome then src |>.object context s
    else if s.items.isSome then src |>.array context s
    else if s.types.isSome then return { Model.scalar .null with nullable := true }
    else return ((s.format.bind formatScalar?).map Model.scalar).getD .placeholder
  | [t] => src |>.single context t s
  | ts => do
    let variants ← ts.zipIdx.mapM fun (t, i) => do
      promote (Reach.variantContext context i) (← src |>.single (Reach.variantContext context i) t s)
    return .of (.union variants [] none)
partial_fixpoint

def Input.single (src : Input) (context : String) (t : TypeName) (s : Schema SchemaNode) : Parsing Model :=
  match t with
  | .object => src |>.object context s
  | .array => src |>.array context s
  | .string => return Reach.scalarOf .string s
  | .integer => return Reach.scalarOf .integer s
  | .number => return Reach.scalarOf .number s
  | .boolean => return Reach.scalarOf .boolean s
  | .null => return Reach.scalarOf .null s
partial_fixpoint

def Input.array (src : Input) (context : String) (s : Schema SchemaNode) : Parsing Model := do
  let items ← s.items.mapM (src |>.parseNested (context ++ "Item"))
  return .of (.array items)
partial_fixpoint

def Input.object (src : Input) (context : String) (s : Schema SchemaNode) : Parsing Model := do
  let properties ← s.properties.mapM fun (key, node) => do
    return (key, ← src |>.parseNested (context ++ pascalCase key) node)
  match s.additional with
  | some (.shaped node) =>
    let m ← src |>.parseNested (context ++ "Value") node
    return .of (.object properties s.required.eraseDups (some m))
  | some (.allowed true) => return .of (.object properties s.required.eraseDups (some .placeholder))
  | _ => return .of (.object properties s.required.eraseDups none)
partial_fixpoint

def Input.union (src : Input) (context : String) (s : Schema SchemaNode) : Parsing Model := do
  let m ← match s.nonNullAlternatives with
    | [] => pure (.scalar .null)
    | [only] => src |>.descend context only
    | members => do
      let variants ← members.zipIdx.mapM fun (node, i) => src |>.parseNested (Reach.variantContext context i) node
      pure (.of (.union variants [] (s.discriminator.map Reach.discriminator)))
  return { m with nullable := m.nullable || s.alternatives.any (·.isNullType) }
partial_fixpoint

def Input.merged (src : Input) (context : String) (s : Schema SchemaNode) : Parsing Model :=
  match s.allOf, s.properties with
  | [only], [] => src |>.descend context only
  | members, _ => do
    let target ← members.foldlM (src |>.mergeInto context) {}
    src |>.object context (target.absorb s)
partial_fixpoint

end

/-! ## Public calls -/

/-- see to it that every component stands in the table -/
def parseComponents (src : Source) : Parsing Unit :=
  src.components.keys.forM fun name => discard (Input.ensureNamed src name)

/-- the place of a name in the finished table; names without one come last -/
def rank (w : Parser) (name : String) : Nat :=
  (Keyed.get? w.order name).getD 18446744073709551615

/-- hand over the table, sorted by the places of its names, and the diagnostics -/
def finish (w : Parser) : Table × List Diagnostic :=
  (w.table.mergeSort fun e e' => decide (w.rank e.1 ≤ w.rank e'.1), w.diagnostics)

/-- a call of a public function of a parser -/
inductive Call where
  | parseComponents
  | ensureNamed (name : String)
  | parseNested (context : String) (node : SchemaNode)
  | record (d : Diagnostic)

namespace Call

/-- what a call does to a parser -/
def run (src : Source) : Call → Parsing Unit
  | .parseComponents => Parser.parseComponents src
  | .ensureNamed name => discard (Input.ensureNamed src name)
  | .parseNested context node => discard (Input.parseNested src context node)
  | .record d => doing (note d)

/-- the same call of the functions of a source -/
def build (src : Source) : Call → Building Unit
  | .parseComponents => src.parseComponents
  | .ensureNamed name => discard (src.ensure name)
  | .parseNested context node => discard (src.nested context node)
  | .record d => note d

end Call

end Parser

end ClientPlan
