/-
The model of one schema node. What lies below the node, and what a reference leads to, is built by the functions of its
`Reach`; nothing here recurses, so a property that these functions keep is kept by building a node.

A node found at a place gets a context, a name in capitalised words that says where it is: a property adds its name, an
item `Item`, a value of additional properties `Value`, and a member of a union `Variant` and its number.

Of listed literals, a null only makes the model nullable. Literals of one kind make an enumeration, where integers among
other numbers count as numbers; literals of several kinds make a union of these kinds.
-/
import ClientPlan.Model.Merge

namespace ClientPlan

/-- the scalar kind of a literal -/
def literalKind : Json → Scalar
  | .string _ => .string
  | .bool _ => .boolean
  | .number (.integer _) => .integer
  | .number (.double _) => .number
  | .null => .null
  | .array _ => .any
  | .object _ => .any

/-- the kinds of literals in order of first appearance, integers counting as numbers if there are other numbers -/
def literalKinds (literals : List Json) : List Scalar :=
  let kinds := (literals.map literalKind).eraseDups
  if kinds.contains .integer && kinds.contains .number then kinds.filter (· ≠ .integer) else kinds

/-- the model of a list of literals -/
def Model.ofLiterals (values : List Json) : Model :=
  let literals := values.filter fun v => !v.isNull
  let shape : Shape Model := match literalKinds literals with
    | [] => .scalar .null
    | [kind] => .enumeration kind literals
    | kinds => .union (kinds.map Model.scalar) literals none
  { shape := shape, nullable := values.any Json.isNull }

/-- the scalar kind that a schema without a type stands for, by its format -/
def formatScalar? (format : String) : Option Scalar :=
  if ["date-time", "date", "time", "duration", "uuid", "email", "uri", "hostname", "ipv4", "ipv6", "binary", "byte",
      "password"].contains format then some .string
  else if ["int32", "int64"].contains format then some .integer
  else if ["float", "double"].contains format then some .number
  else none

namespace Schema

/-- the members of `oneOf` and `anyOf` -/
def alternatives {ν : Type} (s : Schema ν) : List ν :=
  s.oneOf ++ s.anyOf

/-- the alternatives that allow more than null -/
def nonNullAlternatives (s : Schema SchemaNode) : List SchemaNode :=
  s.alternatives.filter fun n => !n.isNullType

end Schema

/-- what building a node may use -/
structure Reach where
  components : Keyed SchemaNode
  /-- the components that are being built, innermost first -/
  resolving : List String
  /-- build a node one level below -/
  below : String → SchemaNode → Building Model
  /-- see to it that a component stands in the table -/
  enter : String → Building Unit

namespace Reach

/-- context of the `i`-th member of a union, counting from 0 -/
def variantContext (context : String) (i : Nat) : String :=
  context ++ "Variant" ++ toString (i + 1)

/-- build a node one level below; it gets a name of its own if it is to have one -/
def nested (r : Reach) (context : String) (node : SchemaNode) : Building Model := do
  promote context (← r.below context node)

/-- build nested nodes, each in the context that `contextOf` gives it -/
def nestedEntries (r : Reach) (contextOf : String → String) :
    List (String × SchemaNode) → Building (List (String × Model))
  | [] => return []
  | (key, node) :: rest => do
    let m ← r.nested (contextOf key) node
    return (key, m) :: (← r.nestedEntries contextOf rest)

/-- build the members of a union from number `i` on -/
def nestedVariants (r : Reach) (context : String) (i : Nat) : List SchemaNode → Building (List Model)
  | [] => return []
  | node :: rest => do
    let m ← r.nested (variantContext context i) node
    return m :: (← r.nestedVariants context (i + 1) rest)

/-- build the values of additional properties -/
def values (r : Reach) (context : String) : Option (Extra SchemaNode) → Building (Option Model)
  | some (.shaped node) => some <$> r.nested (context ++ "Value") node
  | some (.allowed true) => return some .placeholder
  | some (.allowed false) => return none
  | none => return none

/-- build the items of an array -/
def items (r : Reach) (context : String) : Option SchemaNode → Building (Option Model)
  | some node => some <$> r.nested (context ++ "Item") node
  | none => return none

/-- an object with the properties of a schema -/
def object (r : Reach) (context : String) (s : Schema SchemaNode) : Building Model := do
  let properties ← r.nestedEntries (fun key => context ++ pascalCase key) s.properties
  let additional ← r.values context s.additional
  return .of (.object properties s.required.eraseDups additional)

/-- an array with the items of a schema -/
def array (r : Reach) (context : String) (s : Schema SchemaNode) : Building Model := do
  return .of (.array (← r.items context s.items))

/-- a scalar with the format of a schema -/
def scalarOf (kind : Scalar) (s : Schema SchemaNode) : Model :=
  { Model.scalar kind with format := s.format }

/-- the model of a schema read as one type -/
def single (r : Reach) (context : String) (t : TypeName) (s : Schema SchemaNode) : Building Model :=
  match t with
  | .object => r.object context s
  | .array => r.array context s
  | .string => return scalarOf .string s
  | .integer => return scalarOf .integer s
  | .number => return scalarOf .number s
  | .boolean => return scalarOf .boolean s
  | .null => return scalarOf .null s

/-- the models of a schema read as each of several types, from number `i` on -/
def singles (r : Reach) (context : String) (s : Schema SchemaNode) (i : Nat) : List TypeName → Building (List Model)
  | [] => return []
  | t :: rest => do
    let m ← r.single (variantContext context i) t s
    let m ← promote (variantContext context i) m
    return m :: (← r.singles context s (i + 1) rest)

/-- the model of a schema without types: by its properties or items, or else by its format -/
def untyped (r : Reach) (context : String) (s : Schema SchemaNode) : Building Model :=
  if !s.properties.isEmpty || s.additional.isSome then r.object context s
  else if s.items.isSome then r.array context s
  else if s.types.isSome then return { Model.scalar .null with nullable := true }
  else return ((s.format.bind formatScalar?).map Model.scalar).getD .placeholder

/-- the model of a schema by its types -/
def typed (r : Reach) (context : String) (s : Schema SchemaNode) : Building Model :=
  match (s.types.map (·.nonNull)).getD [] with
  | [] => r.untyped context s
  | [t] => r.single context t s
  | ts => do return .of (.union (← r.singles context s 0 ts) [] none)

/-- the model of a discriminator: its mapping names components -/
def discriminator (d : Discriminator) : Discriminator :=
  { d with mapping := Keyed.ofList (d.mapping.map fun e => (e.1, (schemaName? e.2).getD e.2)) }

/-- the model of a choice among members; a single one stands for itself -/
def choice (r : Reach) (context : String) (d : Option Discriminator) : List SchemaNode → Building Model
  | [] => return .scalar .null
  | [only] => r.below context only
  | members => return .of (.union (← r.nestedVariants context 0 members) [] (d.map discriminator))

/-- the model of a schema by its alternatives; those that only allow null make it nullable -/
def union (r : Reach) (context : String) (s : Schema SchemaNode) : Building Model := do
  let m ← r.choice context s.discriminator s.nonNullAlternatives
  return { m with nullable := m.nullable || s.alternatives.any (·.isNullType) }

/-- the model of a schema with members to merge; a single member without anything beside it stands for itself -/
def merged (r : Reach) (context : String) (s : Schema SchemaNode) : Building Model :=
  match s.allOf, s.properties with
  | [only], [] => r.below context only
  | members, _ => do
    let target ← mergeNodes r.components context [] {} members
    r.object context (target.absorb s)

/-- the model of a schema by the keyword that decides its shape -/
def shaped (r : Reach) (context : String) (s : Schema SchemaNode) : Building Model :=
  match s.constant with
  | some v => return .ofLiterals [v]
  | none =>
    if !s.literals.isEmpty then return .ofLiterals s.literals
    else if !s.allOf.isEmpty then r.merged context s
    else if !s.oneOf.isEmpty || !s.anyOf.isEmpty then r.union context s
    else r.typed context s

/-- nullability, format and description of a schema put on a model -/
def annotate (s : Schema SchemaNode) (m : Model) : Model :=
  { m with
    nullable := m.nullable || s.declaresNullable
    format := m.format <|> s.format
    description := s.description <|> m.description }

/-- the model of a schema -/
def schema (r : Reach) (context : String) (s : Schema SchemaNode) : Building Model := do
  return annotate s (← r.shaped context s)

/-- the model of a reference to a component, which is entered into the table unless it is being built already -/
def reference (r : Reach) (context path : String) : Building Model :=
  match (schemaName? path).filter (Keyed.has r.components) with
  | none => do
    note ⟨context, .unresolvedReference path⟩
    return .placeholder
  | some name => do
    if r.resolving.contains name then notice (.forwardReference context name) else r.enter name
    return .reference name

/-- the model of a node -/
def node (r : Reach) (context : String) : SchemaNode → Building Model
  | .ref path => r.reference context path
  | .schema s => r.schema context s
  | .malformed _ => do
    note ⟨context, .malformed⟩
    return .placeholder

end Reach

end ClientPlan
