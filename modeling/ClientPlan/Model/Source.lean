/-
Building models from the component schemas of a document. Two bounds end every walk. A component that is being built is
not entered again, so components nest at most as deep as there are components; and inside a component, nodes are
followed to a limited depth, below which they become untyped. A component has the whole depth for itself, wherever a
walk comes upon it.
-/
import ClientPlan.Model.OfNode

namespace ClientPlan

/-- the component schemas of a document and the limit on depth -/
structure Source where
  components : Keyed SchemaNode
  limit : Nat
  deriving Repr, Inhabited

namespace Source

/-- what a node may use that has `budget` levels below it -/
def reach (src : Source) (resolving : List String) (enterComponent : String → Building Unit) (budget : Nat)
    (below : String → SchemaNode → Building Model) : Reach where
  components := src.components
  resolving := resolving
  below := below
  enter := if budget = 0 then fun _ => pure () else enterComponent

/-- build a node, if there are levels left for it; `budget` counts them -/
def descend (src : Source) (resolving : List String) (enterComponent : String → Building Unit) :
    (budget : Nat) → String → SchemaNode → Building Model
  | 0, context, _ => do
    note ⟨context, .depthExceeded src.limit⟩
    return .placeholder
  | budget + 1, context, node =>
    (src.reach resolving enterComponent budget (src.descend resolving enterComponent budget)).node context node

/-- see to it that a component stands in the table or is being built; false if there is no such component -/
def component (src : Source) (resolving : List String) (name : String) : Building Bool := do
  if _hr : name ∈ resolving then return true
  else if Keyed.has (← get).table name then return true
  else match _hc : src.components.get? name with
    | none => return false
    | some node =>
      let enterComponent (other : String) : Building Unit := discard (src.component (name :: resolving) other)
      let below := src.descend (name :: resolving) enterComponent src.limit
      let m ← (src.reach (name :: resolving) enterComponent src.limit below).node (typeName name) node
      enter name m
      return true
termination_by src.components.unseen resolving
decreasing_by exact Keyed.unseen_cons_lt (Keyed.mem_keys_of_get? _hc) _hr

/-- the state before anything is built: the names of components are given away -/
def start (src : Source) : Build :=
  { names := src.components.keys.foldl ClaimedNames.reserve .empty }

/-- enter a component into the table; false if there is no such component -/
def ensure (src : Source) (name : String) : Building Bool :=
  src.component [] name

/-- enter components into the table one after the other -/
def ensureAll (src : Source) : List String → Building Unit
  | [] => return
  | name :: names => do
    discard (src.ensure name)
    src.ensureAll names

/-- enter every component into the table -/
def parseComponents (src : Source) : Building Unit :=
  src.ensureAll src.components.keys

/-- build a schema that stands outside the components -/
def nested (src : Source) (context : String) (node : SchemaNode) : Building Model := do
  let m ← src.descend [] (fun name => discard (src.component [] name)) src.limit context node
  promote context m

/-- the finished table: components in document order, then the other models in the order in which they were entered -/
def finish (src : Source) (b : Build) : Table :=
  (src.components.keys.filterMap fun name => (Keyed.get? b.table name).map (Prod.mk name))
    ++ b.table.filter fun e => !Keyed.has src.components e.1

end Source

end ClientPlan
