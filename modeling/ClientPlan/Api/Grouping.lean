/-
Groups of operations that share an endpoint file: by tag, by operation, or by the first literal segment of the path.
Inside a group, operations keep their order.
-/
import ClientPlan.Api.Basic
import ClientPlan.Config

namespace ClientPlan.Api

/-- the name of what carries no name -/
def defaultGroup : String := "default"

/-- put each operation, from number `i` on, into the groups that `keysOf` names -/
def collect (keysOf : Operation → List String) (groups : Keyed (List Nat)) (i : Nat) : List Operation → Keyed (List Nat)
  | [] => groups
  | op :: ops =>
    collect keysOf ((keysOf op).foldl (fun gs key => Keyed.alter gs key [] (· ++ [i])) groups) (i + 1) ops

/-- the groups with their names, in order of first appearance -/
def groupsBy (keysOf : Operation → List String) (ops : List Operation) : List Group :=
  (collect keysOf [] 0 ops).map fun e => ⟨Name.of e.1, e.2⟩

/-- the tags of an operation, as groups -/
def tagsOf (op : Operation) : List String :=
  if op.tags.isEmpty then [defaultGroup] else op.tags

/-- one group for each tag, sorted by tag -/
def groupsByTag (ops : List Operation) : List Group :=
  (groupsBy tagsOf ops).mergeSort fun a b => decide (a.name.written ≤ b.name.written)

/-- the first literal segment of a path -/
def routeGroup (path : String) : String :=
  ((Text.segments '/' path).find? fun s => s.toList.head? != some '\x7b').getD defaultGroup

/-- one group for each operation, from number `i` on -/
def groupsBySelf (i : Nat) : List Operation → List Group
  | [] => []
  | op :: ops => ⟨op.name, [i]⟩ :: groupsBySelf (i + 1) ops

/-- the groups of operations of an API -/
def groups (api : Api) : Config.SplitBy → List Group
  | .tag => api.modules
  | .operation => groupsBySelf 0 api.operations
  | .route => groupsBy (fun op => [routeGroup op.path]) api.operations

end ClientPlan.Api
