/-
Merging the members of `allOf` into one schema. Members are merged in order and a later member's property replaces an
earlier one's, in its place; a member's own members come before it. References are followed, each component once on any
path, so that a merge through a circle of components ends.
-/
import ClientPlan.Document.Reference
import ClientPlan.Model.Build

namespace ClientPlan

/-- fold the object keywords of a member into a schema -/
def Schema.absorb (target member : Schema SchemaNode) : Schema SchemaNode :=
  { target with
    properties := member.properties.foldl (fun ps e => Keyed.insert ps e.1 e.2) target.properties
    required := member.required.foldl (fun rs r => if rs.contains r then rs else rs ++ [r]) target.required
    additional := member.additional <|> target.additional }

/-- the component that a schema reference leads to, with its name -/
def component? (components : Keyed SchemaNode) (path : String) : Option (String × SchemaNode) := do
  let name ← schemaName? path
  let node ← components.get? name
  return (name, node)

theorem mem_keys_of_component? {components : Keyed SchemaNode} {path name : String} {node : SchemaNode}
    (h : component? components path = some (name, node)) : name ∈ components.keys := by
  simp only [component?, Option.bind_eq_bind, Option.bind_eq_some_iff] at h
  obtain ⟨n, _, m, hm, he⟩ := h
  cases he
  exact Keyed.mem_keys_of_get? hm

mutual

/-- merge a node into `target`, for a schema at `context`; `merging` names the components on the way here -/
def mergeNode (components : Keyed SchemaNode) (context : String) (merging : List String)
    (target : Schema SchemaNode) (node : SchemaNode) : Building (Schema SchemaNode) :=
  match node with
  | .malformed _ => do
    note ⟨context, .malformed⟩
    return target
  | .schema member => do
    let target ← mergeNodes components context merging target member.allOf
    return target.absorb member
  | .ref path =>
    match _h : component? components path with
    | none => do
      note ⟨context, .unresolvedReference path⟩
      return target
    | some (name, definition) =>
      if _hm : name ∈ merging then do
        notice (.mergeCycle context name)
        return target
      else mergeNode components context (name :: merging) target definition
termination_by (components.unseen merging, sizeOf node)
decreasing_by
  · cases member
    exact Prod.Lex.right _ (by simp only [SchemaNode.schema.sizeOf_spec, Schema.mk.sizeOf_spec]; omega)
  · exact Prod.Lex.left _ _ (Keyed.unseen_cons_lt (mem_keys_of_component? _h) _hm)

/-- merge nodes into `target` one after the other -/
def mergeNodes (components : Keyed SchemaNode) (context : String) (merging : List String)
    (target : Schema SchemaNode) (nodes : List SchemaNode) : Building (Schema SchemaNode) :=
  match nodes with
  | [] => return target
  | node :: rest => do
    let target ← mergeNode components context merging target node
    mergeNodes components context merging target rest
termination_by (components.unseen merging, sizeOf nodes)
decreasing_by
  · exact Prod.Lex.right _ (by simp only [List.cons.sizeOf_spec]; omega)
  · exact Prod.Lex.right _ (by simp only [List.cons.sizeOf_spec]; omega)

end

end ClientPlan
