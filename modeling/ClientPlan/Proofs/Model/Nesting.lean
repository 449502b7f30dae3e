/-
The nodes that are built one level below a node, said without building anything: properties and additional values,
items, members of a choice, the one member that stands for a schema, and the properties of the schema that `allOf`
members merge into. The merged schema depends on the components and the members only (`mergeNodes_value`).
-/
import ClientPlan.Proofs.Model.Building
import ClientPlan.Model.OfNode

namespace ClientPlan

namespace Schema

variable {ν : Type}

/-- the node of `additionalProperties` -/
def valueNodes (s : Schema ν) : List ν :=
  match s.additional with
  | some (.shaped node) => [node]
  | _ => []

/-- the nodes that an object reads -/
def objectNodes (s : Schema ν) : List ν :=
  s.properties.map (·.2) ++ s.valueNodes

/-- the nodes that a schema read as one type reads -/
def singleNodes (s : Schema ν) : TypeName → List ν
  | .object => s.objectNodes
  | .array => s.items.toList
  | _ => []

/-- the nodes that a schema without types reads -/
def untypedNodes (s : Schema ν) : List ν :=
  if !s.properties.isEmpty || s.additional.isSome then s.objectNodes else s.items.toList

/-- the nodes that a schema reads by its types -/
def typedNodes (s : Schema ν) : List ν :=
  match (s.types.map (·.nonNull)).getD [] with
  | [] => s.untypedNodes
  | ts => ts.flatMap s.singleNodes

/-- the schema that members of `allOf` merge into -/
def ofMembers (components : Keyed SchemaNode) (members : List SchemaNode) : Schema SchemaNode :=
  ((mergeNodes components "" [] {} members).run {}).1

/-- the nodes that a schema with members to merge reads -/
def mergedNodes (components : Keyed SchemaNode) (s : Schema SchemaNode) : List SchemaNode :=
  match s.allOf, s.properties with
  | [only], [] => [only]
  | members, _ => ((ofMembers components members).absorb s).objectNodes

/-- the nodes that a schema reads, by the keyword that decides its shape -/
def innerNodes (components : Keyed SchemaNode) (s : Schema SchemaNode) : List SchemaNode :=
  match s.constant with
  | some _ => []
  | none =>
    if !s.literals.isEmpty then []
    else if !s.allOf.isEmpty then s.mergedNodes components
    else if !s.oneOf.isEmpty || !s.anyOf.isEmpty then s.nonNullAlternatives
    else s.typedNodes

end Schema

/-- the nodes that are built one level below a node -/
def SchemaNode.inner (components : Keyed SchemaNode) : SchemaNode → List SchemaNode
  | .schema s => s.innerNodes components
  | _ => []

/-- the component that a node is a reference to, if it is one -/
def SchemaNode.linked (components : Keyed SchemaNode) : SchemaNode → List String
  | .ref path => ((schemaName? path).filter (Keyed.has components)).toList
  | _ => []

section Merging

variable {components : Keyed SchemaNode}

theorem run_mergeNode_schema (context : String) (merging : List String) (target s : Schema SchemaNode) (b : Build) :
    (mergeNode components context merging target (.schema s)).run b =
      let r := (mergeNodes components context merging target s.allOf).run b
      (r.1.absorb s, r.2) := by
  rw [mergeNode]; rfl

theorem run_mergeNodes_nil (context : String) (merging : List String) (target : Schema SchemaNode) (b : Build) :
    (mergeNodes components context merging target []).run b = (target, b) := by
  rw [mergeNodes]; rfl

theorem run_mergeNodes_cons (context : String) (merging : List String) (target : Schema SchemaNode) (node : SchemaNode)
    (rest : List SchemaNode) (b : Build) :
    (mergeNodes components context merging target (node :: rest)).run b =
      let r := (mergeNode components context merging target node).run b
      (mergeNodes components context merging r.1 rest).run r.2 := by
  rw [mergeNodes]; rfl

theorem mergeNode_unresolved {path : String} (h : component? components path = none) (context : String)
    (merging : List String) (target : Schema SchemaNode) :
    mergeNode components context merging target (.ref path) = (do
      note ⟨context, .unresolvedReference path⟩
      return target) := by
  rw [mergeNode]; split <;> simp_all

theorem component?_eq_some {path name : String} {n : SchemaNode} :
    component? components path = some (name, n) ↔ schemaName? path = some name ∧ components.get? name = some n := by
  simp only [component?, Option.bind_eq_bind, Option.bind_eq_some_iff, Option.pure_def, Option.some.injEq, Prod.mk.injEq]
  constructor
  · rintro ⟨_, hpath, _, hname, rfl, rfl⟩
    exact ⟨hpath, hname⟩
  · rintro ⟨hpath, hname⟩
    exact ⟨name, hpath, n, hname, rfl, rfl⟩

theorem mergeNode_ref {path name : String} {definition : SchemaNode}
    (h : component? components path = some (name, definition)) (context : String) (merging : List String)
    (target : Schema SchemaNode) :
    mergeNode components context merging target (.ref path) =
      if name ∈ merging then (do
        notice (.mergeCycle context name)
        return target)
      else mergeNode components context (name :: merging) target definition := by
  rw [mergeNode]; split <;> simp_all

/-- **A merge only notes.** What its two writes to the state keep, and going on after them, the merge keeps. -/
theorem merge_leads {P : Build → Prop} {R : Build → Build → Prop} (hidle : ∀ b, R b b)
    (htrans : ∀ b b' b'', R b b' → R b' b'' → R b b'')
    (hnoticed : ∀ b n, P b → (∀ context name, n ≠ .promoted context name) → P (b.noticed n) ∧ R b (b.noticed n))
    (hnoted : ∀ b d, P b → (∀ limit, d.issue ≠ .depthExceeded limit) → P (b.noted d) ∧ R b (b.noted d)) :
    (∀ merging target node, ∀ context, Leads P (mergeNode components context merging target node)
      fun b _ b' => R b b') ∧
    (∀ merging target nodes, ∀ context, Leads P (mergeNodes components context merging target nodes)
      fun b _ b' => R b b') := by
  apply mergeNode.mutual_induct
  case case1 =>
    intro merging target v context
    rw [mergeNode]
    exact fun b hb => hnoted b _ hb (by simp)
  case case2 =>
    intro merging target s ih context b hb
    rw [run_mergeNode_schema]
    exact ih context b hb
  case case3 =>
    intro merging target path h context
    rw [mergeNode_unresolved h]
    exact fun b hb => hnoted b _ hb (by simp)
  case case4 =>
    intro merging target path name definition h hm context
    rw [mergeNode_ref h, if_pos hm]
    exact fun b hb => hnoticed b _ hb (by simp)
  case case5 =>
    intro merging target path name definition h hm ih context
    rw [mergeNode_ref h, if_neg hm]
    exact ih context
  case case6 =>
    intro merging target context
    rw [mergeNodes]
    exact Leads.pure fun b _ => hidle b
  case case7 =>
    intro merging target node rest ih ihrest context b hb
    rw [run_mergeNodes_cons]
    obtain ⟨hmid, hnode⟩ := ih context b hb
    obtain ⟨hend, hrest⟩ := ihrest _ context _ hmid
    exact ⟨hend, htrans _ _ _ hnode hrest⟩

/-- what members merge into depends on neither the context nor the state -/
theorem merge_value (components : Keyed SchemaNode) :
    (∀ merging target node, ∀ c c' b b', ((mergeNode components c merging target node).run b).1 =
      ((mergeNode components c' merging target node).run b').1) ∧
    (∀ merging target nodes, ∀ c c' b b', ((mergeNodes components c merging target nodes).run b).1 =
      ((mergeNodes components c' merging target nodes).run b').1) := by
  apply mergeNode.mutual_induct
  case case1 => intro merging target v c c' b b'; rw [mergeNode, mergeNode]; rfl
  case case2 =>
    intro merging target s ih c c' b b'
    simp only [run_mergeNode_schema, ih c c' b b']
  case case3 =>
    intro merging target path h c c' b b'
    rw [mergeNode_unresolved h, mergeNode_unresolved h]; rfl
  case case4 =>
    intro merging target path name definition h hm c c' b b'
    rw [mergeNode_ref h, mergeNode_ref h, if_pos hm, if_pos hm]; rfl
  case case5 =>
    intro merging target path name definition h hm ih c c' b b'
    rw [mergeNode_ref h, mergeNode_ref h, if_neg hm, if_neg hm]
    exact ih c c' b b'
  case case6 => intro merging target c c' b b'; rw [mergeNodes, mergeNodes]; rfl
  case case7 =>
    intro merging target node rest ih ihrest c c' b b'
    simp only [run_mergeNodes_cons]
    rw [ih c c' b b']
    exact ihrest _ c c' _ _

theorem mergeNodes_value (context : String) (members : List SchemaNode) (b : Build) :
    ((mergeNodes components context [] {} members).run b).1 = Schema.ofMembers components members :=
  (merge_value components).2 _ _ _ _ _ _ _

end Merging

end ClientPlan
