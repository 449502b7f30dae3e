/-
The names of groups. A group is named by a tag, by an operation or by a segment of a path; its identifiers are made from
that name in any case, so its module name is a segment.
-/
import ClientPlan.Api.OfDocument
import ClientPlan.Proofs.Naming.Identifier

namespace ClientPlan

/-- the identifiers are those that are made from the name as it was given -/
def Name.IsMade (name : Name) : Prop :=
  name = Name.of name.written

theorem Name.isMade_of (s : String) : (Name.of s).IsMade :=
  rfl

theorem Name.IsMade.isSegment {name : Name} (h : name.IsMade) : IsSegment name.moduleName := by
  rw [h]
  exact memberName_isSegment _

namespace Api

variable {st : Setting} {b : Build}

theorem operation_name (path : String) (shared : List (OrRef Document.Parameter)) (method : Method)
    (op : Document.Operation) : ((st.operation path shared method op).run b).1.name.IsMade :=
  Name.isMade_of _

theorem pathOperations_names (path : String) (shared : List (OrRef Document.Parameter))
    (ops : List (Method × Document.Operation)) :
    ∀ op ∈ ((st.pathOperations path shared ops).run b).1, op.name.IsMade := by
  induction ops generalizing b with
  | nil => exact fun op hop => by cases hop
  | cons e ops ih =>
    obtain ⟨method, op⟩ := e
    intro o ho
    rcases List.mem_cons.1 ho with rfl | ho
    · exact operation_name path shared method op
    · exact ih o ho

theorem operations_names (items : List (String × Document.PathItem)) :
    ∀ op ∈ ((st.operations items).run b).1, op.name.IsMade := by
  induction items generalizing b with
  | nil => exact fun op hop => by cases hop
  | cons e items ih =>
    obtain ⟨path, item⟩ := e
    intro op hop
    rcases List.mem_append.1 hop with hop | hop
    · exact pathOperations_names path _ _ op hop
    · exact ih op hop

/-- the operations of an API have made names -/
theorem ofDocument_names (d : Document) (naming : Config.Naming) (limit : Nat) :
    ∀ op ∈ (ofDocument d naming limit).1.operations, op.name.IsMade :=
  operations_names d.paths

theorem groupsBy_names (keysOf : Operation → List String) (ops : List Operation) :
    ∀ g ∈ groupsBy keysOf ops, g.name.IsMade := by
  intro g hg
  obtain ⟨e, -, rfl⟩ := List.mem_map.1 hg
  exact Name.isMade_of _

theorem groupsBySelf_names {ops : List Operation} (hops : ∀ op ∈ ops, op.name.IsMade) (i : Nat) :
    ∀ g ∈ groupsBySelf i ops, g.name.IsMade := by
  induction ops generalizing i with
  | nil => exact fun g hg => by cases hg
  | cons op ops ih =>
    intro g hg
    rcases List.mem_cons.1 hg with rfl | hg
    · exact hops op List.mem_cons_self
    · exact ih (fun o ho => hops o (List.mem_cons_of_mem _ ho)) (i + 1) g hg

/-- **The groups of an API** have made names, however operations are grouped. -/
theorem groups_names (d : Document) (naming : Config.Naming) (limit : Nat) (split : Config.SplitBy) :
    ∀ g ∈ (ofDocument d naming limit).1.groups split, g.name.IsMade := by
  cases split with
  | tag => exact fun g hg => groupsBy_names _ _ g (List.mem_mergeSort.1 hg)
  | operation => exact groupsBySelf_names (ofDocument_names d naming limit) 0
  | route => exact groupsBy_names _ _

end Api

end ClientPlan
