/-
The operations of an API. There is one for each operation that stands in a document, path by path in the order in
which they are taken, and it is built from that one in some state (`operations_built`).
-/
import ClientPlan.Proofs.Api.Override

namespace ClientPlan

namespace Document

/-- an operation where it stands in a document: below a path, with the parameters of that path, for a method -/
structure Endpoint where
  path : String
  shared : List (OrRef Parameter)
  method : Method
  operation : Operation

/-- the operations below a path -/
def PathItem.endpoints (path : String) (item : PathItem) : List Endpoint :=
  item.operations.map fun (method, op) => ⟨path, item.parameters, method, op⟩

/-- the operations of a document in the order in which they are taken -/
def endpoints (d : Document) : List Endpoint :=
  d.paths.flatMap fun (path, item) => item.endpoints path

end Document

namespace Api

namespace Setting

variable (st : Setting)

/-- an operation of an API was built from one of the document -/
def Builds (e : Document.Endpoint) (op : Operation) : Prop :=
  ∃ b, ((st.operation e.path e.shared e.method e.operation).run b).1 = op

variable {st}

theorem pathOperations_built (path : String) (shared : List (OrRef Document.Parameter))
    (ops : List (Method × Document.Operation)) (b : Build) :
    List.Forall₂ st.Builds (ops.map fun (method, op) => ⟨path, shared, method, op⟩)
      ((st.pathOperations path shared ops).run b).1 := by
  induction ops generalizing b with
  | nil => exact .nil
  | cons op ops ih => exact .cons ⟨b, rfl⟩ (ih _)

theorem operations_built (items : List (String × Document.PathItem)) (b : Build) :
    List.Forall₂ st.Builds (items.flatMap fun (path, item) => item.endpoints path) ((st.operations items).run b).1 := by
  induction items generalizing b with
  | nil => exact .nil
  | cons item items ih =>
    exact List.rel_append (R := st.Builds) (pathOperations_built item.1 item.2.parameters item.2.operations b) (ih _)

end Setting

/-- **The operations of an API** are built from those of the document, one by one. -/
theorem ofDocument_built (d : Document) (naming : Config.Naming) (limit : Nat) :
    List.Forall₂ (setting d naming limit).Builds d.endpoints (ofDocument d naming limit).1.operations :=
  Setting.operations_built d.paths _

end Api

end ClientPlan
