/-
Parameters that take the place of others. An operation is built with the parameters of its path and then with its own
ones; an own parameter takes the place of an earlier one with the same name and location. Nothing else gets lost: the
parameters that stay and those whose places others took are those that were built (`displaced_perm`). Which ones these
are depends on names and locations alone (`displaced_related`).
-/
import Mathlib.Data.List.Forall2
import Mathlib.Tactic.SplitIfs
import ClientPlan.Api.OfDocument

namespace ClientPlan.Api

/-! ## Lists in which elements take places by their keys -/

section Places

variable {α β κ : Type} [DecidableEq κ] (key : α → κ) (key' : β → κ)

/-- an element takes the place of the first one with its key, or else the last place -/
def put (ps : List α) (p : α) : List α :=
  match ps with
  | [] => [p]
  | q :: qs => if key q = key p then p :: qs else q :: put qs p

/-- the element whose place `p` takes -/
def ousted (ps : List α) (p : α) : List α :=
  match ps with
  | [] => []
  | q :: qs => if key q = key p then [q] else ousted qs p

/-- the elements whose places others take when the elements of `own` are put in one after the other -/
def displaced (ps : List α) : List α → List α
  | [] => []
  | p :: own => ousted key ps p ++ displaced (put key ps p) own

theorem ousted_perm (ps : List α) (p : α) : (put key ps p ++ ousted key ps p).Perm (ps ++ [p]) := by
  induction ps with
  | nil => exact .refl _
  | cons q qs ih =>
    rw [put, ousted]
    split_ifs
    · calc (p :: (qs ++ [q])).Perm (p :: q :: qs) := (List.perm_append_singleton q qs).cons p
        _ |>.Perm (q :: p :: qs) := .swap q p qs
        _ |>.Perm (q :: (qs ++ [p])) := (List.perm_append_singleton p qs).symm.cons q
    · exact ih.cons q

/-- **No element gets lost**: those that stay and those that are displaced are all there were. -/
theorem displaced_perm (ps own : List α) :
    (own.foldl (put key) ps ++ displaced key ps own).Perm (ps ++ own) := by
  induction own generalizing ps with
  | nil => exact .refl _
  | cons p own ih =>
    rw [List.foldl_cons, displaced]
    refine (List.perm_append_comm_assoc _ _ _).trans (((ih _).append_left _).trans ?_)
    rw [← List.append_assoc]
    refine (List.perm_append_comm.append_right own).trans (((ousted_perm key ps p).append_right own).trans ?_)
    rw [List.append_assoc]
    exact .refl _

variable {key key'} {R : α → β → Prop}

theorem put_related (hkeys : ∀ a b, R a b → key' b = key a) {ps : List α} {qs : List β}
    (h : List.Forall₂ R ps qs) {p : α} {q : β} (hpq : R p q) :
    List.Forall₂ R (put key ps p) (put key' qs q) := by
  induction h with
  | nil => exact .cons hpq .nil
  | cons hab hrest ih =>
    rw [put, put, hkeys _ _ hab, hkeys _ _ hpq]
    split_ifs
    · exact .cons hpq hrest
    · exact .cons hab ih

theorem ousted_related (hkeys : ∀ a b, R a b → key' b = key a) {ps : List α} {qs : List β}
    (h : List.Forall₂ R ps qs) {p : α} {q : β} (hpq : R p q) :
    List.Forall₂ R (ousted key ps p) (ousted key' qs q) := by
  induction h with
  | nil => exact .nil
  | cons hab hrest ih =>
    rw [ousted, ousted, hkeys _ _ hab, hkeys _ _ hpq]
    split_ifs
    · exact .cons hab .nil
    · exact ih

/-- what is displaced depends on the keys only -/
theorem displaced_related (hkeys : ∀ a b, R a b → key' b = key a) {ps own : List α} {qs own' : List β}
    (h : List.Forall₂ R ps qs) (hown : List.Forall₂ R own own') :
    List.Forall₂ R (displaced key ps own) (displaced key' qs own') := by
  induction hown generalizing ps qs with
  | nil => exact .nil
  | cons hpq _ ih => exact List.rel_append (R := R) (ousted_related hkeys h hpq) (ih (put_related hkeys h hpq))

end Places

/-! ## Parameters -/

/-- name and location of a parameter, as the document has them -/
def Parameter.key (p : Parameter) : String × Location :=
  (p.written, p.location)

theorem override_eq : Setting.override = put Parameter.key := by
  funext ps p
  induction ps with
  | nil => rfl
  | cons q qs ih =>
    rw [Setting.override, put, ih]
    simp only [Parameter.key, Prod.mk.injEq]

/-- the parameters of an operation and those that were displaced are all that were built -/
theorem foldl_override_perm (inherited own : List Parameter) :
    (own.foldl Setting.override inherited ++ displaced Parameter.key inherited own).Perm (inherited ++ own) := by
  rw [override_eq]
  exact displaced_perm Parameter.key inherited own

namespace Setting

variable (st : Setting)

/-- the context of the schemas of an operation -/
def context (path : String) (method : Method) (op : Document.Operation) : String :=
  (st.operationName (op.operationId.getD (routeName method.name path)) (routeName method.name path)).typeName

/-- what building an operation does, part by part -/
theorem run_operation (path : String) (shared : List (OrRef Document.Parameter)) (method : Method)
    (op : Document.Operation) (b : Build) :
    let route := routeName method.name path
    let operationId := op.operationId.getD route
    let context := st.context path method op
    let inherited := (st.parameters context shared).run b
    let own := (st.parameters context op.parameters).run inherited.2
    let body := (st.body? context op.requestBody).run own.2
    let responses := (st.responses context (successIndex? op.responses.keys) 0 op.responses).run body.2
    (st.operation path shared method op).run b =
      ({ operationId, method, path
         name := st.operationName operationId route
         summary := op.summary
         description := op.description
         tags := op.tags
         parameters := own.1.foldl override inherited.1
         body := body.1
         responses := responses.1
         deprecated := op.deprecated.getD false }, responses.2) :=
  rfl

/-- the parameters that items stand for -/
def followed (items : List (OrRef Document.Parameter)) : List Document.Parameter :=
  items.filterMap st.components.parameter?

/-- the parameters of an operation whose places others take -/
def overridden (shared own : List (OrRef Document.Parameter)) : List Document.Parameter :=
  displaced (fun p => (p.name, p.location)) (st.followed shared) (st.followed own)

/-- the schemas of these parameters, where they have any, with their contexts -/
def overriddenSchemas (path : String) (shared : List (OrRef Document.Parameter)) (method : Method)
    (op : Document.Operation) : List (String × Option SchemaNode) :=
  (st.overridden shared op.parameters).map fun p => (st.context path method op ++ pascalCase p.name, p.schema)

/-- the same for all operations of all paths -/
def allOverriddenSchemas (items : List (String × Document.PathItem)) : List (String × Option SchemaNode) :=
  items.flatMap fun (path, item) => item.operations.flatMap fun (method, op) =>
    st.overriddenSchemas path item.parameters method op

end Setting

end ClientPlan.Api
