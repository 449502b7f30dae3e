/-
Parameters of operations. An operation has the parameters of its path and its own ones, one for each name and location:
its last own one, or else the one of the path. That is so exactly if no two parameters of the path share name and
location; of such ones an own parameter takes the place of the first only, and the others stay
(`parameters_inherited_iff`).
-/
import Mathlib.Data.List.Nodup
import ClientPlan.Proofs.Api.Endpoints

namespace ClientPlan.Api

/-! ## Elements under their keys -/

section Places

variable {α κ : Type} [DecidableEq κ] (key : α → κ)

/-- the elements with a key, in order -/
def under (k : κ) (ps : List α) : List α :=
  ps.filter (key · = k)

theorem under_cons (k : κ) (p : α) (ps : List α) :
    under key k (p :: ps) = if key p = k then p :: under key k ps else under key k ps := by
  unfold under
  rw [List.filter_cons]
  simp only [decide_eq_true_eq]

theorem mem_keys_iff (k : κ) (ps : List α) : k ∈ ps.map key ↔ under key k ps ≠ [] := by
  simp [under, List.filter_eq_nil_iff]

theorem nodup_keys_iff (ps : List α) : (ps.map key).Nodup ↔ ∀ k, (under key k ps).length ≤ 1 := by
  rw [List.nodup_iff_count_le_one]
  refine forall_congr' fun k => ?_
  rw [List.count, List.countP_map, List.countP_eq_length_filter, under]
  simp [Function.comp_def, beq_eq_decide]

/-- an element is put in the place of the first one with its key -/
theorem under_put (k : κ) (ps : List α) (p : α) :
    under key k (put key ps p) = if key p = k then p :: (under key k ps).tail else under key k ps := by
  induction ps with
  | nil => exact under_cons key k p []
  | cons q qs ih =>
    rw [put]
    by_cases hq : key q = key p
    · rw [if_pos hq, under_cons, under_cons, hq]
      split_ifs <;> rfl
    · rw [if_neg hq, under_cons, under_cons, ih]
      split_ifs with hqk hpk
      · exact absurd (hqk.trans hpk.symm) hq
      · rfl
      · rfl
      · rfl

/-- **Elements put in one after the other.** Under a key that one of them has stands the last of these, and after it
what stood there but the first; under any other key nothing changes. -/
theorem under_foldl_put (k : κ) (ps own : List α) :
    under key k (own.foldl (put key) ps) =
      match (under key k own).getLast? with
      | some p => p :: (under key k ps).tail
      | none => under key k ps := by
  induction own generalizing ps with
  | nil => rfl
  | cons q own ih =>
    rw [List.foldl_cons, ih, under_put, under_cons]
    split_ifs with hq
    · rw [List.getLast?_cons]
      cases (under key k own).getLast? <;> rfl
    · rfl

variable {key} {ps own : List α} {k : κ}

theorem under_foldl_put_of_last {p : α} (h : (under key k own).getLast? = some p) :
    under key k (own.foldl (put key) ps) = p :: (under key k ps).tail := by
  rw [under_foldl_put, h]

theorem under_foldl_put_of_notMem (h : k ∉ own.map key) : under key k (own.foldl (put key) ps) = under key k ps := by
  rw [mem_keys_iff, not_not] at h
  rw [under_foldl_put, h]
  rfl

theorem mem_keys_foldl_put : k ∈ (own.foldl (put key) ps).map key ↔ k ∈ ps.map key ∨ k ∈ own.map key := by
  by_cases hown : k ∈ own.map key
  · obtain ⟨p, hlast⟩ := Option.isSome_iff_exists.1 (List.getLast?_isSome.2 ((mem_keys_iff key k own).1 hown))
    rw [mem_keys_iff, under_foldl_put_of_last hlast]
    simp [hown]
  · rw [mem_keys_iff, under_foldl_put_of_notMem hown, ← mem_keys_iff]
    simp [hown]

/-- putting elements in makes no two of one key, and parts no two of one key -/
theorem nodup_keys_foldl_put : ((own.foldl (put key) ps).map key).Nodup ↔ (ps.map key).Nodup := by
  rw [nodup_keys_iff, nodup_keys_iff]
  refine forall_congr' fun k => ?_
  rw [under_foldl_put]
  cases (under key k own).getLast? with
  | none => rfl
  | some p =>
    simp only [List.length_cons, List.length_tail]
    omega

end Places

/-! ## Parameters of a path and of an operation -/

/-- name and location of a parameter, in the document -/
def declaredKey (p : Document.Parameter) : String × Location :=
  (p.name, p.location)

/-- what an operation has of the parameters of its path and of its own ones: one for each name and location, and an own
one where there is any -/
structure Inherits (inherited own parameters : List Parameter) : Prop where
  apart : (parameters.map Parameter.key).Nodup
  keys : ∀ k, k ∈ parameters.map Parameter.key ↔ k ∈ inherited.map Parameter.key ∨ k ∈ own.map Parameter.key
  own : ∀ k p, (under Parameter.key k own).getLast? = some p → under Parameter.key k parameters = [p]

namespace Setting

variable (st : Setting)

/-- a parameter was built from one of the document, in the context of an operation -/
def GivesParameter (operation : String) (q : Document.Parameter) (p : Parameter) : Prop :=
  ∃ b, p = ⟨Name.of q.name, q.location, ((st.modelOr (operation ++ pascalCase q.name) q.schema).run b).1,
    q.required || q.location == .path, q.description⟩

variable {st} {operation : String}

theorem GivesParameter.key {q : Document.Parameter} {p : Parameter} (h : st.GivesParameter operation q p) :
    declaredKey q = p.key := by
  obtain ⟨b, rfl⟩ := h
  rfl

/-- the parameters that can be followed are built, one by one -/
theorem parameters_given (items : List (OrRef Document.Parameter)) (b : Build) :
    List.Forall₂ (st.GivesParameter operation) (st.followed items) ((st.parameters operation items).run b).1 := by
  induction items generalizing b with
  | nil => exact .nil
  | cons item items ih =>
    rw [followed, List.filterMap_cons]
    unfold Setting.parameters
    cases hitem : st.components.parameter? item with
    | none =>
      exact ih _
    | some q =>
      exact .cons ⟨b, rfl⟩ (ih _)

theorem keys_given {qs : List Document.Parameter} {ps : List Parameter}
    (h : List.Forall₂ (st.GivesParameter operation) qs ps) : qs.map declaredKey = ps.map Parameter.key := by
  induction h with
  | nil => rfl
  | cons hgives _ ih => exact congrArg₂ List.cons hgives.key ih

/-- an operation is built with the parameters of its path, and its own ones are put in after them -/
theorem Builds.parameters {e : Document.Endpoint} {op : Operation} (h : st.Builds e op) :
    ∃ inherited own,
      List.Forall₂ (st.GivesParameter (st.context e.path e.method e.operation)) (st.followed e.shared) inherited ∧
        List.Forall₂ (st.GivesParameter (st.context e.path e.method e.operation))
          (st.followed e.operation.parameters) own ∧
        op.parameters = own.foldl override inherited := by
  obtain ⟨b, rfl⟩ := h
  exact ⟨_, _, parameters_given _ _, parameters_given _ _, rfl⟩

end Setting

/-- parameters are inherited exactly if those of the path have names and locations of their own -/
theorem inherits_iff (inherited own : List Parameter) :
    Inherits inherited own (own.foldl (put Parameter.key) inherited) ↔ (inherited.map Parameter.key).Nodup := by
  constructor
  · exact fun h => nodup_keys_foldl_put.1 h.apart
  · intro hnodup
    refine ⟨nodup_keys_foldl_put.2 hnodup, fun k => mem_keys_foldl_put, fun k p hlast => ?_⟩
    have hlength := (nodup_keys_iff Parameter.key inherited).1 hnodup k
    have htail : (under Parameter.key k inherited).tail = [] := by
      rw [← List.length_eq_zero_iff, List.length_tail]
      omega
    rw [under_foldl_put_of_last hlast, htail]

/-- **Inherited parameters.** An operation is built from the parameters of its path and its own ones that can be
followed, and has their names and locations and no others. Where an operation has own parameters, the last of them
stands first, and after it those of the path but the first. So it has one parameter for each name and location, its own
where there is any, exactly if no two parameters of the path share name and location. -/
theorem parameters_inherited_iff (d : Document) (naming : Config.Naming) (limit : Nat) :
    let st := setting d naming limit
    List.Forall₂ (fun (e : Document.Endpoint) (op : Operation) => ∃ inherited own,
        List.Forall₂ (st.GivesParameter (st.context e.path e.method e.operation)) (st.followed e.shared) inherited ∧
          List.Forall₂ (st.GivesParameter (st.context e.path e.method e.operation))
            (st.followed e.operation.parameters) own ∧
          (∀ k, k ∈ op.parameters.map Parameter.key ↔
            k ∈ (st.followed e.shared).map declaredKey ∨ k ∈ (st.followed e.operation.parameters).map declaredKey) ∧
          (∀ k p, (under Parameter.key k own).getLast? = some p →
            under Parameter.key k op.parameters = p :: (under Parameter.key k inherited).tail) ∧
          (Inherits inherited own op.parameters ↔ ((st.followed e.shared).map declaredKey).Nodup))
      d.endpoints (ofDocument d naming limit).1.operations := by
  intro st
  refine (ofDocument_built d naming limit).imp fun e op h => ?_
  obtain ⟨inherited, own, hinherited, hown, hparameters⟩ := h.parameters
  rw [override_eq] at hparameters
  refine ⟨inherited, own, hinherited, hown, fun k => ?_, fun k p hlast => ?_, ?_⟩
  · rw [hparameters, Setting.keys_given hinherited, Setting.keys_given hown]
    exact mem_keys_foldl_put
  · rw [hparameters]
    exact under_foldl_put_of_last hlast
  · rw [hparameters, Setting.keys_given hinherited]
    exact inherits_iff inherited own

/-! ## A limit that a path has twice -/

/-- a limit, as a number of a kind -/
def limitParameter (type : TypeName) : OrRef Document.Parameter :=
  .inline { name := "limit", location := .query, schema := some (.schema { types := some (.one type) }) }

/-- a path that declares a limit twice, and an operation that declares it once more -/
def limitDocument : Document where
  paths := [("/pets", {
    parameters := [limitParameter .string, limitParameter .boolean]
    get := some { operationId := some "listPets", parameters := [limitParameter .integer] } })]

/-- the own limit takes the place of the first one of the path, and the second one stays -/
theorem second_limit_stays :
    let operations := (ofDocument limitDocument {} 100).1.operations
    operations.map (fun op => op.parameters.map fun p => (p.key, p.model)) =
        [[(("limit", .query), .scalar .integer), (("limit", .query), .scalar .boolean)]] ∧
      ¬ ∀ op ∈ operations, (op.parameters.map Parameter.key).Nodup := by
  intro operations
  have hparameters : operations.map (fun op => op.parameters.map fun p => (p.key, p.model)) =
      [[(("limit", .query), .scalar .integer), (("limit", .query), .scalar .boolean)]] := rfl
  refine ⟨hparameters, fun h => ?_⟩
  obtain ⟨op, hop, hkeys⟩ := List.map_eq_singleton_iff.1 hparameters
  have hnodup := h op (hop ▸ List.mem_singleton_self op)
  have hboth := congrArg (List.map Prod.fst) hkeys
  rw [List.map_map] at hboth
  have hsame : op.parameters.map Parameter.key = [("limit", .query), ("limit", .query)] := hboth
  rw [hsame] at hnodup
  exact absurd hnodup (by decide)

end ClientPlan.Api
