/-
Null in the types of a plan. Where no schema of a document hides null among the members of a choice, null is a member
of no union in the plan (`types_unmixed`), as the members of type null were left out and made the choice optional. A
list of types with null as its only entry is not seen as such a member, so it does become a member of a union
(`note_mixed`).
-/
import ClientPlan.Plan.OfDocument
import ClientPlan.Proofs.Api.Forms
import ClientPlan.Proofs.Model.Nulls
import ClientPlan.Proofs.Plan.Types

namespace ClientPlan.Plan

/-- **Null is not mixed with other types.** If no choice in a document hides null, then no union in a type of its plan,
at any depth, has null among its members. A member of type null alone makes the type of a choice optional, if that is
not null altogether. -/
theorem types_unmixed (d : Document) (config : Config) (h : ∀ n, d.Describes n → ¬ n.HidesNull) :
    (∀ ty ∈ (Plan.ofDocument d config).descriptors, ty.Unmixed) ∧
    ∀ (r : Reach) (s : Schema SchemaNode), s.Chooses → (∃ n ∈ s.alternatives, n.isNullType = true) →
      ∀ (context : String) (b : Build) (t : Table) (required : Bool),
        let ty := ((r.node context (.schema s)).run b).1.descriptor t required
        ty = .leaf .null ∨ ty.isOptional = true := by
  refine ⟨fun ty hty => ?_, fun r s hs hnull context b t required => ?_⟩
  · have hkept := (unmixedLaw h).kept_ofDocument config.naming config.parser.maxDepth
    rcases descriptors_ofApi ty hty with rfl | ⟨root, hroot, m, hm, required, rfl⟩
    · exact Descriptor.unmixed_leaf .null
    · have hunmixed : m.Unmixed := fun v hv => hkept root hroot v (hv.trans hm)
      exact ((Model.unmixed_descriptor _).1 m required hunmixed).2
  · exact Model.optional_of_nullable (nullable_of_null_member hs hnull context b) t required

/-! ## A note, which may be missing -/

/-- a schema that says nothing but types -/
def plainSchema (types : TypeSet) : SchemaNode :=
  .schema { types := some types }

/-- a schema of notes: texts, numbers, or what is listed as null -/
def noteSchema (null : TypeSet) : SchemaNode :=
  .schema { oneOf := [.one .string, .one .integer, null].map plainSchema }

/-- a document with notes -/
def noteDocument (null : TypeSet) : Document where
  components := some { schemas := [("Note", noteSchema null)] }

def noteSource (null : TypeSet) : Source :=
  Api.source (noteDocument null) {} 100

/-- the model of notes -/
def noteModel (variants : List Model) (nullable : Bool) : Model :=
  { Model.of (.union variants [] none) with name := some "Note", nullable }

/-- the nodes of the document: that schema, and its members -/
theorem noteDocument_describes {null : TypeSet} {n : SchemaNode} (h : (noteDocument null).Describes n) :
    n = noteSchema null ∨ ∃ types, n = plainSchema types := by
  obtain ⟨root, hroot, hn⟩ := h
  obtain rfl : root = noteSchema null := List.mem_singleton.1 hroot
  rcases Relation.ReflTransGen.cases_head hn with rfl | ⟨member, hmember, hn⟩
  · exact Or.inl rfl
  · have hmembers : member ∈ [.one .string, .one .integer, null].map plainSchema := hmember
    obtain ⟨types, -, rfl⟩ := List.mem_map.1 hmembers
    rcases Relation.ReflTransGen.cases_head hn with rfl | ⟨part, hpart, -⟩
    · exact Or.inr ⟨types, rfl⟩
    · cases hpart

theorem onlyNull_of_types {types : TypeSet} (h : (plainSchema types).OnlyNull) : types.nonNull = [] := by
  cases h with
  | literals h =>
    cases h with
    | constant h => cases h
    | literals _ hsome => exact absurd rfl hsome
  | typed h =>
    obtain ⟨ts, hts, hnone⟩ := h.types
    cases hts
    exact hnone
  | lone _ hone => cases hone
  | choice h => exact absurd rfl h.some

theorem noteDocument_types {null : TypeSet} {variants : List Model} {nullable : Bool}
    (hrun : ((noteSource null).component [] "Note").run (noteSource null).start =
      (true, (noteSource null).start.entered "Note" (noteModel variants nullable))) :
    (Plan.ofDocument (noteDocument null) {}).descriptors =
      [(noteModel variants nullable).descriptor [("Note", noteModel variants nullable)] true] := by
  have hfinal : Api.final (noteDocument null) {} 100 = (((noteSource null).component [] "Note").run
    (noteSource null).start).2 := rfl
  have hapi : (noteDocument null).api {} = (Api.ofDocument (noteDocument null) {} 100).1 := rfl
  rw [Plan.ofDocument, hapi, Api.ofDocument_of_paths_nil rfl, hfinal, hrun]
  rfl

/-- null by itself makes notes optional -/
theorem types_unmixed_note :
    (∀ n, (noteDocument (.one .null)).Describes n → ¬ n.HidesNull) ∧
      (Plan.ofDocument (noteDocument (.one .null)) {}).descriptors =
        [.optional (.union [.leaf .string, .leaf .integer])] ∧
      ∀ ty ∈ (Plan.ofDocument (noteDocument (.one .null)) {}).descriptors, ty.Unmixed := by
  have hhides : ∀ n, (noteDocument (.one .null)).Describes n → ¬ n.HidesNull := by
    rintro n hn ⟨s, rfl, hchooses, -, m, hm, honly⟩
    rcases noteDocument_describes hn with hs | ⟨types, hs⟩
    · cases hs
      have hmembers : m ∈ [.one .string, .one .integer].map plainSchema := hm
      obtain ⟨types, htypes, rfl⟩ := List.mem_map.1 hmembers
      have hsome : ∀ types ∈ [TypeSet.one .string, .one .integer], types.nonNull ≠ [] := by decide
      exact hsome types htypes (onlyNull_of_types honly)
    · cases hs
      exact hchooses.some rfl
  have hrun : ((noteSource (.one .null)).component [] "Note").run (noteSource (.one .null)).start =
      (true, (noteSource (.one .null)).start.entered "Note" (noteModel [.scalar .string, .scalar .integer] true)) := by
    rw [Source.run_component List.not_mem_nil]
    rfl
  exact ⟨hhides, (noteDocument_types hrun).trans rfl, (types_unmixed _ {} hhides).1⟩

/-- null in a list of its own is taken for another member -/
theorem note_mixed :
    (Plan.ofDocument (noteDocument (.several [.null])) {}).descriptors =
        [.union [.leaf .string, .leaf .integer, .leaf .null]] ∧
      ¬ ∀ ty ∈ (Plan.ofDocument (noteDocument (.several [.null])) {}).descriptors, ty.Unmixed := by
  have hrun : ((noteSource (.several [.null])).component [] "Note").run (noteSource (.several [.null])).start =
      (true, (noteSource (.several [.null])).start.entered "Note"
        (noteModel [.scalar .string, .scalar .integer, { Model.scalar .null with nullable := true }] false)) := by
    rw [Source.run_component List.not_mem_nil]
    rfl
  have hunion : (Plan.ofDocument (noteDocument (.several [.null])) {}).descriptors =
      [.union [.leaf .string, .leaf .integer, .leaf .null]] := (noteDocument_types hrun).trans rfl
  refine ⟨hunion, fun h => ?_⟩
  rw [hunion, List.forall_mem_singleton, Descriptor.unmixed_union] at h
  exact h.1 (by decide)

end ClientPlan.Plan
