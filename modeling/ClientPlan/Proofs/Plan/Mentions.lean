/-
What the types in planned files mention. The models of an API name only themselves, and only where they are roots of
entries, so every name that a type mentions is in the table; that holds for the payload of an envelope too, which is a
property of the body itself or of an entry that the body refers to.
-/
import ClientPlan.Proofs.Api.Integrity
import ClientPlan.Proofs.Descriptor.OfModel
import ClientPlan.Proofs.Plan.Types

namespace ClientPlan

theorem Tidy.owns_nothing {src : Source} {table : Table} {root : Model} (h : Tidy src table root) (name : String) :
    ¬ root.Owns name := by
  rintro ⟨m, hm, hname⟩
  rw [(h m hm).unnamed] at hname
  cases hname

theorem Tidy.inside {src : Source} {table : Table} {root m : Model} (h : Tidy src table root) (hm : m.Inside root) :
    Tidy src table m :=
  fun part hpart => h part (hpart.trans hm)

namespace Plan

variable {d : Document} {naming : Config.Naming} {limit : Nat}

section Tidy

variable {src : Source} {table t : Table}

/-- the type of a model without names inside it mentions names of the table only -/
theorem names_of_tidy {m : Model} (hm : Tidy src table m) (required : Bool) :
    ∀ n ∈ (m.descriptor t required).names, n ∈ Keyed.keys t := fun n hn =>
  (Model.mentions_descriptor.1 m required (Descriptor.mem_names.1 hn)).resolve_right (hm.owns_nothing n)

/-- the type of the root of an entry mentions names of the table only -/
theorem names_of_rooted {name : String} {m : Model} (hm : Rooted src table (some name) m) (hname : name ∈ Keyed.keys t)
    (required : Bool) : ∀ n ∈ (m.descriptor t required).names, n ∈ Keyed.keys t := by
  intro n hn
  rcases Model.mentions_descriptor.1 m required (Descriptor.mem_names.1 hn) with h | ⟨part, hpart, hname'⟩
  · exact h
  · rcases hpart.root_or_below with rfl | ⟨c, hc, hpart⟩
    · rw [hm.name] at hname'
      exact Option.some.inj hname' ▸ hname
    · exact absurd ⟨part, hpart, hname'⟩ ((hm.children c hc).owns_nothing n)

end Tidy

/-- **The types in the files of an API** mention names of the table only. -/
theorem TypeOf.names {ty : Descriptor} (h : TypeOf (Api.ofDocument d naming limit).1 ty) :
    ∀ n ∈ ty.names, n ∈ Keyed.keys (Api.ofDocument d naming limit).1.table := by
  rcases h with rfl | ⟨root, hroot, m, hm, required, rfl⟩
  · intro n hn
    rw [Descriptor.mem_names] at hn
    simp at hn
  · rcases List.mem_append.1 hroot with hentry | hop
    · obtain ⟨⟨name, root⟩, hmem, rfl⟩ := List.mem_map.1 hentry
      have hrooted := Api.entry_rooted hmem
      rcases hm.root_or_below with rfl | ⟨c, hc, hm⟩
      · exact names_of_rooted hrooted (List.mem_map.2 ⟨_, hmem, rfl⟩) required
      · exact names_of_tidy ((hrooted.children c hc).inside hm) required
    · exact names_of_tidy (((Api.final_sound d naming limit).2.2 root hop).inside hm) required

theorem modelFile_names {name path : String} {m : Model}
    (hm : Keyed.get? (Api.ofDocument d naming limit).1.table name = some m) :
    ∀ ty ∈ (modelFile (Api.ofDocument d naming limit).1.table name path m).descriptors, ∀ n ∈ ty.names,
      n ∈ Keyed.keys (Api.ofDocument d naming limit).1.table :=
  fun ty hty => (modelFile_types name path (entry_mem (Keyed.mem_of_get? hm)) ty hty).names

theorem methodOf_names {op : Api.Operation} (hop : op ∈ (Api.ofDocument d naming limit).1.operations)
    (rule : Config.Envelope) (i : Nat) (name : String) :
    ∀ ty ∈ (methodOf (Api.ofDocument d naming limit).1.table rule i name op).descriptors, ∀ n ∈ ty.names,
      n ∈ Keyed.keys (Api.ofDocument d naming limit).1.table :=
  fun ty hty => (methodOf_types (operation_models_mem hop) rule i name ty hty).names

end Plan

end ClientPlan
