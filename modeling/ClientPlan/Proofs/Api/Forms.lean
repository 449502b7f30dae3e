/-
What every model of an API is like. A law of forms that holds in the part of a document where models come from
(`Document.Describes`) holds of all entries of the finished table and of all models of operations.
-/
import ClientPlan.Proofs.Api.Integrity
import ClientPlan.Proofs.Model.Forms

namespace ClientPlan

namespace Document

/-- the schemas that models of an API are built for: components, and what its operations ask for -/
def schemas (d : Document) : List SchemaNode :=
  (Components.orEmpty d.components).schemas.map (·.2) ++ (Components.orEmpty d.components).pathSchemas d.paths

/-- a node is written in one of these schemas, at any depth -/
def Describes (d : Document) (n : SchemaNode) : Prop :=
  ∃ root ∈ d.schemas, root.Written n

theorem region_describes (d : Document) : SchemaNode.Region (Components.orEmpty d.components).schemas d.Describes where
  component h := ⟨_, List.mem_append_left _ (List.mem_map_of_mem (Keyed.mem_of_get? h)), .refl⟩
  part := fun ⟨root, hroot, hn⟩ hm => ⟨root, hroot, hn.tail hm⟩

end Document

namespace FormLaw

variable {S : SchemaNode → Prop}

/-- a law of forms as a law of operations -/
def apiLaw (L : FormLaw S) {src : Source} (hS : SchemaNode.Region src.components S) : ApiLaw src where
  Inv := L.Inv
  Built _ ms _ := ∀ m ∈ ms, L.Kept m
  Sketch _ _ _ := True
  Asked := S
  idle := List.forall_mem_nil _
  append h h' := List.forall_mem_append.2 ⟨h, h'⟩
  noted h _ := ⟨h, List.forall_mem_nil _⟩
  nested context _ hn := (nested_leads hS context hn).mono fun _ _ _ h =>
    ⟨List.forall_mem_singleton.2 (L.kept h), trivial⟩
  absent _ _ := ⟨List.forall_mem_singleton.2 (L.kept (L.placeholder (.malformed .null))), trivial⟩

/-- **All models of an API obey a law** that holds in its document. -/
theorem kept_ofDocument {d : Document} (L : FormLaw d.Describes) (naming : Config.Naming) (limit : Nat) :
    ∀ m ∈ (Api.ofDocument d naming limit).1.models, L.Kept m := by
  let st := Api.setting d naming limit
  have hS : SchemaNode.Region st.source.components d.Describes := d.region_describes
  have hpaths : ∀ n ∈ st.components.pathSchemas d.paths, d.Describes n := fun n hn =>
    ⟨n, List.mem_append_right _ hn, .refl⟩
  have hstart : L.Inv st.source.start := fun e he => by cases he
  obtain ⟨hmid, -⟩ := parseComponents_leads hS st.source.start hstart
  obtain ⟨hend, all, lost, hall, hperm, -⟩ := (L.apiLaw hS).operations_leads d.paths hpaths _ hmid
  refine List.forall_mem_append.2 ⟨fun m hm => ?_, fun m hm => hall m (hperm.subset (List.mem_append_left _ hm))⟩
  obtain ⟨e, he, rfl⟩ := List.mem_map.1 hm
  have hdistinct := (Api.final_sound d naming limit).1.orderly.distinct
  rw [Api.table_ofDocument, Source.mem_finish hdistinct] at he
  exact hend e he

end FormLaw

end ClientPlan
