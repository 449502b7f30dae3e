/-
The models of an API hang together. Every reference leads to an entry of the table (`references_resolve`); only the
roots of entries are named, by their keys, and nothing else is promotable, so that no fields or literals stand where
no entry has them (`promotion_complete`).

Neither holds while the API is built: references are made before the models that they lead to, and at the limit of
depth they are not followed at all. They become true at the end because all components are asked for first.
-/
import ClientPlan.Proofs.Api.Walk
import ClientPlan.Proofs.Model.Sound

namespace ClientPlan.Api

variable (d : Document) (naming : Config.Naming) (limit : Nat)

/-- the components that an API is built from -/
def source : Source :=
  (setting d naming limit).source

/-- the state at the end of building an API -/
def final : Build :=
  ((building d (setting d naming limit)).run (source d naming limit).start).2

theorem table_ofDocument :
    (ofDocument d naming limit).1.table = (source d naming limit).finish (final d naming limit) :=
  rfl

/-- building ends in a sound state, with all components in the table and only finished models in the operations -/
theorem final_sound :
    Sound (source d naming limit) [] (final d naming limit) ∧
      (source d naming limit).components.keys ⊆ (final d naming limit).keys ∧
      ∀ m ∈ (ofDocument d naming limit).1.operations.flatMap Operation.models,
        Tidy (source d naming limit) (final d naming limit).table m := by
  let L := soundLaw (source d naming limit)
  have hstart := Sound.start (source d naming limit)
  obtain ⟨hmid, -⟩ := L.parseComponents_leads _ hstart
  obtain ⟨hend, ms, ⟨_, hgrow, hms⟩, hsub⟩ := @WalkLaw.operations_leads (setting d naming limit) L d.paths _ hmid
  exact ⟨hend, fun c hc => hgrow.keys (Source.parseComponents_enters hstart hc), fun m hm => hms m (hsub hm)⟩

variable {d naming limit}

/-- the API is put together from what the components and then the operations end with -/
theorem ofDocument_of_run {operations : List Operation} {built b : Build}
    (hcomponents : ((source d naming limit).parseComponents.run (source d naming limit).start).2 = built)
    (hoperations : ((setting d naming limit).operations d.paths).run built = (operations, b)) :
    (ofDocument d naming limit).1 =
      { info := d.info
        servers := d.servers
        table := (source d naming limit).finish b
        operations := operations
        modules := groupsByTag operations
        diagnostics := b.diagnostics } := by
  have hrun : (building d (setting d naming limit)).run (setting d naming limit).source.start = (operations, b) := by
    rw [← hoperations, ← hcomponents]
    rfl
  rw [ofDocument, hrun]
  rfl

/-- a document without paths is built from its components alone -/
theorem ofDocument_of_paths_nil (h : d.paths = []) :
    (ofDocument d naming limit).1 =
      { info := d.info
        servers := d.servers
        table := (source d naming limit).finish (final d naming limit)
        operations := []
        modules := []
        diagnostics := (final d naming limit).diagnostics } := by
  have hoperations : ∀ built, ((setting d naming limit).operations d.paths).run built = ([], built) := by
    intro built
    rw [h]
    rfl
  have hfinal : ((source d naming limit).parseComponents.run (source d naming limit).start).2 =
      final d naming limit := (congrArg Prod.snd (hoperations _)).symm
  rw [ofDocument_of_run hfinal (hoperations _), groupsByTag, groupsBy, collect, List.map_nil, List.mergeSort_nil]

/-- the entries of the finished table are sound -/
theorem entry_rooted {name : String} {m : Model} (h : (name, m) ∈ (ofDocument d naming limit).1.table) :
    Rooted (source d naming limit) (final d naming limit).table (some name) m := by
  have hsound := (final_sound d naming limit).1
  rw [table_ofDocument, Source.mem_finish hsound.orderly.distinct] at h
  exact hsound.entries _ h

/-- a reference leads to a component, or to a promoted entry whose nullability it has -/
theorem target_spec {root m : Model} (hroot : root ∈ (ofDocument d naming limit).1.models) (hm : m.Inside root)
    {t : String} (ht : m.target? = some t) :
    t ∈ (source d naming limit).components.keys ∨
      ∃ e, Keyed.get? (final d naming limit).table t = some e ∧ e.isPromotable = true ∧ e.nullable = m.nullable := by
  rcases List.mem_append.1 hroot with h | h
  · obtain ⟨⟨name, root'⟩, hentry, rfl⟩ := List.mem_map.1 h
    have hrooted := entry_rooted hentry
    rcases hm.root_or_below with rfl | ⟨c, hc, hm⟩
    · exact Or.inl (hrooted.target t ht)
    · exact (hrooted.children c hc m hm).target t ht
  · exact ((final_sound d naming limit).2.2 root h m hm).target t ht

variable (d naming limit)

/-- **References resolve.** Every reference in an API, at any depth of an entry of the table or of a model of an
operation, names an entry of the table. -/
theorem references_resolve :
    ∀ root ∈ (ofDocument d naming limit).1.models, ∀ m : Model, m.Inside root →
      ∀ t, m.target? = some t → t ∈ Keyed.keys (ofDocument d naming limit).1.table := by
  intro root hroot m hm t ht
  obtain ⟨hsound, hcomponents, -⟩ := final_sound d naming limit
  rw [table_ofDocument, Source.mem_keys_finish hsound.orderly.distinct]
  rcases target_spec hroot hm ht with h | ⟨e, he, -⟩
  · exact hcomponents h
  · exact Keyed.mem_keys_of_get? he

/-- a document with one component, which stands for itself -/
def aliasDocument : Document where
  components := some { schemas := [("Self", .ref "#/components/schemas/Self")] }

/-- the entry of that component -/
def aliasModel : Model :=
  { Model.reference "Self" with name := some "Self" }

theorem aliasDocument_table : (ofDocument aliasDocument {} 100).1.table = [("Self", aliasModel)] := by
  let src := source aliasDocument {} 100
  have hname : (schemaName? "#/components/schemas/Self").filter (Keyed.has src.components) = some "Self" := rfl
  have hroot : ∀ c b, (src.root ["Self"] c (.ref "#/components/schemas/Self")).run b =
      (Model.reference "Self", b.noticed (.forwardReference c "Self")) := fun c b => by
    rw [Source.run_root_ref hname, if_pos List.mem_cons_self]
  have hrun : (src.component [] "Self").run src.start =
      (true, (src.start.noticed (.forwardReference (typeName "Self") "Self")).entered "Self" (.reference "Self")) := by
    rw [Source.run_component List.not_mem_nil]
    change (true, ((src.root ["Self"] (typeName "Self") _).run src.start).2.entered "Self"
      ((src.root ["Self"] (typeName "Self") _).run src.start).1) = _
    rw [hroot]
  have hfinal : final aliasDocument {} 100 = ((src.component [] "Self").run src.start).2 := rfl
  rw [table_ofDocument, hfinal, hrun]
  rfl

theorem references_resolve_alias :
    aliasModel ∈ (ofDocument aliasDocument {} 100).1.models ∧ aliasModel.Inside aliasModel ∧
      aliasModel.target? = some "Self" ∧ "Self" ∈ Keyed.keys (ofDocument aliasDocument {} 100).1.table := by
  have hmem : aliasModel ∈ (ofDocument aliasDocument {} 100).1.models := by
    refine List.mem_append_left _ ?_
    rw [aliasDocument_table]
    exact List.mem_singleton_self _
  exact ⟨hmem, .root _, rfl, references_resolve aliasDocument {} 100 aliasModel hmem aliasModel (.root _) "Self" rfl⟩

/-- **Promotion is complete.** The root of an entry is named by its key. No other model of an API, at any depth, has a
name or is promotable. A reference that is not to a component leads to a promotable entry with the same nullability. -/
theorem promotion_complete :
    (∀ name root, (name, root) ∈ (ofDocument d naming limit).1.table →
      root.name = some name ∧
        ∀ c ∈ root.children, ∀ m : Model, m.Inside c → m.name = none ∧ m.isPromotable = false) ∧
    (∀ op ∈ (ofDocument d naming limit).1.operations, ∀ root ∈ op.models, ∀ m : Model, m.Inside root →
      m.name = none ∧ m.isPromotable = false) ∧
    ∀ root ∈ (ofDocument d naming limit).1.models, ∀ m : Model, m.Inside root →
      ∀ t, m.target? = some t → t ∉ (source d naming limit).components.keys →
        ∃ e, Keyed.get? (ofDocument d naming limit).1.table t = some e ∧ e.isPromotable = true ∧
          e.nullable = m.nullable := by
  obtain ⟨hsound, -, hoperations⟩ := final_sound d naming limit
  refine ⟨fun name root h => ?_, fun op hop root hroot m hm => ?_, fun root hroot m hm t ht hnot => ?_⟩
  · have hrooted := entry_rooted h
    refine ⟨hrooted.name, fun c hc m hm => ?_⟩
    have hplain := hrooted.children c hc m hm
    exact ⟨hplain.unnamed, hplain.unpromotable⟩
  · have hplain := hoperations root (List.mem_flatMap.2 ⟨op, hop, hroot⟩) m hm
    exact ⟨hplain.unnamed, hplain.unpromotable⟩
  · rw [table_ofDocument, Source.get?_finish hsound.orderly.distinct]
    exact (target_spec hroot hm ht).resolve_left hnot

end ClientPlan.Api
