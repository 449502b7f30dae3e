/-
Files with paths of their own. A plan has a file for each model and one for each group of operations, in order. Models
are told apart by their stems, and so are groups; but a model and a group only by the directories they are in. So where
both directories are the same, a model and a group with one stem share a path (`own_paths_iff`).
-/
import ClientPlan.Proofs.Plan.Endpoints

namespace ClientPlan.Plan

section OfApi

variable (api : Api) (config : Config)

theorem schemas_ofApi : (ofApi api config).1.models.map (·.schema) = Keyed.keys api.table := by
  have hkeys := congrArg Keyed.keys (paths_ofApi api config)
  rw [pathsOf, keys_modelPaths] at hkeys
  rw [← hkeys, Keyed.keys, List.map_map]
  rfl

theorem modelPaths_ofApi : (ofApi api config).1.models.map (·.path) =
    (distinctNames (modelStems api.table)).map (inDirectory config.layout.modelsDir) := by
  rw [← paths_modelPaths, ← pathsOf, ← paths_ofApi, List.map_map]
  rfl

theorem endpointPaths_ofApi : (ofApi api config).1.endpoints.map (·.path) =
    (distinctNames (endpointStems (api.groups config.layout.splitBy))).map
      (inDirectory config.layout.endpointsDir) := by
  change _ = endpointPaths _ _
  rw [endpoints_ofApi, List.map_map, ← paths_groupsOf]
  exact linkEndpoints_files

end OfApi

/-- a model and a group share a path exactly if they are in one directory and have one stem -/
theorem disjoint_inDirectory_iff {stems stems' : List String} (h : ∀ s ∈ stems, IsSegment s)
    (h' : ∀ s ∈ stems', IsSegment s) (directory directory' : String) :
    (stems.map (inDirectory directory)).Disjoint (stems'.map (inDirectory directory')) ↔
      (directory = directory' → stems.Disjoint stems') := by
  constructor
  · rintro hdisjoint rfl s hs hs'
    exact hdisjoint (List.mem_map_of_mem hs) (List.mem_map_of_mem hs')
  · intro hstems path hpath hpath'
    obtain ⟨s, hs, rfl⟩ := List.mem_map.1 hpath
    obtain ⟨s', hs', heq⟩ := List.mem_map.1 hpath'
    obtain ⟨rfl, rfl⟩ := inDirectory_injective (h' s' hs') (h s hs) heq
    exact hstems rfl hs hs'

/-- **Paths of files.** A plan has a file for each entry of the table, in order, and one for each group, in order, with
a method for each of its positions. The files of models have paths of their own, and so have the files of groups; all
of them together do exactly if the directories differ or no model has the stem of a group. -/
theorem own_paths_iff (d : Document) (naming : Config.Naming) (limit : Nat) (config : Config) :
    let api := (Api.ofDocument d naming limit).1
    let groups := api.groups config.layout.splitBy
    let plan := (ofApi api config).1
    plan.models.map (·.schema) = Keyed.keys api.table ∧
      plan.endpoints.map (fun f => (f.group, f.methods.map (·.operation))) =
        groups.map (fun g => (g.name.written, g.operations)) ∧
      (plan.models.map (·.path)).Nodup ∧ (plan.endpoints.map (·.path)).Nodup ∧
      ((plan.models.map (·.path) ++ plan.endpoints.map (·.path)).Nodup ↔
        (config.layout.modelsDir = config.layout.endpointsDir →
          (distinctNames (modelStems api.table)).Disjoint (distinctNames (endpointStems groups)))) := by
  intro api groups plan
  have hmodels : ∀ s ∈ distinctNames (modelStems api.table), IsSegment s := modelStems_isSegment api.table
  have hgroups : ∀ s ∈ distinctNames (endpointStems groups), IsSegment s :=
    endpointStems_isSegment (Api.groups_names d naming limit config.layout.splitBy)
  have hmodelPaths : (plan.models.map (·.path)).Nodup := by
    rw [modelPaths_ofApi]
    exact nodup_inDirectory (nodup_distinctNames _) hmodels _
  have hendpointPaths : (plan.endpoints.map (·.path)).Nodup := by
    rw [endpointPaths_ofApi]
    exact nodup_inDirectory (nodup_distinctNames _) hgroups _
  refine ⟨schemas_ofApi api config, ?_, hmodelPaths, hendpointPaths, ?_⟩
  · exact contents_endpoints api config (Api.groups_in_range d naming limit config.layout.splitBy)
  · calc (plan.models.map (·.path) ++ plan.endpoints.map (·.path)).Nodup
      _ ↔ (plan.models.map (·.path)).Disjoint (plan.endpoints.map (·.path)) := by
        rw [List.nodup_append']
        simp [hmodelPaths, hendpointPaths]
      _ ↔ _ := by
        rw [modelPaths_ofApi, endpointPaths_ofApi]
        exact disjoint_inDirectory_iff hmodels hgroups _ _

/-! ## A model and a group with one stem -/

/-- a document with a pet, and with an operation whose tag is that -/
def petTagDocument : Document where
  paths := [("/pets", { get := some { operationId := some "listPets", tags := ["pet"] } })]
  components := some { schemas := [("Pet", .schema { types := some (.one .string) })] }

def petText : Model :=
  { Model.scalar .string with name := some "Pet" }

theorem petTagDocument_table : (Api.ofDocument petTagDocument {} 100).1.table = [("Pet", petText)] := by
  let src := Api.source petTagDocument {} 100
  have hrun : (src.component [] "Pet").run src.start = (true, src.start.entered "Pet" petText) := by
    rw [Source.run_component List.not_mem_nil]
    rfl
  have hfinal : Api.final petTagDocument {} 100 = ((src.component [] "Pet").run src.start).2 := rfl
  rw [Api.table_ofDocument, hfinal, hrun]
  rfl

theorem petTagDocument_groups :
    (Api.ofDocument petTagDocument {} 100).1.groups .tag = [⟨Name.of "pet", [0]⟩] :=
  Api.groupsByTag_of_groupsBy rfl

/-- with one directory for models and groups, the file of the pet and that of its group have one path -/
theorem shared_directory_shares_path :
    let layout : Config.Layout := { modelsDir := "api", endpointsDir := "api" }
    let plan := (ofApi (Api.ofDocument petTagDocument {} 100).1 { layout := layout }).1
    plan.models.map (·.path) = ["api/pet"] ∧ plan.endpoints.map (·.path) = ["api/pet"] ∧
      ¬ (plan.models.map (·.path) ++ plan.endpoints.map (·.path)).Nodup := by
  intro layout plan
  have hmodels : plan.models.map (·.path) = ["api/pet"] := by
    rw [modelPaths_ofApi, petTagDocument_table]
    decide
  have hendpoints : plan.endpoints.map (·.path) = ["api/pet"] := by
    rw [endpointPaths_ofApi, petTagDocument_groups]
    decide
  refine ⟨hmodels, hendpoints, ?_⟩
  rw [hmodels, hendpoints]
  decide

end ClientPlan.Plan
