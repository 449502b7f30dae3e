/-
The paths of planned files. The stems of files are segments and have no repeats, so within its directory each file has
its own path, and the directory of a path can be told.
-/
import ClientPlan.Plan.OfDocument
import ClientPlan.Proofs.Api.Groups
import ClientPlan.Proofs.Naming.Distinct

namespace ClientPlan.Plan

variable (t : Table) (groups : List Api.Group) (layout : Config.Layout)

theorem modelStems_isSegment : ∀ s ∈ distinctNames (modelStems t), IsSegment s := by
  refine distinctNames_isSegment _ fun s hs => ?_
  obtain ⟨name, -, rfl⟩ := List.mem_map.1 hs
  exact memberName_isSegment _

variable {groups} in
theorem endpointStems_isSegment (hgroups : ∀ g ∈ groups, g.name.IsMade) :
    ∀ s ∈ distinctNames (endpointStems groups), IsSegment s := by
  refine distinctNames_isSegment _ fun s hs => ?_
  obtain ⟨g, hg, rfl⟩ := List.mem_map.1 hs
  exact (hgroups g hg).isSegment

theorem keys_modelPaths : Keyed.keys (modelPaths t layout) = Keyed.keys t :=
  List.map_fst_zip (by simp [length_distinctNames, modelStems])

theorem paths_modelPaths :
    (modelPaths t layout).map (·.2) = (distinctNames (modelStems t)).map (inDirectory layout.modelsDir) :=
  List.map_snd_zip (by simp [length_distinctNames, modelStems])

/-- the files of models have segments for stems -/
theorem modelPaths_stem {e : String × String} (he : e ∈ modelPaths t layout) :
    ∃ stem, IsSegment stem ∧ e.2 = inDirectory layout.modelsDir stem := by
  have hpath : e.2 ∈ (modelPaths t layout).map (·.2) := List.mem_map_of_mem he
  rw [paths_modelPaths] at hpath
  obtain ⟨stem, hstem, heq⟩ := List.mem_map.1 hpath
  exact ⟨stem, modelStems_isSegment t stem hstem, heq.symm⟩

variable {groups} in
theorem endpointPaths_stem (hgroups : ∀ g ∈ groups, g.name.IsMade) {path : String}
    (hpath : path ∈ endpointPaths groups layout) :
    ∃ stem, IsSegment stem ∧ path = inDirectory layout.endpointsDir stem := by
  obtain ⟨stem, hstem, rfl⟩ := List.mem_map.1 hpath
  exact ⟨stem, endpointStems_isSegment hgroups stem hstem, rfl⟩

theorem nodup_inDirectory {stems : List String} (hstems : stems.Nodup) (h : ∀ s ∈ stems, IsSegment s)
    (directory : String) : (stems.map (inDirectory directory)).Nodup :=
  List.Nodup.map_on (fun s hs s' hs' heq => (inDirectory_injective (h s hs) (h s' hs') heq).2) hstems

/-- **Each model has its own path.** -/
theorem nodup_modelPaths : ((modelPaths t layout).map (·.2)).Nodup := by
  rw [paths_modelPaths]
  exact nodup_inDirectory (nodup_distinctNames _) (modelStems_isSegment t) _

variable {groups} in
/-- **Each group has its own path.** -/
theorem nodup_endpointPaths (hgroups : ∀ g ∈ groups, g.name.IsMade) : (endpointPaths groups layout).Nodup :=
  nodup_inDirectory (nodup_distinctNames _) (endpointStems_isSegment hgroups) _

variable {groups layout} in
/-- in different directories, no group has the path of a model -/
theorem modelPath_ne_endpointPath (hgroups : ∀ g ∈ groups, g.name.IsMade)
    (hdirs : layout.modelsDir ≠ layout.endpointsDir) {e : String × String} (he : e ∈ modelPaths t layout)
    {path : String} (hpath : path ∈ endpointPaths groups layout) : e.2 ≠ path := by
  obtain ⟨stem, hstem, he⟩ := modelPaths_stem t layout he
  obtain ⟨stem', hstem', hpath⟩ := endpointPaths_stem layout hgroups hpath
  rw [he, hpath]
  exact fun heq => hdirs (inDirectory_injective hstem hstem' heq).1

theorem slash_mem_inDirectory (directory stem : String) : '/' ∈ (inDirectory directory stem).toList := by
  simp [inDirectory]

end ClientPlan.Plan
