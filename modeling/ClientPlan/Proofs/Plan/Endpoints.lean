/-
What the files of endpoints consist of. There is one for each group of operations, in order, and it has a method for
each position in the group. So an operation is planned once for each group that it lies in, as long as no tag stands
twice among its tags; where operations are grouped by tags that repeat, it has several methods in one file
(`planned_once_iff`).
-/
import ClientPlan.Proofs.Api.Grouping
import ClientPlan.Proofs.Plan.Bindings

namespace ClientPlan.Plan

section Methods

variable {api : Api} {rule : Config.Envelope}

theorem length_methodStems {group : Api.Group} (hrange : ∀ i ∈ group.operations, i < api.operations.length) :
    (methodStems api group).length = group.operations.length := by
  have hall : ∀ i ∈ group.operations, (api.operations[i]?.map (·.name.memberName)).isSome = true := by
    intro i hi
    simpa using hrange i hi
  exact List.filterMap_length_eq_length.2 hall

theorem length_distinct_methodStems {group : Api.Group}
    (hrange : ∀ i ∈ group.operations, i < api.operations.length) :
    (distinctNames (methodStems api group)).length = group.operations.length := by
  rw [length_distinctNames, length_methodStems hrange]

/-- positions in range with names give a method each, for that operation and under that name -/
theorem methods_zip {entries : List (Nat × String)} (hrange : ∀ e ∈ entries, e.1 < api.operations.length) :
    (entries.filterMap fun (i, name) => api.operations[i]?.map (methodOf api.table rule i name)).map
      (fun m => (m.operation, m.name)) = entries := by
  induction entries with
  | nil => rfl
  | cons e entries ih =>
    have hfound := List.getElem?_eq_getElem (hrange e List.mem_cons_self)
    have hrest := ih fun e he => hrange e (List.mem_cons_of_mem _ he)
    rw [List.filterMap_cons]
    dsimp only
    rw [hfound]
    exact congrArg (e :: ·) hrest

/-- **The methods of a group** are those of the operations at its positions, in order, under the names that were made
distinct for it. -/
theorem contents_methodsOf {group : Api.Group} (hrange : ∀ i ∈ group.operations, i < api.operations.length) :
    (methodsOf api rule group (distinctNames (methodStems api group))).map (fun m => (m.operation, m.name)) =
      group.operations.zip (distinctNames (methodStems api group)) :=
  methods_zip fun _ he => hrange _ (List.of_mem_zip he).1

theorem operations_methodsOf {group : Api.Group} (hrange : ∀ i ∈ group.operations, i < api.operations.length) :
    (methodsOf api rule group (distinctNames (methodStems api group))).map (·.operation) = group.operations := by
  have hcontents := congrArg (List.map Prod.fst) (@contents_methodsOf api rule group hrange)
  rw [List.map_map, List.map_fst_zip (Nat.le_of_eq (length_distinct_methodStems hrange).symm)] at hcontents
  exact hcontents

theorem names_methodsOf {group : Api.Group} (hrange : ∀ i ∈ group.operations, i < api.operations.length) :
    (methodsOf api rule group (distinctNames (methodStems api group))).map (·.name) =
      distinctNames (methodStems api group) := by
  have hcontents := congrArg (List.map Prod.snd) (@contents_methodsOf api rule group hrange)
  rw [List.map_map, List.map_snd_zip (Nat.le_of_eq (length_distinct_methodStems hrange))] at hcontents
  exact hcontents

end Methods

section OfApi

variable (api : Api) (config : Config)

theorem groups_groupsOf : (groupsOf api config).map (·.1) = api.groups config.layout.splitBy := by
  let groups := api.groups config.layout.splitBy
  have hnames : (methodNames api groups).length = groups.length := by simp [methodNames]
  have hpaths : (endpointPaths groups config.layout).length = groups.length := by
    simp [endpointPaths, endpointStems, length_distinctNames]
  exact List.map_fst_zip (by simp [groups, hnames, hpaths])

/-- the methods of a group have the names that were made distinct for it -/
theorem names_groupsOf {e : Api.Group × List String × String} (he : e ∈ groupsOf api config) :
    e.1 ∈ api.groups config.layout.splitBy ∧ e.2.1 = distinctNames (methodStems api e.1) := by
  obtain ⟨k, hk, rfl⟩ := List.mem_iff_getElem.1 he
  simp [groupsOf, methodNames, List.getElem_zip]

/-- the methods in a file are those of one of the groups -/
theorem methods_endpoints {f : EndpointFile} (hf : f ∈ (ofApi api config).1.endpoints) :
    ∃ e ∈ groupsOf api config, f.methods = methodsOf api config.envelope e.1 e.2.1 := by
  obtain ⟨g, hg, rfl⟩ := List.mem_map.1 hf
  exact linkEndpoints_methods g hg

/-- **Endpoint files follow the groups.** There is a file for each group, in order, with a method for each of its
positions. -/
theorem contents_endpoints
    (hrange : ∀ g ∈ api.groups config.layout.splitBy, ∀ i ∈ g.operations, i < api.operations.length) :
    (ofApi api config).1.endpoints.map (fun f => (f.group, f.methods.map (·.operation))) =
      (api.groups config.layout.splitBy).map fun g => (g.name.written, g.operations) := by
  have hfiles := congrArg (List.map fun c : String × String × List Method => (c.2.1, c.2.2.map (·.operation)))
    (@linkEndpoints_contents api config.envelope (modelsOf api config).2 (groupsOf api config))
  rw [List.map_map, List.map_map] at hfiles
  have hgroups : ∀ e ∈ groupsOf api config,
      (e.1.name.written, (methodsOf api config.envelope e.1 e.2.1).map (·.operation)) =
        (e.1.name.written, e.1.operations) := by
    intro e he
    obtain ⟨hgroup, hnames⟩ := names_groupsOf api config he
    rw [hnames, operations_methodsOf (hrange e.1 hgroup)]
  calc (ofApi api config).1.endpoints.map (fun f => (f.group, f.methods.map (·.operation)))
    _ = (endpointsOf api config).1.map (fun f => (f.group, f.methods.map (·.operation))) := by
      rw [endpoints_ofApi, List.map_map]
      rfl
    _ = (groupsOf api config).map (fun e =>
          (e.1.name.written, (methodsOf api config.envelope e.1 e.2.1).map (·.operation))) := hfiles
    _ = (groupsOf api config).map (fun e => (e.1.name.written, e.1.operations)) := List.map_congr_left hgroups
    _ = ((groupsOf api config).map (·.1)).map (fun g => (g.name.written, g.operations)) := by
      rw [List.map_map]
      rfl
    _ = _ := by rw [groups_groupsOf]

/-- the positions that are planned in a file are those of a group -/
theorem operations_endpoints
    (hrange : ∀ g ∈ api.groups config.layout.splitBy, ∀ i ∈ g.operations, i < api.operations.length) :
    (ofApi api config).1.endpoints.map (fun f => f.methods.map (·.operation)) =
      (api.groups config.layout.splitBy).map (·.operations) := by
  have hcontents := congrArg (List.map Prod.snd) (contents_endpoints api config hrange)
  rwa [List.map_map, List.map_map] at hcontents

end OfApi

/-! ## Documents -/

/-- where positions never fall, they rise exactly if none is there twice -/
theorem rising_iff_nodup {is : List Nat} (h : is.Pairwise (· ≤ ·)) : is.Pairwise (· < ·) ↔ is.Nodup := by
  constructor
  · exact fun hrising => hrising.imp fun hlt => Nat.ne_of_lt hlt
  · exact fun hnodup => (h.and hnodup).imp fun hboth => Nat.lt_of_le_of_ne hboth.1 hboth.2

section OfDocument

variable (d : Document) (naming : Config.Naming) (limit : Nat) (config : Config)

/-- no operation has two methods in a file exactly if operations are not grouped by tags that repeat -/
theorem methods_once_iff :
    (∀ f ∈ (ofApi (Api.ofDocument d naming limit).1 config).1.endpoints, (f.methods.map (·.operation)).Nodup) ↔
      Api.TagsOnce (Api.ofDocument d naming limit).1 config.layout.splitBy := by
  let api := (Api.ofDocument d naming limit).1
  let groups := api.groups config.layout.splitBy
  have hsame := operations_endpoints api config (Api.groups_in_range d naming limit config.layout.splitBy)
  calc (∀ f ∈ (ofApi api config).1.endpoints, (f.methods.map (·.operation)).Nodup)
    _ ↔ ∀ is ∈ (ofApi api config).1.endpoints.map (fun f => f.methods.map (·.operation)), is.Nodup :=
      List.forall_mem_map.symm
    _ ↔ ∀ is ∈ groups.map (·.operations), is.Nodup := by rw [hsame]
    _ ↔ ∀ g ∈ groups, g.operations.Nodup := List.forall_mem_map
    _ ↔ ∀ g ∈ groups, g.operations.Pairwise (· < ·) := by
      refine forall₂_congr fun g hg => ?_
      exact (rising_iff_nodup (Api.groups_sorted d naming limit _ g hg)).symm
    _ ↔ _ := Api.groups_rising_iff d naming limit _

/-- **Operations in groups and files.** The groups have positions of operations only, and these never fall. By tags, an
operation lies in the group of each of its tags, or in the default one if it has none, and otherwise in one group. In
all groups the positions rise, and in all files no operation has two methods, exactly if operations are not grouped by
tags or if no operation has a tag twice. -/
theorem planned_once_iff :
    let api := (Api.ofDocument d naming limit).1
    let split := config.layout.splitBy
    let groups := api.groups split
    (∀ g ∈ groups, g.operations.Pairwise (· ≤ ·) ∧ ∀ i ∈ g.operations, i < api.operations.length) ∧
      (split ≠ .tag → ∀ i < api.operations.length, (Api.around groups i).length = 1) ∧
      (split = .tag → ∀ i op, api.operations[i]? = some op →
        ((Api.around groups i).map (·.name.written)).Perm (Api.tagsOf op).dedup) ∧
      ((∀ g ∈ groups, g.operations.Pairwise (· < ·)) ↔ Api.TagsOnce api split) ∧
      ((∀ f ∈ (ofApi api config).1.endpoints, (f.methods.map (·.operation)).Nodup) ↔ Api.TagsOnce api split) := by
  intro api split groups
  refine ⟨fun g hg => ⟨?_, ?_⟩, ?_, ?_, ?_, ?_⟩
  · exact Api.groups_sorted d naming limit split g hg
  · exact Api.groups_in_range d naming limit split g hg
  · exact fun hsplit i hi => Api.length_around_groups d naming limit hsplit hi
  · intro hsplit i op hop
    have hgroups : groups = api.groups .tag := congrArg api.groups hsplit
    rw [hgroups]
    exact (Api.grouped_tags d naming limit).names_around hop
  · exact Api.groups_rising_iff d naming limit split
  · exact methods_once_iff d naming limit config

end OfDocument

/-! ## A tag that repeats -/

/-- a document with one operation, which has its tag twice -/
def repeatedTagDocument : Document where
  paths := [("/pets", { get := some { operationId := some "listPets", tags := ["pets", "pets"] } })]

theorem repeatedTagDocument_groups :
    (Api.ofDocument repeatedTagDocument {} 100).1.groups .tag = [⟨Name.of "pets", [0, 0]⟩] :=
  Api.groupsByTag_of_groupsBy rfl

/-- grouped by the tag that it has twice, the operation is twice in the group, and has two methods in the file -/
theorem repeated_tag_planned_twice :
    let api := (Api.ofDocument repeatedTagDocument {} 100).1
    (∃ g ∈ api.groups .tag, g.operations = [0, 0] ∧ ¬ g.operations.Pairwise (· < ·)) ∧
      ∃ f ∈ (ofApi api {}).1.endpoints, f.methods.map (·.operation) = [0, 0] ∧
        ¬ (f.methods.map (·.operation)).Nodup := by
  intro api
  have hgroups : api.groups .tag = [⟨Name.of "pets", [0, 0]⟩] := repeatedTagDocument_groups
  have hfiles : (ofApi api {}).1.endpoints.map (fun f => f.methods.map (·.operation)) = [[0, 0]] := by
    rw [operations_endpoints api {} (Api.groups_in_range repeatedTagDocument {} 100 .tag)]
    exact congrArg (List.map (·.operations)) hgroups
  constructor
  · refine ⟨⟨Name.of "pets", [0, 0]⟩, ?_, rfl, by decide⟩
    rw [hgroups]
    exact List.mem_singleton_self _
  · obtain ⟨f, hf, hmethods⟩ : ∃ f ∈ (ofApi api {}).1.endpoints, f.methods.map (·.operation) = [0, 0] :=
      List.mem_map.1 (hfiles ▸ List.mem_singleton_self _)
    refine ⟨f, hf, hmethods, ?_⟩
    rw [hmethods]
    decide

end ClientPlan.Plan
