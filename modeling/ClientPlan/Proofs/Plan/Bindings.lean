/-
The imports of planned files. In a plan whose models lie outside the package, every file binds exactly the models that
its types mention, each to a name of its own, and requires nothing but what stands for them and the library symbols of
its scalar types (`bindings_exact`).
-/
import ClientPlan.Proofs.Api.Grouping
import ClientPlan.Proofs.Plan.Mentions
import ClientPlan.Proofs.Plan.Paths

namespace ClientPlan.Plan

open Imports

/-- what stands for a model in the requirements of files: the module of its file, and its type -/
def origin? (plan : Plan) (name : String) : Option (String × String) :=
  (plan.model? name).map fun f => (fileToModule f.path, ClientPlan.typeName name)

/-- the imports of a file with types `ds`, which is the file of the model `own` if it is the file of one -/
structure Exact (plan : Plan) (own : Option ModelFile) (ds : List Descriptor) (imports : FileImports) : Prop where
  /-- the names that the types mention are bound, each once -/
  unique : (Keyed.keys imports.bindings).Nodup
  bound : ∀ n, n ∈ Keyed.keys imports.bindings ↔ ∃ d ∈ ds, d.Mentions n
  /-- different names are bound to different identifiers -/
  apart : ∀ n n' s, Keyed.get? imports.bindings n = some s → Keyed.get? imports.bindings n' = some s → n = n'
  /-- the model of the file is bound to the type that the file declares -/
  declared : ∀ f, own = some f → ∀ s, Keyed.get? imports.bindings f.schema = some s → s = f.typeName
  /-- every other model is bound to the name under which what stands for it is required -/
  others : ∀ n s, own.map (·.schema) ≠ some n → Keyed.get? imports.bindings n = some s →
    ∃ r ∈ imports.requirements, plan.origin? n = some r.origin ∧ r.bound = s
  /-- nothing else is required but the library symbols of the scalar types, and nothing twice -/
  required : ∀ key, key ∈ imports.requirements.map Requirement.origin ↔
    (∃ n ∈ Keyed.keys imports.bindings, own.map (·.schema) ≠ some n ∧ plan.origin? n = some key) ∨
      ∃ d ∈ ds, ∃ l, Descriptor.Inside (.leaf l) d ∧ leafImport? l = some key
  once : (imports.requirements.map Requirement.origin).Nodup

section Parts

variable (api : Api) (config : Config)

/-- the files of the models of an API -/
def pathsOf : Keyed String :=
  modelPaths api.table config.layout

/-- the groups of an API with their method names and their files -/
def groupsOf : List (Api.Group × List String × String) :=
  let groups := api.groups config.layout.splitBy
  groups.zip ((methodNames api groups).zip (endpointPaths groups config.layout))

/-- what there is before the first file is linked -/
def startOf : Linking where
  planner :=
    { tree := Tree.ofPaths ((pathsOf api config).map (·.2) ++
        endpointPaths (api.groups config.layout.splitBy) config.layout)
      package := config.package }
  paths := pathsOf api config

/-- the files of models, and what there is after them -/
def modelsOf : List ModelFile × Linking :=
  linkModels api.table (startOf api config) (pathsOf api config)

/-- the files of groups, and what there is at the end -/
def endpointsOf : List EndpointFile × Linking :=
  linkEndpoints api config.envelope (modelsOf api config).2 (groupsOf api config)

theorem models_ofApi : (ofApi api config).1.models = (modelsOf api config).1.map fun f =>
    { f with imports := finishImports (endpointsOf api config).2.planner config.package f.path f.imports } :=
  rfl

theorem endpoints_ofApi : (ofApi api config).1.endpoints = (endpointsOf api config).1.map fun f =>
    { f with imports := finishImports (endpointsOf api config).2.planner config.package f.path f.imports } :=
  rfl

/-- the planned models and their paths -/
theorem paths_ofApi : (ofApi api config).1.models.map (fun f => (f.schema, f.path)) = pathsOf api config := by
  have hfiles := @linkModels_files api.table (startOf api config) (pathsOf api config) fun e he => by
    rw [← keys_modelPaths api.table config.layout]
    exact List.mem_map_of_mem he
  rw [models_ofApi, List.map_map]
  exact hfiles

variable {api config} in
theorem mem_pathsOf {f : ModelFile} (hf : f ∈ (ofApi api config).1.models) :
    (f.schema, f.path) ∈ pathsOf api config := by
  rw [← paths_ofApi]
  exact List.mem_map_of_mem hf

theorem groupsOf_path {e : Api.Group × List String × String} (he : e ∈ groupsOf api config) :
    e.2.2 ∈ endpointPaths (api.groups config.layout.splitBy) config.layout :=
  (List.of_mem_zip (List.of_mem_zip he).2).2

theorem paths_groupsOf :
    (groupsOf api config).map (·.2.2) = endpointPaths (api.groups config.layout.splitBy) config.layout := by
  let groups := api.groups config.layout.splitBy
  let names := methodNames api groups
  let paths := endpointPaths groups config.layout
  have hnames : names.length = groups.length := by simp [names, methodNames]
  have hpaths : paths.length = groups.length := by simp [paths, endpointPaths, endpointStems, length_distinctNames]
  have houter : (groups.zip (names.zip paths)).map Prod.snd = names.zip paths :=
    List.map_snd_zip (by simp [hnames, hpaths])
  have hinner : (names.zip paths).map Prod.snd = paths := List.map_snd_zip (by simp [hnames, hpaths])
  calc (groupsOf api config).map (·.2.2)
    _ = ((groups.zip (names.zip paths)).map Prod.snd).map Prod.snd := by rw [List.map_map]; rfl
    _ = paths := by rw [houter, hinner]

/-- the file of a model is the one that was planned for it -/
theorem find?_path {files : List ModelFile} (n : String) :
    (files.find? (·.schema == n)).map (·.path) = Keyed.get? (files.map fun f => (f.schema, f.path)) n := by
  induction files with
  | nil => rfl
  | cons f files ih =>
    rw [List.find?_cons, List.map_cons, Keyed.get?_cons]
    by_cases h : n = f.schema
    · simp [h]
    · have hne : (f.schema == n) = false := by simpa using Ne.symm h
      rw [hne, if_neg h]
      exact ih

theorem origin?_ofApi (n : String) : (ofApi api config).1.origin? n = originIn (pathsOf api config) n := by
  have hpath := @find?_path (ofApi api config).1.models n
  rw [paths_ofApi] at hpath
  rw [originIn, ← hpath, Option.map_map]
  rfl

/-- **What stands for a model stands for no other**, since all models are in one directory. -/
theorem originIn_injective (n n' : String) (key : String × String)
    (hn : originIn (pathsOf api config) n = some key) (hn' : originIn (pathsOf api config) n' = some key) : n = n' := by
  obtain ⟨path, hget, rfl⟩ := Option.map_eq_some_iff.1 hn
  obtain ⟨path', hget', hkey⟩ := Option.map_eq_some_iff.1 hn'
  have he := Keyed.mem_of_get? hget
  have he' := Keyed.mem_of_get? hget'
  obtain ⟨stem, hstem, hpath⟩ := modelPaths_stem _ _ he
  obtain ⟨stem', hstem', hpath'⟩ := modelPaths_stem _ _ he'
  have hmodule : fileToModule path' = fileToModule path := (Prod.ext_iff.1 hkey).1
  have hpaths : path = path' := by
    have hpath : path = inDirectory config.layout.modelsDir stem := hpath
    have hpath' : path' = inDirectory config.layout.modelsDir stem' := hpath'
    rw [hpath, hpath'] at hmodule ⊢
    rw [fileToModule_inDirectory_injective hstem' hstem hmodule]
  have hsame := List.inj_on_of_nodup_map (nodup_modelPaths api.table config.layout) he he' hpaths
  exact (Prod.ext_iff.1 hsame).1

end Parts

/-- in a linked file, no other model is known by the name of the file's own -/
theorem Linked.own_ne_other {paths : Keyed String} {own : Option String} {names : List String} {leaves : List Leaf}
    {bindings : Keyed String} {f : File} (h : Linked paths own names leaves bindings f) {n n' s : String}
    (hn : own = some n) (hn' : own ≠ some n') (hs : Keyed.get? bindings n = some s) :
    Keyed.get? bindings n' ≠ some s := by
  intro hs'
  obtain ⟨r, hr, -, hbound⟩ := h.others n' s hs' hn'
  have hdeclared : ClientPlan.typeName n ∈ (own.map ClientPlan.typeName).toList := by simp [hn]
  exact (h.proper.declared _ hdeclared).2 r hr (hbound.trans (h.owned n s hs hn))

/-- in a linked file, different models have different names -/
theorem Linked.apart {paths : Keyed String} {own : Option String} {names : List String} {leaves : List Leaf}
    {bindings : Keyed String} {f : File} (h : Linked paths own names leaves bindings f)
    (hinjective : ∀ n n' key, originIn paths n = some key → originIn paths n' = some key → n = n') {n n' s : String}
    (hs : Keyed.get? bindings n = some s) (hs' : Keyed.get? bindings n' = some s) : n = n' := by
  by_cases hn : own = some n <;> by_cases hn' : own = some n'
  · exact Option.some.inj (hn.symm.trans hn')
  · exact absurd hs' (h.own_ne_other hn hn' hs)
  · exact absurd hs (h.own_ne_other hn' hn hs')
  · obtain ⟨r, hr, hkey, hbound⟩ := h.others n s hs hn
    obtain ⟨r', hr', hkey', hbound'⟩ := h.others n' s hs' hn'
    have hsame : r = r' := List.inj_on_of_nodup_map h.proper.apart hr hr' (hbound.trans hbound'.symm)
    exact hinjective n n' r.origin hkey (hsame ▸ hkey')

/-- what is linked is exact -/
theorem Linked.exact {plan : Plan} {own : Option ModelFile} {ds : List Descriptor} {imports : FileImports}
    {paths : Keyed String} {f : File}
    (h : Linked paths (own.map (·.schema)) (mentioned ds) (scalars ds) imports.bindings f)
    (hrequirements : imports.requirements = f.requirements) (horigin : ∀ n, plan.origin? n = originIn paths n)
    (hown : ∀ g, own = some g → g.typeName = ClientPlan.typeName g.schema)
    (hinjective : ∀ n n' key, originIn paths n = some key → originIn paths n' = some key → n = n') :
    Exact plan own ds imports where
  unique := h.unique
  bound n := by
    rw [h.keys, mentioned, List.mem_flatMap]
    simp [Descriptor.mem_names]
  apart n n' s hs hs' := h.apart hinjective hs hs'
  declared g hg s hs := by
    rw [hown g hg]
    exact h.owned _ s hs (congrArg _ hg)
  others n s hn hs := by
    rw [hrequirements, horigin]
    exact h.others n s hs hn
  required key := by
    rw [hrequirements]
    refine (h.origins key).trans (or_congr (exists_congr fun n => ?_) ?_)
    · rw [h.keys, horigin]
    · simp only [scalars, List.mem_flatMap, Descriptor.mem_leaves]
      grind
  once := by
    rw [hrequirements]
    exact h.proper.once

section OfDocument

variable {d : Document} {naming : Config.Naming} {limit : Nat} {config : Config}

/-- each model of an API has one entry -/
theorem nodup_table (hkeys : (Api.source d naming limit).components.keys.Nodup) :
    (Keyed.keys (Api.ofDocument d naming limit).1.table).Nodup := by
  have horderly := (Api.final_sound d naming limit).1.orderly
  rw [Api.table_ofDocument, Source.keys_finish horderly]
  exact (Source.names_nodup hkeys horderly).sublist (List.filter_sublist.append_right _)

variable {api : Api}

/-- the modules of models lie outside the package -/
def Outside (api : Api) (config : Config) : Prop :=
  ∀ e ∈ pathsOf api config, IsPath e.2 ∧ ¬ InPackage config.package (fileToModule e.2)

theorem outside_of_plan (hmodels : IsPath config.layout.modelsDir)
    (hpackage : ∀ f ∈ (ofApi api config).1.models, ¬ InPackage config.package (fileToModule f.path)) :
    Outside api config := by
  intro e he
  obtain ⟨stem, hstem, hpath⟩ := modelPaths_stem _ _ he
  refine ⟨hpath ▸ hmodels.inDirectory hstem, ?_⟩
  rw [← paths_ofApi] at he
  obtain ⟨f, hf, rfl⟩ := List.mem_map.1 he
  exact hpackage f hf

/-- no library is a file of the tree -/
theorem leafImport?_free {leaf : Leaf} {module symbol : String} (h : leafImport? leaf = some (module, symbol)) :
    '.' ∉ module.toList ∧ '/' ∉ module.toList := by
  cases leaf <;> simp [leafImport?] at h <;> obtain ⟨rfl, rfl⟩ := h <;> decide

/-- a file at a path takes for itself the model whose path that is -/
theorem within_begin (houtside : Outside api config) {l : Linking} (hpackage : l.planner.package = config.package)
    (hpaths : l.paths = pathsOf api config) {path : String} (hslash : '/' ∈ path.toList) {own : Option String}
    (hown : ∀ e ∈ pathsOf api config, Keyed.get? (pathsOf api config) e.1 = some e.2 → (e.2 = path ↔ own = some e.1)) :
    (l.begin path).Within own where
  models n other hn := by
    have hget : Keyed.get? (pathsOf api config) n = some other := hpaths ▸ hn
    have he := Keyed.mem_of_get? hget
    have hnot : ¬ InPackage (l.begin path).planner.package (fileToModule other) := by
      change ¬ InPackage l.planner.package _
      rw [hpackage]
      exact (houtside _ he).2
    rw [Planner.isCurrent_fileToModule (houtside _ he).1 hnot]
    exact hown (n, other) he hget
  libraries leaf module symbol hleaf := by
    obtain ⟨hdot, hmark⟩ := leafImport?_free hleaf
    exact Planner.isCurrent_of_free hdot hmark hslash

/-- the file of a model takes for itself that model -/
theorem within_model (houtside : Outside api config) (hkeys : (Keyed.keys (pathsOf api config)).Nodup) {l : Linking}
    (hpackage : l.planner.package = config.package) (hpaths : l.paths = pathsOf api config) :
    ∀ e ∈ pathsOf api config, (l.begin e.2).Within (some e.1) := by
  intro e he
  obtain ⟨stem, -, hpath⟩ := modelPaths_stem _ _ he
  refine within_begin houtside hpackage hpaths (hpath ▸ slash_mem_inDirectory _ _) fun e' he' hget => ⟨fun h => ?_, ?_⟩
  · rw [List.inj_on_of_nodup_map (nodup_modelPaths api.table config.layout) he' he h]
  · intro h
    have hfound := Keyed.get?_of_mem hkeys he
    rw [Option.some.inj h, hget] at hfound
    exact Option.some.inj hfound

/-- the file of a group takes no model for itself -/
theorem within_endpoint (houtside : Outside api config) (hdirs : config.layout.modelsDir ≠ config.layout.endpointsDir)
    (hgroups : ∀ g ∈ api.groups config.layout.splitBy, g.name.IsMade) {l : Linking}
    (hpackage : l.planner.package = config.package) (hpaths : l.paths = pathsOf api config) :
    ∀ e ∈ groupsOf api config, (l.begin e.2.2).Within none := by
  intro e he
  have hmem := groupsOf_path api config he
  obtain ⟨stem, -, hpath⟩ := endpointPaths_stem _ hgroups hmem
  refine within_begin houtside hpackage hpaths (hpath ▸ slash_mem_inDirectory _ _) fun e' he' _ => ⟨fun h => ?_, ?_⟩
  · exact absurd h (modelPath_ne_endpointPath _ hgroups hdirs he' hmem)
  · rintro ⟨⟩

variable (d naming limit config) in
/-- **Files of models are linked** when the models were, and no file at another path has changed. -/
theorem modelsOf_linked (hkeys : (Api.source d naming limit).components.keys.Nodup)
    (houtside : Outside (Api.ofDocument d naming limit).1 config) :
    let api := (Api.ofDocument d naming limit).1
    Linking.Moves ((pathsOf api config).map (·.2)) (startOf api config) (modelsOf api config).2 ∧
      ∀ f ∈ (modelsOf api config).1, f.typeName = ClientPlan.typeName f.schema ∧
        (f.schema, f.path) ∈ pathsOf api config ∧
        Linked (pathsOf api config) (some f.schema) (mentioned f.descriptors) (scalars f.descriptors) f.imports.bindings
          ((modelsOf api config).2.planner.file f.path) := by
  intro api
  have htable : Keyed.keys (pathsOf api config) = Keyed.keys api.table := keys_modelPaths _ _
  have hentries : ∀ e ∈ pathsOf api config, e.1 ∈ Keyed.keys api.table := fun e he =>
    htable ▸ List.mem_map_of_mem he
  have hfiles := @linkModels_files api.table (startOf api config) _ hentries
  obtain ⟨hmoves, hall⟩ := @linkModels_linked api.table (startOf api config) (pathsOf api config) hentries
    (nodup_modelPaths _ _) (fun _ _ => rfl)
    (within_model houtside (htable ▸ nodup_table hkeys) rfl rfl)
    (fun e _ m hm ty hty n hn => htable ▸ modelFile_names hm ty hty n hn)
  refine ⟨hmoves, fun f hf => ?_⟩
  refine ⟨?_, ?_, hall f hf⟩
  · obtain ⟨m, -, hmade⟩ := linkModels_made f hf
    rw [hmade]
    rfl
  · have hmem : (f.schema, f.path) ∈ (modelsOf api config).1.map fun f => (f.schema, f.path) :=
      List.mem_map_of_mem hf
    rwa [modelsOf, hfiles] at hmem

variable (d naming limit config) in
/-- **Files of groups are linked** at the end, and no file at another path has changed since the models were linked. -/
theorem endpointsOf_linked (hkeys : (Api.source d naming limit).components.keys.Nodup)
    (houtside : Outside (Api.ofDocument d naming limit).1 config)
    (hdirs : config.layout.modelsDir ≠ config.layout.endpointsDir) :
    let api := (Api.ofDocument d naming limit).1
    Linking.Moves (endpointPaths (api.groups config.layout.splitBy) config.layout) (modelsOf api config).2
        (endpointsOf api config).2 ∧
      ∀ f ∈ (endpointsOf api config).1,
        Linked (pathsOf api config) none (mentioned f.descriptors) (scalars f.descriptors) f.imports.bindings
          ((endpointsOf api config).2.planner.file f.path) := by
  intro api
  have hgroups := Api.groups_names d naming limit config.layout.splitBy
  have htable : Keyed.keys (pathsOf api config) = Keyed.keys api.table := keys_modelPaths _ _
  have hmoves := (modelsOf_linked d naming limit config hkeys houtside).1
  -- linking the models has touched no file of a group, whose path is in another directory
  have hfresh : ∀ e ∈ groupsOf api config, (modelsOf api config).2.planner.file e.2.2 = {} := fun e he => by
    refine (hmoves.files e.2.2 fun hmem => ?_).trans rfl
    obtain ⟨e', he', heq⟩ := List.mem_map.1 hmem
    exact modelPath_ne_endpointPath _ hgroups hdirs he' (groupsOf_path _ _ he) heq
  have hlinked := @linkEndpoints_linked api config.envelope (modelsOf api config).2 (groupsOf api config)
    (by rw [paths_groupsOf]; exact nodup_endpointPaths _ hgroups) hfresh
    (within_endpoint houtside hdirs hgroups hmoves.package hmoves.paths)
    (fun e _ m hm ty hty n hn => by
      obtain ⟨⟨i, name⟩, -, hop⟩ := List.mem_filterMap.1 hm
      obtain ⟨op, hfound, rfl⟩ := Option.map_eq_some_iff.1 hop
      have hname := methodOf_names (List.mem_of_getElem? hfound) config.envelope i name ty hty n hn
      rw [hmoves.paths]
      exact htable ▸ hname)
  rw [paths_groupsOf, hmoves.paths] at hlinked
  exact hlinked

/-- **Exact imports.** Let the directories of models and endpoints differ, and let no module of a model be the package
or lie in it. Then every planned file binds exactly the models that its types mention, each to an identifier of its own:
its own model to the name that it declares, and any other to the name of the one requirement that stands for it. Nothing
else is required but the library symbols of the scalar types, and nothing twice. -/
theorem bindings_exact (hkeys : (Api.source d naming limit).components.keys.Nodup)
    (hmodels : IsPath config.layout.modelsDir) (hdirs : config.layout.modelsDir ≠ config.layout.endpointsDir)
    (hpackage : ∀ f ∈ (ofApi (Api.ofDocument d naming limit).1 config).1.models,
      ¬ InPackage config.package (fileToModule f.path)) :
    let plan := (ofApi (Api.ofDocument d naming limit).1 config).1
    (∀ f ∈ plan.models, Exact plan (some f) f.descriptors f.imports) ∧
      ∀ f ∈ plan.endpoints, Exact plan none f.descriptors f.imports := by
  intro plan
  let api := (Api.ofDocument d naming limit).1
  have houtside := outside_of_plan hmodels hpackage
  have hgroups := Api.groups_names d naming limit config.layout.splitBy
  obtain ⟨-, hmodelFiles⟩ := modelsOf_linked d naming limit config hkeys houtside
  obtain ⟨hmoves, hendpointFiles⟩ := endpointsOf_linked d naming limit config hkeys houtside hdirs
  have hinjective := originIn_injective api config
  constructor
  · intro f hf
    obtain ⟨g, hg, rfl⟩ := List.mem_map.1 hf
    obtain ⟨htype, hpath, hlinked⟩ := hmodelFiles g hg
    have hkept : (endpointsOf api config).2.planner.file g.path = (modelsOf api config).2.planner.file g.path :=
      hmoves.files _ fun hmem => modelPath_ne_endpointPath _ hgroups hdirs hpath hmem rfl
    rw [← hkept] at hlinked
    exact Linked.exact hlinked rfl (origin?_ofApi api config) (fun _ h => Option.some.inj h ▸ htype) hinjective
  · intro f hf
    obtain ⟨g, hg, rfl⟩ := List.mem_map.1 hf
    exact Linked.exact (hendpointFiles g hg) rfl (origin?_ofApi api config) (fun _ h => by cases h) hinjective

end OfDocument

/-! ## The shop -/

/-- an owner, who has a name -/
def ownerSchema : SchemaNode :=
  .schema { types := some (.one .object), properties := [("name", .schema { types := some (.one .string) })] }

def ownerModel : Model :=
  { Model.of (.object [("name", .scalar .string)] [] none) with name := some "Owner" }

/-- the kind of a pet; its type has the name of the pet's type -/
def kindSchema : SchemaNode :=
  .schema { types := some (.one .string) }

def kindModel : Model :=
  { Model.scalar .string with name := some "pet" }

def timeSchema : SchemaNode :=
  .schema { types := some (.one .string), format := some "date-time" }

def timeModel : Model :=
  { Model.scalar .string with format := some "date-time" }

/-- a pet for sale, with the time of its birth, its owner and its kind -/
def shopPetSchema : SchemaNode :=
  .schema {
    types := some (.one .object)
    properties := [("born", timeSchema), ("owner", .ref "#/components/schemas/Owner"),
      ("kind", .ref "#/components/schemas/pet")] }

def shopPetModel : Model :=
  { Model.of (.object [("born", timeModel), ("owner", .reference "Owner"), ("kind", .reference "pet")] [] none) with
    name := some "Pet" }

/-- find a pet that was born since a time -/
def findSchema : Document.Operation where
  operationId := some "findPet"
  tags := ["pets"]
  parameters := [.inline { name := "since", location := .query, schema := some timeSchema }]
  responses := [("200", .inline { content := [(jsonMediaType, { schema := some (.ref "#/components/schemas/Pet") })] })]

def findPet : Api.Operation where
  operationId := "findPet"
  name := Name.of "findPet"
  method := .get
  path := "/pets"
  summary := none
  description := none
  tags := ["pets"]
  parameters := [⟨Name.of "since", .query, timeModel, false, none⟩]
  body := none
  responses := [⟨"200", none, some jsonMediaType, some (.reference "Pet"), false⟩]
  deprecated := false

def shopDocument : Document where
  paths := [("/pets", { get := some findSchema })]
  components := some { schemas := [("Owner", ownerSchema), ("pet", kindSchema), ("Pet", shopPetSchema)] }

/-- the API of that document -/
def shopApi : Api where
  info := shopDocument.info
  servers := shopDocument.servers
  table := [("Owner", ownerModel), ("pet", kindModel), ("Pet", shopPetModel)]
  operations := [findPet]
  modules := [⟨Name.of "pets", [0]⟩]
  diagnostics := []

/-- the operation is built where the pet stands in the table -/
theorem run_findSchema {b : Build} (h : Keyed.has b.table "Pet" = true) :
    ((Api.setting shopDocument {} 100).operation "/pets" [] .get findSchema).run b = (findPet, b) := by
  let st := Api.setting shopDocument {} 100
  have hid : ∀ route, findSchema.operationId.getD route = "findPet" := fun _ => rfl
  have hshared : ∀ context, (st.parameters context []).run b = ([], b) := fun _ => rfl
  have hparameters : ∀ context, (st.parameters context findSchema.parameters).run b =
      ([⟨Name.of "since", .query, timeModel, false, none⟩], b) := fun _ => rfl
  have hbody : ∀ context, (st.body? context findSchema.requestBody).run b = (none, b) := fun _ => rfl
  have hresponses : ∀ context success, (st.responses context success 0 findSchema.responses).run b =
      ([⟨"200", none, some jsonMediaType, some (.reference "Pet"), false⟩], b) := by
    intro context success
    have hrun : (st.responses context success 0 findSchema.responses).run b =
        ([⟨"200", none, some jsonMediaType, some (.reference "Pet"), false⟩],
          ((st.source.component [] "Pet").run b).2) := rfl
    rw [hrun, Source.run_component_known h]
  have hparts := st.run_operation "/pets" [] .get findSchema b
  simp only [hid, hshared, hparameters, hbody, hresponses] at hparts
  exact hparts

theorem run_shopPaths {b : Build} (h : Keyed.has b.table "Pet" = true) :
    ((Api.setting shopDocument {} 100).operations shopDocument.paths).run b = ([findPet], b) := by
  change (((Api.setting shopDocument {} 100).operation "/pets" [] .get findSchema).run b).map (fun op => [op]) id = _
  rw [run_findSchema h]
  rfl

/-- each component is built in its turn, and then the operation -/
theorem ofDocument_shopDocument : (Api.ofDocument shopDocument {} 100).1 = shopApi := by
  let st := Api.setting shopDocument {} 100
  let src := Api.source shopDocument {} 100
  let owned : Build := src.start.entered "Owner" ownerModel
  let kinds : Build := owned.entered "pet" kindModel
  let done : Build := kinds.entered "Pet" shopPetModel
  have howner : (src.component [] "Owner").run src.start = (true, owned) := by
    rw [Source.run_component_new List.not_mem_nil (by decide) rfl]
    rfl
  have hkind : (src.component [] "pet").run owned = (true, kinds) := by
    rw [Source.run_component_new List.not_mem_nil (by decide) rfl]
    rfl
  have hpet : (src.component [] "Pet").run kinds = (true, done) := by
    have hroot : (src.root ["Pet"] (typeName "Pet") shopPetSchema).run kinds = ({ shopPetModel with name := none },
        ((src.component ["Pet"] "pet").run ((src.component ["Pet"] "Owner").run kinds).2).2) := rfl
    have howned : (src.component ["Pet"] "Owner").run kinds = (true, kinds) := Source.run_component_known (by decide)
    have hkinds : (src.component ["Pet"] "pet").run kinds = (true, kinds) := Source.run_component_known (by decide)
    rw [Source.run_component_new List.not_mem_nil (by decide) rfl, hroot, howned, hkinds]
    rfl
  have hcomponents : (src.parseComponents.run src.start).2 = done := by
    change ((src.component [] "Pet").run ((src.component [] "pet").run ((src.component [] "Owner").run src.start).2).2).2
      = _
    rw [howner, hkind, hpet]
  have hoperations : (st.operations shopDocument.paths).run done = ([findPet], done) := run_shopPaths (by decide)
  rw [Api.ofDocument_of_run hcomponents hoperations, Api.groupsByTag_of_groupsBy rfl]
  rfl

/-- settings with a package, and with directories of their own -/
def shopConfig : Config where
  package := "shop"
  layout := { modelsDir := "api/models", endpointsDir := "api/endpoints" }

/-- The file of the pet knows itself by its own type, the owner by the owner's type, and the kind, whose type has the
same name as its own, by a longer name; the file of the group knows the pet. Both require the library symbol of a
time. -/
theorem bindings_exact_shop :
    let plan := (ofApi (Api.ofDocument shopDocument {} 100).1 shopConfig).1
    let time : Requirement := ⟨"datetime", "datetime", none⟩
    (Api.source shopDocument {} 100).components.keys.Nodup ∧ IsPath shopConfig.layout.modelsDir ∧
      shopConfig.layout.modelsDir ≠ shopConfig.layout.endpointsDir ∧
      (∀ f ∈ plan.models, ¬ InPackage shopConfig.package (fileToModule f.path)) ∧
      (∃ f ∈ plan.models, Exact plan (some f) f.descriptors f.imports ∧
        f.imports.bindings = [("Pet", "Pet"), ("Owner", "Owner"), ("pet", "PetPet")] ∧
        f.imports.requirements =
          [time, ⟨"api.models.owner", "Owner", none⟩, ⟨"api.models.pet", "Pet", some "PetPet"⟩]) ∧
      ∃ f ∈ plan.endpoints, Exact plan none f.descriptors f.imports ∧
        f.imports.bindings = [("Pet", "Pet")] ∧ f.imports.requirements = [time, ⟨"api.models.pet_2", "Pet", none⟩] := by
  intro plan time
  have hplan : plan = (ofApi shopApi shopConfig).1 := by
    rw [← ofDocument_shopDocument]
  have hkeys : (Api.source shopDocument {} 100).components.keys.Nodup := by decide
  have hmodels : IsPath shopConfig.layout.modelsDir := by decide
  have hdirs : shopConfig.layout.modelsDir ≠ shopConfig.layout.endpointsDir := by decide
  have hpackage : ∀ f ∈ plan.models, ¬ InPackage shopConfig.package (fileToModule f.path) := by
    rw [hplan]
    decide
  obtain ⟨hmodelFiles, hendpointFiles⟩ := @bindings_exact shopDocument {} 100 shopConfig hkeys hmodels hdirs hpackage
  obtain ⟨f, hf, hpet⟩ : ∃ f ∈ plan.models,
      f.imports.bindings = [("Pet", "Pet"), ("Owner", "Owner"), ("pet", "PetPet")] ∧ f.imports.requirements =
        [time, ⟨"api.models.owner", "Owner", none⟩, ⟨"api.models.pet", "Pet", some "PetPet"⟩] := by
    rw [hplan]
    decide +kernel
  obtain ⟨g, hg, hpets⟩ : ∃ f ∈ plan.endpoints, f.imports.bindings = [("Pet", "Pet")] ∧
      f.imports.requirements = [time, ⟨"api.models.pet_2", "Pet", none⟩] := by
    rw [hplan]
    decide +kernel
  exact ⟨hkeys, hmodels, hdirs, hpackage, ⟨f, hf, hmodelFiles f hf, hpet⟩, g, hg, hendpointFiles g hg, hpets⟩

end ClientPlan.Plan
