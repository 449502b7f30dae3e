/-
The model of a file in the imports of that file. A file that knows its module for its own requires nothing for its
model and knows it by the type that it declares; any other file imports its own model like a stranger's
(`own_model_iff`). A file knows itself if its path is made of segments and its module lies outside the package: whether
it does is found out by a walk from the path to the module and back, which loses empty segments and cuts off the package.
-/
import ClientPlan.Proofs.Plan.Requests

namespace ClientPlan

namespace Imports.Tree

/-- the module of a file is not taken for another file exactly if the way back from the module leads to the path -/
theorem foreign_fileToModule_iff {tree : Tree} {package path : String} (hne : path ≠ "") :
    tree.Foreign package path (fileToModule path) ↔ ¬ (IsPath path ∧ ¬ InPackage package (fileToModule path)) := by
  constructor
  · rintro hforeign ⟨hpath, hpackage⟩
    refine hforeign ?_
    rcases @inside?_of_not_inPackage tree _ _ hpackage with hinside | hinside <;> rw [hinside] <;>
      exact moduleToFile_fileToModule hpath
  · intro hnot hfile
    have hslash : '/' ∉ ((tree.inside? package (fileToModule path)).getD (fileToModule path)).toList := by
      intro hmem
      cases hinside : tree.inside? package (fileToModule path) with
      | none =>
        rw [hinside] at hmem
        exact slash_notMem_fileToModule path hmem
      | some inner =>
        rw [hinside] at hmem
        exact slash_notMem_fileToModule path (mem_of_mem_inside? hinside hmem)
    have hpath : IsPath path := by
      rw [← hfile]
      exact isPath_moduleToFile hslash (by rwa [hfile])
    refine hnot ⟨hpath, fun hpackage => ?_⟩
    obtain ⟨inner, hinside, hother⟩ := @Plan.inside?_ne_of_inPackage tree _ _ hpath hpackage
    rw [hinside] at hfile
    exact hother hfile

end Imports.Tree

namespace Plan

open Imports

namespace Linking

variable {l : Linking} {own path : String}

/-- the present file may have bound the model `own`: to the type that it declares exactly if the file of the model,
which is at `path`, is the present file -/
structure BindsOwn (own path : String) (l : Linking) : Prop where
  planned : Keyed.get? l.paths own = some path
  proper : l.file.Proper [ClientPlan.typeName own]
  bound : ∀ s, Keyed.get? l.bindings own = some s →
    (s = ClientPlan.typeName own ↔ l.planner.isCurrent (fileToModule path) = true)

namespace BindsOwn

/-- an import leaves the declared name to the file -/
theorem proper_add (h : BindsOwn own path l) (module symbol : String) (bindings : Keyed String) :
    (file { l with planner := (l.planner.add module symbol none).2, bindings := bindings }).Proper
      [ClientPlan.typeName own] := by
  cases hcurrent : l.planner.isCurrent module with
  | true =>
    rw [Planner.add_current _ _ hcurrent]
    exact h.proper
  | false =>
    rw [file_add hcurrent]
    exact h.proper.add _ _ _

/-- a model is told by its type in its own file, and in any other file never by the name that is declared there -/
theorem add_bound (h : BindsOwn own path l) :
    (l.planner.add (fileToModule path) (ClientPlan.typeName own) none).1 = ClientPlan.typeName own ↔
      l.planner.isCurrent (fileToModule path) = true := by
  cases hcurrent : l.planner.isCurrent (fileToModule path) with
  | true =>
    rw [Planner.add_current _ _ hcurrent]
    simp
  | false =>
    have hproper := h.proper.add (fileToModule path) (ClientPlan.typeName own) none
    obtain ⟨r, hr, -, hbound⟩ := @File.add_bound l.file (fileToModule path) (ClientPlan.typeName own) none
    rw [(Planner.add_other _ none hcurrent).1, ← file, ← hbound]
    simpa using (hproper.declared _ (List.mem_singleton_self _)).2 r hr

theorem linkName (h : BindsOwn own path l) (name : String) : BindsOwn own path (l.linkName name) := by
  cases hother : Keyed.get? l.paths name with
  | none => rwa [linkName_of_none hother]
  | some other =>
    have hstays := @stays_add l (fileToModule other) (ClientPlan.typeName name)
      (bindNew l.bindings name (l.planner.add (fileToModule other) (ClientPlan.typeName name) none).1)
    rw [linkName_of_path hother]
    refine ⟨h.planned, h.proper_add _ _ _, fun s hs => ?_⟩
    rw [Planner.isCurrent_congr hstays.tree hstays.package hstays.current]
    rcases get?_bindNew hs with hold | ⟨rfl, rfl⟩
    · exact h.bound s hold
    · rw [Option.some.inj (hother.symm.trans h.planned)]
      exact h.add_bound

theorem linkLeaf (h : BindsOwn own path l) (leaf : Leaf) : BindsOwn own path (l.linkLeaf leaf) := by
  cases hleaf : leafImport? leaf with
  | none => rwa [linkLeaf_of_none hleaf]
  | some key =>
    have hstays := @stays_add l key.1 key.2 l.bindings
    rw [linkLeaf_of_import hleaf]
    refine ⟨h.planned, h.proper_add _ _ _, fun s hs => ?_⟩
    rw [Planner.isCurrent_congr hstays.tree hstays.package hstays.current]
    exact h.bound s hs

theorem linkAll (h : BindsOwn own path l) (ds : List Descriptor) : BindsOwn own path (l.linkAll ds) := by
  refine List.foldlRecOn ds Linking.link h fun l h d _ => ?_
  have hnames := List.foldlRecOn d.names Linking.linkName h fun _ h name _ => linkName h name
  exact List.foldlRecOn d.leaves Linking.linkLeaf hnames fun _ h leaf _ => linkLeaf h leaf

end BindsOwn

/-- a file that declares its model and has not imported anything has bound nothing -/
theorem beginDeclaring_bindsOwn (hfresh : l.planner.file path = {}) (hplanned : Keyed.get? l.paths own = some path) :
    BindsOwn own path (l.beginDeclaring path (ClientPlan.typeName own)) :=
  ⟨hplanned, (beginDeclaring_linked hfresh).proper, fun s hs => by cases hs⟩

end Linking

open Linking

/-- **Bindings of own models.** A file binds its own model to the type that it declares exactly if it takes the module
of its path for its own. -/
theorem linkModels_bindsOwn {t : Table} {l : Linking} {rest : List (String × String)}
    (hplanned : ∀ e ∈ rest, Keyed.get? l.paths e.1 = some e.2) (hpaths : (rest.map (·.2)).Nodup)
    (hfresh : ∀ e ∈ rest, l.planner.file e.2 = {}) :
    ∀ f ∈ (linkModels t l rest).1, ∀ s, Keyed.get? f.imports.bindings f.schema = some s →
      (s = f.typeName ↔ ¬ l.planner.tree.Foreign l.planner.package f.path (fileToModule f.path)) := by
  induction rest generalizing l with
  | nil => exact fun f hf => by cases hf
  | cons e rest ih =>
    obtain ⟨name, path⟩ := e
    obtain ⟨hnew, hdistinct⟩ := List.nodup_cons.1 hpaths
    cases hm : Keyed.get? t name with
    | none =>
      rw [linkModels_skip hm]
      exact ih (fun e he => hplanned e (List.mem_cons_of_mem _ he)) hdistinct
        fun e he => hfresh e (List.mem_cons_of_mem _ he)
    | some m =>
      let f := modelFile t name path m
      have hbegun := beginDeclaring_bindsOwn (hfresh _ List.mem_cons_self) (hplanned _ List.mem_cons_self)
      have hlinked : BindsOwn name path (linkModel l f) := hbegun.linkAll f.descriptors
      have hstays := (linkAll_collects (l.beginDeclaring path f.typeName) f.descriptors).stays
      have hmoves : Moves _ l (linkModel l f) := (l.beginDeclaring_moves path f.typeName).trans hstays.moves
      have hcurrent : (linkModel l f).planner.current = path := hstays.current
      rw [linkModels_cons hm]
      intro g hg
      rcases List.mem_cons.1 hg with rfl | hg
      · intro s hs
        refine (hlinked.bound s hs).trans ?_
        rw [← Bool.not_eq_false, Planner.isCurrent_eq_false_iff, hmoves.tree, hmoves.package, hcurrent]
        rfl
      · have hother : ∀ e ∈ rest, e.2 ∉ [path] ++ [path] := fun e he hmem =>
          hnew (List.mem_map.2 ⟨e, he, by simpa using hmem⟩)
        have hrest := @ih (linkModel l f) (fun e he => hmoves.paths ▸ hplanned e (List.mem_cons_of_mem _ he)) hdistinct
          (fun e he => (hmoves.files _ (hother e he)).trans (hfresh e (List.mem_cons_of_mem _ he))) g hg
        rwa [hmoves.tree, hmoves.package] at hrest

/-! ## The model of a planned file -/

/-- the file of a model knows its module for its own: the directory of models is made of segments, and the module lies
outside the package -/
def ModelFile.KnowsItself (f : ModelFile) (config : Config) : Prop :=
  IsPath config.layout.modelsDir ∧ ¬ InPackage config.package (fileToModule f.path)

instance (f : ModelFile) (config : Config) : Decidable (f.KnowsItself config) :=
  inferInstanceAs (Decidable (_ ∧ _))

section OfApi

variable {api : Api} {config : Config} {f : ModelFile}

/-- a file knows itself exactly if its module is not taken for that of another file -/
theorem foreign_model_iff (hf : f ∈ (ofApi api config).1.models) (tree : Tree) :
    tree.Foreign config.package f.path (fileToModule f.path) ↔ ¬ f.KnowsItself config := by
  obtain ⟨stem, hstem, hpath⟩ := modelPaths_stem _ _ (mem_pathsOf hf)
  have hpath : f.path = inDirectory config.layout.modelsDir stem := hpath
  have hslash := slash_mem_inDirectory config.layout.modelsDir stem
  have hne : f.path ≠ "" := fun hempty => by
    rw [← hpath, hempty] at hslash
    cases hslash
  have hdirectory : IsPath f.path ↔ IsPath config.layout.modelsDir := by
    rw [hpath]
    exact isPath_inDirectory_iff hstem
  rw [Tree.foreign_fileToModule_iff hne, hdirectory, ModelFile.KnowsItself]

theorem get?_pathsOf (hkeys : (Keyed.keys api.table).Nodup) :
    ∀ e ∈ pathsOf api config, Keyed.get? (pathsOf api config) e.1 = some e.2 := by
  have hnodup : (Keyed.keys (pathsOf api config)).Nodup := (keys_modelPaths _ _).symm ▸ hkeys
  exact fun e he => Keyed.get?_of_mem hnodup he

theorem origin?_model (hkeys : (Keyed.keys api.table).Nodup) (hf : f ∈ (ofApi api config).1.models) :
    (ofApi api config).1.origin? f.schema = some (fileToModule f.path, ClientPlan.typeName f.schema) := by
  rw [origin?_ofApi, originIn, get?_pathsOf hkeys _ (mem_pathsOf hf)]
  rfl

/-- what is needed for a model is needed for a mention of it, or by chance for a library symbol -/
theorem needs_model_iff {ty : Descriptor} {key : String × String}
    (horigin : (ofApi api config).1.origin? f.schema = some key) :
    (ofApi api config).1.Needs ty key ↔ ty.Mentions f.schema ∨
      ∃ leaf, Descriptor.Inside (.leaf leaf) ty ∧ leafImport? leaf = (ofApi api config).1.origin? f.schema := by
  rw [Needs, horigin]
  refine or_congr_left ⟨?_, fun h => ⟨f.schema, h, horigin⟩⟩
  rintro ⟨n, hmention, hn⟩
  rw [origin?_ofApi] at hn horigin
  rwa [originIn_injective api config f.schema n key horigin hn]

/-- **Requirements for own models.** A file requires what stands for its own model exactly if it does not know itself
and a type at its path needs that. -/
theorem requires_own_iff (hkeys : (Keyed.keys api.table).Nodup) (hf : f ∈ (ofApi api config).1.models) :
    (∃ r ∈ f.imports.requirements, (ofApi api config).1.origin? f.schema = some r.origin) ↔
      ¬ f.KnowsItself config ∧ ∃ ty, (ofApi api config).1.HasType f.path ty ∧ (ty.Mentions f.schema ∨
        ∃ leaf, Descriptor.Inside (.leaf leaf) ty ∧ leafImport? leaf = (ofApi api config).1.origin? f.schema) := by
  have horigin := origin?_model hkeys hf
  have he : (f.path, f.imports) ∈ (ofApi api config).1.files := List.mem_append_left _ (List.mem_map_of_mem hf)
  calc (∃ r ∈ f.imports.requirements, (ofApi api config).1.origin? f.schema = some r.origin)
    _ ↔ (fileToModule f.path, ClientPlan.typeName f.schema) ∈ f.imports.requirements.map Requirement.origin := by
      simp [horigin, eq_comm]
    _ ↔ _ := mem_requirements_iff he _
    _ ↔ _ := by simp only [foreign_model_iff hf, needs_model_iff horigin, and_comm]

theorem binds_own_iff (hkeys : (Keyed.keys api.table).Nodup) (hf : f ∈ (ofApi api config).1.models) {s : String}
    (hs : Keyed.get? f.imports.bindings f.schema = some s) : s = f.typeName ↔ f.KnowsItself config := by
  refine Iff.trans ?_ (iff_not_comm.1 (foreign_model_iff hf (startOf api config).planner.tree)).symm
  obtain ⟨g, hg, rfl⟩ := List.mem_map.1 hf
  exact @linkModels_bindsOwn api.table (startOf api config) (pathsOf api config)
    (get?_pathsOf hkeys) (nodup_modelPaths _ _) (fun _ _ => rfl) g hg s hs

end OfApi

/-- **The own model of a file.** The file of a model requires what stands for its model exactly if it does not know
itself and a type at its path mentions the model, or has a scalar type with a library symbol that is spelled the same.
If it binds the model, then to the type that it declares exactly if it knows itself. -/
theorem own_model_iff (d : Document) (naming : Config.Naming) (limit : Nat) (config : Config)
    (hkeys : (Api.source d naming limit).components.keys.Nodup) :
    let plan := (ofApi (Api.ofDocument d naming limit).1 config).1
    ∀ f ∈ plan.models,
      ((∃ r ∈ f.imports.requirements, plan.origin? f.schema = some r.origin) ↔
        ¬ f.KnowsItself config ∧ ∃ ty, plan.HasType f.path ty ∧ (ty.Mentions f.schema ∨
          ∃ leaf, Descriptor.Inside (.leaf leaf) ty ∧ leafImport? leaf = plan.origin? f.schema)) ∧
      ∀ s, Keyed.get? f.imports.bindings f.schema = some s → (s = f.typeName ↔ f.KnowsItself config) := by
  intro plan f hf
  have htable := nodup_table hkeys
  exact ⟨requires_own_iff htable hf, fun s hs => binds_own_iff htable hf hs⟩

/-- under the usual settings the file of the owner, whose type mentions the owner, requires nothing for the owner, and
knows it by its type -/
theorem own_model_iff_owner :
    (Api.source petDocument {} 100).components.keys.Nodup ∧
      ∃ f ∈ (petPlan "client").models, f.schema = "Owner" ∧ f.KnowsItself { package := "client" } ∧
        f.definition.Mentions "Owner" ∧
        (¬ ∃ r ∈ f.imports.requirements, (petPlan "client").origin? "Owner" = some r.origin) ∧
          Keyed.get? f.imports.bindings "Owner" = some "Owner" := by
  have hkeys : (Api.source petDocument {} 100).components.keys.Nodup := by decide
  have hplan : ∃ f ∈ (petPlan "client").models, f.schema = "Owner" ∧ f.typeName = "Owner" ∧ f.path = "models/owner" ∧
      f.definition = .named "Owner" ∧ (Keyed.get? f.imports.bindings "Owner").isSome := by
    unfold petPlan
    rw [ofDocument_petDocument]
    decide
  obtain ⟨f, hf, hschema, htype, hpath, hdefinition, hbound⟩ := hplan
  obtain ⟨hrequires, hbinds⟩ := own_model_iff petDocument {} 100 { package := "client" } hkeys f hf
  have hknows : f.KnowsItself { package := "client" } := by
    rw [ModelFile.KnowsItself, hpath]
    decide
  obtain ⟨s, hs⟩ := Option.isSome_iff_exists.1 hbound
  rw [hschema] at hrequires hbinds
  refine ⟨hkeys, f, hf, hschema, hknows, ?_, fun h => (hrequires.1 h).1 hknows, ?_⟩
  · rw [hdefinition]
    simp
  · rw [hs, (hbinds s hs).2 hknows, htype]

/-- with a slash too many in the directory of models, the file of the owner imports the owner under another name -/
theorem owner_imports_itself :
    let plan := (ofApi (Api.ofDocument petDocument {} 100).1 { layout := { modelsDir := "models/" } }).1
    ∃ f ∈ plan.models, f.schema = "Owner" ∧ f.typeName = "Owner" ∧ f.path = "models//owner" ∧
      (∃ r ∈ f.imports.requirements, plan.origin? "Owner" = some r.origin ∧ r.bound = "OwnerOwner") ∧
        Keyed.get? f.imports.bindings "Owner" = some "OwnerOwner" := by
  rw [ofDocument_petDocument]
  decide

end Plan

end ClientPlan
