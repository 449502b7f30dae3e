/-
What planned files require, whatever the layout and the package are. A file requires what its types need, unless that
is from the file itself; files at one path require it together (`mem_requirements_iff`). One request is followed through
the present file (`Collects`), and from there through all files in the order in which they are linked (`Gathers`).
-/
import ClientPlan.Proofs.Plan.Printed

namespace ClientPlan.Plan

open Imports

/-- a type needs what stands for the models that it mentions, and the library symbols of its scalar types -/
def needs (paths : Keyed String) (ty : Descriptor) : List (String × String) :=
  ty.names.filterMap (originIn paths) ++ ty.leaves.filterMap leafImport?

theorem mem_needs {paths : Keyed String} {ty : Descriptor} {key : String × String} : key ∈ needs paths ty ↔
    (∃ n, ty.Mentions n ∧ originIn paths n = some key) ∨
      ∃ leaf, Descriptor.Inside (.leaf leaf) ty ∧ leafImport? leaf = some key := by
  simp [needs, Descriptor.mem_names, Descriptor.mem_leaves]

namespace Linking

variable {l l' l'' : Linking} {keys keys' : List (String × String)}

/-! ## Requests of one file -/

/-- the present file requires, besides what it did, those of the keys that are not from itself -/
structure Collects (l l' : Linking) (keys : List (String × String)) : Prop where
  stays : l.Stays l'
  origins : ∀ key, key ∈ l'.file.origins ↔
    key ∈ l.file.origins ∨ key ∈ keys ∧ l.planner.tree.Foreign l.planner.package l.planner.current key.1

theorem Collects.refl (l : Linking) : Collects l l [] :=
  ⟨.refl l, fun key => by simp⟩

theorem Collects.trans (h : Collects l l' keys) (h' : Collects l' l'' keys') : Collects l l'' (keys ++ keys') := by
  refine ⟨h.stays.trans h'.stays, fun key => ?_⟩
  rw [h'.origins, h.origins, h.stays.tree, h.stays.package, h.stays.current, List.mem_append]
  tauto

/-- a notice asks for nothing -/
theorem notice_collects (l : Linking) (n : Notice) : Collects l (l.notice n) [] :=
  ⟨⟨rfl, rfl, rfl, rfl, fun _ _ => rfl⟩, fun key => by simp [notice, file, Planner.file]⟩

/-- a symbol that is asked for is required unless it is from the present file -/
theorem add_collects (l : Linking) (module symbol : String) (bindings : Keyed String) :
    Collects l { l with planner := (l.planner.add module symbol none).2, bindings := bindings }
      [(module, symbol)] := by
  refine ⟨stays_add _ _ _, fun key => ?_⟩
  rw [List.mem_singleton]
  cases h : l.planner.isCurrent module with
  | true =>
    have hnot : ¬ l.planner.tree.Foreign l.planner.package l.planner.current module := by
      simp [← Planner.isCurrent_eq_false_iff, h]
    rw [Planner.add_current _ _ h]
    refine ⟨Or.inl, Or.rec id ?_⟩
    rintro ⟨rfl, hforeign⟩
    exact absurd hforeign hnot
  | false =>
    have hforeign := Planner.isCurrent_eq_false_iff.1 h
    rw [file_add h, File.mem_origins_add]
    refine or_congr_right ⟨?_, fun hkey => hkey.1⟩
    rintro rfl
    exact ⟨rfl, hforeign⟩

theorem linkName_collects (l : Linking) (name : String) :
    Collects l (l.linkName name) (originIn l.paths name).toList := by
  cases hpath : Keyed.get? l.paths name with
  | none =>
    rw [linkName_of_none hpath, originIn, hpath]
    exact .refl l
  | some path =>
    have horigin : originIn l.paths name = some (fileToModule path, ClientPlan.typeName name) := by
      rw [originIn, hpath]
      rfl
    rw [linkName_of_path hpath, horigin]
    exact add_collects l _ _ _

theorem linkLeaf_collects (l : Linking) (leaf : Leaf) : Collects l (l.linkLeaf leaf) (leafImport? leaf).toList := by
  cases hleaf : leafImport? leaf with
  | none =>
    rw [linkLeaf_of_none hleaf]
    exact .refl l
  | some key =>
    rw [linkLeaf_of_import hleaf]
    exact add_collects l key.1 key.2 l.bindings

/-- requests in a row collect what each of them asks for -/
theorem foldl_collects {α : Type} {use : Linking → α → Linking} (keys : Keyed String → α → List (String × String))
    (huse : ∀ l a, Collects l (use l a) (keys l.paths a)) (l : Linking) (as : List α) :
    Collects l (as.foldl use l) (as.flatMap (keys l.paths)) := by
  induction as generalizing l with
  | nil => exact .refl l
  | cons a as ih =>
    have hrest := ih (use l a)
    rw [(huse l a).stays.paths] at hrest
    exact (huse l a).trans hrest

/-- **One type** asks for what it needs. -/
theorem link_collects (l : Linking) (ty : Descriptor) : Collects l (l.link ty) (needs l.paths ty) := by
  have hnames := foldl_collects (fun paths n => (originIn paths n).toList) linkName_collects l ty.names
  have hleaves := foldl_collects (fun _ leaf => (leafImport? leaf).toList) linkLeaf_collects
    (ty.names.foldl linkName l) ty.leaves
  rw [← List.filterMap_eq_flatMap_toList] at hnames hleaves
  exact hnames.trans hleaves

theorem linkAll_collects (l : Linking) (ds : List Descriptor) :
    Collects l (l.linkAll ds) (ds.flatMap (needs l.paths)) :=
  foldl_collects needs link_collects l ds

theorem linkMethod_collects (l : Linking) (m : Method) :
    Collects l (linkMethod l m) (m.descriptors.flatMap (needs l.paths)) := by
  have hinputs := l.linkAll_collects m.inputs
  have hnotice : Collects (l.linkAll m.inputs)
      (if m.needsUnwrap then (l.linkAll m.inputs).notice (.unwrapped m.operationId) else l.linkAll m.inputs) [] := by
    split_ifs
    · exact notice_collects _ _
    · exact .refl _
  have hboth := hinputs.trans hnotice
  have hresult := link_collects
    (if m.needsUnwrap then (l.linkAll m.inputs).notice (.unwrapped m.operationId) else l.linkAll m.inputs) m.result
  rw [hboth.stays.paths] at hresult
  have hall := hboth.trans hresult
  unfold Method.descriptors linkMethod
  simpa using hall

/-! ## Requests of all files -/

/-- files require, besides what they did, those of the keys asked for at their paths that are not from themselves -/
structure Gathers (l l' : Linking) (asked : List (String × String × String)) : Prop where
  paths : l'.paths = l.paths
  tree : l'.planner.tree = l.planner.tree
  package : l'.planner.package = l.planner.package
  origins : ∀ path key, key ∈ (l'.planner.file path).origins ↔
    key ∈ (l.planner.file path).origins ∨
      (path, key) ∈ asked ∧ l.planner.tree.Foreign l.planner.package path key.1

variable {asked asked' : List (String × String × String)}

theorem Gathers.refl (l : Linking) : Gathers l l [] :=
  ⟨rfl, rfl, rfl, fun path key => by simp⟩

theorem Gathers.trans (h : Gathers l l' asked) (h' : Gathers l' l'' asked') : Gathers l l'' (asked ++ asked') := by
  refine ⟨h'.paths.trans h.paths, h'.tree.trans h.tree, h'.package.trans h.package, fun path key => ?_⟩
  rw [h'.origins, h.origins, h.tree, h.package, List.mem_append]
  tauto

/-- what the present file collects is asked for at its path -/
theorem Collects.gathers (h : Collects l l' keys) : Gathers l l' (keys.map (l.planner.current, ·)) := by
  refine ⟨h.stays.paths, h.stays.tree, h.stays.package, fun path key => ?_⟩
  by_cases hpath : path = l.planner.current
  · subst hpath
    have horigins := h.origins key
    rw [file, file, h.stays.current] at horigins
    simpa using horigins
  · have hnot : (path, key) ∉ keys.map (l.planner.current, ·) := by
      simp [Ne.symm hpath]
    rw [h.stays.files path hpath]
    simp [hnot]

theorem begin_gathers (l : Linking) (path : String) : Gathers l (l.begin path) [] := by
  refine ⟨rfl, rfl, rfl, fun other key => ?_⟩
  have hfile : (l.begin path).planner.file other = l.planner.file other := Planner.file_setCurrent _ _ _
  rw [hfile]
  simp

/-- a declaration requires nothing -/
theorem beginDeclaring_gathers (l : Linking) (path name : String) : Gathers l (l.beginDeclaring path name) [] := by
  have hdeclared : Gathers (l.begin path) (l.beginDeclaring path name) [] := by
    refine ⟨rfl, rfl, rfl, fun other key => ?_⟩
    have hfile : ((l.beginDeclaring path name).planner.file other).origins =
        ((l.begin path).planner.file other).origins := by
      refine (congrArg File.origins (Planner.file_declare _ _ _)).trans ?_
      split_ifs with h
      · rw [h]
        rfl
      · rfl
    rw [hfile]
    simp
  exact (l.begin_gathers path).trans hdeclared

end Linking

open Linking

/-- what the types of a file at a path ask for there -/
def askedAt (paths : Keyed String) (path : String) (ds : List Descriptor) : List (String × String × String) :=
  (ds.flatMap (needs paths)).map (path, ·)

theorem mem_askedAt {paths : Keyed String} {path other : String} {ds : List Descriptor} {key : String × String} :
    (other, key) ∈ askedAt paths path ds ↔ path = other ∧ ∃ ty ∈ ds, key ∈ needs paths ty := by
  rw [askedAt, List.mem_map, ← List.mem_flatMap]
  constructor
  · rintro ⟨k, hk, heq⟩
    obtain ⟨rfl, rfl⟩ := Prod.ext_iff.1 heq
    exact ⟨rfl, hk⟩
  · rintro ⟨rfl, hkey⟩
    exact ⟨key, hkey, rfl⟩

theorem linkModel_gathers (l : Linking) (f : ModelFile) :
    Gathers l (linkModel l f) (askedAt l.paths f.path f.descriptors) :=
  (l.beginDeclaring_gathers f.path f.typeName).trans (linkAll_collects _ f.descriptors).gathers

theorem linkEndpoint_gathers (l : Linking) (path : String) (ms : List Method) :
    Gathers l (linkEndpoint l path ms) (askedAt l.paths path (ms.flatMap Method.descriptors)) := by
  have hmethods := (foldl_collects (fun paths m => m.descriptors.flatMap (needs paths)) linkMethod_collects
    (l.begin path) ms).gathers
  rw [← List.flatMap_assoc] at hmethods
  exact (l.begin_gathers path).trans hmethods

/-- **Files of models** ask for what their types need. -/
theorem linkModels_gathers (t : Table) (l : Linking) (rest : List (String × String)) :
    Gathers l (linkModels t l rest).2
      ((linkModels t l rest).1.flatMap fun f => askedAt l.paths f.path f.descriptors) := by
  induction rest generalizing l with
  | nil => exact .refl l
  | cons e rest ih =>
    obtain ⟨name, path⟩ := e
    cases hm : Keyed.get? t name with
    | none =>
      rw [linkModels_skip hm]
      exact ih l
    | some m =>
      have hfile := linkModel_gathers l (modelFile t name path m)
      have hrest := ih (linkModel l (modelFile t name path m))
      rw [hfile.paths] at hrest
      rw [linkModels_cons hm]
      exact hfile.trans hrest

/-- **Files of groups** ask for what their types need. -/
theorem linkEndpoints_gathers (api : Api) (rule : Config.Envelope) (l : Linking)
    (rest : List (Api.Group × List String × String)) :
    Gathers l (linkEndpoints api rule l rest).2
      ((linkEndpoints api rule l rest).1.flatMap fun f => askedAt l.paths f.path f.descriptors) := by
  induction rest generalizing l with
  | nil => exact .refl l
  | cons e rest ih =>
    obtain ⟨group, names, path⟩ := e
    have hfile := linkEndpoint_gathers l path (methodsOf api rule group names)
    have hrest := ih (linkEndpoint l path (methodsOf api rule group names))
    rw [hfile.paths] at hrest
    rw [linkEndpoints_cons]
    exact hfile.trans hrest

/-! ## Requirements of a plan -/

/-- a file at the path has the type -/
def HasType (plan : Plan) (path : String) (ty : Descriptor) : Prop :=
  (∃ f ∈ plan.models, f.path = path ∧ ty ∈ f.descriptors) ∨ ∃ f ∈ plan.endpoints, f.path = path ∧ ty ∈ f.descriptors

/-- the type mentions a model that the key stands for, or has a scalar type whose library symbol it is -/
def Needs (plan : Plan) (ty : Descriptor) (key : String × String) : Prop :=
  (∃ n, ty.Mentions n ∧ plan.origin? n = some key) ∨
    ∃ leaf, Descriptor.Inside (.leaf leaf) ty ∧ leafImport? leaf = some key

section OfApi

variable (api : Api) (config : Config)

theorem endpointsOf_gathers : Gathers (startOf api config) (endpointsOf api config).2
    ((modelsOf api config).1.flatMap (fun f => askedAt (pathsOf api config) f.path f.descriptors) ++
      (endpointsOf api config).1.flatMap fun f => askedAt (pathsOf api config) f.path f.descriptors) := by
  have hmodels := linkModels_gathers api.table (startOf api config) (pathsOf api config)
  have hendpoints := linkEndpoints_gathers api config.envelope (modelsOf api config).2 (groupsOf api config)
  have hpaths : (modelsOf api config).2.paths = pathsOf api config := hmodels.paths
  rw [hpaths] at hendpoints
  exact hmodels.trans hendpoints

variable {api config}

/-- **What files require.** A planned file requires exactly what types at its path need, but nothing from itself. -/
theorem mem_requirements_iff {e : String × FileImports} (he : e ∈ (ofApi api config).1.files) (key : String × String) :
    key ∈ e.2.requirements.map Requirement.origin ↔
      (∃ ty, (ofApi api config).1.HasType e.1 ty ∧ (ofApi api config).1.Needs ty key) ∧
        (ofApi api config).1.tree.Foreign config.package e.1 key.1 := by
  have hstart : key ∉ ((startOf api config).planner.file e.1).origins := List.not_mem_nil
  have horigins := (endpointsOf_gathers api config).origins e.1 key
  have hneeds : ∀ ty, key ∈ needs (pathsOf api config) ty ↔ (ofApi api config).1.Needs ty key := fun ty => by
    rw [mem_needs, Needs]
    simp only [origin?_ofApi]
  have hmodels : ∀ ty, (∃ f ∈ (ofApi api config).1.models, f.path = e.1 ∧ ty ∈ f.descriptors) ↔
      ∃ f ∈ (modelsOf api config).1, f.path = e.1 ∧ ty ∈ f.descriptors := fun ty => by
    simp only [models_ofApi, List.mem_map, exists_exists_and_eq_and]
    rfl
  have hendpoints : ∀ ty, (∃ f ∈ (ofApi api config).1.endpoints, f.path = e.1 ∧ ty ∈ f.descriptors) ↔
      ∃ f ∈ (endpointsOf api config).1, f.path = e.1 ∧ ty ∈ f.descriptors := fun ty => by
    simp only [endpoints_ofApi, List.mem_map, exists_exists_and_eq_and]
    rfl
  rw [(mem_files_ofApi api config he).1, tree_ofApi]
  refine horigins.trans ?_
  rw [or_iff_right hstart]
  refine and_congr_left fun _ => ?_
  simp only [List.mem_append, List.mem_flatMap, mem_askedAt, hneeds, HasType, hmodels, hendpoints]
  grind

end OfApi

end ClientPlan.Plan
