/-
Linking all files. Files are linked one after the other, each under its own path, so what a file has when its turn is
over it still has at the end. No two files share a path as long as the directories of models and endpoints differ.
-/
import ClientPlan.Proofs.Plan.Linking

namespace ClientPlan.Plan

open Imports

/-- the types of a method in the order in which they ask for imports -/
def Method.descriptors (m : Method) : List Descriptor :=
  m.inputs ++ [m.result]

/-- the types in an endpoint file, in the order in which they ask for imports -/
def EndpointFile.descriptors (f : EndpointFile) : List Descriptor :=
  f.methods.flatMap Method.descriptors

/-- the names that types mention, in the order in which they ask for imports -/
def mentioned (ds : List Descriptor) : List String :=
  ds.flatMap (·.names)

/-- the scalar types in types, in the order in which they ask for imports -/
def scalars (ds : List Descriptor) : List Leaf :=
  ds.flatMap (·.leaves)

namespace Linking

variable {l l' l'' : Linking} {own : Option String} {touched touched' : List String}

/-- the same paths and the same tree; and no file but those at the paths `touched` has changed -/
structure Moves (touched : List String) (l l' : Linking) : Prop where
  paths : l'.paths = l.paths
  tree : l'.planner.tree = l.planner.tree
  package : l'.planner.package = l.planner.package
  files : ∀ path, path ∉ touched → l'.planner.file path = l.planner.file path

theorem Moves.refl (l : Linking) : Moves [] l l :=
  ⟨rfl, rfl, rfl, fun _ _ => rfl⟩

theorem Moves.trans (h : Moves touched l l') (h' : Moves touched' l' l'') : Moves (touched ++ touched') l l'' := by
  refine ⟨h'.paths.trans h.paths, h'.tree.trans h.tree, h'.package.trans h.package, fun path hpath => ?_⟩
  rw [List.mem_append, not_or] at hpath
  exact (h'.files path hpath.2).trans (h.files path hpath.1)

theorem Moves.mono (h : Moves touched l l') (hsub : touched ⊆ touched') : Moves touched' l l' :=
  { h with files := fun path hpath => h.files path fun hmem => hpath (hsub hmem) }

theorem Stays.moves (h : l.Stays l') : Moves [l.planner.current] l l' :=
  ⟨h.paths, h.tree, h.package, fun path hpath => h.files path (by simpa using hpath)⟩

theorem Moves.within_begin (h : Moves touched l l') {path : String} (hl : (l.begin path).Within own) :
    (l'.begin path).Within own := by
  have hcurrent := @Planner.isCurrent_congr (l.begin path).planner (l'.begin path).planner h.tree h.package rfl
  refine ⟨fun n other hn => ?_, fun leaf module symbol hleaf => ?_⟩
  · rw [hcurrent]
    exact hl.models n other (h.paths ▸ hn)
  · rw [hcurrent]
    exact hl.libraries leaf module symbol hleaf

theorem begin_moves (l : Linking) (path : String) : Moves [] l (l.begin path) :=
  ⟨rfl, rfl, rfl, fun _ _ => Planner.file_setCurrent _ _ _⟩

/-- begin a file that declares a name -/
def beginDeclaring (l : Linking) (path name : String) : Linking :=
  { l.begin path with planner := (l.begin path).planner.declare name }

theorem beginDeclaring_moves (l : Linking) (path name : String) : Moves [path] l (l.beginDeclaring path name) := by
  refine ⟨rfl, rfl, rfl, fun other hother => ?_⟩
  have hne : other ≠ path := by simpa using hother
  exact (Planner.file_declare _ _ _).trans ((if_neg hne).trans (Planner.file_setCurrent _ _ _))

end Linking

/-- a file that was not asked for anything -/
theorem Linked.empty (paths : Keyed String) (own : Option String) :
    Linked paths own [] [] [] { bound := (own.map ClientPlan.typeName).toList } where
  proper := ⟨List.nodup_nil, List.nodup_nil, by simp, by simp⟩
  unique := List.nodup_nil
  keys n := Iff.rfl
  owned n s h := by cases h
  others n s h := by cases h
  origins key := by simp [File.origins]

namespace Linking

variable {l : Linking} {path : String}

theorem begin_linked (hfresh : l.planner.file path = {}) :
    Linked l.paths none [] [] (l.begin path).bindings (l.begin path).file := by
  have hfile : (l.begin path).file = {} := (Planner.file_setCurrent _ _ _).trans hfresh
  rw [hfile]
  exact Linked.empty l.paths none

theorem beginDeclaring_linked {name : String} (hfresh : l.planner.file path = {}) :
    Linked l.paths (some name) [] [] (l.beginDeclaring path (ClientPlan.typeName name)).bindings
      (l.beginDeclaring path (ClientPlan.typeName name)).file := by
  have hbegun : (l.begin path).planner.file (l.begin path).planner.current = {} :=
    (Planner.file_setCurrent _ _ _).trans hfresh
  have hfile : (l.beginDeclaring path (ClientPlan.typeName name)).file = { bound := [ClientPlan.typeName name] } := by
    refine (Planner.file_declare _ _ _).trans ((if_pos rfl).trans ?_)
    rw [hbegun]
  rw [hfile]
  exact Linked.empty l.paths (some name)

/-- declaring a name does not change which module is the present file -/
theorem within_beginDeclaring {own : Option String} {name : String} (h : (l.begin path).Within own) :
    (l.beginDeclaring path name).Within own :=
  ⟨h.models, h.libraries⟩

end Linking

/-! ## Files of models -/

section Models

variable {t : Table} {l : Linking} {rest : List (String × String)}

/-- link the file of a model -/
def linkModel (l : Linking) (f : ModelFile) : Linking :=
  (l.beginDeclaring f.path f.typeName).linkAll f.descriptors

theorem linkModels_skip {name path : String} (hm : Keyed.get? t name = none) :
    linkModels t l ((name, path) :: rest) = linkModels t l rest := by
  rw [linkModels, hm]

theorem linkModels_cons {name path : String} {m : Model} (hm : Keyed.get? t name = some m) :
    linkModels t l ((name, path) :: rest) =
      let f := modelFile t name path m
      let l' := linkModel l f
      ({ f with imports := { bindings := l'.bindings } } :: (linkModels t l' rest).1, (linkModels t l' rest).2) := by
  rw [linkModels, hm]
  rfl

theorem linkModel_linked {f : ModelFile} (hfresh : l.planner.file f.path = {})
    (hown : f.typeName = ClientPlan.typeName f.schema) (hwithin : (l.begin f.path).Within (some f.schema))
    (hnames : ∀ d ∈ f.descriptors, ∀ n ∈ d.names, n ∈ Keyed.keys l.paths) :
    Linking.Moves [f.path] l (linkModel l f) ∧
      Linked l.paths (some f.schema) (mentioned f.descriptors) (scalars f.descriptors) (linkModel l f).bindings
        ((linkModel l f).planner.file f.path) := by
  have hasks := Linking.linkAll_asks (@Linking.within_beginDeclaring l f.path _ f.typeName hwithin) hnames
  have hstart := @Linking.beginDeclaring_linked l f.path f.schema hfresh
  rw [← hown] at hstart
  refine ⟨?_, ?_⟩
  · have hmoves : Linking.Moves ([f.path] ++ [f.path]) l (linkModel l f) :=
      (l.beginDeclaring_moves f.path f.typeName).trans hasks.1.moves
    exact hmoves.mono (by simp)
  · have hlinked := hasks.2 [] [] hstart
    rw [Linking.file, hasks.1.current, hasks.1.paths] at hlinked
    exact hlinked

/-- the files are those of the models, in order -/
theorem linkModels_files (hkeys : ∀ e ∈ rest, e.1 ∈ Keyed.keys t) :
    (linkModels t l rest).1.map (fun f => (f.schema, f.path)) = rest := by
  induction rest generalizing l with
  | nil => rfl
  | cons e rest ih =>
    obtain ⟨name, path⟩ := e
    obtain ⟨m, hm⟩ := Option.isSome_iff_exists.1 ((Keyed.isSome_get?_iff _ _).2 (hkeys _ List.mem_cons_self))
    rw [linkModels_cons hm]
    exact congrArg (_ :: ·) (ih fun e he => hkeys e (List.mem_cons_of_mem _ he))

/-- each file is the one made of an entry of the table; linking it has added its imports only -/
theorem linkModels_made : ∀ f ∈ (linkModels t l rest).1, ∃ m, Keyed.get? t f.schema = some m ∧
    f = { modelFile t f.schema f.path m with imports := f.imports } := by
  induction rest generalizing l with
  | nil => exact fun f hf => by cases hf
  | cons e rest ih =>
    obtain ⟨name, path⟩ := e
    cases hm : Keyed.get? t name with
    | none =>
      rw [linkModels_skip hm]
      exact ih
    | some m =>
      rw [linkModels_cons hm]
      exact List.forall_mem_cons.2 ⟨⟨m, hm, rfl⟩, ih⟩

/-- **Linking the files of models.** At the end each file is linked, and no file at another path has changed. -/
theorem linkModels_linked (hkeys : ∀ e ∈ rest, e.1 ∈ Keyed.keys t) (hpaths : (rest.map (·.2)).Nodup)
    (hfresh : ∀ e ∈ rest, l.planner.file e.2 = {}) (hwithin : ∀ e ∈ rest, (l.begin e.2).Within (some e.1))
    (hnames : ∀ e ∈ rest, ∀ m, Keyed.get? t e.1 = some m →
      ∀ d ∈ (modelFile t e.1 e.2 m).descriptors, ∀ n ∈ d.names, n ∈ Keyed.keys l.paths) :
    Linking.Moves (rest.map (·.2)) l (linkModels t l rest).2 ∧
      ∀ f ∈ (linkModels t l rest).1,
        Linked l.paths (some f.schema) (mentioned f.descriptors) (scalars f.descriptors) f.imports.bindings
          ((linkModels t l rest).2.planner.file f.path) := by
  induction rest generalizing l with
  | nil => exact ⟨.refl l, fun f hf => by cases hf⟩
  | cons e rest ih =>
    obtain ⟨name, path⟩ := e
    obtain ⟨m, hm⟩ := Option.isSome_iff_exists.1 ((Keyed.isSome_get?_iff _ _).2 (hkeys _ List.mem_cons_self))
    obtain ⟨hnew, hdistinct⟩ := List.nodup_cons.1 hpaths
    let f := modelFile t name path m
    obtain ⟨hone, hlinked⟩ := @linkModel_linked l f (hfresh _ List.mem_cons_self) rfl (hwithin _ List.mem_cons_self)
      (hnames _ List.mem_cons_self m hm)
    have hother : ∀ e ∈ rest, e.2 ∉ [path] := fun e he heq =>
      hnew (List.mem_map.2 ⟨e, he, List.mem_singleton.1 heq⟩)
    obtain ⟨hrest, hall⟩ := @ih (linkModel l f) (fun e he => hkeys e (List.mem_cons_of_mem _ he)) hdistinct
      (fun e he => (hone.files _ (hother e he)).trans (hfresh e (List.mem_cons_of_mem _ he)))
      (fun e he => hone.within_begin (hwithin e (List.mem_cons_of_mem _ he)))
      (fun e he => hone.paths ▸ hnames e (List.mem_cons_of_mem _ he))
    rw [linkModels_cons hm]
    refine ⟨hone.trans hrest, fun g hg => ?_⟩
    rcases List.mem_cons.1 hg with rfl | hg
    -- the first file stays as it was linked, since the files after it are at other paths
    · change Linked _ _ _ _ _ ((linkModels t (linkModel l f) rest).2.planner.file path)
      rw [hrest.files path hnew]
      exact hlinked
    · exact hone.paths ▸ hall g hg

end Models

/-! ## Files of endpoints -/

section Endpoints

variable {api : Api} {rule : Config.Envelope} {l : Linking} {own : Option String}

theorem linkMethod_asks (hl : l.Within own) {m : Method}
    (hm : ∀ d ∈ m.descriptors, ∀ n ∈ d.names, n ∈ Keyed.keys l.paths) :
    Linking.Asks own l (linkMethod l m) (mentioned m.descriptors) (scalars m.descriptors) := by
  have hinputs := Linking.linkAll_asks hl fun d hd => hm d (List.mem_append_left _ hd)
  have hnotice : Linking.Asks own (l.linkAll m.inputs)
      (if m.needsUnwrap then (l.linkAll m.inputs).notice (.unwrapped m.operationId) else l.linkAll m.inputs) [] [] := by
    split_ifs
    · exact Linking.notice_asks _ _
    · exact .refl _
  have hboth := hinputs.trans hnotice
  have hresult := Linking.link_asks (hboth.1.within hl) fun n hn =>
    hboth.1.paths ▸ hm m.result (List.mem_append_right _ (List.mem_singleton_self _)) n hn
  have hall := hboth.trans hresult
  unfold mentioned scalars Method.descriptors linkMethod
  simpa using hall

theorem linkMethods_asks (hl : l.Within own) {ms : List Method}
    (hms : ∀ m ∈ ms, ∀ d ∈ m.descriptors, ∀ n ∈ d.names, n ∈ Keyed.keys l.paths) :
    Linking.Asks own l (ms.foldl linkMethod l) (mentioned (ms.flatMap Method.descriptors))
      (scalars (ms.flatMap Method.descriptors)) := by
  have hasks := @Linking.foldl_asks l own Method linkMethod (mentioned ·.descriptors) (scalars ·.descriptors)
    (fun m hl hm => linkMethod_asks hl fun d hd n hn => hm n (List.mem_flatMap.2 ⟨d, hd, hn⟩)) hl ms
    fun m hm n hn => by
      obtain ⟨d, hd, hn⟩ := List.mem_flatMap.1 hn
      exact hms m hm d hd n hn
  unfold mentioned scalars at hasks ⊢
  rwa [List.flatMap_assoc, List.flatMap_assoc]

/-- link the file of a group -/
def linkEndpoint (l : Linking) (path : String) (ms : List Method) : Linking :=
  ms.foldl linkMethod (l.begin path)

theorem linkEndpoints_cons {group : Api.Group} {names : List String} {path : String}
    {rest : List (Api.Group × List String × String)} :
    linkEndpoints api rule l ((group, names, path) :: rest) =
      let methods := methodsOf api rule group names
      let l' := linkEndpoint l path methods
      (⟨path, group.name.written, methods, { bindings := l'.bindings }⟩ :: (linkEndpoints api rule l' rest).1,
        (linkEndpoints api rule l' rest).2) := by
  rw [linkEndpoints]
  rfl

theorem linkEndpoint_linked {path : String} {ms : List Method} (hfresh : l.planner.file path = {})
    (hwithin : (l.begin path).Within none)
    (hnames : ∀ m ∈ ms, ∀ d ∈ m.descriptors, ∀ n ∈ d.names, n ∈ Keyed.keys l.paths) :
    Linking.Moves [path] l (linkEndpoint l path ms) ∧
      Linked l.paths none (mentioned (ms.flatMap Method.descriptors)) (scalars (ms.flatMap Method.descriptors))
        (linkEndpoint l path ms).bindings ((linkEndpoint l path ms).planner.file path) := by
  have hasks := @linkMethods_asks (l.begin path) none hwithin ms hnames
  refine ⟨(l.begin_moves path).trans hasks.1.moves, ?_⟩
  have hlinked := hasks.2 [] [] (Linking.begin_linked hfresh)
  rw [Linking.file, hasks.1.current, hasks.1.paths] at hlinked
  exact hlinked

/-- the files are those of the groups, in order, with the methods of their operations -/
theorem linkEndpoints_contents {rest : List (Api.Group × List String × String)} :
    (linkEndpoints api rule l rest).1.map (fun f => (f.path, f.group, f.methods)) =
      rest.map fun e => (e.2.2, e.1.name.written, methodsOf api rule e.1 e.2.1) := by
  induction rest generalizing l with
  | nil => rfl
  | cons e rest ih =>
    obtain ⟨group, names, path⟩ := e
    rw [linkEndpoints_cons]
    exact congrArg (_ :: ·) ih

theorem linkEndpoints_files {rest : List (Api.Group × List String × String)} :
    (linkEndpoints api rule l rest).1.map (·.path) = rest.map (·.2.2) := by
  have hcontents := congrArg (List.map Prod.fst) (@linkEndpoints_contents api rule l rest)
  rwa [List.map_map, List.map_map] at hcontents

/-- the methods in a file are those of one of the groups -/
theorem linkEndpoints_methods {rest : List (Api.Group × List String × String)} :
    ∀ f ∈ (linkEndpoints api rule l rest).1, ∃ e ∈ rest, f.methods = methodsOf api rule e.1 e.2.1 := by
  intro f hf
  have hmem : (f.path, f.group, f.methods) ∈
      (linkEndpoints api rule l rest).1.map fun f => (f.path, f.group, f.methods) := List.mem_map_of_mem hf
  rw [linkEndpoints_contents] at hmem
  obtain ⟨e, he, heq⟩ := List.mem_map.1 hmem
  exact ⟨e, he, (Prod.ext_iff.1 (Prod.ext_iff.1 heq).2).2.symm⟩

/-- **Linking the files of groups.** At the end each file is linked, and no file at another path has changed. -/
theorem linkEndpoints_linked {rest : List (Api.Group × List String × String)} (hpaths : (rest.map (·.2.2)).Nodup)
    (hfresh : ∀ e ∈ rest, l.planner.file e.2.2 = {}) (hwithin : ∀ e ∈ rest, (l.begin e.2.2).Within none)
    (hnames : ∀ e ∈ rest, ∀ m ∈ methodsOf api rule e.1 e.2.1, ∀ d ∈ m.descriptors, ∀ n ∈ d.names,
      n ∈ Keyed.keys l.paths) :
    Linking.Moves (rest.map (·.2.2)) l (linkEndpoints api rule l rest).2 ∧
      ∀ f ∈ (linkEndpoints api rule l rest).1,
        Linked l.paths none (mentioned f.descriptors) (scalars f.descriptors) f.imports.bindings
          ((linkEndpoints api rule l rest).2.planner.file f.path) := by
  induction rest generalizing l with
  | nil => exact ⟨.refl l, fun f hf => by cases hf⟩
  | cons e rest ih =>
    obtain ⟨group, names, path⟩ := e
    obtain ⟨hnew, hdistinct⟩ := List.nodup_cons.1 hpaths
    obtain ⟨hone, hlinked⟩ := @linkEndpoint_linked l path (methodsOf api rule group names)
      (hfresh _ List.mem_cons_self) (hwithin _ List.mem_cons_self) (hnames _ List.mem_cons_self)
    have hother : ∀ e ∈ rest, e.2.2 ∉ [path] := fun e he heq =>
      hnew (List.mem_map.2 ⟨e, he, List.mem_singleton.1 heq⟩)
    obtain ⟨hrest, hall⟩ := @ih (linkEndpoint l path (methodsOf api rule group names)) hdistinct
      (fun e he => (hone.files _ (hother e he)).trans (hfresh e (List.mem_cons_of_mem _ he)))
      (fun e he => hone.within_begin (hwithin e (List.mem_cons_of_mem _ he)))
      (fun e he => hone.paths ▸ hnames e (List.mem_cons_of_mem _ he))
    rw [linkEndpoints_cons]
    refine ⟨hone.trans hrest, fun f hf => ?_⟩
    rcases List.mem_cons.1 hf with rfl | hf
    · dsimp only
      rw [hrest.files path hnew]
      exact hlinked
    · exact hone.paths ▸ hall f hf

end Endpoints

end ClientPlan.Plan
