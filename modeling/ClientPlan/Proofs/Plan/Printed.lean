/-
What import blocks print for models. The module of a model is printed by its relative path, which leads to the file of
the model, unless it is the package or lies in it: then the package is cut off although the module is spelled without
it, and the printed path leads elsewhere (`imports_lead_iff`).
-/
import ClientPlan.Proofs.Imports.Block
import ClientPlan.Proofs.Plan.Bindings

namespace ClientPlan.Plan

open Imports

/-! ## Properties of the planner -/

/-- what every use of a planner keeps -/
structure PlannerLaw (P : Planner → Prop) : Prop where
  setCurrent : ∀ {p}, P p → ∀ path, P (p.setCurrent path)
  declare : ∀ {p}, P p → ∀ name, P (p.declare name)
  add : ∀ {p}, P p → ∀ module symbol localName, P (p.add module symbol localName).2
  noticed : ∀ {p : Planner}, P p → ∀ notices, P { p with notices := notices }

namespace PlannerLaw

variable {P : Planner → Prop} {l : Linking}

/-- what each use keeps, uses one after the other keep -/
theorem foldl {α : Type} {use : Linking → α → Linking} (huse : ∀ l a, P l.planner → P (use l a).planner)
    (h : P l.planner) (as : List α) : P (as.foldl use l).planner := by
  induction as generalizing l with
  | nil => exact h
  | cons a as ih => exact ih (huse l a h)

variable (L : PlannerLaw P)
include L

theorem linkName (h : P l.planner) (name : String) : P (l.linkName name).planner := by
  unfold Linking.linkName
  split
  · exact h
  · exact L.add h _ _ _

theorem linkLeaf (h : P l.planner) (leaf : Leaf) : P (l.linkLeaf leaf).planner := by
  unfold Linking.linkLeaf
  split
  · exact h
  · exact L.add h _ _ _

theorem link (h : P l.planner) (d : Descriptor) : P (l.link d).planner := by
  have hnames := foldl (fun _ name h => L.linkName h name) h d.names
  exact foldl (fun _ leaf h => L.linkLeaf h leaf) hnames d.leaves

theorem linkAll (h : P l.planner) (ds : List Descriptor) : P (l.linkAll ds).planner :=
  foldl (fun _ d h => L.link h d) h ds

theorem linkModels (h : P l.planner) (t : Table) (rest : List (String × String)) :
    P (Plan.linkModels t l rest).2.planner := by
  induction rest generalizing l with
  | nil => exact h
  | cons e rest ih =>
    obtain ⟨name, path⟩ := e
    cases hm : Keyed.get? t name with
    | none =>
      rw [linkModels_skip hm]
      exact ih h
    | some m =>
      rw [linkModels_cons hm]
      exact ih (L.linkAll (L.declare (L.setCurrent h path) _) _)

theorem linkMethod (h : P l.planner) (m : Method) : P (Plan.linkMethod l m).planner := by
  unfold Plan.linkMethod
  refine L.link ?_ _
  split_ifs
  · exact L.noticed (L.linkAll h _) _
  · exact L.linkAll h _

theorem linkEndpoints (h : P l.planner) (api : Api) (rule : Config.Envelope)
    (rest : List (Api.Group × List String × String)) : P (Plan.linkEndpoints api rule l rest).2.planner := by
  induction rest generalizing l with
  | nil => exact h
  | cons e rest ih =>
    obtain ⟨group, names, path⟩ := e
    rw [linkEndpoints_cons]
    exact ih (foldl (fun _ m h => L.linkMethod h m) (L.setCurrent h path) _)

/-- **What every use keeps holds at the end**, if it holds before the first file is linked. -/
theorem endpointsOf {api : Api} {config : Config} (h : P (startOf api config).planner) :
    P (Plan.endpointsOf api config).2.planner :=
  L.linkEndpoints (L.linkModels h _ _) _ _ _

end PlannerLaw

/-- the tree and the package are given from the start, and no file requires anything from itself -/
theorem foreignLaw (tree : Tree) (package : String) :
    PlannerLaw fun p => p.tree = tree ∧ p.package = package ∧ p.AllForeign where
  setCurrent h path := ⟨h.1, h.2.1, h.2.2.setCurrent path⟩
  declare h name := ⟨h.1, h.2.1, h.2.2.declare name⟩
  add h module symbol localName := by
    obtain ⟨htree, hpackage, -⟩ := @Planner.add_frame _ module symbol localName
    exact ⟨htree.trans h.1, hpackage.trans h.2.1, h.2.2.add module symbol localName⟩
  noticed h _ := ⟨h.1, h.2.1, h.2.2⟩

/-! ## Printed modules of a plan -/

/-- the tree that the files of a plan make up -/
def tree (plan : Plan) : Tree :=
  Tree.ofPaths (plan.models.map (·.path) ++ plan.endpoints.map (·.path))

/-- the files of a plan with their imports -/
def files (plan : Plan) : List (String × FileImports) :=
  plan.models.map (fun f => (f.path, f.imports)) ++ plan.endpoints.map fun f => (f.path, f.imports)

/-- a file prints a requirement under that module: the block of the file has the line of the module, with the symbol -/
def Prints (plan : Plan) (path : String) (imports : FileImports) (r : Requirement) (m : Printed) : Prop :=
  plan.tree.printed? plan.package path r.module = some m ∧
    ∃ rs, r ∈ rs ∧ (line m rs).toList <:+: imports.block.toList

/-- a file prints a requirement under a relative module, which leads from there to the target -/
def LeadsTo (plan : Plan) (path : String) (imports : FileImports) (r : Requirement) (target : String) : Prop :=
  ∃ depth suffix, plan.Prints path imports r (.inside depth suffix) ∧ relativeFile? path depth suffix = some target

section OfApi

variable (api : Api) (config : Config)

theorem tree_ofApi : (ofApi api config).1.tree = (startOf api config).planner.tree := by
  have hmodels : (ofApi api config).1.models.map (·.path) = (pathsOf api config).map (·.2) := by
    rw [← paths_ofApi, List.map_map]
    rfl
  have hendpoints : (ofApi api config).1.endpoints.map (·.path) =
      endpointPaths (api.groups config.layout.splitBy) config.layout := by
    rw [endpoints_ofApi, List.map_map, ← paths_groupsOf]
    exact linkEndpoints_files
  rw [tree, hmodels, hendpoints]
  rfl

theorem mem_files_ofApi {e : String × FileImports} (he : e ∈ (ofApi api config).1.files) :
    e.2.requirements = (endpointsOf api config).2.planner.requirements e.1 ∧
      e.2.block = (endpointsOf api config).2.planner.block e.1 config.package := by
  rcases List.mem_append.1 he with h | h
  · obtain ⟨f, hf, rfl⟩ := List.mem_map.1 h
    obtain ⟨g, -, rfl⟩ := List.mem_map.1 hf
    exact ⟨rfl, rfl⟩
  · obtain ⟨f, hf, rfl⟩ := List.mem_map.1 h
    obtain ⟨g, -, rfl⟩ := List.mem_map.1 hf
    exact ⟨rfl, rfl⟩

/-- at the end the planner has the tree and the package of the plan, and no file requires anything from itself -/
theorem planner_ofApi : (endpointsOf api config).2.planner.tree = (ofApi api config).1.tree ∧
    (endpointsOf api config).2.planner.package = config.package ∧
      (endpointsOf api config).2.planner.AllForeign := by
  have hstart : (startOf api config).planner.AllForeign := fun path r hr => by cases hr
  obtain ⟨htree, hpackage, hforeign⟩ := (foreignLaw _ _).endpointsOf ⟨rfl, rfl, hstart⟩
  exact ⟨htree.trans (tree_ofApi api config).symm, hpackage, hforeign⟩

variable {api config} {e : String × FileImports} {r : Requirement}

/-- every requirement of a planned file is from another file, or from none -/
theorem foreign_ofApi (he : e ∈ (ofApi api config).1.files) (hr : r ∈ e.2.requirements) :
    (ofApi api config).1.tree.Foreign config.package e.1 r.module := by
  obtain ⟨htree, hpackage, hforeign⟩ := planner_ofApi api config
  have hfile := hforeign e.1 r ((mem_files_ofApi api config he).1 ▸ hr)
  rwa [htree, hpackage] at hfile

/-- a requirement whose module has a printed form is printed so -/
theorem prints_ofApi (he : e ∈ (ofApi api config).1.files) (hr : r ∈ e.2.requirements) {m : Printed}
    (hm : (ofApi api config).1.tree.printed? config.package e.1 r.module = some m) :
    (ofApi api config).1.Prints e.1 e.2 r m := by
  obtain ⟨hrequirements, hblock⟩ := mem_files_ofApi api config he
  let entries := ((endpointsOf api config).2.planner.requirements e.1).filterMap fun r =>
    ((endpointsOf api config).2.planner.tree.printed? config.package e.1 r.module).map (·, r)
  have hentry : (m, r) ∈ entries := by
    refine List.mem_filterMap.2 ⟨r, hrequirements ▸ hr, ?_⟩
    rw [(planner_ofApi api config).1, hm]
    rfl
  have hblock' : e.2.block = blockOf entries := hblock
  refine ⟨hm, (entries.filter (·.1 == m)).map (·.2), ?_, ?_⟩
  · exact List.mem_map.2 ⟨(m, r), List.mem_filter.2 ⟨hentry, beq_self_eq_true m⟩, rfl⟩
  · rw [hblock']
    exact lineOf_infix_blockOf hentry

/-- what a requirement is printed as leads to the file of the module that is left when the package is cut off -/
theorem leadsTo_iff_of_inside (he : e ∈ (ofApi api config).1.files) (hr : r ∈ e.2.requirements) {inner target : String}
    (hinside : (ofApi api config).1.tree.inside? config.package r.module = some inner) :
    (ofApi api config).1.LeadsTo e.1 e.2 r target ↔ moduleToFile inner = target := by
  have hprinted := printed?_inside (foreign_ofApi he hr) hinside
  have hleads := relativeFile?_relativeModule e.1 inner
  constructor
  · rintro ⟨depth, suffix, ⟨hm, -⟩, htarget⟩
    obtain ⟨rfl, rfl⟩ := Printed.inside.inj (Option.some.inj (hprinted.symm.trans hm))
    exact Option.some.inj (hleads.symm.trans htarget)
  · rintro rfl
    exact ⟨_, _, prints_ofApi he hr hprinted, hleads⟩

/-- the file of a model begins with a directory of the tree -/
theorem root_of_model (hmodels : IsPath config.layout.modelsDir) {f : ModelFile}
    (hf : f ∈ (ofApi api config).1.models) :
    IsPath f.path ∧ ∃ root ∈ (ofApi api config).1.tree.roots, (Text.pieces '/' f.path).head? = some root := by
  obtain ⟨stem, hstem, hpath⟩ := modelPaths_stem _ _ (mem_pathsOf hf)
  obtain ⟨root, rest, hroot⟩ := List.exists_cons_of_ne_nil (Text.pieces_ne_nil '/' f.path)
  have hhead : (Text.pieces '/' f.path).head? = some root := by rw [hroot, List.head?_cons]
  have hpath' : f.path = inDirectory config.layout.modelsDir stem := hpath
  refine ⟨hpath' ▸ hmodels.inDirectory hstem, root, ?_, hhead⟩
  exact List.mem_filterMap.2 ⟨f.path, List.mem_append_left _ (List.mem_map_of_mem hf), hhead⟩

/-- in the package, a module is found under something that leads to another file -/
theorem inside?_ne_of_inPackage {tree : Tree} {package path : String} (hpath : IsPath path)
    (hpackage : InPackage package (fileToModule path)) :
    ∃ inner, tree.inside? package (fileToModule path) = some inner ∧ moduleToFile inner ≠ path := by
  have hne : package ≠ "" := by
    rintro rfl
    exact not_inPackage_empty hpath hpackage
  by_cases hmodule : fileToModule path = package
  · refine ⟨"", ?_, fun hfile => hpath.ne_empty hfile.symm⟩
    rw [hmodule]
    exact Tree.inside?_package hne
  · obtain ⟨rest, hrest⟩ := hpackage.eq_or_append.resolve_left hmodule
    exact ⟨rest, Tree.inside?_append hne hrest hmodule, moduleToFile_rest_ne hpath hrest⟩

/-- a requirement for a model is printed with the path of the model's file exactly outside the package -/
theorem leadsTo_model_iff (hmodels : IsPath config.layout.modelsDir) (he : e ∈ (ofApi api config).1.files)
    (hr : r ∈ e.2.requirements) {f : ModelFile} (hf : f ∈ (ofApi api config).1.models)
    (hmodule : r.module = fileToModule f.path) :
    (ofApi api config).1.LeadsTo e.1 e.2 r f.path ↔ ¬ InPackage config.package (fileToModule f.path) := by
  obtain ⟨hpath, root, hroot, hhead⟩ := root_of_model hmodels hf
  constructor
  · intro hleads hpackage
    obtain ⟨inner, hinside, hne⟩ := @inside?_ne_of_inPackage (ofApi api config).1.tree _ _ hpath hpackage
    exact hne ((leadsTo_iff_of_inside he hr (hmodule ▸ hinside)).1 hleads)
  · intro hpackage
    rw [← pieces_fileToModule hpath] at hhead
    have hinside := Tree.inside?_of_root hpackage hhead hroot
    exact (leadsTo_iff_of_inside he hr (hmodule ▸ hinside)).2 (moduleToFile_fileToModule hpath)

end OfApi

/-! ## An owner and a pet -/

/-- a pet, which has an owner -/
def petSchema : SchemaNode :=
  .schema { types := some (.one .object), properties := [("owner", .ref "#/components/schemas/Owner")] }

/-- a document with an owner and that pet -/
def petDocument : Document where
  components := some { schemas := [("Owner", ownerSchema), ("Pet", petSchema)] }

def petModel : Model :=
  { Model.of (.object [("owner", .reference "Owner")] [] none) with name := some "Pet" }

/-- the API of that document -/
def petApi : Api where
  info := petDocument.info
  servers := petDocument.servers
  table := [("Owner", ownerModel), ("Pet", petModel)]
  operations := []
  modules := []
  diagnostics := []

/-- the plan for that document under a package -/
def petPlan (package : String) : Plan :=
  (ofApi (Api.ofDocument petDocument {} 100).1 { package := package }).1

/-- what stands for the owner in the file of the pet -/
def ownerRequirement : Requirement :=
  ⟨"models.owner", "Owner", none⟩

/-- the owner is built first, and the pet finds it in the table -/
theorem final_petDocument : Api.final petDocument {} 100 =
    ((Api.source petDocument {} 100).start.entered "Owner" ownerModel).entered "Pet" petModel := by
  let src := Api.source petDocument {} 100
  let owned : Build := src.start.entered "Owner" ownerModel
  have howner : (src.component [] "Owner").run src.start = (true, owned) := by
    rw [Source.run_component List.not_mem_nil]
    rfl
  have hentered : (src.component ["Pet"] "Owner").run owned = (true, owned) := by
    rw [Source.run_component (by decide)]
    rfl
  have hroot : ∀ c b, (src.root ["Pet"] c petSchema).run b =
      ({ petModel with name := none }, ((src.component ["Pet"] "Owner").run b).2) := fun c b => rfl
  have hpet : (src.component [] "Pet").run owned = (true, owned.entered "Pet" petModel) := by
    rw [Source.run_component List.not_mem_nil]
    change (true, ((src.root ["Pet"] (typeName "Pet") petSchema).run owned).2.entered "Pet"
      ((src.root ["Pet"] (typeName "Pet") petSchema).run owned).1) = _
    rw [hroot, hentered]
    rfl
  change ((src.component [] "Pet").run ((src.component [] "Owner").run src.start).2).2 = _
  rw [howner, hpet]

theorem ofDocument_petDocument : (Api.ofDocument petDocument {} 100).1 = petApi := by
  rw [Api.ofDocument_of_paths_nil rfl, final_petDocument]
  rfl

/-- the file `e` of the pet requires what stands for the owner, whose file is `f` -/
structure OwnerRequired (plan : Plan) (e : String × FileImports) (f : ModelFile) : Prop where
  planned : e ∈ plan.files
  pet : e.1 = "models/pet"
  required : ownerRequirement ∈ e.2.requirements
  owner : plan.model? "Owner" = some f
  origin : plan.origin? "Owner" = some ownerRequirement.origin
  path : f.path = "models/owner"

/-- the pet requires its owner under the usual package, and under one with the name of the directory of models -/
theorem owner_required {package : String} (h : package ∈ ["client", "models"]) :
    ∃ e f, OwnerRequired (petPlan package) e f := by
  have hplan : ∀ package ∈ ["client", "models"], ∃ e ∈ (petPlan package).files, e.1 = "models/pet" ∧
      ownerRequirement ∈ e.2.requirements ∧
        ((petPlan package).model? "Owner").map (·.path) = some "models/owner" := by
    unfold petPlan
    rw [ofDocument_petDocument]
    decide
  obtain ⟨e, he, hpet, hr, hpath⟩ := hplan package h
  obtain ⟨f, hf, hfile⟩ := Option.map_eq_some_iff.1 hpath
  refine ⟨e, f, he, hpet, hr, hf, ?_, hfile⟩
  rw [origin?, hf, Option.map_some, hfile]
  decide

/-- **Imports of models.** A requirement for a model is printed by a relative path that leads to the model's file
exactly if the module of that file neither is the package nor lies in it. -/
theorem imports_lead_iff (api : Api) (config : Config) (hmodels : IsPath config.layout.modelsDir) :
    let plan := (ofApi api config).1
    ∀ e ∈ plan.files, ∀ r ∈ e.2.requirements, ∀ n f, plan.model? n = some f → plan.origin? n = some r.origin →
      (plan.LeadsTo e.1 e.2 r f.path ↔ ¬ InPackage config.package (fileToModule f.path)) := by
  intro plan e he r hr n f hf horigin
  have hmodule : r.module = fileToModule f.path := by
    rw [origin?, hf] at horigin
    exact (Prod.ext_iff.1 (Option.some.inj horigin)).1.symm
  exact leadsTo_model_iff hmodels he hr (List.mem_of_find?_eq_some hf) hmodule

/-- under the usual package, what the file of the pet imports for the owner leads to the file of the owner -/
theorem imports_lead_iff_owner :
    IsPath "models" ∧ ∃ e f, OwnerRequired (petPlan "client") e f ∧
      (petPlan "client").LeadsTo e.1 e.2 ownerRequirement f.path := by
  have hmodels : IsPath "models" := by decide
  obtain ⟨e, f, howner⟩ := @owner_required "client" (by decide)
  have hiff := imports_lead_iff (Api.ofDocument petDocument {} 100).1 { package := "client" } hmodels e
    howner.planned ownerRequirement howner.required "Owner" f howner.owner howner.origin
  refine ⟨hmodels, e, f, howner, hiff.2 ?_⟩
  rw [howner.path]
  decide

/-- under a package that has the name of the directory of models, what the file of the pet imports for the owner is
taken for a module beside that directory, and leads there -/
theorem owner_led_astray :
    IsPath "models" ∧ ∃ e f, OwnerRequired (petPlan "models") e f ∧
      (petPlan "models").LeadsTo e.1 e.2 ownerRequirement "owner" ∧
        ¬ (petPlan "models").LeadsTo e.1 e.2 ownerRequirement f.path := by
  have hmodels : IsPath "models" := by decide
  obtain ⟨e, f, howner⟩ := @owner_required "models" (by decide)
  have hinside : (petPlan "models").tree.inside? "models" ownerRequirement.module = some "owner" :=
    Tree.inside?_append (by decide) rfl (by decide)
  have hmodule : ownerRequirement.module = fileToModule f.path := by
    rw [howner.path]
    decide
  refine ⟨hmodels, e, f, howner, ?_, ?_⟩
  · exact (leadsTo_iff_of_inside howner.planned howner.required hinside).2 (by decide)
  · intro hleads
    have hmem := List.mem_of_find?_eq_some howner.owner
    refine (leadsTo_model_iff hmodels howner.planned howner.required hmem hmodule).1 hleads ?_
    rw [howner.path]
    decide

end ClientPlan.Plan
