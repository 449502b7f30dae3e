/-
The plan for a document: the document's API first, and then the plan for that. Paths and names of all files come first;
then each file in turn asks for the imports that its types need, models before endpoints; the import blocks are written
when all files have asked. Both steps give notices, after the one that a document of an unknown version gives.
-/
import ClientPlan.Api.OfDocument
import ClientPlan.Descriptor.OfModel
import ClientPlan.Imports.Block
import ClientPlan.Plan.Basic

namespace ClientPlan.Plan

open Imports

/-- notices of the names that were changed to make a list distinct -/
def renamings (names : List String) : List Notice :=
  ((names.zip (distinctNames names)).filter fun (name, unique) => name ≠ unique).map
    fun (name, unique) => .renamed name unique

/-- a file of a directory -/
def inDirectory (directory stem : String) : String :=
  directory ++ "/" ++ stem

/-- wanted file names of the models, in table order -/
def modelStems (t : Table) : List String :=
  (Keyed.keys t).map fun name => moduleName (typeName name)

/-- the file of each model -/
def modelPaths (t : Table) (layout : Config.Layout) : Keyed String :=
  (Keyed.keys t).zip ((distinctNames (modelStems t)).map (inDirectory layout.modelsDir))

/-- wanted file names of the groups -/
def endpointStems (groups : List Api.Group) : List String :=
  groups.map (·.name.moduleName)

/-- the file of each group, in order -/
def endpointPaths (groups : List Api.Group) (layout : Config.Layout) : List String :=
  (distinctNames (endpointStems groups)).map (inDirectory layout.endpointsDir)

/-- wanted method names of a group; a position that is out of range names nothing -/
def methodStems (api : Api) (group : Api.Group) : List String :=
  group.operations.filterMap fun i => api.operations[i]?.map (·.name.memberName)

/-- final method names of each group -/
def methodNames (api : Api) (groups : List Api.Group) : List (List String) :=
  groups.map fun g => distinctNames (methodStems api g)

/-- the module and symbol that a scalar type needs -/
def leafImport? : Leaf → Option (String × String)
  | .dateTime => some ("datetime", "datetime")
  | .date => some ("datetime", "date")
  | .uuid => some ("uuid", "UUID")
  | .any => some ("typing", "Any")
  | _ => none

/-- the imports so far, the files of the models, and what the models are called in the present file -/
structure Linking where
  planner : Planner
  paths : Keyed String
  bindings : Keyed String := []
  deriving Repr, Inhabited

namespace Linking

/-- import a model into the present file -/
def linkName (l : Linking) (name : String) : Linking :=
  match Keyed.get? l.paths name with
  | none => l
  | some path =>
    let (bound, planner) := l.planner.add (fileToModule path) (typeName name) none
    { l with
      planner := planner
      bindings := if Keyed.has l.bindings name then l.bindings else l.bindings ++ [(name, bound)] }

/-- import what a scalar type needs into the present file -/
def linkLeaf (l : Linking) (leaf : Leaf) : Linking :=
  match leafImport? leaf with
  | none => l
  | some (module, symbol) => { l with planner := (l.planner.add module symbol none).2 }

/-- import what a type needs into the present file -/
def link (l : Linking) (d : Descriptor) : Linking :=
  d.leaves.foldl linkLeaf (d.names.foldl linkName l)

/-- import what types need into the present file -/
def linkAll (l : Linking) (ds : List Descriptor) : Linking :=
  ds.foldl link l

/-- notice an envelope -/
def notice (l : Linking) (n : Notice) : Linking :=
  { l with planner := { l.planner with notices := l.planner.notices ++ [n] } }

/-- begin a file -/
def begin (l : Linking) (path : String) : Linking :=
  { l with planner := l.planner.setCurrent path, bindings := [] }

end Linking

/-- the properties of a model as fields -/
def fieldsOf (t : Table) (m : Model) : List Field :=
  m.properties.map fun (name, inner) =>
    ⟨name, memberName name, m.requires name, inner.descriptor t (m.requires name)⟩

/-- the file of a model, without its imports -/
def modelFile (t : Table) (name path : String) (m : Model) : ModelFile :=
  ⟨path, name, ClientPlan.typeName name, m.descriptor t true, fieldsOf t m, {}⟩

/-- the types in a model file, in the order in which they ask for imports -/
def ModelFile.descriptors (f : ModelFile) : List Descriptor :=
  f.definition :: f.fields.map (·.descriptor)

/-- plan the files of models -/
def linkModels (t : Table) (l : Linking) : List (String × String) → List ModelFile × Linking
  | [] => ([], l)
  | (name, path) :: rest =>
    match Keyed.get? t name with
    | none => linkModels t l rest
    | some m =>
      let f := modelFile t name path m
      let l := l.begin path
      let l := { l with planner := l.planner.declare f.typeName }
      let l := l.linkAll f.descriptors
      let f := { f with imports := { bindings := l.bindings } }
      let (files, l) := linkModels t l rest
      (f :: files, l)

/-- the parameters of an operation -/
def parametersOf (t : Table) (op : Api.Operation) : List Parameter :=
  op.parameters.map fun p => ⟨p.written, p.name.memberName, p.location, p.descriptor t⟩

/-- an operation as a method -/
def methodOf (t : Table) (rule : Config.Envelope) (i : Nat) (name : String) (op : Api.Operation) : Method :=
  let result := op.result t rule
  { operation := i
    operationId := op.operationId
    name := name
    verb := op.method
    path := op.path
    parameters := parametersOf t op
    body := op.body.map (·.descriptor t)
    result := result.1
    needsUnwrap := result.2
    stream := op.success?.any (·.stream) }

/-- the types of a method but its result, in the order in which they ask for imports -/
def Method.inputs (m : Method) : List Descriptor :=
  m.parameters.map (·.descriptor) ++ m.body.toList

/-- import what a method needs into the present file -/
def linkMethod (l : Linking) (m : Method) : Linking :=
  let l := l.linkAll m.inputs
  let l := if m.needsUnwrap then l.notice (.unwrapped m.operationId) else l
  l.link m.result

/-- the operations of a group as methods under their final names -/
def methodsOf (api : Api) (rule : Config.Envelope) (group : Api.Group) (names : List String) : List Method :=
  (group.operations.zip names).filterMap fun (i, name) => api.operations[i]?.map (methodOf api.table rule i name)

/-- plan the files of groups, each with its method names and its path -/
def linkEndpoints (api : Api) (rule : Config.Envelope) (l : Linking) :
    List (Api.Group × List String × String) → List EndpointFile × Linking
  | [] => ([], l)
  | (group, names, path) :: rest =>
    let methods := methodsOf api rule group names
    let l := methods.foldl linkMethod (l.begin path)
    let f : EndpointFile := ⟨path, group.name.written, methods, { bindings := l.bindings }⟩
    let (files, l) := linkEndpoints api rule l rest
    (f :: files, l)

/-- the imports of a file, once all files have asked -/
def finishImports (p : Planner) (package path : String) (imports : FileImports) : FileImports :=
  { imports with requirements := p.requirements path, block := p.block path package }

/-- the plan for an API, and what there was to notice on the way -/
def ofApi (api : Api) (config : Config) : Plan × List Notice :=
  let layout := config.layout
  let groups := api.groups layout.splitBy
  let names := methodNames api groups
  let modelPaths := modelPaths api.table layout
  let endpointPaths := endpointPaths groups layout
  let tree := Tree.ofPaths (modelPaths.map (·.2) ++ endpointPaths)
  let start : Linking := { planner := { tree := tree, package := config.package }, paths := modelPaths }
  let (models, l) := linkModels api.table start modelPaths
  let (endpoints, l) := linkEndpoints api config.envelope l (groups.zip (names.zip endpointPaths))
  let finish := finishImports l.planner config.package
  ({ package := config.package
     models := models.map fun f => { f with imports := finish f.path f.imports }
     endpoints := endpoints.map fun f => { f with imports := finish f.path f.imports }
     diagnostics := api.diagnostics },
   renamings (modelStems api.table) ++ groups.flatMap (fun g => renamings (methodStems api g))
     ++ renamings (endpointStems groups) ++ l.planner.notices)

end ClientPlan.Plan

namespace ClientPlan

/-- the API that a document describes, under the settings -/
def Document.api (d : Document) (config : Config) : Api :=
  (Api.ofDocument d config.naming config.parser.maxDepth).1

/-- notice of a version that is not understood -/
def Document.versionNotices (d : Document) : List Notice :=
  if d.isSupported then [] else [.unknownVersion d.openapi]

/-- the plan for a document, under the settings -/
def Plan.ofDocument (d : Document) (config : Config) : Plan :=
  (Plan.ofApi (d.api config) config).1

/-- everything that there is to notice between a document and its plan, in order -/
def Plan.notices (d : Document) (config : Config) : List Notice :=
  let (api, building) := Api.ofDocument d config.naming config.parser.maxDepth
  d.versionNotices ++ building ++ (Plan.ofApi api config).2

end ClientPlan
