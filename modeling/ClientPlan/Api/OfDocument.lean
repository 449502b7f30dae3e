/-
The API that a document describes. Component schemas are built first, in document order, and then the operations path by
path; schemas found in these are built into the same table. Nothing here fails: what cannot be followed is noted.
-/
import ClientPlan.Api.Grouping
import ClientPlan.Document.Reference
import ClientPlan.Model.Source
import ClientPlan.Naming.Route

namespace ClientPlan.Api

/-- what building an operation may use -/
structure Setting where
  source : Source
  components : Document.Components
  naming : Config.Naming

/-- note a reference that leads nowhere -/
def noteUnfollowed {α : Type} (context : String) : OrRef α → Building Unit
  | .ref path => note ⟨context, .unresolvedReference path⟩
  | .inline _ => return

namespace Setting

/-- the model of a schema that may be left out -/
def modelOr (st : Setting) (context : String) : Option SchemaNode → Building Model
  | some node => st.source.nested context node
  | none => return .placeholder

/-- the model of a schema, if there is one -/
def model? (st : Setting) (context : String) : Option SchemaNode → Building (Option Model)
  | some node => some <$> st.source.nested context node
  | none => return none

/-- the parameters of an operation or path in order, those left out whose references lead nowhere -/
def parameters (st : Setting) (context : String) : List (OrRef Document.Parameter) → Building (List Parameter)
  | [] => return []
  | item :: items =>
    match st.components.parameter? item with
    | none => do
      noteUnfollowed context item
      st.parameters context items
    | some p => do
      let model ← st.modelOr (context ++ pascalCase p.name) p.schema
      let parameter : Parameter :=
        ⟨Name.of p.name, p.location, model, p.required || p.location == .path, p.description⟩
      return parameter :: (← st.parameters context items)

/-- a parameter takes the place of one with the same name and location, or else the last place -/
def override (ps : List Parameter) (p : Parameter) : List Parameter :=
  match ps with
  | [] => [p]
  | q :: qs => if q.written = p.written ∧ q.location = p.location then p :: qs else q :: override qs p

/-- the body of a request, if its references can be followed and it has any content -/
def body (st : Setting) (context : String) (item : OrRef Document.RequestBody) : Building (Option Body) :=
  match st.components.requestBody? item with
  | none => do
    noteUnfollowed context item
    return none
  | some b =>
    match selectBodyType b.content with
    | none => return none
    | some (contentType, media) => do
      let model ← st.modelOr (context ++ "Body") media.schema
      return some ⟨model, b.required, contentType, b.description, media.encoding.mapValues (·.contentType)⟩

/-- the body of a request that may have none -/
def body? (st : Setting) (context : String) : Option (OrRef Document.RequestBody) → Building (Option Body)
  | some item => st.body context item
  | none => return none

/-- the schema that describes a body, or one event of a stream -/
def bodySchema? (stream : Bool) (media : Document.MediaType) : Option SchemaNode :=
  if stream then media.itemSchema <|> media.schema else media.schema

/-- one response, whose schema is built in `context` -/
def response (st : Setting) (context status : String) (r : Document.Response) : Building Response := do
  let selected := selectMediaType r.content
  let stream := selected.any (·.1 == eventStreamMediaType)
  let model ← st.model? context (selected.bind fun (_, media) => bodySchema? stream media)
  let description := if r.description.isEmpty then none else some r.description
  return ⟨status, description, selected.map (·.1), model, stream⟩

/-- the responses from number `i` on; the one at `success` does not carry its status in the names of its schemas -/
def responses (st : Setting) (context : String) (success : Option Nat) (i : Nat) :
    List (String × OrRef Document.Response) → Building (List Response)
  | [] => return []
  | (status, item) :: items =>
    match st.components.response? item with
    | none => do
      noteUnfollowed context item
      st.responses context success (i + 1) items
    | some r => do
      let inner := if success = some i then context ++ "Response" else context ++ pascalCase status ++ "Response"
      let response ← st.response inner status r
      return response :: (← st.responses context success (i + 1) items)

/-- the name of an operation, by the strategy and the aliases of the settings -/
def operationName (st : Setting) (operationId route : String) : Name :=
  let raw := match st.naming.strategy with
    | .byOperationId => operationId
    | .byRoute => route
  Name.of ((Keyed.get? st.naming.aliases raw).getD raw)

/-- one operation; its own parameters take the place of those of its path -/
def operation (st : Setting) (path : String) (shared : List (OrRef Document.Parameter)) (method : Method)
    (op : Document.Operation) : Building Operation := do
  let route := routeName method.name path
  let operationId := op.operationId.getD route
  let name := st.operationName operationId route
  let context := name.typeName
  let inherited ← st.parameters context shared
  let own ← st.parameters context op.parameters
  let body ← st.body? context op.requestBody
  let responses ← st.responses context (successIndex? op.responses.keys) 0 op.responses
  return {
    operationId, name, method, path
    summary := op.summary
    description := op.description
    tags := op.tags
    parameters := own.foldl override inherited
    body, responses
    deprecated := op.deprecated.getD false }

/-- the operations of one path -/
def pathOperations (st : Setting) (path : String) (shared : List (OrRef Document.Parameter)) :
    List (Method × Document.Operation) → Building (List Operation)
  | [] => return []
  | (method, op) :: ops => do
    let operation ← st.operation path shared method op
    return operation :: (← st.pathOperations path shared ops)

/-- the operations of all paths -/
def operations (st : Setting) : List (String × Document.PathItem) → Building (List Operation)
  | [] => return []
  | (path, item) :: items => do
    let ops ← st.pathOperations path item.parameters item.operations
    return ops ++ (← st.operations items)

end Setting

/-- what building the operations of a document may use -/
def setting (d : Document) (naming : Config.Naming) (limit : Nat) : Setting :=
  let components := Document.Components.orEmpty d.components
  ⟨⟨components.schemas, limit⟩, components, naming⟩

/-- build the components and then the operations of a document -/
def building (d : Document) (st : Setting) : Building (List Operation) := do
  st.source.parseComponents
  st.operations d.paths

/-- the API that a document describes, and what there was to notice on the way -/
def ofDocument (d : Document) (naming : Config.Naming) (limit : Nat) : Api × List Notice :=
  let st := setting d naming limit
  let (operations, b) := (building d st).run st.source.start
  ({ info := d.info
     servers := d.servers
     table := st.source.finish b
     operations := operations
     modules := groupsByTag operations
     diagnostics := b.diagnostics },
   b.notices)

end ClientPlan.Api
