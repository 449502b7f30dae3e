/-
An API description as a document writes it: general information, servers, paths with their operations, and components
that are referred to by name. Every type comes with the record that reads and writes it.
-/
import ClientPlan.Document.Schema

namespace ClientPlan

/-- a reference to a component, or the thing itself -/
inductive OrRef (α : Type) where
  | ref (path : String)
  | inline (value : α)
  deriving DecidableEq, Repr, Inhabited

/-- a reference object or else a value; `name` names the choice in mismatches -/
def OrRef.codec {α : Type} (name : String) (c : Codec α) : Codec (OrRef α) where
  read v :=
    match referencePath? v with
    | some path => .ok (.ref path)
    | none =>
      match c.read v with
      | .ok a => .ok (.inline a)
      | .error _ => .error (.noForm name)
  write
    | .ref path => referenceObject path
    | .inline a => c.write a

/-- where a parameter is passed -/
inductive Location where
  | query
  | header
  | path
  | cookie
  deriving DecidableEq, Repr, Inhabited

namespace Location

/-- every location under its name -/
def table : Keyed Location :=
  [("query", .query), ("header", .header), ("path", .path), ("cookie", .cookie)]

def name : Location → String
  | query => "query"
  | header => "header"
  | path => "path"
  | cookie => "cookie"

end Location

namespace Document

structure Info where
  title : String := ""
  description : Option String := none
  version : String := ""
  deriving DecidableEq, Repr, Inhabited

def Info.record : Record Info where
  name := "Info"
  fields := [
    .filled "title" ⟨(·.title), fun v x => { x with title := v }⟩ .text,
    .optional "description" ⟨(·.description), fun v x => { x with description := v }⟩ .text,
    .filled "version" ⟨(·.version), fun v x => { x with version := v }⟩ .text]
  start := {}

structure Server where
  url : String
  description : Option String := none
  deriving DecidableEq, Repr, Inhabited

def Server.record : Record Server where
  name := "Server"
  fields := [
    .needed "url" ⟨(·.url), fun v x => { x with url := v }⟩ .text,
    .optional "description" ⟨(·.description), fun v x => { x with description := v }⟩ .text]
  start := { url := "" }

structure Parameter where
  name : String
  location : Location
  description : Option String := none
  required : Bool := false
  deprecated : Option Bool := none
  schema : Option SchemaNode := none
  deriving Repr, Inhabited

def Parameter.record : Record Parameter where
  name := "Parameter"
  fields := [
    .needed "name" ⟨(·.name), fun v x => { x with name := v }⟩ .text,
    .needed "in" ⟨(·.location), fun v x => { x with location := v }⟩ (.choice Location.table Location.name),
    .optional "description" ⟨(·.description), fun v x => { x with description := v }⟩ .text,
    .filled "required" ⟨(·.required), fun v x => { x with required := v }⟩ .flag,
    .optional "deprecated" ⟨(·.deprecated), fun v x => { x with deprecated := v }⟩ .flag,
    .optional "schema" ⟨(·.schema), fun v x => { x with schema := v }⟩ SchemaNode.codec]
  start := { name := "", location := .query }

/-- how one field of a multipart body is encoded -/
structure Encoding where
  contentType : Option String := none
  deriving DecidableEq, Repr, Inhabited

def Encoding.record : Record Encoding where
  name := "Encoding"
  fields := [.optional "contentType" ⟨(·.contentType), fun v x => { x with contentType := v }⟩ .text]
  start := {}

/-- a body in one media type; `itemSchema` describes one event of a stream -/
structure MediaType where
  schema : Option SchemaNode := none
  itemSchema : Option SchemaNode := none
  encoding : Keyed Encoding := []
  deriving Repr, Inhabited

def MediaType.record : Record MediaType where
  name := "MediaType"
  fields := [
    .optional "schema" ⟨(·.schema), fun v x => { x with schema := v }⟩ SchemaNode.codec,
    .optional "itemSchema" ⟨(·.itemSchema), fun v x => { x with itemSchema := v }⟩ SchemaNode.codec,
    .keyed "encoding" ⟨(·.encoding), fun v x => { x with encoding := v }⟩ Encoding.record.codec]
  start := {}

structure RequestBody where
  description : Option String := none
  content : Keyed MediaType := []
  required : Bool := false
  deriving Repr, Inhabited

def RequestBody.record : Record RequestBody where
  name := "RequestBody"
  fields := [
    .optional "description" ⟨(·.description), fun v x => { x with description := v }⟩ .text,
    .filled "content" ⟨(·.content), fun v x => { x with content := v }⟩ MediaType.record.codec.keyed,
    .filled "required" ⟨(·.required), fun v x => { x with required := v }⟩ .flag]
  start := {}

structure Response where
  description : String := ""
  content : Keyed MediaType := []
  deriving Repr, Inhabited

def Response.record : Record Response where
  name := "Response"
  fields := [
    .filled "description" ⟨(·.description), fun v x => { x with description := v }⟩ .text,
    .keyed "content" ⟨(·.content), fun v x => { x with content := v }⟩ MediaType.record.codec]
  start := {}

def parameterCodec : Codec (OrRef Parameter) :=
  OrRef.codec "ParameterOrRef" Parameter.record.codec

def requestBodyCodec : Codec (OrRef RequestBody) :=
  OrRef.codec "RequestBodyOrRef" RequestBody.record.codec

def responseCodec : Codec (OrRef Response) :=
  OrRef.codec "ResponseOrRef" Response.record.codec

structure Operation where
  operationId : Option String := none
  summary : Option String := none
  description : Option String := none
  tags : List String := []
  parameters : List (OrRef Parameter) := []
  requestBody : Option (OrRef RequestBody) := none
  responses : Keyed (OrRef Response) := []
  deprecated : Option Bool := none
  deriving Repr, Inhabited

def Operation.record : Record Operation where
  name := "Operation"
  fields := [
    .optional "operationId" ⟨(·.operationId), fun v x => { x with operationId := v }⟩ .text,
    .optional "summary" ⟨(·.summary), fun v x => { x with summary := v }⟩ .text,
    .optional "description" ⟨(·.description), fun v x => { x with description := v }⟩ .text,
    .list "tags" ⟨(·.tags), fun v x => { x with tags := v }⟩ .text,
    .list "parameters" ⟨(·.parameters), fun v x => { x with parameters := v }⟩ parameterCodec,
    .optional "requestBody" ⟨(·.requestBody), fun v x => { x with requestBody := v }⟩ requestBodyCodec,
    .keyed "responses" ⟨(·.responses), fun v x => { x with responses := v }⟩ responseCodec,
    .optional "deprecated" ⟨(·.deprecated), fun v x => { x with deprecated := v }⟩ .flag]
  start := {}

/-- the operations of one path -/
structure PathItem where
  summary : Option String := none
  description : Option String := none
  parameters : List (OrRef Parameter) := []
  get : Option Operation := none
  post : Option Operation := none
  put : Option Operation := none
  delete : Option Operation := none
  patch : Option Operation := none
  options : Option Operation := none
  head : Option Operation := none
  trace : Option Operation := none
  deriving Repr, Inhabited

def PathItem.record : Record PathItem where
  name := "PathItem"
  fields := [
    .optional "summary" ⟨(·.summary), fun v x => { x with summary := v }⟩ .text,
    .optional "description" ⟨(·.description), fun v x => { x with description := v }⟩ .text,
    .list "parameters" ⟨(·.parameters), fun v x => { x with parameters := v }⟩ parameterCodec,
    .optional "get" ⟨(·.get), fun v x => { x with get := v }⟩ Operation.record.codec,
    .optional "post" ⟨(·.post), fun v x => { x with post := v }⟩ Operation.record.codec,
    .optional "put" ⟨(·.put), fun v x => { x with put := v }⟩ Operation.record.codec,
    .optional "delete" ⟨(·.delete), fun v x => { x with delete := v }⟩ Operation.record.codec,
    .optional "patch" ⟨(·.patch), fun v x => { x with patch := v }⟩ Operation.record.codec,
    .optional "options" ⟨(·.options), fun v x => { x with options := v }⟩ Operation.record.codec,
    .optional "head" ⟨(·.head), fun v x => { x with head := v }⟩ Operation.record.codec,
    .optional "trace" ⟨(·.trace), fun v x => { x with trace := v }⟩ Operation.record.codec]
  start := {}

/-- definitions that the document refers to by name -/
structure Components where
  schemas : Keyed SchemaNode := []
  responses : Keyed (OrRef Response) := []
  parameters : Keyed (OrRef Parameter) := []
  requestBodies : Keyed (OrRef RequestBody) := []
  deriving Repr, Inhabited

def Components.record : Record Components where
  name := "Components"
  fields := [
    .keyed "schemas" ⟨(·.schemas), fun v x => { x with schemas := v }⟩ SchemaNode.codec,
    .keyed "responses" ⟨(·.responses), fun v x => { x with responses := v }⟩ responseCodec,
    .keyed "parameters" ⟨(·.parameters), fun v x => { x with parameters := v }⟩ parameterCodec,
    .keyed "requestBodies" ⟨(·.requestBodies), fun v x => { x with requestBodies := v }⟩ requestBodyCodec]
  start := {}

end Document

/-- a whole API description -/
structure Document where
  openapi : String := ""
  info : Document.Info := {}
  servers : List Document.Server := []
  paths : Keyed Document.PathItem := []
  components : Option Document.Components := none
  deriving Repr, Inhabited

namespace Document

def record : Record Document where
  name := "OpenApiSpec"
  fields := [
    .filled "openapi" ⟨(·.openapi), fun v x => { x with openapi := v }⟩ .text,
    .filled "info" ⟨(·.info), fun v x => { x with info := v }⟩ Info.record.codec,
    .list "servers" ⟨(·.servers), fun v x => { x with servers := v }⟩ Server.record.codec,
    .keyed "paths" ⟨(·.paths), fun v x => { x with paths := v }⟩ PathItem.record.codec,
    .optional "components" ⟨(·.components), fun v x => { x with components := v }⟩ Components.record.codec]
  start := {}

/-- why a value is not an API description -/
inductive ReadError where
  | document (cause : Mismatch)
  deriving DecidableEq, Repr

def ReadError.message : ReadError → String
  | .document cause => "invalid document: " ++ cause.message

/-- read an API description -/
def read (v : Json) : Except ReadError Document :=
  (record.read v).mapError .document

/-- write an API description -/
def write (d : Document) : Json :=
  record.write d

/-- the version that the document declares is one of those that are understood -/
def isSupported (d : Document) : Bool :=
  (Text.afterStart? "3." d.openapi).isSome

end Document

end ClientPlan
