/-
A plan as JSON.
-/
import ClientPlan.Api.Json
import ClientPlan.Plan.Basic

namespace ClientPlan

def Imports.Requirement.toJson (r : Imports.Requirement) : Json :=
  .object [("module", .string r.module), ("symbol", .string r.symbol), ("alias", Json.ofText? r.localName)]

namespace Plan

def FileImports.toJson (i : FileImports) : Json :=
  .object [("requirements", .array (i.requirements.map Imports.Requirement.toJson)),
    ("bindings", .object (i.bindings.mapValues .string)), ("block", .string i.block)]

def Field.toJson (f : Field) : Json :=
  .object [("name", .string f.name), ("member_name", .string f.memberName), ("required", .bool f.required),
    ("descriptor", f.descriptor.toJson)]

def ModelFile.toJson (f : ModelFile) : Json :=
  .object [("path", .string f.path), ("schema_name", .string f.schema), ("type_name", .string f.typeName),
    ("definition", f.definition.toJson), ("fields", .array (f.fields.map Field.toJson)), ("imports", f.imports.toJson)]

def Parameter.toJson (p : Parameter) : Json :=
  .object [("name", .string p.name), ("member_name", .string p.memberName), ("location", .string p.location.name),
    ("descriptor", p.descriptor.toJson)]

def Method.toJson (m : Method) : Json :=
  .object [("operation", Json.ofNat m.operation), ("operation_id", .string m.operationId),
    ("method_name", .string m.name), ("http_method", .string m.verb.name), ("path", .string m.path),
    ("parameters", .array (m.parameters.map Parameter.toJson)), ("body", (m.body.map Descriptor.toJson).getD .null),
    ("return_type", m.result.toJson), ("needs_unwrap", .bool m.needsUnwrap), ("stream", .bool m.stream)]

def EndpointFile.toJson (f : EndpointFile) : Json :=
  .object [("path", .string f.path), ("group", .string f.group), ("methods", .array (f.methods.map Method.toJson)),
    ("imports", f.imports.toJson)]

def toJson (p : Plan) : Json :=
  .object [("package", .string p.package), ("models", .array (p.models.map ModelFile.toJson)),
    ("endpoints", .array (p.endpoints.map EndpointFile.toJson)),
    ("diagnostics", .array (p.diagnostics.map Diagnostic.toJson))]

end Plan

end ClientPlan
