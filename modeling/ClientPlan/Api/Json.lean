/-
An API as JSON.
-/
import ClientPlan.Api.Basic
import ClientPlan.Model.Json

namespace ClientPlan

/-- a number -/
def Json.ofNat (n : Nat) : Json :=
  .number (.integer n)

def Name.toJson (n : Name) : Json :=
  .object [("original", .string n.written), ("type_name", .string n.typeName),
    ("member_name", .string n.memberName), ("module_name", .string n.moduleName)]

namespace Api

def Parameter.toJson (p : Parameter) : Json :=
  .object [("name", p.name.toJson), ("original_name", .string p.written), ("location", .string p.location.name),
    ("schema", p.model.toJson), ("required", .bool p.required), ("description", Json.ofText? p.description)]

def Body.toJson (b : Body) : Json :=
  .object [("schema", b.model.toJson), ("required", .bool b.required), ("content_type", .string b.contentType),
    ("description", Json.ofText? b.description),
    ("encoding", .array (b.encoding.map fun (field, contentType) =>
      .object [("field_name", .string field), ("content_type", Json.ofText? contentType)]))]

def Response.toJson (r : Response) : Json :=
  .object [("status_code", .string r.status), ("description", Json.ofText? r.description),
    ("content_type", Json.ofText? r.contentType), ("schema", (r.model.map Model.toJson).getD .null),
    ("stream", .bool r.stream)]

def Operation.toJson (op : Operation) : Json :=
  .object [("operation_id", .string op.operationId), ("name", op.name.toJson), ("method", .string op.method.name),
    ("path", .string op.path), ("summary", Json.ofText? op.summary), ("description", Json.ofText? op.description),
    ("tags", Json.ofTexts op.tags), ("parameters", .array (op.parameters.map Parameter.toJson)),
    ("request_body", (op.body.map Body.toJson).getD .null), ("responses", .array (op.responses.map Response.toJson)),
    ("deprecated", .bool op.deprecated)]

/-- positions of operations -/
def positions (ns : List Nat) : Json :=
  .array (ns.map Json.ofNat)

def toJson (api : Api) : Json :=
  .object [
    ("info", .object [("title", .string api.info.title), ("description", Json.ofText? api.info.description),
      ("version", .string api.info.version)]),
    ("servers", .array (api.servers.map fun s =>
      .object [("url", .string s.url), ("description", Json.ofText? s.description)])),
    ("schemas", Table.toJson api.table),
    ("operations", .array (api.operations.map Operation.toJson)),
    ("modules", .array (api.modules.map fun g =>
      .object [("name", g.name.toJson), ("operations", positions g.operations)])),
    ("diagnostics", .array (api.diagnostics.map Diagnostic.toJson))]

end Api

end ClientPlan
