/-
An API in the form that code is generated from: its models, its operations with every reference followed, and the
operations of each tag.
-/
import ClientPlan.Document.Basic
import ClientPlan.Document.Choice
import ClientPlan.Model.Basic
import ClientPlan.Naming.Identifier
import ClientPlan.Diagnostic

namespace ClientPlan

inductive Method where
  | get
  | post
  | put
  | delete
  | patch
  | options
  | head
  | trace
  deriving DecidableEq, Repr, Inhabited

def Method.name : Method → String
  | get => "GET"
  | post => "POST"
  | put => "PUT"
  | delete => "DELETE"
  | patch => "PATCH"
  | options => "OPTIONS"
  | head => "HEAD"
  | trace => "TRACE"

/-- operations of a path in the order in which they are taken -/
def Document.PathItem.operations (item : Document.PathItem) : List (Method × Document.Operation) :=
  [(Method.get, item.get), (.post, item.post), (.put, item.put), (.delete, item.delete), (.patch, item.patch),
    (.options, item.options), (.head, item.head), (.trace, item.trace)].filterMap
    fun (method, op) => op.map (Prod.mk method)

namespace Api

structure Parameter where
  name : Name
  location : Location
  model : Model
  required : Bool
  description : Option String
  deriving Repr, Inhabited

/-- name of the parameter as the document has it -/
def Parameter.written (p : Parameter) : String :=
  p.name.written

structure Body where
  model : Model
  required : Bool
  contentType : String
  description : Option String
  /-- content types of the fields of a multipart body -/
  encoding : Keyed (Option String)
  deriving Repr, Inhabited

structure Response where
  status : String
  description : Option String
  contentType : Option String
  /-- absent if the response has no body -/
  model : Option Model
  /-- the body is an event stream, of which the model describes one event -/
  stream : Bool
  deriving Repr, Inhabited

structure Operation where
  /-- as the document has it, or made from the route -/
  operationId : String
  name : Name
  method : Method
  path : String
  summary : Option String
  description : Option String
  tags : List String
  parameters : List Parameter
  body : Option Body
  /-- every response whose references could be followed, in document order -/
  responses : List Response
  deprecated : Bool
  deriving Repr, Inhabited

/-- the response to a successful call -/
def Operation.success? (op : Operation) : Option Response := do
  op.responses[← successIndex? (op.responses.map (·.status))]?

/-- operations that belong together, by their positions -/
structure Group where
  name : Name
  operations : List Nat
  deriving DecidableEq, Repr, Inhabited

end Api

structure Api where
  info : Document.Info
  servers : List Document.Server
  table : Table
  operations : List Api.Operation
  /-- one group for each tag, sorted by tag -/
  modules : List Api.Group
  diagnostics : List Diagnostic
  deriving Repr, Inhabited

end ClientPlan
