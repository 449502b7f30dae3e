/-
A plan: every file to be generated, with its resolved types, final names and imports.
-/
import ClientPlan.Api.Basic
import ClientPlan.Descriptor.Basic
import ClientPlan.Imports.Planner

namespace ClientPlan

namespace Plan

/-- imports of one file -/
structure FileImports where
  requirements : List Imports.Requirement := []
  /-- what each model of the table is called in the file -/
  bindings : Keyed String := []
  block : String := ""
  deriving DecidableEq, Repr, Inhabited

/-- one property of a model -/
structure Field where
  name : String
  memberName : String
  required : Bool
  descriptor : Descriptor
  deriving DecidableEq, Repr, Inhabited

/-- the file that declares one model -/
structure ModelFile where
  /-- without extension, relative to the root of the tree -/
  path : String
  schema : String
  typeName : String
  definition : Descriptor
  fields : List Field
  imports : FileImports
  deriving DecidableEq, Repr, Inhabited

structure Parameter where
  name : String
  memberName : String
  location : Location
  descriptor : Descriptor
  deriving DecidableEq, Repr, Inhabited

/-- one operation as a method -/
structure Method where
  /-- position of the operation in the API -/
  operation : Nat
  operationId : String
  /-- unique within the file -/
  name : String
  verb : ClientPlan.Method
  path : String
  parameters : List Parameter
  body : Option Descriptor
  result : Descriptor
  needsUnwrap : Bool
  stream : Bool
  deriving DecidableEq, Repr, Inhabited

/-- the file of one group of operations -/
structure EndpointFile where
  path : String
  group : String
  methods : List Method
  imports : FileImports
  deriving DecidableEq, Repr, Inhabited

end Plan

structure Plan where
  package : String
  models : List Plan.ModelFile
  endpoints : List Plan.EndpointFile
  diagnostics : List Diagnostic
  deriving DecidableEq, Repr, Inhabited

namespace Plan

/-- the file of a model -/
def model? (p : Plan) (schema : String) : Option ModelFile :=
  p.models.find? (·.schema == schema)

/-- the endpoint file at a path -/
def endpoint? (p : Plan) (path : String) : Option EndpointFile :=
  p.endpoints.find? (·.path == path)

end Plan

end ClientPlan
