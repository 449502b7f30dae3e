/-
Problems with single schemas. They stop nothing: the schema becomes untyped and the problem is noted with the place
where it was found.
-/
import ClientPlan.Json.Value

namespace ClientPlan

inductive Issue where
  | depthExceeded (limit : Nat)
  | unresolvedReference (path : String)
  | malformed
  deriving DecidableEq, Repr, Inhabited

structure Diagnostic where
  location : String
  issue : Issue
  deriving DecidableEq, Repr, Inhabited

namespace Issue

def message : Issue → String
  | depthExceeded limit => s!"schema nesting exceeds the maximum depth of {limit}"
  | unresolvedReference path => s!"unresolved reference: {path}"
  | malformed => "schema node is not an object"

def toJson : Issue → Json
  | depthExceeded limit => .object [("CycleDepthExceeded", .object [("max_depth", .number (.integer limit))])]
  | unresolvedReference path => .object [("UnresolvedReference", .string path)]
  | malformed => .string "Malformed"

end Issue

namespace Diagnostic

def message (d : Diagnostic) : String :=
  d.location ++ ": " ++ d.issue.message

def toJson (d : Diagnostic) : Json :=
  .object [("location", .string d.location), ("issue", d.issue.toJson)]

end Diagnostic

end ClientPlan
