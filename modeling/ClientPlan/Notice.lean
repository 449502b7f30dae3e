/-
Notices: what happens on the way from a document to a plan that a user may want to know. A notice is kept as data; its
level and its wording are functions of it.
-/
import ClientPlan.Diagnostic
import ClientPlan.Text.Quoted

namespace ClientPlan

inductive Level where
  | debug
  | warn
  deriving DecidableEq, Repr

inductive Notice where
  /-- the document declares a version that is not understood -/
  | unknownVersion (version : String)
  | problem (d : Diagnostic)
  /-- a reference to a component that is being built -/
  | forwardReference (context name : String)
  /-- a component that a merge has gone through already -/
  | mergeCycle (context name : String)
  /-- an inline schema that gets a name of its own -/
  | promoted (context name : String)
  /-- a name that was taken -/
  | renamed (name unique : String)
  /-- an imported symbol whose name was taken -/
  | aliased (file symbol module localName : String)
  /-- a response whose payload is taken out of its envelope -/
  | unwrapped (operation : String)
  deriving DecidableEq, Repr

namespace Notice

def level : Notice → Level
  | unknownVersion _ => .warn
  | problem _ => .warn
  | _ => .debug

/-- wording of a problem when it is found -/
def problemText (location : String) : Issue → String
  | .unresolvedReference path => s!"{location}: unresolved reference {path}"
  | .malformed => s!"{location}: malformed schema node"
  | .depthExceeded limit => s!"{location}: nesting deeper than {limit}, using an untyped placeholder"

def text : Notice → String
  | unknownVersion version =>
    "document declares openapi version " ++ Text.quoted version ++ "; continuing as 3.x"
  | problem d => problemText d.location d.issue
  | forwardReference context name => s!"{context}: cycle through {name}, leaving a forward reference"
  | mergeCycle context name => s!"{context}: allOf cycle through {name}, skipping"
  | promoted context name => s!"promoting inline schema at {context} to {name}"
  | renamed name unique => s!"{name} is already taken, renamed to {unique}"
  | aliased file symbol module localName =>
    s!"{file}: {symbol} from {module} collides with an earlier import, aliased as {localName}"
  | unwrapped operation => s!"{operation}: unwrapping envelope response"

end Notice

end ClientPlan
