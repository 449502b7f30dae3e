/-
Settings of a run: how operations are named, how deep schemas are followed, which responses are envelopes, and where the
planned files go. Every setting has a default, which also holds inside a section that is given only in part.
-/
import ClientPlan.Config.Setting

namespace ClientPlan

namespace Config

/-- how operations are named -/
inductive Strategy where
  | byOperationId
  | byRoute
  deriving DecidableEq, Repr, Inhabited

namespace Strategy

/-- every strategy under its name -/
def table : Keyed Strategy :=
  [("use_operation_id", .byOperationId), ("use_route_based", .byRoute)]

def name : Strategy → String
  | byOperationId => "use_operation_id"
  | byRoute => "use_route_based"

end Strategy

/-- what the operations of one endpoint file have in common -/
inductive SplitBy where
  | tag
  | operation
  | route
  deriving DecidableEq, Repr, Inhabited

namespace SplitBy

/-- every way to split under its name -/
def table : Keyed SplitBy :=
  [("tag", .tag), ("operation", .operation), ("route", .route)]

def name : SplitBy → String
  | tag => "tag"
  | operation => "operation"
  | route => "route"

def form : Form SplitBy :=
  .choice table name

end SplitBy

structure Naming where
  strategy : Strategy := .byOperationId
  /-- names to use instead of those that the strategy gives -/
  aliases : Keyed String := []
  deriving DecidableEq, Repr, Inhabited

def Naming.settings : Settings Naming where
  name := "NamingConfig"
  all := [
    .of "strategy" ⟨(·.strategy), fun v x => { x with strategy := v }⟩ (.choice Strategy.table Strategy.name),
    .of "aliases" ⟨(·.aliases), fun v x => { x with aliases := v }⟩ Form.text.keyed]
  start := {}

structure Parser where
  maxDepth : Nat := 100
  deriving DecidableEq, Repr, Inhabited

def Parser.settings : Settings Parser where
  name := "ParserConfig"
  all := [.of "max_depth" ⟨(·.maxDepth), fun v x => { x with maxDepth := v }⟩ .size]
  start := {}

/-- which response bodies are wrappers around the real payload -/
structure Envelope where
  enabled : Bool := true
  containers : List String := ["data"]
  metadata : List String := ["meta", "metadata", "links", "pagination"]
  deriving DecidableEq, Repr, Inhabited

def Envelope.settings : Settings Envelope where
  name := "EnvelopeConfig"
  all := [
    .of "enabled" ⟨(·.enabled), fun v x => { x with enabled := v }⟩ .flag,
    .of "container_fields" ⟨(·.containers), fun v x => { x with containers := v }⟩ Form.text.list,
    .of "metadata_fields" ⟨(·.metadata), fun v x => { x with metadata := v }⟩ Form.text.list]
  start := {}

structure Layout where
  modelsDir : String := "models"
  endpointsDir : String := "endpoints"
  splitBy : SplitBy := .tag
  deriving DecidableEq, Repr, Inhabited

def Layout.settings : Settings Layout where
  name := "LayoutConfig"
  all := [
    .of "models_dir" ⟨(·.modelsDir), fun v x => { x with modelsDir := v }⟩ .text,
    .of "endpoints_dir" ⟨(·.endpointsDir), fun v x => { x with endpointsDir := v }⟩ .text,
    .of "split_by" ⟨(·.splitBy), fun v x => { x with splitBy := v }⟩ SplitBy.form]
  start := {}

end Config

structure Config where
  /-- package that the generated tree is imported as -/
  package : String := "client"
  naming : Config.Naming := {}
  parser : Config.Parser := {}
  envelope : Config.Envelope := {}
  layout : Config.Layout := {}
  deriving DecidableEq, Repr, Inhabited

namespace Config

def settings : Settings Config where
  name := "OagConfig"
  all := [
    .of "package" ⟨(·.package), fun v x => { x with package := v }⟩ .text,
    .of "naming" ⟨(·.naming), fun v x => { x with naming := v }⟩ Naming.settings.form,
    .of "parser" ⟨(·.parser), fun v x => { x with parser := v }⟩ Parser.settings.form,
    .of "envelope" ⟨(·.envelope), fun v x => { x with envelope := v }⟩ Envelope.settings.form,
    .of "layout" ⟨(·.layout), fun v x => { x with layout := v }⟩ Layout.settings.form]
  start := {}

/-- read settings from JSON -/
def read (v : Json) : Except Mismatch Config :=
  settings.record.read v

end Config

end ClientPlan
