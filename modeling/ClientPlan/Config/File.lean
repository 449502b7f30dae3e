/-
Settings from a file. A file that is not there is no failure, and one that holds nothing but comments means the
defaults. `File.initial` is the text of a new settings file; it gives the defaults.
-/
import ClientPlan.Config

namespace ClientPlan.Config

/-- what stands under the name of a settings file -/
inductive File where
  | missing
  | directory
  | bytes (content : ByteArray)

/-- why settings cannot be loaded -/
inductive LoadFailure where
  /-- what is there is no text -/
  | unreadable
  /-- the text gives no settings -/
  | malformed
  deriving DecidableEq, Repr

/-- the settings that a YAML text gives -/
def ofYaml? (text : String) : Option Config := do
  match ← Yaml.Node.ofText? text with
  | none => some {}
  | some root => settings.form.place? ⟨root, root⟩

namespace File

/-- the settings in a file, if it is there -/
def load : File → Except LoadFailure (Option Config)
  | .missing => .ok none
  | .directory => .error .unreadable
  | .bytes content =>
    match String.fromUTF8? content with
    | none => .error .unreadable
    | some text =>
      match ofYaml? text with
      | some config => .ok (some config)
      | none => .error .malformed

/-- text of a new settings file -/
def initial : String :=
  String.join <| List.map (· ++ "\n") [
    "# oag configuration",
    "package: client",
    "",
    "naming:",
    "  strategy: use_operation_id  # use_operation_id | use_route_based",
    "  aliases: \x7b\x7d",
    "    # createChatCompletion: chat     # operationId -> custom name",
    "",
    "parser:",
    "  max_depth: 100        # nesting bound before a schema becomes untyped",
    "",
    "envelope:",
    "  enabled: true",
    "  container_fields: [data]",
    "  metadata_fields: [meta, metadata, links, pagination]",
    "",
    "layout:",
    "  models_dir: models",
    "  endpoints_dir: endpoints",
    "  split_by: tag         # tag | operation | route"]

end File

end ClientPlan.Config
