/-
Identifiers for the generated code. A name is cut into words and cased; what would be no identifier is mended: an empty
result gets a name, a leading digit an underscore before it, and a reserved word an underscore after it.
-/
import ClientPlan.Text.CaseContext
import ClientPlan.Text.Words

namespace ClientPlan

/-- words that cannot be identifiers of the generated code -/
def reservedWords : List String :=
  ["false", "none", "true", "and", "as", "assert", "async", "await", "break", "class", "continue", "def", "del",
    "elif", "else", "except", "finally", "for", "from", "global", "if", "import", "in", "is", "lambda", "match",
    "nonlocal", "not", "or", "pass", "raise", "return", "try", "while", "with", "yield"]

/-- a cased name as an identifier, where `reserved` tells the words that must not be used -/
def asIdentifier (reserved : String → Bool) (cased : List Char) : String :=
  if cased.isEmpty then "unnamed" else
    let safe := match cased with
      | c :: _ => if c.isDigit then '_' :: cased else cased
      | [] => cased
    if reserved (String.ofList safe) then String.ofList (safe ++ ['_']) else String.ofList safe

/-- a name in capitalised words -/
def pascalCase (name : String) : String :=
  String.ofList (Text.pascal name.toList)

/-- identifier of a type; a reserved word is avoided in any case -/
def typeName (name : String) : String :=
  asIdentifier (fun s => reservedWords.contains (Text.lowerText s)) (Text.pascal name.toList)

/-- identifier of a function, field or parameter -/
def memberName (name : String) : String :=
  asIdentifier reservedWords.contains (Text.snake name.toList)

/-- last segment of the path of a module -/
def moduleName (name : String) : String :=
  memberName name

/-- a name together with the identifiers made from it -/
structure Name where
  /-- the name as it was given -/
  written : String
  typeName : String
  memberName : String
  moduleName : String
  deriving DecidableEq, Repr, Inhabited

/-- a name with its identifiers -/
def Name.of (name : String) : Name :=
  ⟨name, ClientPlan.typeName name, ClientPlan.memberName name, ClientPlan.moduleName name⟩

end ClientPlan
