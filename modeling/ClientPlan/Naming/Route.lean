/-
Names for operations that are known by method and path alone: a verb for the method, then the literal segments of the
path. Where the path ends in a parameter, the operation is about one thing, so the last literal segment is singular.
-/
import ClientPlan.Naming.Identifier

namespace ClientPlan

/-- a segment in braces -/
def isPathParameter (segment : String) : Bool :=
  segment.toList.head? == some '\x7b' && segment.toList.getLast? == some '\x7d'

/-- singular of a plural word, by its ending -/
def singular (word : String) : String :=
  match (Text.beforeEnd? "ies" word).filter (· ≠ "") with
  | some stem => stem ++ "y"
  | none =>
    let ends (ending : String) : Bool := (Text.beforeEnd? ending word).isSome
    if ends "ses" || ends "xes" || ends "zes" then
      String.ofList (word.toList.take (word.length - 2))
    else if ends "s" && !ends "ss" && 1 < word.length then
      String.ofList (word.toList.take (word.length - 1))
    else word

/-- verb of a method -/
def routeVerb (method : String) (aboutOne : Bool) : String :=
  match Text.lowerText method with
  | "get" => if aboutOne then "get" else "list"
  | "post" => "create"
  | "put" => "update"
  | other => other

/-- name of an operation from its method and path -/
def routeName (method path : String) : String :=
  let segments := Text.segments '/' path
  let literals := segments.filter (fun s => !isPathParameter s)
  let aboutOne := segments.getLast?.any isPathParameter
  let resource :=
    if aboutOne then literals.dropLast ++ (literals.getLast?.map singular).toList else literals
  routeVerb method aboutOne ++ String.join (resource.map pascalCase)

end ClientPlan
