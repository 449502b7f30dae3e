/-
Models as JSON. Every model has its name, kind and nullability; what is empty or absent is left out.
-/
import ClientPlan.Model.Basic

namespace ClientPlan

/-- a string or null -/
def Json.ofText? : Option String → Json
  | some s => .string s
  | none => .null

/-- an array of strings -/
def Json.ofTexts (ss : List String) : Json :=
  .array (ss.map .string)

/-- an entry for a list, left out if the list is empty -/
def Json.entryOf (key : String) (items : List Json) : List (String × Json) :=
  if items.isEmpty then [] else [(key, .array items)]

/-- an entry for a value, left out if there is none -/
def Json.entryOf? (key : String) (v : Option Json) : List (String × Json) :=
  (v.map (Prod.mk key)).toList

/-- entries of a map that are left out if it is empty -/
def Json.entryOfMap (key : String) (entries : List (String × Json)) : List (String × Json) :=
  if entries.isEmpty then [] else [(key, .object entries)]

def Discriminator.toJson (d : Discriminator) : Json :=
  .object [("property_name", .string d.property), ("mapping", .object (d.mapping.mapValues .string))]

/-- the kind of a shape -/
def Shape.kindJson {ν : Type} : Shape ν → Json
  | scalar s => .object [("kind", .string "primitive"), ("of", .string s.name)]
  | object _ _ _ => .object [("kind", .string "object")]
  | array _ => .object [("kind", .string "array")]
  | enumeration s _ => .object [("kind", .string "enum"), ("of", .string s.name)]
  | union _ _ _ => .object [("kind", .string "union")]
  | reference target => .object [("kind", .string "reference"), ("of", .string target)]

/-- the entries that a shape gives, over the JSON of the models inside it -/
def Shape.entries : Shape Json → List (String × Json)
  | scalar _ => []
  | object properties required additional =>
    Json.entryOfMap "properties" properties ++ Json.entryOf "required" (required.map .string)
      ++ Json.entryOf? "additional_properties" additional
  | array items => Json.entryOf? "items" items
  | enumeration _ literals => Json.entryOf "enum_values" literals
  | union variants literals _ => Json.entryOf "variants" variants ++ Json.entryOf "enum_values" literals
  | reference _ => []

/-- the discriminator of a union -/
def Shape.discriminator? {ν : Type} : Shape ν → Option Discriminator
  | union _ _ d => d
  | _ => none

namespace Model

/-- JSON of a model over its shape with the models inside written out -/
def jsonOf (name : Option String) (shape : Shape Json) (format : Option String) (nullable : Bool)
    (description : Option String) : Json :=
  .object ([("name", Json.ofText? name), ("kind", shape.kindJson)] ++ shape.entries
    ++ Json.entryOf? "format" (format.map .string) ++ [("nullable", .bool nullable)]
    ++ Json.entryOf? "description" (description.map .string)
    ++ Json.entryOf? "discriminator" (shape.discriminator?.map Discriminator.toJson))

mutual

/-- JSON of a model -/
def toJson : Model → Json
  | ⟨name, .scalar s, format, nullable, description⟩ => jsonOf name (.scalar s) format nullable description
  | ⟨name, .object properties required additional, format, nullable, description⟩ =>
    jsonOf name (.object (toJsonEntries properties) required (toJson? additional)) format nullable description
  | ⟨name, .array items, format, nullable, description⟩ =>
    jsonOf name (.array (toJson? items)) format nullable description
  | ⟨name, .enumeration kind literals, format, nullable, description⟩ =>
    jsonOf name (.enumeration kind literals) format nullable description
  | ⟨name, .union variants literals discriminator, format, nullable, description⟩ =>
    jsonOf name (.union (toJsonItems variants) literals discriminator) format nullable description
  | ⟨name, .reference target, format, nullable, description⟩ =>
    jsonOf name (.reference target) format nullable description

/-- JSON of named models -/
def toJsonEntries : List (String × Model) → List (String × Json)
  | [] => []
  | (k, m) :: es => (k, m.toJson) :: toJsonEntries es

/-- JSON of models in order -/
def toJsonItems : List Model → List Json
  | [] => []
  | m :: ms => m.toJson :: toJsonItems ms

/-- JSON of a model, if there is one -/
def toJson? : Option Model → Option Json
  | none => none
  | some m => some m.toJson

end

end Model

/-- JSON of a table: its models under their names -/
def Table.toJson (t : Table) : Json :=
  .object (t.mapValues Model.toJson)

end ClientPlan
