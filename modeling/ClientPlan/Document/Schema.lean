/-
Schemas as a document writes them. A schema is described over the type of its subschemas, so that it can be read one
layer at a time: first with the subschemas as plain JSON, then with these read in turn. A node that is neither a
reference nor a schema is kept as it stands, so that it spoils nothing around it.
-/
import ClientPlan.Json.Record

namespace ClientPlan

/-- names that the `type` keyword may hold -/
inductive TypeName where
  | string
  | number
  | integer
  | boolean
  | array
  | object
  | null
  deriving DecidableEq, Repr

namespace TypeName

/-- every type under its name -/
def table : Keyed TypeName :=
  [("string", .string), ("number", .number), ("integer", .integer), ("boolean", .boolean), ("array", .array),
    ("object", .object), ("null", .null)]

def name : TypeName → String
  | string => "string"
  | number => "number"
  | integer => "integer"
  | boolean => "boolean"
  | array => "array"
  | object => "object"
  | null => "null"

def codec : Codec TypeName :=
  .choice table name

end TypeName

/-- value of the `type` keyword: one name, or a list of names -/
inductive TypeSet where
  | one (t : TypeName)
  | several (ts : List TypeName)
  deriving DecidableEq, Repr

namespace TypeSet

/-- the listed types in order -/
def names : TypeSet → List TypeName
  | one t => [t]
  | several ts => ts

/-- null is listed -/
def includesNull (ts : TypeSet) : Bool :=
  ts.names.contains .null

/-- the listed types but null, in order -/
def nonNull (ts : TypeSet) : List TypeName :=
  ts.names.filter (· ≠ .null)

/-- one name or a list of names -/
def read (v : Json) : Except Mismatch TypeSet :=
  match TypeName.codec.read v with
  | .ok t => .ok (.one t)
  | .error _ =>
    match TypeName.codec.list.read v with
    | .ok ts => .ok (.several ts)
    | .error _ => .error (.noForm "TypeSet")

def write : TypeSet → Json
  | one t => TypeName.codec.write t
  | several ts => TypeName.codec.list.write ts

def codec : Codec TypeSet :=
  ⟨read, write⟩

end TypeSet

/-- how a value of a union tells its member -/
structure Discriminator where
  property : String
  mapping : Keyed String
  deriving DecidableEq, Repr, Inhabited

def Discriminator.record : Record Discriminator where
  name := "Discriminator"
  fields := [
    .needed "propertyName" ⟨(·.property), fun v x => { x with property := v }⟩ .text,
    .keyed "mapping" ⟨(·.mapping), fun v x => { x with mapping := v }⟩ .text]
  start := ⟨"", []⟩

/-- value of `additionalProperties`: allowed or not, or a schema for the values -/
inductive Extra (ν : Type) where
  | allowed (b : Bool)
  | shaped (node : ν)
  deriving DecidableEq, Repr

namespace Extra

variable {ν μ : Type}

/-- the same with another subschema -/
def map (f : ν → μ) : Extra ν → Extra μ
  | allowed b => .allowed b
  | shaped n => .shaped (f n)

/-- a boolean, or else a subschema -/
def codec (node : Codec ν) : Codec (Extra ν) where
  read
    | .bool b => .ok (.allowed b)
    | v => (node.read v).map .shaped
  write
    | .allowed b => .bool b
    | .shaped n => node.write n

end Extra

/-- a schema over subschemas `ν`, limited to the keywords that shape types -/
structure Schema (ν : Type) where
  types : Option TypeSet := none
  format : Option String := none
  title : Option String := none
  description : Option String := none
  defaultValue : Option Json := none
  nullable : Option Bool := none
  /-- older spelling of `nullable` -/
  xNullable : Option Bool := none
  properties : List (String × ν) := []
  required : List String := []
  additional : Option (Extra ν) := none
  items : Option ν := none
  allOf : List ν := []
  oneOf : List ν := []
  anyOf : List ν := []
  discriminator : Option Discriminator := none
  literals : List Json := []
  constant : Option Json := none
  readOnly : Option Bool := none
  writeOnly : Option Bool := none
  deprecated : Option Bool := none
  sample : Option Json := none
  deriving Repr, Inhabited

namespace Schema

variable {ν μ : Type}

/-- the same schema over other subschemas -/
def map (f : ν → μ) (s : Schema ν) : Schema μ :=
  { s with
    properties := Keyed.mapValues f s.properties
    additional := s.additional.map (·.map f)
    items := s.items.map f
    allOf := s.allOf.map f
    oneOf := s.oneOf.map f
    anyOf := s.anyOf.map f }

/-- one of the spellings of nullability says that null is allowed -/
def declaresNullable (s : Schema ν) : Bool :=
  s.nullable == some true || s.xNullable == some true || s.types.any (·.includesNull)

/-- fields of a schema, with `node` for its subschemas -/
def fields (node : Codec ν) : List (Field (Schema ν)) := [
  .optional "type" ⟨(·.types), fun v x => { x with types := v }⟩ TypeSet.codec,
  .optional "format" ⟨(·.format), fun v x => { x with format := v }⟩ .text,
  .optional "title" ⟨(·.title), fun v x => { x with title := v }⟩ .text,
  .optional "description" ⟨(·.description), fun v x => { x with description := v }⟩ .text,
  .optional "default" ⟨(·.defaultValue), fun v x => { x with defaultValue := v }⟩ .any,
  .optional "nullable" ⟨(·.nullable), fun v x => { x with nullable := v }⟩ .flag,
  .optional "x-nullable" ⟨(·.xNullable), fun v x => { x with xNullable := v }⟩ .flag,
  .keyed "properties" ⟨(·.properties), fun v x => { x with properties := v }⟩ node,
  .list "required" ⟨(·.required), fun v x => { x with required := v }⟩ .text,
  .optional "additionalProperties" ⟨(·.additional), fun v x => { x with additional := v }⟩ (Extra.codec node),
  .optional "items" ⟨(·.items), fun v x => { x with items := v }⟩ node,
  .list "allOf" ⟨(·.allOf), fun v x => { x with allOf := v }⟩ node,
  .list "oneOf" ⟨(·.oneOf), fun v x => { x with oneOf := v }⟩ node,
  .list "anyOf" ⟨(·.anyOf), fun v x => { x with anyOf := v }⟩ node,
  .optional "discriminator" ⟨(·.discriminator), fun v x => { x with discriminator := v }⟩ Discriminator.record.codec,
  .list "enum" ⟨(·.literals), fun v x => { x with literals := v }⟩ .any,
  .optional "const" ⟨(·.constant), fun v x => { x with constant := v }⟩ .any,
  .optional "readOnly" ⟨(·.readOnly), fun v x => { x with readOnly := v }⟩ .flag,
  .optional "writeOnly" ⟨(·.writeOnly), fun v x => { x with writeOnly := v }⟩ .flag,
  .optional "deprecated" ⟨(·.deprecated), fun v x => { x with deprecated := v }⟩ .flag,
  .optional "example" ⟨(·.sample), fun v x => { x with sample := v }⟩ .any]

/-- one layer of a schema: its subschemas are left as they stand in the document -/
def layer : Record (Schema Json) where
  name := "Schema"
  fields := fields .any
  start := {}

end Schema

/-- a reference, a schema, or a value that is neither -/
inductive SchemaNode where
  | ref (path : String)
  | schema (s : Schema SchemaNode)
  | malformed (v : Json)
  deriving Repr, Inhabited

/-- the path of a reference object: any object with a string under `$ref` -/
def referencePath? (v : Json) : Option String :=
  match v.field? "$ref" with
  | some (.string path) => some path
  | _ => none

/-- a reference object -/
def referenceObject (path : String) : Json :=
  .object [("$ref", .string path)]

namespace SchemaNode

/-- read a node of at most `height` levels -/
def readWithin : (height : Nat) → Json → SchemaNode
  | 0, v => .malformed v
  | height + 1, v =>
    match referencePath? v with
    | some path => .ref path
    | none =>
      match Schema.layer.read v with
      | .ok s => .schema (s.map (readWithin height))
      | .error _ => .malformed v

/-- read a node; this cannot fail, because what is not understood is kept -/
def read (v : Json) : SchemaNode :=
  readWithin v.height v

mutual

/-- the JSON value of a node -/
def write : SchemaNode → Json
  | .ref path => referenceObject path
  | .malformed v => v
  | .schema ⟨types, format, title, description, defaultValue, nullable, xNullable, properties, required, additional,
      items, allOf, oneOf, anyOf, discriminator, literals, constant, readOnly, writeOnly, deprecated, sample⟩ =>
    Schema.layer.write ⟨types, format, title, description, defaultValue, nullable, xNullable, writeEntries properties,
      required, writeExtra? additional, writeNode? items, writeNodes allOf, writeNodes oneOf, writeNodes anyOf,
      discriminator, literals, constant, readOnly, writeOnly, deprecated, sample⟩

/-- the JSON values of named nodes -/
def writeEntries : List (String × SchemaNode) → List (String × Json)
  | [] => []
  | (k, n) :: es => (k, n.write) :: writeEntries es

/-- the JSON values of nodes -/
def writeNodes : List SchemaNode → List Json
  | [] => []
  | n :: ns => n.write :: writeNodes ns

/-- the JSON value of a node, if there is one -/
def writeNode? : Option SchemaNode → Option Json
  | none => none
  | some n => some n.write

/-- the JSON value of a schema for additional properties -/
def writeExtra? : Option (Extra SchemaNode) → Option (Extra Json)
  | none => none
  | some (.allowed b) => some (.allowed b)
  | some (.shaped n) => some (.shaped n.write)

end

/-- reader and writer of nodes -/
def codec : Codec SchemaNode where
  read v := .ok (read v)
  write := write

/-- a schema that allows null and says nothing else -/
def isNullType : SchemaNode → Bool
  | .schema s => s.types == some (.one .null) && s.properties.isEmpty && s.literals.isEmpty
  | _ => false

end SchemaNode

end ClientPlan
