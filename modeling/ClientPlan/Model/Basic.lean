/-
Models: schemas in the form that code is generated from. Models with a name stand in a table, and every edge from one of
them to another is a reference by name, so a model is finite even where the schemas it comes from run in circles.
-/
import ClientPlan.Document.Schema

namespace ClientPlan

/-- scalar kinds; `any` also stands for what could not be understood -/
inductive Scalar where
  | string
  | integer
  | number
  | boolean
  | null
  | any
  deriving DecidableEq, Repr, Inhabited

def Scalar.name : Scalar → String
  | string => "string"
  | integer => "integer"
  | number => "number"
  | boolean => "boolean"
  | null => "null"
  | any => "any"

/-- the shape of a model over the models inside it -/
inductive Shape (ν : Type) where
  | scalar (s : Scalar)
  | object (properties : List (String × ν)) (required : List String) (additional : Option ν)
  | array (items : Option ν)
  /-- literals of one kind -/
  | enumeration (kind : Scalar) (literals : List Json)
  | union (variants : List ν) (literals : List Json) (discriminator : Option Discriminator)
  /-- the model of that name in the table -/
  | reference (target : String)
  deriving Repr, Inhabited

structure Model where
  name : Option String := none
  shape : Shape Model
  format : Option String := none
  nullable : Bool := false
  description : Option String := none
  deriving Repr, Inhabited

/-- the named models, by name -/
abbrev Table := Keyed Model

namespace Model

/-- an unnamed model of a shape -/
def of (shape : Shape Model) : Model :=
  { shape := shape }

def scalar (s : Scalar) : Model :=
  of (.scalar s)

/-- the untyped model -/
def placeholder : Model :=
  scalar .any

def reference (target : String) : Model :=
  of (.reference target)

def isPlaceholder (m : Model) : Bool :=
  match m.shape with
  | .scalar .any => true
  | _ => false

/-- the name of the model that this one refers to -/
def target? (m : Model) : Option String :=
  match m.shape with
  | .reference target => some target
  | _ => none

/-- an enumeration of literals -/
def isEnumeration (m : Model) : Bool :=
  match m.shape with
  | .enumeration _ _ => true
  | _ => false

/-- properties of an object -/
def properties (m : Model) : Keyed Model :=
  match m.shape with
  | .object properties _ _ => properties
  | _ => []

/-- an object requires the property -/
def requires (m : Model) (property : String) : Bool :=
  match m.shape with
  | .object _ required _ => required.contains property
  | _ => false

/-- an inline model that gets a name of its own: an object with properties, or an enumeration -/
def isPromotable (m : Model) : Bool :=
  match m.shape with
  | .object properties _ _ => !properties.isEmpty
  | .enumeration _ _ => true
  | _ => false

/-- the models directly inside this one -/
def children (m : Model) : List Model :=
  match m.shape with
  | .object properties _ additional => properties.map (·.2) ++ additional.toList
  | .array items => items.toList
  | .union variants _ _ => variants
  | _ => []

end Model

end ClientPlan
