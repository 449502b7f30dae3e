/-
The descriptors of models. A reference stands for the named model and is never expanded, so a descriptor is finite on
any table. A type is optional if it is not required, or if it allows null; the null type is never optional, because it
says so itself.
-/
import ClientPlan.Api.Basic
import ClientPlan.Descriptor.Basic
import ClientPlan.Descriptor.Envelope
import ClientPlan.Notice

namespace ClientPlan

/-- a scalar kind refined by format -/
def Scalar.refine (s : Scalar) (format : Option String) : Leaf :=
  match s, format with
  | .string, some "date-time" => .dateTime
  | .string, some "date" => .date
  | .string, some "uuid" => .uuid
  | .string, some "binary" => .binary
  | .string, some "byte" => .binary
  | .string, _ => .string
  | .integer, some "int64" => .int64
  | .integer, _ => .integer
  | .number, _ => .number
  | .boolean, _ => .boolean
  | .null, _ => .null
  | .any, _ => .any

namespace Descriptor

/-- a type with its optionality: the null type stays as it is -/
def withOptionality (base : Descriptor) (isOptional : Bool) : Descriptor :=
  if base = leaf .null then base else if isOptional then base.orAbsent else base

/-- the type of a reference, and whether the model referred to allows null -/
def ofReference (t : Table) (name : String) : Descriptor × Bool :=
  match Keyed.get? t name with
  | none => (leaf .any, false)
  | some target =>
    (if target.isPlaceholder then leaf .any
      else if target.isEnumeration then enumeration name else named name,
     target.nullable)

/-- the union of types; if one of them is optional, then the whole union is -/
def ofVariants (variants : List Descriptor) : Descriptor × Bool :=
  (oneOf (variants.map fun | optional inner => inner | d => d), variants.any isOptional)

end Descriptor

namespace Model

mutual

/-- the type of a model -/
def descriptor (t : Table) : Model → (required : Bool) → Descriptor
  | ⟨_, .scalar s, format, nullable, _⟩, required =>
    (Descriptor.leaf (s.refine format)).withOptionality (!required || nullable)
  | ⟨some name, .object _ _ _, _, nullable, _⟩, required =>
    (Descriptor.named name).withOptionality (!required || nullable)
  | ⟨none, .object _ _ additional, _, nullable, _⟩, required =>
    (Descriptor.map (descriptorOrAny t additional)).withOptionality (!required || nullable)
  | ⟨_, .array items, _, nullable, _⟩, required =>
    (Descriptor.list (descriptorOrAny t items)).withOptionality (!required || nullable)
  | ⟨some name, .enumeration _ _, _, nullable, _⟩, required =>
    (Descriptor.enumeration name).withOptionality (!required || nullable)
  | ⟨none, .enumeration kind _, format, nullable, _⟩, required =>
    (Descriptor.leaf (kind.refine format)).withOptionality (!required || nullable)
  | ⟨_, .union variants _ _, _, nullable, _⟩, required =>
    let (base, optional) := Descriptor.ofVariants (descriptors t variants)
    base.withOptionality (!required || nullable || optional)
  | ⟨_, .reference target, _, nullable, _⟩, required =>
    let (base, optional) := Descriptor.ofReference t target
    base.withOptionality (!required || nullable || optional)

/-- the type of an inner model, any type if there is none -/
def descriptorOrAny (t : Table) : Option Model → Descriptor
  | none => .leaf .any
  | some m => m.descriptor t true

/-- the types of the members of a union -/
def descriptors (t : Table) : List Model → List Descriptor
  | [] => []
  | m :: ms => m.descriptor t true :: descriptors t ms

end

end Model

/-- the definition of a named model -/
def Table.definition? (t : Table) (name : String) : Option Descriptor :=
  (Keyed.get? t name).map (·.descriptor t true)

namespace Api

def Parameter.descriptor (t : Table) (p : Parameter) : Descriptor :=
  p.model.descriptor t p.required

def Body.descriptor (t : Table) (b : Body) : Descriptor :=
  b.model.descriptor t b.required

/-- what a caller gets back, and whether it has to be taken out of an envelope; without a body this is null -/
def Operation.result (op : Operation) (t : Table) (rule : Config.Envelope) : Descriptor × Bool :=
  match op.success?.bind (·.model) with
  | none => (.leaf .null, false)
  | some m =>
    match rule.payload? t m with
    | some payload => (payload.descriptor t true, true)
    | none => (m.descriptor t true, false)

end Api

end ClientPlan
