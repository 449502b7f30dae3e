/-
Values that are read from JSON and written back. A reader stops at the first thing that does not fit.
-/
import ClientPlan.Json.Mismatch
import ClientPlan.Keyed

namespace ClientPlan

/-- a reader and the writer that goes with it -/
structure Codec (α : Type) where
  read : Json → Except Mismatch α
  write : α → Json

namespace Codec

variable {α : Type}

/-- a string -/
def text : Codec String where
  read
    | .string s => .ok s
    | v => .error (.type v.found .string)
  write := .string

/-- a boolean -/
def flag : Codec Bool where
  read
    | .bool b => .ok b
    | v => .error (.type v.found .boolean)
  write := .bool

/-- a non-negative integer -/
def size : Codec Nat where
  read
    | .number (.integer n) => if 0 ≤ n then .ok n.toNat else .error (.value (.number (.integer n)) .size)
    | v => .error (.type v.found .size)
  write n := .number (.integer n)

/-- any value, kept as it is -/
def any : Codec Json where
  read := .ok
  write v := v

/-- an array of values -/
def list (c : Codec α) : Codec (List α) where
  read
    | .array items => items.mapM c.read
    | v => .error (.type v.found .sequence)
  write xs := .array (xs.map c.write)

/-- an object whose keys are free -/
def keyed (c : Codec α) : Codec (Keyed α) where
  read
    | .object entries => entries.mapM fun e => (c.read e.2).map (Prod.mk e.1)
    | v => .error (.type v.found .map)
  write m := .object (m.mapValues c.write)

/-- a named value among `allowed` -/
def named (allowed : Keyed α) (name : String) : Except Mismatch α :=
  match allowed.get? name with
  | some a => .ok a
  | none => .error (.variant name allowed.keys)

/-- one of a fixed set of names, written as a string or as an object that maps the name to null -/
def choice (allowed : Keyed α) (nameOf : α → String) : Codec α where
  read
    | .string s => named allowed s
    | .object [(k, v)] => do
      let a ← named allowed k
      if v.isNull then return a else throw (.type v.found .unit)
    | .object _ => .error (.value .map .singleKeyMap)
    | v => .error (.type v.found .stringOrMap)
  write a := .string (nameOf a)

end Codec

end ClientPlan
