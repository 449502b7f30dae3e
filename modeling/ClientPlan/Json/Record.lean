/-
Records with named fields. A record is described once, by its fields in order, and read and written from that. It is
read from an object, whose keys may stand in any order and may include others, or from an array of its fields in order.
An object's entries are read in the order in which they stand, so the first bad one decides the mismatch; fields that
are missing count only after that.
-/
import ClientPlan.Json.Codec

namespace ClientPlan

/-- access to a part `τ` of a record `ρ` -/
structure Lens (ρ τ : Type) where
  get : ρ → τ
  set : τ → ρ → ρ

/-- one field of a record `ρ` -/
structure Field (ρ : Type) where
  key : String
  read : Json → ρ → Except Mismatch ρ
  /-- what is written, if anything -/
  write : ρ → Option Json
  /-- an object has to name the field -/
  mandatory : Bool
  /-- an array may end before the field -/
  trailing : Bool

namespace Field

variable {ρ τ : Type}

/-- a field that has to be there -/
def needed (key : String) (part : Lens ρ τ) (c : Codec τ) : Field ρ where
  key := key
  read v x := (c.read v).map (part.set · x)
  write x := some (c.write (part.get x))
  mandatory := true
  trailing := false

/-- a field that keeps its default when it is missing, and is left out where `skip` holds -/
def defaulted (key : String) (part : Lens ρ τ) (c : Codec τ) (skip : τ → Bool) : Field ρ where
  key := key
  read v x := (c.read v).map (part.set · x)
  write x := if skip (part.get x) then none else some (c.write (part.get x))
  mandatory := false
  trailing := true

/-- a field whose default is always written -/
def filled (key : String) (part : Lens ρ τ) (c : Codec τ) : Field ρ :=
  defaulted key part c fun _ => false

/-- a list that is left out when it is empty -/
def list (key : String) (part : Lens ρ (List τ)) (c : Codec τ) : Field ρ :=
  defaulted key part c.list List.isEmpty

/-- a map that is left out when it is empty -/
def keyed (key : String) (part : Lens ρ (Keyed τ)) (c : Codec τ) : Field ρ :=
  defaulted key part c.keyed List.isEmpty

/-- a field that may be absent; null stands for absence -/
def optional (key : String) (part : Lens ρ (Option τ)) (c : Codec τ) : Field ρ where
  key := key
  read
    | .null, x => .ok (part.set none x)
    | v, x => (c.read v).map fun a => part.set (some a) x
  write x := (part.get x).map c.write
  mandatory := false
  trailing := false

end Field

/-- a record type: its name in messages, its fields, and the value that reading starts from -/
structure Record (ρ : Type) where
  name : String
  fields : List (Field ρ)
  start : ρ

namespace Record

variable {ρ : Type}

/-- read one entry of an object; a key that is no field is passed over -/
def readEntry (r : Record ρ) (x : ρ) (entry : String × Json) : Except Mismatch ρ :=
  match r.fields.find? (·.key == entry.1) with
  | some f => f.read entry.2 x
  | none => .ok x

/-- read the entries of an object -/
def readEntries (r : Record ρ) (entries : List (String × Json)) : Except Mismatch ρ := do
  let x ← entries.foldlM r.readEntry r.start
  match r.fields.find? fun f => f.mandatory && (entries.lookup f.key).isNone with
  | some f => throw (.missing f.key)
  | none => return x

/-- read the elements of an array from the field number `i` on; `total` is the length of the whole array -/
def readItems (r : Record ρ) (total : Nat) (i : Nat) (x : ρ) : List (Field ρ) → List Json → Except Mismatch ρ
  | [], [] => .ok x
  | [], _ :: _ => .error (.length total .fewerElements)
  | f :: fs, [] =>
    if f.trailing then r.readItems total (i + 1) x fs []
    else .error (.length i (.elements r.name r.fields.length))
  | f :: fs, v :: vs => do r.readItems total (i + 1) (← f.read v x) fs vs

/-- read a record from an object or an array -/
def read (r : Record ρ) : Json → Except Mismatch ρ
  | .object entries => r.readEntries entries
  | .array items => r.readItems items.length 0 r.start r.fields items
  | v => .error (.type v.found (.record r.name))

/-- write a record as an object -/
def write (r : Record ρ) (x : ρ) : Json :=
  .object (r.fields.filterMap fun f => (f.write x).map (Prod.mk f.key))

/-- reader and writer of a record -/
def codec (r : Record ρ) : Codec ρ :=
  ⟨r.read, r.write⟩

end Record

end ClientPlan
