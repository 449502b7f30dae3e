/-
Settings that may be given in JSON and in YAML. A group of settings is described once, and read in both ways from that.
In YAML every setting may be given at most once, keys that are no setting are passed over, and a group with nothing
written for it keeps its defaults.
-/
import ClientPlan.Json.Record
import ClientPlan.Yaml.Place

namespace ClientPlan

/-- how values of one kind stand in JSON and in YAML -/
structure Form (τ : Type) where
  codec : Codec τ
  place? : Yaml.Place → Option τ

namespace Form

variable {τ : Type}

def text : Form String :=
  ⟨.text, Yaml.Place.text?⟩

def flag : Form Bool :=
  ⟨.flag, Yaml.Place.flag?⟩

def size : Form Nat :=
  ⟨.size, Yaml.Place.size?⟩

def list (f : Form τ) : Form (List τ) :=
  ⟨f.codec.list, fun p => do (← p.items?).mapM f.place?⟩

/-- values under free keys; in YAML the last value under a key counts -/
def keyed (f : Form τ) : Form (Keyed τ) where
  codec := f.codec.keyed
  place? p := do
    let entries ← (← p.entries?).mapM fun e => do return (← e.1.text?, ← f.place? e.2)
    return .ofList entries

/-- one of a fixed set of names -/
def choice (allowed : Keyed τ) (nameOf : τ → String) : Form τ :=
  ⟨.choice allowed nameOf, fun p => do allowed.get? (← p.name?)⟩

end Form

/-- one setting of a group `ρ` -/
structure Setting (ρ : Type) where
  field : Field ρ
  set? : Yaml.Place → ρ → Option ρ

/-- a setting with its key and its place in the group -/
def Setting.of {ρ τ : Type} (key : String) (part : Lens ρ τ) (form : Form τ) : Setting ρ where
  field := .filled key part form.codec
  set? p x := (form.place? p).map (part.set · x)

/-- a group of settings: its name in messages, the settings in order, and their defaults -/
structure Settings (ρ : Type) where
  name : String
  all : List (Setting ρ)
  start : ρ

namespace Settings

variable {ρ : Type}

def record (s : Settings ρ) : Record ρ :=
  ⟨s.name, s.all.map (·.field), s.start⟩

/-- read one entry of a YAML mapping, where the keys `seen` came before -/
def place? (s : Settings ρ) (seen : List String) (x : ρ) : List (Yaml.Place × Yaml.Place) → Option ρ
  | [] => some x
  | (k, v) :: rest => do
    let key ← k.text?
    match s.all.find? (·.field.key == key) with
    | none => s.place? seen x rest
    | some setting => if seen.contains key then none else s.place? (key :: seen) (← setting.set? v x) rest

def form (s : Settings ρ) : Form ρ :=
  ⟨s.record.codec, fun p => do s.place? [] s.start (← p.entries?)⟩

end Settings

end ClientPlan
