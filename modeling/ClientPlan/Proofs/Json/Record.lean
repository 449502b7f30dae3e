/-
What records are read from. A value gives a record a script: the fields that it names, with what it says of them, in the
order of reading. Different fields of a regular record do not touch each other, and of several values for one field only
the last one counts. So the value of a field can be exchanged without any effect on other fields (`read_alter`).
-/
import Mathlib.Data.List.Nodup
import Mathlib.Data.List.Pairwise
import Mathlib.Tactic.SplitIfs
import ClientPlan.Json.Record
import ClientPlan.Proofs.Json.Codec

namespace ClientPlan

/-! ## The part of a record that a field is about -/

/-- how a part is read from the value of its field, and what is written of it -/
structure Slot (τ : Type) where
  parse : Json → Except Mismatch τ
  print : τ → Option Json

namespace Slot

variable {τ : Type}

/-- a part that is always written, unless `skip` holds of it -/
def skipping (c : Codec τ) (skip : τ → Bool) : Slot τ where
  parse := c.read
  print a := if skip a then none else some (c.write a)

/-- a part that may be absent, for which null stands -/
def optional (c : Codec τ) : Slot (Option τ) where
  parse
    | .null => .ok none
    | v => (c.read v).map some
  print a := a.map c.write

theorem optional_parse {c : Codec τ} {v : Json} (hv : v ≠ .null) : (optional c).parse v = (c.read v).map some := by
  cases v <;> first | rfl | exact absurd rfl hv

end Slot

/-- the field is about the part `p`, which it reads and writes as `s` says -/
class Field.Fits {ρ : Type} {τ : outParam Type} (f : Field ρ) (p : outParam (Lens ρ τ)) (s : outParam (Slot τ)) :
    Prop where
  read : ∀ v x, f.read v x = (s.parse v).map (p.set · x)
  write : ∀ x, f.write x = s.print (p.get x)

namespace Field

variable {ρ τ : Type} {key : String} {p : Lens ρ τ} {c : Codec τ}

instance : (needed key p c).Fits p (.skipping c fun _ => false) :=
  ⟨fun _ _ => rfl, fun _ => rfl⟩

instance {skip : τ → Bool} : (defaulted key p c skip).Fits p (.skipping c skip) :=
  ⟨fun _ _ => rfl, fun _ => rfl⟩

instance : (filled key p c).Fits p (.skipping c fun _ => false) :=
  inferInstanceAs ((defaulted key p c fun _ => false).Fits _ _)

instance {p : Lens ρ (List τ)} : (list key p c).Fits p (.skipping c.list List.isEmpty) :=
  inferInstanceAs ((defaulted key p c.list List.isEmpty).Fits _ _)

instance {p : Lens ρ (Keyed τ)} : (keyed key p c).Fits p (.skipping c.keyed List.isEmpty) :=
  inferInstanceAs ((defaulted key p c.keyed List.isEmpty).Fits _ _)

instance {p : Lens ρ (Option τ)} : (optional key p c).Fits p (.optional c) where
  read v x := by
    by_cases hv : v = .null
    · subst hv; rfl
    · rw [Slot.optional_parse hv]
      have hread : (optional key p c).read v x = (c.read v).map fun a => p.set (some a) x := by
        cases v <;> first | rfl | exact absurd rfl hv
      rw [hread]
      cases c.read v <;> rfl
  write _ := rfl

end Field

/-! ## Fields side by side -/

/-- whether a value can be read depends on the value alone, and of two values only the second one counts -/
structure Field.Regular {ρ : Type} (f : Field ρ) : Prop where
  uniform : ∀ {v x y}, f.read v x = .ok y → ∀ x', ∃ y', f.read v x' = .ok y'
  overwrites : ∀ {v w x y}, f.read v x = .ok y → f.read w y = f.read w x

/-- neither field touches what the other one is about -/
structure Field.Apart {ρ : Type} (f g : Field ρ) : Prop where
  meet : ∀ {v w x y z}, f.read v x = .ok y → g.read w x = .ok z → ∃ u, g.read w y = .ok u ∧ f.read v z = .ok u
  left : ∀ {v x y}, f.read v x = .ok y → g.write y = g.write x
  right : ∀ {w x z}, g.read w x = .ok z → f.write z = f.write x

namespace Field

variable {ρ τ σ : Type} {f g : Field ρ} {p : Lens ρ τ} {q : Lens ρ σ} {s : Slot τ} {t : Slot σ}

theorem Apart.symm (h : f.Apart g) : g.Apart f where
  meet hg hf := by
    obtain ⟨u, hgu, hfu⟩ := h.meet hf hg
    exact ⟨u, hfu, hgu⟩
  left := h.right
  right := h.left

theorem Fits.read_ok [f.Fits p s] {v : Json} {x y : ρ} :
    f.read v x = .ok y ↔ ∃ a, s.parse v = .ok a ∧ y = p.set a x := by
  rw [Fits.read (f := f)]
  cases s.parse v with
  | error e => simp [Except.map]
  | ok a => simp [Except.map, eq_comm]

theorem regular_of [f.Fits p s] (hset : ∀ a b x, p.set b (p.set a x) = p.set b x) : f.Regular where
  uniform h x' := by
    obtain ⟨a, ha, -⟩ := Fits.read_ok.1 h
    exact ⟨_, Fits.read_ok.2 ⟨a, ha, rfl⟩⟩
  overwrites h := by
    obtain ⟨a, -, rfl⟩ := Fits.read_ok.1 h
    rw [Fits.read (f := f), Fits.read (f := f)]
    simp only [hset]

theorem apart_of [f.Fits p s] [g.Fits q t]
    (hswap : ∀ a b x, q.set b (p.set a x) = p.set a (q.set b x) := by intros; rfl)
    (hleft : ∀ a x, q.get (p.set a x) = q.get x := by intros; rfl)
    (hright : ∀ b x, p.get (q.set b x) = p.get x := by intros; rfl) : f.Apart g where
  meet hf hg := by
    obtain ⟨a, ha, rfl⟩ := Fits.read_ok.1 hf
    obtain ⟨b, hb, rfl⟩ := Fits.read_ok.1 hg
    exact ⟨_, Fits.read_ok.2 ⟨b, hb, rfl⟩, Fits.read_ok.2 ⟨a, ha, hswap a b _⟩⟩
  left hf := by
    obtain ⟨a, -, rfl⟩ := Fits.read_ok.1 hf
    rw [Fits.write (f := g), Fits.write (f := g), hleft]
  right hg := by
    obtain ⟨b, -, rfl⟩ := Fits.read_ok.1 hg
    rw [Fits.write (f := f), Fits.write (f := f), hright]

end Field

/-- the fields of a record have different keys and are apart -/
structure Record.Regular {ρ : Type} (r : Record ρ) : Prop where
  keys : (r.fields.map (·.key)).Nodup
  fields : ∀ f ∈ r.fields, f.Regular
  apart : r.fields.Pairwise Field.Apart

theorem Record.Regular.apart_of_ne {ρ : Type} {r : Record ρ} (h : r.Regular) {f g : Field ρ} (hf : f ∈ r.fields)
    (hg : g ∈ r.fields) (hne : f.key ≠ g.key) : f.Apart g :=
  have : Std.Symm (α := Field ρ) Field.Apart := ⟨fun _ _ => Field.Apart.symm⟩
  h.apart.forall hf hg fun heq => hne (heq ▸ rfl)

theorem Record.Regular.eq_of_key {ρ : Type} {r : Record ρ} (h : r.Regular) {f g : Field ρ} (hf : f ∈ r.fields)
    (hg : g ∈ r.fields) (heq : f.key = g.key) : f = g :=
  List.inj_on_of_nodup_map h.keys hf hg heq

/-! ## Scripts -/

/-- change the value of the last entry that `here` picks -/
def changeLast {κ : Type} (here : κ → Bool) (g : Json → Json) : List (κ × Json) → List (κ × Json)
  | [] => []
  | e :: es => if here e.1 && !es.any (here ·.1) then (e.1, g e.2) :: es else e :: changeLast here g es

theorem changeLast_cases {κ : Type} (here : κ → Bool) (es : List (κ × Json)) :
    (∀ e ∈ es, here e.1 = false) ∨ ∃ before e after, es = before ++ e :: after ∧ here e.1 = true ∧
      (∀ e' ∈ after, here e'.1 = false) ∧ ∀ g, changeLast here g es = before ++ (e.1, g e.2) :: after := by
  induction es with
  | nil => exact Or.inl fun _ h => by cases h
  | cons e es ih =>
    rcases ih with hnone | ⟨before, e', after, rfl, he', hafter, hg⟩
    · have hany : es.any (here ·.1) = false := by simpa using hnone
      cases he : here e.1 with
      | false => exact Or.inl (List.forall_mem_cons.2 ⟨he, hnone⟩)
      | true => exact Or.inr ⟨[], e, es, rfl, he, hnone, fun g => by simp [changeLast, hany, he]⟩
    · refine Or.inr ⟨e :: before, e', after, rfl, he', hafter, fun g => ?_⟩
      have hany : (before ++ e' :: after).any (here ·.1) = true := by simp [he']
      rw [changeLast, hany, Bool.not_true, Bool.and_false, if_neg Bool.false_ne_true, hg, List.cons_append]

/-- a change among the entries that are passed on is a change among what they are passed on as -/
theorem filterMap_changeLast {κ κ' : Type} {h : κ → Option κ'} {here : κ → Bool} {here' : κ' → Bool}
    (hhere : ∀ k, here k = (h k).any here') (g : Json → Json) (es : List (κ × Json)) :
    (changeLast here g es).filterMap (fun e => (h e.1).map (·, e.2)) =
      changeLast here' g (es.filterMap fun e => (h e.1).map (·, e.2)) := by
  have hany : ∀ es : List (κ × Json),
      (es.filterMap fun e => (h e.1).map (·, e.2)).any (here' ·.1) = es.any (here ·.1) := fun es => by
    rw [List.any_filterMap]
    congr 1
    funext e
    rw [hhere]
    cases h e.1 <;> rfl
  induction es with
  | nil => rfl
  | cons e es ih =>
    rw [changeLast, hhere e.1, List.filterMap_cons]
    cases hk : h e.1 with
    | none => simpa [hk] using ih
    | some k =>
      simp only [Option.any_some, Option.map_some, changeLast, hany]
      split_ifs
      · simp [hk]
      · simp [hk, ih]

theorem keys_changeLast (here : String → Bool) (g : Json → Json) (es : Keyed Json) :
    Keyed.keys (changeLast here g es) = Keyed.keys es := by
  induction es with
  | nil => rfl
  | cons e es ih =>
    simp only [Keyed.keys] at ih ⊢
    rw [changeLast]
    split_ifs
    · rfl
    · rw [List.map_cons, List.map_cons, ih]

/-- what stands under other keys stays -/
theorem lookup_changeLast {key k : String} (hk : k ≠ key) (g : Json → Json) (es : List (String × Json)) :
    (changeLast (· == key) g es).lookup k = es.lookup k := by
  induction es with
  | nil => rfl
  | cons e es ih =>
    rw [changeLast]
    split_ifs with he
    · have heq : e.1 = key := by simpa using (Bool.and_eq_true_iff.1 he).1
      have hne : (k == e.1) = false := by simpa [heq] using hk
      rw [List.lookup_cons, List.lookup_cons, hne]
    · rw [List.lookup_cons, List.lookup_cons, ih]

/-- fields with the values that are read into them, in this order -/
abbrev Script (ρ : Type) := List (Field ρ × Json)

namespace Script

variable {ρ : Type}

/-- read the values of a script into a record -/
def run (script : Script ρ) (x : ρ) : Except Mismatch ρ :=
  script.foldlM (fun x e => e.1.read e.2 x) x

theorem run_nil {x z : ρ} : run [] x = .ok z ↔ z = x :=
  ⟨fun h => (Except.ok.inj h).symm, fun h => h ▸ rfl⟩

theorem run_cons {e : Field ρ × Json} {es : Script ρ} {x z : ρ} :
    run (e :: es) x = .ok z ↔ ∃ y, e.1.read e.2 x = .ok y ∧ run es y = .ok z := by
  rw [run, List.foldlM_cons]
  cases e.1.read e.2 x with
  | error err => simp [bind, Except.bind]
  | ok y => simp [bind, Except.bind, run]

theorem run_append {es es' : Script ρ} {x z : ρ} :
    run (es ++ es') x = .ok z ↔ ∃ y, run es x = .ok y ∧ run es' y = .ok z := by
  induction es generalizing x with
  | nil => simp [run_nil]
  | cons e es ih =>
    simp only [List.cons_append, run_cons, ih]
    exact ⟨fun ⟨y, hy, y', hy', hz⟩ => ⟨y', ⟨y, hy, hy'⟩, hz⟩, fun ⟨y', ⟨y, hy, hy'⟩, hz⟩ => ⟨y, hy, y', hy', hz⟩⟩

variable {r : Record ρ} {f : Field ρ} {script : Script ρ} {x y z : ρ} {w : Json}

/-- a value read before a script about other fields may as well be read after it -/
theorem run_meet (hscript : ∀ e ∈ script, f.Apart e.1) (hrun : run script x = .ok z) (hread : f.read w x = .ok y) :
    ∃ z', run script y = .ok z' ∧ f.read w z = .ok z' := by
  induction script generalizing x y with
  | nil => exact ⟨y, rfl, run_nil.1 hrun ▸ hread⟩
  | cons e es ih =>
    obtain ⟨x', hx', hrest⟩ := run_cons.1 hrun
    obtain ⟨y', hy', hmeet⟩ := (hscript e List.mem_cons_self).meet hread hx'
    obtain ⟨z', hz', hlast⟩ := ih (fun e' he' => hscript e' (List.mem_cons_of_mem _ he')) hrest hmeet
    exact ⟨z', run_cons.2 ⟨y', hy', hz'⟩, hlast⟩

/-- the values of other fields leave a field as it is -/
theorem run_still (hscript : ∀ e ∈ script, f.Apart e.1) (hrun : run script x = .ok z) (hread : f.read w x = .ok x) :
    f.read w z = .ok z := by
  obtain ⟨z', hz', hlast⟩ := run_meet hscript hrun hread
  exact (Except.ok.inj (hrun.symm.trans hz')) ▸ hlast

/-- **A value can be exchanged.** If a script says anything about a field, then one value counts for it, and exchanging
this value does to the finished record what reading the new value into it does. That it says anything shows in a value
`w` that the field had at first and has no more. -/
theorem run_changeLast (hr : r.Regular) (hf : f ∈ r.fields) (hscript : ∀ e ∈ script, e.1 ∈ r.fields)
    (hrun : run script x = .ok z) (hfirst : f.read w x = .ok x) (hsaid : f.read w z ≠ .ok z) :
    ∃ u, f.read u z = .ok z ∧
      ∀ g z', f.read (g u) z = .ok z' → run (changeLast (fun f' => f'.key == f.key) g script) x = .ok z' := by
  rcases changeLast_cases (fun f' : Field ρ => f'.key == f.key) script with
    hnone | ⟨before, e, after, rfl, he, hafter, hg⟩
  · refine absurd (run_still (fun e he => ?_) hrun hfirst) hsaid
    exact hr.apart_of_ne hf (hscript e he) fun heq => by simpa [heq] using hnone e he
  · obtain ⟨x', hbefore, hrest⟩ := run_append.1 hrun
    obtain ⟨y, hy, hlater⟩ := run_cons.1 hrest
    obtain rfl : e.1 = f := hr.eq_of_key (hscript e (by simp)) hf (by simpa using he)
    have hapart : ∀ e' ∈ after, e.1.Apart e'.1 := fun e' he' =>
      hr.apart_of_ne hf (hscript e' (by simp [he'])) fun heq => by simpa [heq] using hafter e' he'
    have hagain : e.1.read e.2 y = .ok y := ((hr.fields _ hf).overwrites hy).trans hy
    refine ⟨e.2, run_still hapart hlater hagain, fun g z' hz' => ?_⟩
    obtain ⟨y', hy'⟩ := (hr.fields _ hf).uniform hz' y
    obtain ⟨z'', hz'', hlast⟩ := run_meet hapart hlater hy'
    obtain rfl : z'' = z' := Except.ok.inj (hlast.symm.trans hz')
    rw [hg]
    exact run_append.2 ⟨x', hbefore, run_cons.2 ⟨y', ((hr.fields _ hf).overwrites hy).symm.trans hy', hz''⟩⟩

end Script

/-! ## Values as scripts -/

namespace Record

variable {ρ : Type} (r : Record ρ)

/-- the fields that a value names, with what it says of them -/
def script : Json → Script ρ
  | .object entries => entries.filterMap fun e => (r.fields.find? (·.key == e.1)).map (·, e.2)
  | .array items => r.fields.zip items
  | _ => []

/-- a value of the form that records have, which leaves out no field that has to be there -/
def Admits : Json → Prop
  | .object entries => ∀ f ∈ r.fields, f.mandatory = true → (entries.lookup f.key).isSome = true
  | .array items => items.length ≤ r.fields.length ∧ ∀ f ∈ r.fields.drop items.length, f.trailing = true
  | _ => False

variable {r} {x z : ρ}

theorem foldlM_readEntry (entries : List (String × Json)) (x : ρ) :
    entries.foldlM r.readEntry x = Script.run (r.script (.object entries)) x := by
  induction entries generalizing x with
  | nil => rfl
  | cons e es ih =>
    rw [List.foldlM_cons, script, List.filterMap_cons, readEntry]
    cases r.fields.find? (·.key == e.1) with
    | none => exact ih x
    | some f =>
      refine Eq.trans ?_ (List.foldlM_cons ..).symm
      exact congrArg (f.read e.2 x >>= ·) (funext ih)

theorem readItems_ok_iff {total i : Nat} {fs : List (Field ρ)} {items : List Json} :
    r.readItems total i x fs items = .ok z ↔
      (items.length ≤ fs.length ∧ ∀ f ∈ fs.drop items.length, f.trailing = true) ∧
        Script.run (fs.zip items) x = .ok z := by
  induction fs generalizing i x items with
  | nil =>
    cases items with
    | nil => simp [readItems, Script.run, pure, Except.pure]
    | cons v vs => simp [readItems]
  | cons f fs ih =>
    cases items with
    | nil =>
      rw [readItems]
      split_ifs with hf
      · rw [ih]
        simp [hf]
      · simp [hf]
    | cons v vs =>
      rw [readItems, List.zip_cons_cons, Script.run_cons]
      cases hv : f.read v x with
      | error e => simp [bind, Except.bind]
      | ok y =>
        refine Iff.trans ih ?_
        simp

theorem read_ok_iff {v : Json} : r.read v = .ok z ↔ r.Admits v ∧ Script.run (r.script v) r.start = .ok z := by
  cases v with
  | array items => exact readItems_ok_iff
  | object entries =>
    rw [read, readEntries, foldlM_readEntry]
    cases hrun : Script.run (r.script (.object entries)) r.start with
    | error e => simp [bind, Except.bind]
    | ok y =>
      have hmissing : (r.fields.find? fun f => f.mandatory && (entries.lookup f.key).isNone) = none ↔
          r.Admits (.object entries) := by
        simp [Admits, List.find?_eq_none]
      cases hfind : r.fields.find? fun f => f.mandatory && (entries.lookup f.key).isNone with
      | none => simp [bind, Except.bind, pure, Except.pure, hmissing.1 hfind]
      | some f =>
        have hnot : ¬ r.Admits (.object entries) := fun h => by rw [hmissing.2 h] at hfind; cases hfind
        simp [bind, Except.bind, throw, throwThe, MonadExceptOf.throw, hnot]
  | _ => simp [read, Admits]

theorem script_fields {v : Json} {e : Field ρ × Json} (he : e ∈ r.script v) : e.1 ∈ r.fields := by
  cases v with
  | array items => exact (List.of_mem_zip he).1
  | object entries =>
    obtain ⟨e', -, he'⟩ := List.mem_filterMap.1 he
    obtain ⟨f, hf, rfl⟩ := Option.map_eq_some_iff.1 he'
    exact List.mem_of_find?_eq_some hf
  | _ => cases he

/-! ## Exchanging the value of a field -/

/-- change the element that stands for the field of that key -/
def alterItems (key : String) (g : Json → Json) : List (Field ρ) → List Json → List Json
  | f :: fs, v :: vs => if f.key = key then g v :: vs else v :: alterItems key g fs vs
  | _, vs => vs

variable (r) in
/-- change what a value says of the field of that key; of several entries for it, the last one counts -/
def alter (key : String) (g : Json → Json) : Json → Json
  | .object entries => .object (changeLast (· == key) g entries)
  | .array items => .array (alterItems key g r.fields items)
  | v => v

theorem length_alterItems (key : String) (g : Json → Json) (fs : List (Field ρ)) (items : List Json) :
    (alterItems key g fs items).length = items.length := by
  induction fs generalizing items with
  | nil => rfl
  | cons f fs ih =>
    cases items with
    | nil => rfl
    | cons v vs =>
      rw [alterItems]
      split_ifs <;> simp [ih]

theorem zip_alterItems {key : String} (g : Json → Json) {fs : List (Field ρ)} (hkeys : (fs.map (·.key)).Nodup)
    (items : List Json) :
    fs.zip (alterItems key g fs items) = changeLast (fun f => f.key == key) g (fs.zip items) := by
  induction fs generalizing items with
  | nil => rfl
  | cons f fs ih =>
    obtain ⟨hnew, hrest⟩ := List.nodup_cons.1 hkeys
    cases items with
    | nil => rfl
    | cons v vs =>
      rw [alterItems, List.zip_cons_cons, changeLast]
      by_cases hf : f.key = key
      · -- no field after this one has the key
        have hnone : (fs.zip vs).any (fun e => e.1.key == key) = false := by
          refine List.any_eq_false.2 fun e he heq => hnew (List.mem_map.2 ⟨e.1, (List.of_mem_zip he).1, ?_⟩)
          exact (beq_iff_eq.1 heq).trans hf.symm
        simp [hf, hnone]
      · simp [hf, ih hrest]

theorem script_alter (hr : r.Regular) {f : Field ρ} (hf : f ∈ r.fields) (g : Json → Json) (v : Json) :
    r.script (r.alter f.key g v) = changeLast (fun f' => f'.key == f.key) g (r.script v) := by
  cases v with
  | array items => exact zip_alterItems g hr.keys items
  | object entries =>
    refine filterMap_changeLast (h := fun key => r.fields.find? (·.key == key)) (fun key => ?_) g entries
    cases hfind : r.fields.find? (·.key == key) with
    | none =>
      have hne : key ≠ f.key := fun heq => List.find?_eq_none.1 hfind f hf (beq_iff_eq.2 heq.symm)
      exact beq_eq_false_iff_ne.2 hne
    | some f' =>
      have hkey : f'.key = key := by simpa using List.find?_some hfind
      simp [hkey]
  | _ => rfl

theorem admits_alter {key : String} {g : Json → Json} {v : Json} : r.Admits (r.alter key g v) ↔ r.Admits v := by
  cases v with
  | array items => simp only [alter, Admits, length_alterItems]
  | object entries =>
    have hlookup : ∀ k, ((changeLast (· == key) g entries).lookup k).isSome = (entries.lookup k).isSome := by
      intro k
      rw [Bool.eq_iff_iff, ← Keyed.get?, ← Keyed.get?, Keyed.isSome_get?_iff, Keyed.isSome_get?_iff, keys_changeLast]
    simp only [alter, Admits, hlookup]
  | _ => rfl

/-- **Only the field changes** when a record is read from a value in which what counts for the field was changed. -/
theorem read_alter (hr : r.Regular) {f : Field ρ} (hf : f ∈ r.fields) {v w : Json} (hread : r.read v = .ok z)
    (hfirst : f.read w r.start = .ok r.start) (hsaid : f.read w z ≠ .ok z) :
    ∃ u, f.read u z = .ok z ∧ ∀ g z', f.read (g u) z = .ok z' → r.read (r.alter f.key g v) = .ok z' := by
  obtain ⟨hadmits, hrun⟩ := read_ok_iff.1 hread
  obtain ⟨u, hu, hchange⟩ := Script.run_changeLast hr hf (fun e he => script_fields he) hrun hfirst hsaid
  refine ⟨u, hu, fun g z' hz' => read_ok_iff.2 ⟨admits_alter.2 hadmits, ?_⟩⟩
  rw [script_alter hr hf]
  exact hchange g z' hz'

end Record

end ClientPlan
