/-
Records that are read again from what is written of them. It is enough to look at the fields one by one: what a field
writes after a value was read must read as that value did, and where it writes nothing, the value must have said what
the record starts with (`Record.Restoring`). Then a record read from any value is kept, whatever order and form its
fields came in (`Record.faithful`).
-/
import ClientPlan.Proofs.Json.Record

namespace ClientPlan

/-! ## Fields that restore their part -/

/-- parts are read again from what is written, where `start` stands for what is not written -/
structure Slot.Faithful {τ : Type} (s : Slot τ) (start : τ) : Prop where
  written : ∀ {v a w}, s.parse v = .ok a → s.print a = some w → s.parse w = .ok a
  omitted : ∀ {v a}, s.parse v = .ok a → s.print a = none → a = start
  fresh : ∀ {w}, s.print start = some w → s.parse w = .ok start

/-- the same for a field, in a record that starts as `start` -/
structure Field.Restores {ρ : Type} (f : Field ρ) (start : ρ) : Prop where
  written : ∀ {v x y w}, f.read v x = .ok y → f.write y = some w → ∀ x', f.read w x' = f.read v x'
  omitted : ∀ {v x y}, f.read v x = .ok y → f.write y = none → f.read v start = .ok start
  fresh : ∀ {w}, f.write start = some w → f.read w start = .ok start

namespace Slot

variable {τ : Type} {c : Codec τ}

theorem skipping_faithful {skip : τ → Bool} {start : τ} (hc : c.Faithful) (hstart : c.Keeps start)
    (hskip : ∀ a, skip a = true → a = start) : (skipping c skip).Faithful start where
  written {v a w} hv hw := by
    simp only [skipping] at hv hw ⊢
    split_ifs at hw
    exact Option.some.inj hw ▸ hc.keeps hv
  omitted {v a} _ hw := by
    simp only [skipping] at hw
    split_ifs at hw with ha
    exact hskip a ha
  fresh {w} hw := by
    simp only [skipping] at hw ⊢
    split_ifs at hw
    exact Option.some.inj hw ▸ hstart

/-- a part that is always written -/
theorem always_faithful {start : τ} (hc : c.Faithful) (hstart : c.Keeps start) :
    (skipping c fun _ => false).Faithful start :=
  skipping_faithful hc hstart fun _ h => by cases h

theorem list_faithful (hc : c.Faithful) : (skipping c.list List.isEmpty).Faithful [] :=
  skipping_faithful (Codec.list_faithful hc) rfl fun _ => List.isEmpty_iff.1

theorem keyed_faithful (hc : c.Faithful) : (skipping c.keyed List.isEmpty).Faithful [] :=
  skipping_faithful (Codec.keyed_faithful hc) rfl fun _ => List.isEmpty_iff.1

theorem optional_faithful (hc : c.Faithful) : (optional c).Faithful none where
  written {v a w} hv hw := by
    obtain ⟨b, rfl, rfl⟩ := Option.map_eq_some_iff.1 hw
    by_cases hnull : v = .null
    · rw [hnull] at hv; cases hv
    · rw [optional_parse hnull] at hv
      obtain ⟨b', hb, hsome⟩ : ∃ b', c.read v = .ok b' ∧ some b' = some b := by
        cases hread : c.read v with
        | error e => rw [hread] at hv; cases hv
        | ok b' => rw [hread] at hv; exact ⟨b', rfl, Except.ok.inj hv⟩
      obtain rfl := Option.some.inj hsome
      rw [optional_parse (hc.present hb hnull), hc.keeps hb]
      rfl
  omitted _ hw := Option.map_eq_none_iff.1 hw
  fresh hw := by cases hw

end Slot

/-- access to a part: what is put there is found there, and nothing else changes -/
structure Lens.Lawful {ρ τ : Type} (p : Lens ρ τ) : Prop where
  get_set : ∀ a x, p.get (p.set a x) = a := by intros; rfl
  set_get : ∀ x, p.set (p.get x) x = x := by intros; rfl
  set_set : ∀ a b x, p.set b (p.set a x) = p.set b x := by intros; rfl

/-- a field that restores its part, and is always written if it has to be there -/
structure Field.Kept {ρ : Type} (f : Field ρ) (start : ρ) : Prop where
  regular : f.Regular
  restores : f.Restores start
  named : f.mandatory = true → ∀ x, (f.write x).isSome = true

namespace Field

variable {ρ τ : Type} {f : Field ρ} {key : String} {p : Lens ρ τ} {c : Codec τ} {start : ρ}

theorem restores_of {s : Slot τ} [f.Fits p s] (hp : p.Lawful) (hs : s.Faithful (p.get start)) : f.Restores start where
  written hv hw x' := by
    obtain ⟨a, ha, rfl⟩ := Fits.read_ok.1 hv
    rw [Fits.write (f := f), hp.get_set] at hw
    rw [Fits.read (f := f), Fits.read (f := f), hs.written ha hw, ha]
  omitted hv hw := by
    obtain ⟨a, ha, rfl⟩ := Fits.read_ok.1 hv
    rw [Fits.write (f := f), hp.get_set] at hw
    refine Fits.read_ok.2 ⟨a, ha, ?_⟩
    rw [hs.omitted ha hw, hp.set_get]
  fresh hw := by
    rw [Fits.write (f := f)] at hw
    exact Fits.read_ok.2 ⟨_, hs.fresh hw, (hp.set_get start).symm⟩

theorem kept_of {s : Slot τ} [f.Fits p s] (hp : p.Lawful) (hs : s.Faithful (p.get start))
    (hnamed : f.mandatory = true → ∀ x, (f.write x).isSome = true) : f.Kept start :=
  ⟨regular_of hp.set_set, restores_of hp hs, hnamed⟩

theorem Kept.needed (hc : c.Faithful) (hstart : c.Keeps (p.get start) := by rfl) (hp : p.Lawful := by exact {}) :
    (needed key p c).Kept start :=
  kept_of hp (Slot.always_faithful hc hstart) fun _ _ => rfl

theorem Kept.filled (hc : c.Faithful) (hstart : c.Keeps (p.get start) := by rfl) (hp : p.Lawful := by exact {}) :
    (filled key p c).Kept start :=
  kept_of hp (Slot.always_faithful hc hstart) fun h => by cases h

theorem Kept.list {p : Lens ρ (List τ)} (hc : c.Faithful) (hstart : p.get start = [] := by rfl)
    (hp : p.Lawful := by exact {}) : (list key p c).Kept start :=
  kept_of hp (hstart ▸ Slot.list_faithful hc) fun h => by cases h

theorem Kept.keyed {p : Lens ρ (Keyed τ)} (hc : c.Faithful) (hstart : p.get start = [] := by rfl)
    (hp : p.Lawful := by exact {}) : (keyed key p c).Kept start :=
  kept_of hp (hstart ▸ Slot.keyed_faithful hc) fun h => by cases h

theorem Kept.optional {p : Lens ρ (Option τ)} (hc : c.Faithful) (hstart : p.get start = none := by rfl)
    (hp : p.Lawful := by exact {}) : (optional key p c).Kept start :=
  kept_of hp (hstart ▸ Slot.optional_faithful hc) fun h => by cases h

end Field

/-! ## Whole records -/

/-- a record of different fields that are apart and kept; that they are apart is checked pair by pair -/
class Record.Restoring {ρ : Type} (r : Record ρ) : Prop where
  kept : ∀ f ∈ r.fields, f.Kept r.start
  keys : (r.fields.map (·.key)).Nodup := by decide
  apart : r.fields.Pairwise Field.Apart := by
    repeat' first
      | exact List.Pairwise.nil
      | refine List.Pairwise.cons ?_ ?_
      | exact List.forall_mem_nil _
      | refine List.forall_mem_cons.2 ⟨?_, ?_⟩
      | exact Field.apart_of

namespace Record

variable {ρ : Type} {r : Record ρ} {x y z : ρ}

theorem Restoring.regular (hr : r.Restoring) : r.Regular :=
  ⟨hr.keys, fun f hf => (hr.kept f hf).regular, hr.apart⟩

/-- what fields write of a record, as a script -/
def written (x : ρ) (fs : List (Field ρ)) : Script ρ :=
  fs.filterMap fun f => (f.write x).map (f, ·)

theorem written_cons (x : ρ) (f : Field ρ) (fs : List (Field ρ)) :
    written x (f :: fs) = ((f.write x).map (f, ·)).toList ++ written x fs := by
  rw [written, List.filterMap_cons]
  cases f.write x <;> rfl

theorem written_append (x : ρ) (fs gs : List (Field ρ)) : written x (fs ++ gs) = written x fs ++ written x gs :=
  List.filterMap_append

theorem mem_written {fs : List (Field ρ)} {e : Field ρ × Json} (he : e ∈ written x fs) :
    e.1 ∈ fs ∧ e.1.write x = some e.2 := by
  obtain ⟨f, hf, he⟩ := List.mem_filterMap.1 he
  obtain ⟨w, hw, rfl⟩ := Option.map_eq_some_iff.1 he
  exact ⟨hf, hw⟩

/-- fields that write the same write the same script -/
theorem written_congr {fs : List (Field ρ)} (h : ∀ f ∈ fs, f.write x = f.write y) : written x fs = written y fs := by
  refine List.filterMap_congr fun f hf => ?_
  rw [h f hf]

/-- what is written of a record is a value with the script that its fields write -/
theorem script_write (hr : r.Regular) (x : ρ) : r.script (r.write x) = written x r.fields := by
  have hfind : ∀ f ∈ r.fields, r.fields.find? (·.key == f.key) = some f := fun f hf => by
    cases hfound : r.fields.find? (·.key == f.key) with
    | none => exact absurd (beq_self_eq_true f.key) (List.find?_eq_none.1 hfound f hf)
    | some g =>
      have hkey : g.key = f.key := by simpa using List.find?_some hfound
      rw [hr.eq_of_key (List.mem_of_find?_eq_some hfound) hf hkey]
  rw [write, script, List.filterMap_filterMap]
  refine List.filterMap_congr fun f hf => ?_
  rw [Option.bind_map]
  cases f.write x with
  | none => rfl
  | some w => simp [hfind f hf]

theorem Restoring.admits_write (hr : r.Restoring) (x : ρ) : r.Admits (r.write x) := by
  intro f hf hmandatory
  rw [← Keyed.get?, Keyed.isSome_get?_iff]
  obtain ⟨w, hw⟩ := Option.isSome_iff_exists.1 ((hr.kept f hf).named hmandatory x)
  exact List.mem_map.2 ⟨(f.key, w), List.mem_filterMap.2 ⟨f, hf, by rw [hw]; rfl⟩, rfl⟩

/-- the record that a script of written fields makes of the start is the record itself -/
def Restored (r : Record ρ) (x : ρ) : Prop :=
  Script.run (written x r.fields) r.start = .ok x

theorem Restoring.start (hr : r.Restoring) : r.Restored r.start := by
  have hstill : ∀ script : Script ρ, (∀ e ∈ script, e.1.read e.2 r.start = .ok r.start) →
      Script.run script r.start = .ok r.start := by
    intro script
    induction script with
    | nil => exact fun _ => rfl
    | cons e es ih =>
      intro h
      exact Script.run_cons.2 ⟨_, h e List.mem_cons_self, ih fun e' he' => h e' (List.mem_cons_of_mem _ he')⟩
  refine hstill _ fun e he => ?_
  obtain ⟨hf, hw⟩ := mem_written he
  exact (hr.kept _ hf).restores.fresh hw

/-- reading one more value keeps a record restored -/
theorem Restoring.step (hr : r.Restoring) (hx : r.Restored x) {f : Field ρ} (hf : f ∈ r.fields) {v : Json}
    (hread : f.read v x = .ok y) : r.Restored y := by
  obtain ⟨before, after, hfields⟩ := List.append_of_mem hf
  -- the fields beside `f` are apart from it, so they write what they wrote
  have hpair := hr.apart
  rw [hfields, List.pairwise_append, List.pairwise_cons] at hpair
  obtain ⟨-, ⟨hafter, -⟩, hbefore⟩ := hpair
  have hbefore : ∀ g ∈ before, f.Apart g := fun g hg => (hbefore g hg f List.mem_cons_self).symm
  have hsame : ∀ fs : List (Field ρ), (∀ g ∈ fs, f.Apart g) → written y fs = written x fs := fun fs hfs =>
    written_congr fun g hg => (hfs g hg).left hread
  have hapart : ∀ fs : List (Field ρ), (∀ g ∈ fs, f.Apart g) → ∀ e ∈ written x fs, f.Apart e.1 := fun fs hfs e he =>
    hfs _ (mem_written he).1
  rw [Restored, hfields, written_append, written_cons] at hx ⊢
  rw [hsame before hbefore, hsame after hafter]
  obtain ⟨x₁, hx₁, hx⟩ := Script.run_append.1 hx
  obtain ⟨x₂, hx₂, hx⟩ := Script.run_append.1 hx
  -- what `f` writes now reads as `v` did, and `v` overwrites what `f` wrote before
  have hf₂ : f.read v x₂ = f.read v x₁ := by
    cases hw : f.write x with
    | none => rw [hw] at hx₂; rw [Script.run_nil.1 hx₂]
    | some w =>
      rw [hw] at hx₂
      obtain ⟨x', hx', hlast⟩ := Script.run_cons.1 hx₂
      rw [Script.run_nil.1 hlast, (hr.kept f hf).regular.overwrites hx']
  obtain ⟨y₂, hy₂⟩ := (hr.kept f hf).regular.uniform hread x₂
  obtain ⟨z, hz, hlast⟩ := Script.run_meet (hapart after hafter) hx hy₂
  obtain rfl : y = z := Except.ok.inj (hread.symm.trans hlast)
  refine Script.run_append.2 ⟨x₁, hx₁, Script.run_append.2 ⟨y₂, ?_, hz⟩⟩
  have hy₁ : f.read v x₁ = .ok y₂ := hf₂ ▸ hy₂
  cases hw : f.write y with
  | none =>
    have hstill := Script.run_still (hapart before hbefore) hx₁ ((hr.kept f hf).restores.omitted hread hw)
    exact Script.run_nil.2 (Except.ok.inj (hy₁.symm.trans hstill))
  | some w =>
    exact Script.run_cons.2 ⟨y₂, ((hr.kept f hf).restores.written hread hw x₁).trans hy₁, rfl⟩

/-- every script of the record's fields makes a restored record of a restored one -/
theorem Restoring.run (hr : r.Restoring) {script : Script ρ} (hscript : ∀ e ∈ script, e.1 ∈ r.fields)
    (hx : r.Restored x) (hrun : script.run x = .ok y) : r.Restored y := by
  induction script generalizing x with
  | nil => exact Script.run_nil.1 hrun ▸ hx
  | cons e es ih =>
    obtain ⟨x', hx', hrest⟩ := Script.run_cons.1 hrun
    exact ih (fun e' he' => hscript e' (List.mem_cons_of_mem _ he'))
      (hr.step hx (hscript e List.mem_cons_self) hx') hrest

/-- **A record that was read is read again** from what is written of it. -/
theorem faithful (r : Record ρ) [hr : r.Restoring] : r.codec.Faithful where
  keeps {v x} h := by
    obtain ⟨-, hrun⟩ := read_ok_iff.1 h
    refine read_ok_iff.2 ⟨hr.admits_write x, ?_⟩
    rw [script_write hr.regular]
    exact hr.run (fun e he => script_fields he) hr.start hrun
  present _ _ := by simp [codec, write]

end Record

end ClientPlan
