/-
Codecs whose two halves fit. A value is kept if it is read again from what is written of it; a codec is faithful if
whatever it reads is kept, and is written as null only if it was null. Texts, flags and names of a choice are always
kept, lists and maps if their values are.
-/
import ClientPlan.Json.Codec
import ClientPlan.Proofs.Sequences

namespace ClientPlan

/-! ## Reading one after the other -/

theorem mapM_ok_iff {ε α β : Type} {f : α → Except ε β} {xs : List α} {ys : List β} :
    xs.mapM f = .ok ys ↔ List.Forall₂ (fun x y => f x = .ok y) xs ys := by
  induction xs generalizing ys with
  | nil =>
    rw [List.mapM_nil, List.forall₂_nil_left_iff]
    exact ⟨fun h => (Except.ok.inj h).symm, fun h => h ▸ rfl⟩
  | cons x xs ih =>
    rw [List.mapM_cons, List.forall₂_cons_left_iff]
    constructor
    · intro h
      cases hx : f x with
      | error e => rw [hx] at h; cases h
      | ok y =>
        cases hxs : xs.mapM f with
        | error e => rw [hx, hxs] at h; cases h
        | ok zs =>
          rw [hx, hxs] at h
          exact ⟨y, zs, rfl, ih.1 hxs, (Except.ok.inj h).symm⟩
    · rintro ⟨y, zs, hy, hzs, rfl⟩
      rw [hy, ih.2 hzs]
      rfl

namespace Codec

variable {α : Type} {c : Codec α}

/-! ## Lists and maps -/

theorem list_read_iff {v : Json} {as : List α} :
    c.list.read v = .ok as ↔ ∃ items, v = .array items ∧ List.Forall₂ (fun u a => c.read u = .ok a) items as := by
  constructor
  · intro h
    cases v with
    | array items => exact ⟨items, rfl, mapM_ok_iff.1 h⟩
    | _ => cases h
  · rintro ⟨items, rfl, h⟩
    exact mapM_ok_iff.2 h

theorem keyed_read_iff {v : Json} {m : Keyed α} :
    c.keyed.read v = .ok m ↔
      ∃ entries, v = .object entries ∧ List.Forall₂ (fun e a => a.1 = e.1 ∧ c.read e.2 = .ok a.2) entries m := by
  have hentry : ∀ (e : String × Json) (a : String × α),
      (c.read e.2).map (Prod.mk e.1) = .ok a ↔ a.1 = e.1 ∧ c.read e.2 = .ok a.2 := by
    intro e a
    cases c.read e.2 with
    | error err => simp [Except.map]
    | ok b => simp [Except.map, Prod.ext_iff, eq_comm]
  have hentries : ∀ entries : List (String × Json),
      c.keyed.read (.object entries) = .ok m ↔
        List.Forall₂ (fun e a => a.1 = e.1 ∧ c.read e.2 = .ok a.2) entries m := fun entries => by
    simp only [← hentry]
    exact mapM_ok_iff
  constructor
  · intro h
    cases v with
    | object entries => exact ⟨entries, rfl, (hentries entries).1 h⟩
    | _ => cases h
  · rintro ⟨entries, rfl, h⟩
    exact (hentries entries).2 h

/-! ## Values that are kept -/

/-- the value is read again from what is written of it -/
def Keeps (c : Codec α) (a : α) : Prop :=
  c.read (c.write a) = .ok a

/-- what was read is kept, and written as null only if it was null -/
structure Faithful (c : Codec α) : Prop where
  keeps : ∀ {v a}, c.read v = .ok a → c.Keeps a
  present : ∀ {v a}, c.read v = .ok a → v ≠ .null → c.write a ≠ .null

/-- every value is kept, and none is written as null -/
theorem Faithful.of_keeps (hkeeps : ∀ a, c.Keeps a) (hpresent : ∀ a, c.write a ≠ .null) : c.Faithful :=
  ⟨fun _ => hkeeps _, fun _ _ => hpresent _⟩

theorem text_faithful : text.Faithful :=
  .of_keeps (fun _ => rfl) fun _ => by simp [text]

theorem flag_faithful : flag.Faithful :=
  .of_keeps (fun _ => rfl) fun _ => by simp [flag]

/-- any value is kept as it is -/
theorem any_faithful : any.Faithful :=
  ⟨fun _ => rfl, fun h hv => Except.ok.inj h ▸ hv⟩

theorem choice_keeps {allowed : Keyed α} {nameOf : α → String} {a : α} (h : allowed.get? (nameOf a) = some a) :
    (choice allowed nameOf).Keeps a := by
  change named allowed (nameOf a) = .ok a
  rw [named, h]

theorem list_keeps {as : List α} (h : ∀ a ∈ as, c.Keeps a) : c.list.Keeps as := by
  refine list_read_iff.2 ⟨_, rfl, ?_⟩
  rw [List.forall₂_map_left_iff, List.forall₂_same]
  exact h

theorem list_faithful (hc : c.Faithful) : c.list.Faithful where
  keeps h := by
    obtain ⟨items, rfl, hitems⟩ := list_read_iff.1 h
    refine list_keeps fun a ha => ?_
    obtain ⟨u, -, hu⟩ := exists_left_of_forall₂ hitems ha
    exact hc.keeps hu
  present _ _ := by simp [list]

theorem keyed_keeps {m : Keyed α} (h : ∀ e ∈ m, c.Keeps e.2) : c.keyed.Keeps m := by
  refine keyed_read_iff.2 ⟨_, rfl, ?_⟩
  rw [Keyed.mapValues, List.forall₂_map_left_iff, List.forall₂_same]
  exact fun e he => ⟨rfl, h e he⟩

theorem keyed_faithful (hc : c.Faithful) : c.keyed.Faithful where
  keeps h := by
    obtain ⟨entries, rfl, hentries⟩ := keyed_read_iff.1 h
    refine keyed_keeps fun e he => ?_
    obtain ⟨u, -, -, hu⟩ := exists_left_of_forall₂ hentries he
    exact hc.keeps hu
  present _ _ := by simp [keyed]

end Codec

end ClientPlan
