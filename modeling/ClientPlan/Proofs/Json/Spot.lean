/-
Spots of a value. A spot is a part of what is read, together with the place in the JSON value that it is read from.
Exchanging the value at that place for any other one that can be read there, and is not null, changes the part and
nothing else. Fields of records, items of lists and entries of maps are spots, and a spot of a spot is a spot.
-/
import ClientPlan.Proofs.Json.Codec
import ClientPlan.Proofs.Json.Restoring

namespace ClientPlan

/-- how values of one kind are read -/
abbrev Reader (α : Type) := Json → Except Mismatch α

/-- a part that may be there, and the place that it is read from -/
structure Spot {α τ : Type} (whole : Reader α) (part : Reader τ) where
  get? : α → Option τ
  set : τ → α → α
  /-- change the value at the place of the part -/
  alter : (Json → Json) → Json → Json
  get_set : ∀ {a x} (y), get? a = some x → get? (set y a) = some y
  set_back : ∀ {a x} (y), get? a = some x → set x (set y a) = a
  /-- one value `u` is what the part was read from, and exchanging it exchanges the part -/
  exchange : ∀ {v a x}, whole v = .ok a → get? a = some x → ∃ u, part u = .ok x ∧
    ∀ {g y}, g u ≠ .null → part (g u) = .ok y → alter g v ≠ .null ∧ whole (alter g v) = .ok (set y a)

namespace Spot

variable {α β τ : Type}

/-- the whole of a value -/
def here (whole : Reader α) : Spot whole whole where
  get? := some
  set y _ := y
  alter g := g
  get_set _ _ := rfl
  set_back _ h := (Option.some.inj h).symm
  exchange hread h := ⟨_, Option.some.inj h ▸ hread, fun hnull hy => ⟨hnull, hy⟩⟩

/-- a spot of a spot -/
def comp {whole : Reader α} {middle : Reader β} {part : Reader τ} (s : Spot whole middle) (t : Spot middle part) :
    Spot whole part where
  get? a := (s.get? a).bind t.get?
  set y a := match s.get? a with
    | some b => s.set (t.set y b) a
    | none => a
  alter g := s.alter (t.alter g)
  get_set {a x} y h := by
    obtain ⟨b, hb, hx⟩ := Option.bind_eq_some_iff.1 h
    simp only [hb, s.get_set _ hb, Option.bind_some, t.get_set y hx]
  set_back {a x} y h := by
    obtain ⟨b, hb, hx⟩ := Option.bind_eq_some_iff.1 h
    simp only [hb, s.get_set _ hb, t.set_back y hx, s.set_back _ hb]
  exchange {v a x} hread h := by
    obtain ⟨b, hb, hx⟩ := Option.bind_eq_some_iff.1 h
    obtain ⟨u, hu, hwhole⟩ := s.exchange hread hb
    obtain ⟨u', hu', hmiddle⟩ := t.exchange hu hx
    refine ⟨u', hu', fun hnull hy => ?_⟩
    obtain ⟨hnull', hy'⟩ := hmiddle hnull hy
    simp only [hb]
    exact hwhole hnull' hy'

/-- a part that may be absent, where it is there -/
def present (c : Codec α) : Spot (Slot.optional c).parse c.read where
  get? a := a
  set y _ := some y
  alter g := g
  get_set _ _ := rfl
  set_back _ h := h.symm
  exchange {v a x} hread h := by
    subst h
    have hv : v ≠ .null := fun hnull => by rw [hnull] at hread; cases hread
    rw [Slot.optional_parse hv] at hread
    refine ⟨v, ?_, fun {g y} hnull hy => ⟨hnull, ?_⟩⟩
    · cases hx : c.read v with
      | error e => rw [hx] at hread; cases hread
      | ok x' => rw [hx] at hread; exact congrArg Except.ok (Option.some.inj (Except.ok.inj hread))
    · rw [Slot.optional_parse hnull, hy]
      rfl

end Spot

/-! ## Forms -/

/-- one of the forms that a value may have, how it is made of what it holds, and where it is read -/
structure Spot.Form {α β : Type} (whole : Reader β) (inner : Reader α) where
  make : α → β
  get? : β → Option α
  Reads : Json → Prop
  get?_iff : ∀ {b a}, get? b = some a ↔ b = make a
  read_iff : ∀ {v a}, whole v = .ok (make a) ↔ Reads v ∧ inner v = .ok a

/-- a spot of what a form holds, if no change there leads out of that form -/
def Spot.within {α β τ : Type} {whole : Reader β} {inner : Reader α} {part : Reader τ} (form : Form whole inner)
    (s : Spot inner part) (hs : ∀ g v, form.Reads v → form.Reads (s.alter g v)) : Spot whole part where
  get? b := (form.get? b).bind s.get?
  set y b := match form.get? b with
    | some a => form.make (s.set y a)
    | none => b
  alter := s.alter
  get_set {b x} y h := by
    obtain ⟨a, ha, hx⟩ := Option.bind_eq_some_iff.1 h
    simp only [ha, form.get?_iff.2 rfl, Option.bind_some, s.get_set y hx]
  set_back {b x} y h := by
    obtain ⟨a, ha, hx⟩ := Option.bind_eq_some_iff.1 h
    simp only [ha, form.get?_iff.2 rfl, s.set_back y hx]
    exact (form.get?_iff.1 ha).symm
  exchange {v b x} hread h := by
    obtain ⟨a, ha, hx⟩ := Option.bind_eq_some_iff.1 h
    obtain rfl := form.get?_iff.1 ha
    obtain ⟨hv, hinner⟩ := form.read_iff.1 hread
    obtain ⟨u, hu, hexchange⟩ := s.exchange hinner hx
    refine ⟨u, hu, fun hnull hy => ?_⟩
    obtain ⟨hnull', hy'⟩ := hexchange hnull hy
    simp only [ha]
    exact ⟨hnull', form.read_iff.2 ⟨hs _ _ hv, hy'⟩⟩

/-! ## Items and entries -/

namespace Keyed

variable {α β : Type}

theorem insert_insert (m : Keyed α) (key : String) (a b : α) : (m.insert key a).insert key b = m.insert key b := by
  induction m with
  | nil => simp [insert]
  | cons e m ih =>
    by_cases hk : e.1 = key
    · simp [insert, hk]
    · simp [insert, hk, ih]

/-- entering what is there already changes nothing -/
theorem insert_of_get? {m : Keyed α} {key : String} {a : α} (h : m.get? key = some a) : m.insert key a = m := by
  induction m with
  | nil => cases h
  | cons e m ih =>
    rw [get?_cons] at h
    by_cases hk : key = e.1
    · rw [if_pos hk] at h
      rw [insert, if_pos hk.symm, hk, ← Option.some.inj h]
    · rw [if_neg hk] at h
      rw [insert, if_neg (Ne.symm hk), ih h]

theorem forall₂_alter {R : α → β → Prop} {es : Keyed α} {m : Keyed β}
    (h : List.Forall₂ (fun e a => a.1 = e.1 ∧ R e.2 a.2) es m) {key : String} {start : α} {a : β}
    (ha : m.get? key = some a) :
    ∃ u, R u a ∧ ∀ {g b}, R (g u) b →
      List.Forall₂ (fun e a => a.1 = e.1 ∧ R e.2 a.2) (es.alter key start g) (m.insert key b) := by
  induction h with
  | nil => cases ha
  | @cons e e' es m he hrest ih =>
    obtain ⟨hkey, hR⟩ := he
    rw [get?_cons] at ha
    by_cases hk : key = e'.1
    · rw [if_pos hk] at ha
      refine ⟨e.2, Option.some.inj ha ▸ hR, fun hb => ?_⟩
      rw [alter, get?_cons, if_pos (hk.trans hkey), insert, if_pos (hk.trans hkey).symm, insert, if_pos hk.symm]
      exact .cons ⟨rfl, hb⟩ hrest
    · rw [if_neg hk] at ha
      obtain ⟨u, hu, hset⟩ := ih ha
      refine ⟨u, hu, fun hb => ?_⟩
      have hk' : key ≠ e.1 := fun heq => hk (heq.trans hkey.symm)
      rw [alter, get?_cons, if_neg hk', insert, if_neg hk'.symm, insert, if_neg (Ne.symm hk)]
      exact .cons ⟨hkey, hR⟩ (hset hb)

end Keyed

/-- change one item of an array -/
def Json.alterItem (i : Nat) (g : Json → Json) : Json → Json
  | .array items => .array (items.modify i g)
  | v => v

/-- change what an object has under a key -/
def Json.alterEntry (key : String) (g : Json → Json) : Json → Json
  | .object entries => .object (Keyed.alter entries key .null g)
  | v => v

namespace Spot

variable {α : Type}

/-- an item of a list -/
def item (c : Codec α) (i : Nat) : Spot c.list.read c.read where
  get? as := as[i]?
  set y as := as.set i y
  alter := Json.alterItem i
  get_set _ h := by
    obtain ⟨hi, -⟩ := List.getElem?_eq_some_iff.1 h
    simp [hi]
  set_back _ h := by
    obtain ⟨hi, rfl⟩ := List.getElem?_eq_some_iff.1 h
    simp
  exchange hread h := by
    obtain ⟨items, rfl, hitems⟩ := Codec.list_read_iff.1 hread
    obtain ⟨u, hu, hset⟩ := forall₂_modify hitems h
    exact ⟨u, hu, fun _ hy => ⟨Json.noConfusion, Codec.list_read_iff.2 ⟨_, rfl, hset hy⟩⟩⟩

/-- an entry of a map -/
def entry (c : Codec α) (key : String) : Spot c.keyed.read c.read where
  get? m := m.get? key
  set y m := m.insert key y
  alter := Json.alterEntry key
  get_set y _ := by rw [Keyed.get?_insert, if_pos rfl]
  set_back y h := by rw [Keyed.insert_insert, Keyed.insert_of_get? h]
  exchange hread h := by
    obtain ⟨entries, rfl, hentries⟩ := Codec.keyed_read_iff.1 hread
    obtain ⟨u, hu, hset⟩ := Keyed.forall₂_alter (R := fun u a => c.read u = .ok a) hentries h
    exact ⟨u, hu, fun _ hy => ⟨Json.noConfusion, Codec.keyed_read_iff.2 ⟨_, rfl, hset hy⟩⟩⟩

/-! ## Fields -/

variable {ρ σ τ : Type} {r : Record ρ} {part : Reader τ}

/-- a spot of the part that a field is about; the part must not have it at first, as null or an empty array or object
show -/
def field (r : Record ρ) [hr : r.Restoring] {f : Field ρ} (hf : f ∈ r.fields) {p : Lens ρ σ} {s : Slot σ} [f.Fits p s]
    (hp : p.Lawful) (t : Spot s.parse part) {w : Json} (hw : s.parse w = .ok (p.get r.start))
    (hfirst : t.get? (p.get r.start) = none) : Spot r.read part where
  get? x := t.get? (p.get x)
  set y x := p.set (t.set y (p.get x)) x
  alter g := r.alter f.key (t.alter g)
  get_set y h := by rw [hp.get_set, t.get_set y h]
  set_back y h := by rw [hp.get_set, hp.set_set, t.set_back y h, hp.set_get]
  exchange {v x a} hread h := by
    have hstart : f.read w r.start = .ok r.start := Field.Fits.read_ok.2 ⟨_, hw, (hp.set_get _).symm⟩
    have hsaid : f.read w x ≠ .ok x := fun hsame => by
      obtain ⟨b, hb, hx⟩ := Field.Fits.read_ok.1 hsame
      obtain rfl := Except.ok.inj (hw.symm.trans hb)
      rw [hx, hp.get_set, hfirst] at h
      cases h
    obtain ⟨u, hu, halter⟩ := Record.read_alter hr.regular hf hread hstart hsaid
    obtain ⟨b, hb, hx⟩ := Field.Fits.read_ok.1 hu
    have hget : p.get x = b := by rw [hx, hp.get_set]
    obtain ⟨u', hu', hexchange⟩ := t.exchange hb (hget ▸ h)
    refine ⟨u', hu', fun {g y} hnull hy => ⟨?_, ?_⟩⟩
    · cases v with
      | object entries => exact Json.noConfusion
      | array items => exact Json.noConfusion
      | _ => cases hread
    · exact halter _ _ (Field.Fits.read_ok.2 ⟨_, (hexchange hnull hy).2, by rw [hget]⟩)

/-- the part of an optional field of that key, where it is there -/
def optional (r : Record ρ) [hr : r.Restoring] (key : String) {p : Lens ρ (Option τ)} {c : Codec τ}
    (hf : Field.optional key p c ∈ r.fields := by repeat first | exact .head _ | refine .tail _ ?_)
    (hp : p.Lawful := by exact {}) (hfirst : p.get r.start = none := by rfl) : Spot r.read c.read :=
  field r hf hp (present c) (w := .null) (congrArg Except.ok hfirst.symm) hfirst

/-- an item of the list field of that key -/
def listed (r : Record ρ) [hr : r.Restoring] (key : String) (i : Nat) {p : Lens ρ (List τ)} {c : Codec τ}
    (hf : Field.list key p c ∈ r.fields := by repeat first | exact .head _ | refine .tail _ ?_)
    (hp : p.Lawful := by exact {}) (hfirst : p.get r.start = [] := by rfl) : Spot r.read c.read :=
  field r hf hp (item c i) (w := .array []) (congrArg Except.ok hfirst.symm) (hfirst ▸ rfl)

/-- an entry of the map field of that key -/
def keyed (r : Record ρ) [hr : r.Restoring] (key name : String) {p : Lens ρ (Keyed τ)} {c : Codec τ}
    (hf : Field.keyed key p c ∈ r.fields := by repeat first | exact .head _ | refine .tail _ ?_)
    (hp : p.Lawful := by exact {}) (hfirst : p.get r.start = [] := by rfl) : Spot r.read c.read :=
  field r hf hp (entry c name) (w := .object []) (congrArg Except.ok hfirst.symm) (hfirst ▸ rfl)

end Spot

end ClientPlan
