/-
Two records that are read side by side. If the fields of one follow those of the other, part by part, then whatever the
first record is read as, the second one is read as its image; and what is written of the second one is what is written
of the first one for the preimage. This is what lets a recursive record be read one layer at a time.
-/
import Mathlib.Data.List.Forall2
import ClientPlan.Proofs.Json.Record

namespace ClientPlan

/-! ## Parts of a value -/

namespace Json

theorem height_le_heightItems {items : List Json} {u : Json} (h : u ∈ items) : u.height ≤ heightItems items := by
  induction items with
  | nil => cases h
  | cons v vs ih =>
    rw [heightItems]
    rcases List.mem_cons.1 h with rfl | h
    · exact Nat.le_max_left ..
    · exact Nat.le_trans (ih h) (Nat.le_max_right ..)

theorem height_le_heightEntries {entries : List (String × Json)} {e : String × Json} (h : e ∈ entries) :
    e.2.height ≤ heightEntries entries := by
  induction entries with
  | nil => cases h
  | cons e' es ih =>
    rw [heightEntries]
    rcases List.mem_cons.1 h with rfl | h
    · exact Nat.le_max_left ..
    · exact Nat.le_trans (ih h) (Nat.le_max_right ..)

theorem height_pos (v : Json) : 0 < v.height := by
  cases v <;> simp [height]

end Json

/-! ## Fields that follow each other -/

/-- the field `g` of `σ` says of `down x` and `y` what the field `f` of `ρ` says of `x` and `up y`, where the values that
are read are at most `h` levels high -/
structure Field.Follows {ρ σ : Type} (down : ρ → σ) (up : σ → ρ) (h : Nat) (f : Field ρ) (g : Field σ) : Prop where
  key : g.key = f.key
  mandatory : g.mandatory = f.mandatory
  trailing : g.trailing = f.trailing
  read : ∀ v, v.height ≤ h → ∀ x, g.read v (down x) = (f.read v x).map down
  write : ∀ y, g.write y = f.write (up y)

/-- the codec `d` reads the image under `down` of what the codec `c` reads, from values of at most `h` levels, and writes
what that one writes for `up` -/
structure Codec.Follows {α β : Type} (down : α → β) (up : β → α) (h : Nat) (c : Codec α) (d : Codec β) : Prop where
  read : ∀ v, v.height ≤ h → d.read v = (c.read v).map down
  write : ∀ b, d.write b = c.write (up b)

namespace Codec

variable {α β : Type} {down : α → β} {up : β → α} {h : Nat} {c : Codec α} {d : Codec β}

theorem Follows.list (hcd : Follows down up h c d) : Follows (List.map down) (List.map up) h c.list d.list where
  read v hv := by
    cases v with
    | array items =>
      have hitems : ∀ u ∈ items, d.read u = (c.read u).map down := fun u hu => by
        have hle := Json.height_le_heightItems hu
        rw [Json.height] at hv
        exact hcd.read u (by omega)
      change items.mapM d.read = (items.mapM c.read).map (List.map down)
      clear hv
      induction items with
      | nil => rfl
      | cons u us ih =>
        rw [List.mapM_cons, List.mapM_cons, hitems u List.mem_cons_self,
          ih fun u' hu' => hitems u' (List.mem_cons_of_mem _ hu')]
        cases c.read u <;> cases us.mapM c.read <;> rfl
    | _ => rfl
  write bs := by
    change Json.array (bs.map d.write) = Json.array ((bs.map up).map c.write)
    rw [List.map_map, funext hcd.write]
    rfl

theorem Follows.keyed (hcd : Follows down up h c d) :
    Follows (Keyed.mapValues down) (Keyed.mapValues up) h c.keyed d.keyed where
  read v hv := by
    cases v with
    | object entries =>
      have hentries : ∀ e ∈ entries, d.read e.2 = (c.read e.2).map down := fun e he => by
        have hle := Json.height_le_heightEntries he
        rw [Json.height] at hv
        exact hcd.read e.2 (by omega)
      change (entries.mapM fun e => (d.read e.2).map (Prod.mk e.1)) =
        (entries.mapM fun e => (c.read e.2).map (Prod.mk e.1)).map (Keyed.mapValues down)
      clear hv
      induction entries with
      | nil => rfl
      | cons e es ih =>
        rw [List.mapM_cons, List.mapM_cons, hentries e List.mem_cons_self,
          ih fun e' he' => hentries e' (List.mem_cons_of_mem _ he')]
        cases c.read e.2 <;> cases es.mapM fun e => (c.read e.2).map (Prod.mk e.1) <;> rfl
    | _ => rfl
  write m := by
    change Json.object (m.mapValues d.write) = Json.object ((Keyed.mapValues up m).mapValues c.write)
    rw [Keyed.mapValues, Keyed.mapValues, Keyed.mapValues, List.map_map, funext hcd.write]
    rfl

end Codec

namespace Field

variable {ρ σ τ υ : Type} {down : ρ → σ} {up : σ → ρ} {h : Nat} {key : String} {into : τ → υ} {back : υ → τ}
  {c : Codec τ} {d : Codec υ}

/-- a field about a part that both records have -/
theorem Follows.same {f : Field ρ} {g : Field σ} {p : Lens ρ τ} {q : Lens σ τ} {s : Slot τ} [f.Fits p s] [g.Fits q s]
    (hkey : g.key = f.key := by rfl) (hmandatory : g.mandatory = f.mandatory := by rfl)
    (htrailing : g.trailing = f.trailing := by rfl)
    (hset : ∀ a x, q.set a (down x) = down (p.set a x) := by intros; rfl)
    (hget : ∀ y, p.get (up y) = q.get y := by intros; rfl) : Follows down up h f g where
  key := hkey
  mandatory := hmandatory
  trailing := htrailing
  read v _ x := by
    rw [Fits.read (f := g), Fits.read (f := f)]
    cases s.parse v with
    | error e => rfl
    | ok a => exact congrArg Except.ok (hset a x)
  write y := by rw [Fits.write (f := g), Fits.write (f := f), hget]

theorem Follows.defaulted {p : Lens ρ τ} {q : Lens σ υ} {skip : τ → Bool} {skip' : υ → Bool}
    (hcd : c.Follows into back h d) (hskip : ∀ b, skip' b = skip (back b) := by intros; rfl)
    (hset : ∀ a x, q.set (into a) (down x) = down (p.set a x) := by intros; rfl)
    (hget : ∀ y, p.get (up y) = back (q.get y) := by intros; rfl) :
    Follows down up h (.defaulted key p c skip) (.defaulted key q d skip') where
  key := rfl
  mandatory := rfl
  trailing := rfl
  read v hv x := by
    change (d.read v).map (q.set · (down x)) = ((c.read v).map (p.set · x)).map down
    rw [hcd.read v hv]
    cases c.read v with
    | error e => rfl
    | ok a => exact congrArg Except.ok (hset a x)
  write y := by
    change (if skip' (q.get y) then none else some (d.write (q.get y))) =
      if skip (p.get (up y)) then none else some (c.write (p.get (up y)))
    rw [hget, hskip, hcd.write]

theorem Follows.list {p : Lens ρ (List τ)} {q : Lens σ (List υ)} (hcd : c.Follows into back h d)
    (hset : ∀ as x, q.set (as.map into) (down x) = down (p.set as x) := by intros; rfl)
    (hget : ∀ y, p.get (up y) = (q.get y).map back := by intros; rfl) :
    Follows down up h (.list key p c) (.list key q d) :=
  .defaulted hcd.list (fun _ => List.isEmpty_map.symm) hset hget

theorem Follows.keyed {p : Lens ρ (Keyed τ)} {q : Lens σ (Keyed υ)} (hcd : c.Follows into back h d)
    (hset : ∀ m x, q.set (Keyed.mapValues into m) (down x) = down (p.set m x) := by intros; rfl)
    (hget : ∀ y, p.get (up y) = Keyed.mapValues back (q.get y) := by intros; rfl) :
    Follows down up h (.keyed key p c) (.keyed key q d) :=
  .defaulted hcd.keyed (fun _ => List.isEmpty_map.symm) hset hget

theorem Follows.optional {p : Lens ρ (Option τ)} {q : Lens σ (Option υ)} (hcd : c.Follows into back h d)
    (hnone : ∀ x, q.set none (down x) = down (p.set none x) := by intros; rfl)
    (hsome : ∀ a x, q.set (some (into a)) (down x) = down (p.set (some a) x) := by intros; rfl)
    (hget : ∀ y, p.get (up y) = (q.get y).map back := by intros; rfl) :
    Follows down up h (.optional key p c) (.optional key q d) where
  key := rfl
  mandatory := rfl
  trailing := rfl
  read v hv x := by
    rw [Fits.read (f := Field.optional key q d), Fits.read (f := Field.optional key p c)]
    by_cases hnull : v = .null
    · subst hnull
      exact congrArg Except.ok (hnone x)
    · rw [Slot.optional_parse hnull, Slot.optional_parse hnull, hcd.read v hv]
      cases c.read v with
      | error e => rfl
      | ok a => exact congrArg Except.ok (hsome a x)
  write y := by
    change (q.get y).map d.write = (p.get (up y)).map c.write
    rw [hget, Option.map_map, funext hcd.write]
    rfl

end Field

/-! ## Records that follow each other -/

namespace Record

variable {ρ σ : Type} {r : Record ρ} {s : Record σ} {down : ρ → σ} {up : σ → ρ} {h : Nat}

theorem readItems_follow (hname : s.name = r.name) (hlength : s.fields.length = r.fields.length)
    {fs : List (Field ρ)} {gs : List (Field σ)} (hfs : List.Forall₂ (Field.Follows down up h) fs gs) {items : List Json}
    (hitems : ∀ u ∈ items, u.height ≤ h) (total i : Nat) (x : ρ) :
    s.readItems total i (down x) gs items = (r.readItems total i x fs items).map down := by
  induction hfs generalizing items i x with
  | nil => cases items <;> rfl
  | @cons f g fs gs hfg _ ih =>
    cases items with
    | nil =>
      rw [readItems, readItems, hfg.trailing, hname, hlength]
      split_ifs
      · exact ih hitems (i + 1) x
      · rfl
    | cons v vs =>
      rw [readItems, readItems, hfg.read v (hitems v List.mem_cons_self)]
      cases f.read v x with
      | error e => rfl
      | ok y => exact ih (fun u hu => hitems u (List.mem_cons_of_mem _ hu)) (i + 1) y

/-- of lists of fields that follow each other, the first fields with some property follow each other too -/
theorem find?_follow {fs : List (Field ρ)} {gs : List (Field σ)} (hfs : List.Forall₂ (Field.Follows down up h) fs gs)
    (here : Field ρ → Bool) (here' : Field σ → Bool)
    (hhere : ∀ f g, Field.Follows down up h f g → here' g = here f) :
    Option.Rel (Field.Follows down up h) (fs.find? here) (gs.find? here') := by
  induction hfs with
  | nil => exact .none
  | @cons f g fs gs hfg _ ih =>
    rw [List.find?_cons, List.find?_cons, hhere f g hfg]
    cases here f
    · exact ih
    · exact .some hfg

theorem readEntries_follow (hstart : s.start = down r.start)
    (hfields : List.Forall₂ (Field.Follows down up h) r.fields s.fields) {entries : List (String × Json)}
    (hentries : ∀ e ∈ entries, e.2.height ≤ h) : s.readEntries entries = (r.readEntries entries).map down := by
  have hstep : ∀ e ∈ entries, ∀ x, s.readEntry (down x) e = (r.readEntry x e).map down := fun e he x => by
    rw [readEntry, readEntry]
    have hfind := find?_follow hfields (·.key == e.1) (·.key == e.1) fun f g hfg => by rw [hfg.key]
    generalize r.fields.find? _ = found at hfind ⊢
    generalize s.fields.find? _ = found' at hfind ⊢
    cases hfind with
    | none => rfl
    | some hfg => exact hfg.read _ (hentries e he) x
  have hrun : ∀ x, entries.foldlM s.readEntry (down x) = (entries.foldlM r.readEntry x).map down := by
    clear hentries
    induction entries with
    | nil => exact fun _ => rfl
    | cons e es ih =>
      intro x
      rw [List.foldlM_cons, List.foldlM_cons, hstep e List.mem_cons_self]
      cases r.readEntry x e with
      | error err => rfl
      | ok y => exact ih (fun e' he' => hstep e' (List.mem_cons_of_mem _ he')) y
  rw [readEntries, readEntries, hstart, hrun]
  cases entries.foldlM r.readEntry r.start with
  | error err => rfl
  | ok y =>
    have hfind := find?_follow hfields (fun f => f.mandatory && (entries.lookup f.key).isNone)
      (fun f => f.mandatory && (entries.lookup f.key).isNone) fun f g hfg => by rw [hfg.key, hfg.mandatory]
    generalize r.fields.find? _ = found at hfind ⊢
    generalize s.fields.find? _ = found' at hfind ⊢
    cases hfind with
    | none => rfl
    | some hfg => exact congrArg (fun key => Except.error (Mismatch.missing key)) hfg.key

/-- **A record that follows another one** is read as the image of that one, with the same mismatches. -/
theorem read_follow (hname : s.name = r.name) (hstart : s.start = down r.start)
    (hfields : List.Forall₂ (Field.Follows down up h) r.fields s.fields) {v : Json} (hv : v.height ≤ h + 1) :
    s.read v = (r.read v).map down := by
  cases v with
  | object entries =>
    refine readEntries_follow hstart hfields fun e he => ?_
    have hle := Json.height_le_heightEntries he
    rw [Json.height] at hv
    omega
  | array items =>
    rw [read, read, hstart]
    refine readItems_follow hname hfields.length_eq.symm hfields (fun u hu => ?_) _ _ _
    have hle := Json.height_le_heightItems hu
    rw [Json.height] at hv
    omega
  | _ => simp [read, hname, Except.map]

theorem write_follow (hfields : List.Forall₂ (Field.Follows down up h) r.fields s.fields) (y : σ) :
    s.write y = r.write (up y) := by
  refine congrArg Json.object ?_
  generalize r.fields = fs at hfields ⊢
  generalize s.fields = gs at hfields ⊢
  induction hfields with
  | nil => rfl
  | cons hfg _ ih => rw [List.filterMap_cons, List.filterMap_cons, hfg.write, hfg.key, ih]

end Record

end ClientPlan
