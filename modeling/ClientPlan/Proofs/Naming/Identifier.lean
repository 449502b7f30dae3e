/-
The characters of identifiers. A member name consists of the lower-case forms of letters and numbers of the name that it
was made from, and of underscores; so whatever the name, it is one segment of a path and of a module.
-/
import ClientPlan.Naming.Identifier
import ClientPlan.Proofs.Imports.ModulePath

namespace ClientPlan

namespace Text

/-! ## Words -/

theorem mem_of_mem_humps (mode : Mode) (word cs : List Char) :
    ∀ w ∈ humps mode word cs, ∀ c ∈ w, c ∈ word ∨ c ∈ cs := by
  fun_induction humps mode word cs <;> grind

/-- the words of a name consist of its letters and numbers -/
theorem mem_of_mem_words {name : List Char} : ∀ w ∈ words name, ∀ c ∈ w, c ∈ name ∧ isAlphanumeric c = true := by
  intro w hw c hc
  obtain ⟨p, hp, hw⟩ := List.mem_flatMap.1 hw
  have hpiece := (mem_of_mem_humps _ _ _ w hw c hc).resolve_left List.not_mem_nil
  obtain ⟨hmem, hsep⟩ := mem_of_mem_cut p hp c hpiece
  exact ⟨hmem, by simpa using hsep⟩

theorem mem_lowerWord {w : List Char} {x : Char} (h : x ∈ lowerWord w) : x = 'ς' ∨ ∃ c ∈ w, x ∈ lower c := by
  fun_induction lowerWord w <;> grind

/-- what a snake-case name consists of -/
theorem mem_snake {name : List Char} {x : Char} (h : x ∈ snake name) :
    x = '_' ∨ x = 'ς' ∨ ∃ c ∈ name, isAlphanumeric c = true ∧ x ∈ lower c := by
  rcases mem_intercalate h with h | ⟨w, hw, hx⟩
  · exact Or.inl h
  · obtain ⟨v, hv, rfl⟩ := List.mem_map.1 hw
    rcases mem_lowerWord hx with h | ⟨c, hc, hx⟩
    · exact Or.inr (Or.inl h)
    · obtain ⟨hname, halpha⟩ := mem_of_mem_words v hv c hc
      exact Or.inr (Or.inr ⟨c, hname, halpha, hx⟩)

/-! ## Forms of letters and numbers -/

/-- what has been checked of every ASCII character holds of one -/
theorem ascii_check {p : Char → Prop} (hp : ∀ n < 0x80, p (Char.ofNat n)) {c : Char} (h : c.toNat < 0x80) : p c := by
  have hc := hp c.toNat h
  rwa [Char.ofNat_toNat] at hc

/-- code points of marks that identifiers are cut and mended at: those below the digits, and the underscore -/
def IsMark (k : Nat) : Prop :=
  k ≠ 0 ∧ (k ≤ 47 ∨ k = 95)

instance (k : Nat) : Decidable (IsMark k) :=
  inferInstanceAs (Decidable (_ ∧ _))

/-- tables of forms in which there are no marks -/
structure Unmarked (forms : List (Nat × List Nat)) (shifts : List (Span × Int)) : Prop where
  forms : ∀ f ∈ forms, ∀ n ∈ f.2, ¬ IsMark n
  shifts : ∀ s ∈ shifts, 47 < (s.1.first : Int) + s.2 ∧ ((s.1.last : Int) + s.2 < 95 ∨ 95 < (s.1.first : Int) + s.2)

theorem unmarked_lower : Unmarked lowerForms lowerShifts :=
  ⟨by decide, by decide +kernel⟩

theorem unmarked_upper : Unmarked upperForms upperShifts :=
  ⟨by decide +kernel, by decide +kernel⟩

theorem unmarked_ofNat {n : Nat} (h : ¬ IsMark n) : ¬ IsMark (Char.ofNat n).toNat := by
  by_cases hvalid : n.isValidChar
  · rw [Char.ofNat, dif_pos hvalid]
    exact h
  · rw [Char.ofNat, dif_neg hvalid]
    decide

theorem unmarked_caseForm {forms : List (Nat × List Nat)} {shifts : List (Span × Int)} (h : Unmarked forms shifts)
    {c x : Char} (hc : ¬ IsMark c.toNat) (hx : x ∈ caseForm forms shifts c) : ¬ IsMark x.toNat := by
  unfold caseForm at hx
  split at hx
  · next form hform =>
    obtain ⟨_, _, hforms, -⟩ := List.lookup_eq_some_iff.1 hform
    obtain ⟨n, hn, rfl⟩ := List.mem_map.1 hx
    exact unmarked_ofNat (h.forms (c.toNat, form) (by simp [hforms]) n hn)
  · split at hx
    · next s d hshift =>
      rw [List.mem_singleton] at hx
      subst hx
      obtain ⟨hlarge, hscore⟩ := h.shifts _ (List.mem_of_find?_eq_some hshift)
      have hspan := List.find?_some hshift
      simp only [Span.contains, Bool.and_eq_true, decide_eq_true_eq] at hspan
      refine unmarked_ofNat fun hmark => ?_
      unfold IsMark at hmark
      dsimp only at hlarge hscore
      omega
    · rw [List.mem_singleton] at hx
      exact hx ▸ hc

theorem unmarked_of_not_ascii {c : Char} (h : ¬ c.toNat < 0x80) : ¬ IsMark c.toNat := by
  unfold IsMark
  omega

theorem unmarked_of_isAlphanum {c : Char} (hascii : c.toNat < 0x80) (hc : isAlphanumeric c = true) :
    ¬ IsMark c.toLower.toNat ∧ ¬ IsMark c.toUpper.toNat := by
  have hform := ascii_check (p := fun c => c.isAlphanum = true →
    ¬ IsMark c.toLower.toNat ∧ ¬ IsMark c.toUpper.toNat) (by decide +kernel) hascii
  rw [isAlphanumeric, if_pos hascii] at hc
  exact hform hc

/-- no lower-case form of a letter or number is a mark -/
theorem unmarked_of_mem_lower {c x : Char} (hc : isAlphanumeric c = true) (hx : x ∈ lower c) : ¬ IsMark x.toNat := by
  unfold lower at hx
  split_ifs at hx with hascii
  · exact List.mem_singleton.1 hx ▸ (unmarked_of_isAlphanum hascii hc).1
  · exact unmarked_caseForm unmarked_lower (unmarked_of_not_ascii hascii) hx

/-- no upper-case form of a letter or number is a mark -/
theorem unmarked_of_mem_upper {c x : Char} (hc : isAlphanumeric c = true) (hx : x ∈ upper c) : ¬ IsMark x.toNat := by
  unfold upper at hx
  split_ifs at hx with hascii
  · exact List.mem_singleton.1 hx ▸ (unmarked_of_isAlphanum hascii hc).2
  · exact unmarked_caseForm unmarked_upper (unmarked_of_not_ascii hascii) hx

end Text

/-! ## Identifiers -/

/-- a cased name that begins with a digit gets an underscore before it -/
def mended : List Char → List Char
  | c :: cs => if c.isDigit then '_' :: c :: cs else c :: cs
  | [] => []

theorem asIdentifier_cons (reserved : String → Bool) (c : Char) (cs : List Char) :
    asIdentifier reserved (c :: cs) =
      if reserved (String.ofList (mended (c :: cs))) then String.ofList (mended (c :: cs) ++ ['_'])
      else String.ofList (mended (c :: cs)) :=
  rfl

theorem mem_mended {cs : List Char} {x : Char} (h : x ∈ mended cs) : x = '_' ∨ x ∈ cs := by
  fun_cases mended cs <;> grind [mended]

theorem mended_ne_nil {cs : List Char} (h : cs ≠ []) : mended cs ≠ [] := by
  fun_cases mended cs <;> grind [mended]

/-- what an identifier consists of -/
theorem mem_asIdentifier {reserved : String → Bool} {cased : List Char} {x : Char}
    (h : x ∈ (asIdentifier reserved cased).toList) : x = '_' ∨ x ∈ "unnamed".toList ∨ x ∈ cased := by
  cases cased with
  | nil => exact Or.inr (Or.inl h)
  | cons c cs =>
    rw [asIdentifier_cons] at h
    have hmended : x = '_' ∨ x ∈ mended (c :: cs) := by
      split_ifs at h
      · simpa [or_comm] using h
      · exact Or.inr (by simpa using h)
    exact hmended.elim Or.inl fun h => (mem_mended h).imp_right Or.inr

theorem asIdentifier_ne_empty (reserved : String → Bool) (cased : List Char) : asIdentifier reserved cased ≠ "" := by
  cases cased with
  | nil => exact (by decide : "unnamed" ≠ "")
  | cons c cs =>
    have hmended := mended_ne_nil (List.cons_ne_nil c cs)
    rw [asIdentifier_cons]
    split_ifs
    · simp [← String.toList_inj]
    · simpa [← String.toList_inj] using hmended

/-- what a member name consists of -/
theorem mem_memberName {name : String} {x : Char} (h : x ∈ (memberName name).toList) :
    x = '_' ∨ x = 'ς' ∨ x ∈ "unnamed".toList ∨ ∃ c ∈ name.toList, Text.isAlphanumeric c = true ∧ x ∈ Text.lower c := by
  rcases mem_asIdentifier h with h | h | h
  · exact Or.inl h
  · exact Or.inr (Or.inr (Or.inl h))
  · exact (Text.mem_snake h).imp_right (Or.imp_right Or.inr)

/-- **A member name is a segment** of paths and of modules, whatever it was made from. -/
theorem memberName_isSegment (name : String) : IsSegment (memberName name) := by
  have hunnamed : ∀ x ∈ "unnamed".toList, ¬ Text.IsMark x.toNat := by simp [Text.IsMark]
  have hmarks : ∀ x ∈ (memberName name).toList, x = '_' ∨ ¬ Text.IsMark x.toNat := by
    intro x hx
    rcases mem_memberName hx with rfl | rfl | h | ⟨c, -, hc, h⟩
    · exact Or.inl rfl
    · exact Or.inr (by decide)
    · exact Or.inr (hunnamed x h)
    · exact Or.inr (Text.unmarked_of_mem_lower hc h)
  refine ⟨asIdentifier_ne_empty _ _, fun h => ?_, fun h => ?_⟩
  · exact (hmarks _ h).elim (by decide) (· (by decide))
  · exact (hmarks _ h).elim (by decide) (· (by decide))

end ClientPlan
