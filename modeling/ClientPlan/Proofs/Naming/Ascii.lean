/-
Names in ASCII. Each character has one form in either case there, so that a word keeps its length when it is written in
lower case or capitalised (`lowerWord_ascii`, `capitalWord_ascii`), and consists of letters and digits of ASCII again.
-/
import ClientPlan.Proofs.Naming.Spelling

namespace ClientPlan

namespace Text

/-- a text of ASCII characters only -/
def Ascii (cs : List Char) : Prop :=
  ∀ c ∈ cs, c.toNat < 0x80

instance (cs : List Char) : Decidable (Ascii cs) :=
  List.decidableBAll (fun c : Char => c.toNat < 0x80) cs

variable {c : Char} {w : List Char}

/-! ## Characters -/

theorem isAlphanumeric_ascii (h : c.toNat < 0x80) : isAlphanumeric c = c.isAlphanum :=
  if_pos h

theorem isLower_ascii (h : c.toNat < 0x80) : isLower c = c.isLower :=
  if_pos h

theorem isUpper_ascii (h : c.toNat < 0x80) : isUpper c = c.isUpper :=
  if_pos h

theorem lower_ascii (h : c.toNat < 0x80) : lower c = [c.toLower] :=
  if_pos h

theorem upper_ascii (h : c.toNat < 0x80) : upper c = [c.toUpper] :=
  if_pos h

/-- letters and digits of ASCII -/
def IsSimple (c : Char) : Prop :=
  c.toNat < 0x80 ∧ c.isAlphanum = true

/-- small letters and digits of ASCII -/
def IsLow (c : Char) : Prop :=
  IsSimple c ∧ c.isUpper = false

instance (c : Char) : Decidable (IsSimple c) :=
  inferInstanceAs (Decidable (_ ∧ _))

instance (c : Char) : Decidable (IsLow c) :=
  inferInstanceAs (Decidable (_ ∧ _))

theorem isLow_toLower (h : IsSimple c) : IsLow c.toLower :=
  ascii_check (p := fun c => IsSimple c → IsLow c.toLower) (by decide) h.1 h

theorem isSimple_toUpper (h : IsSimple c) : IsSimple c.toUpper ∧ c.toUpper.isLower = false :=
  ascii_check (p := fun c => IsSimple c → IsSimple c.toUpper ∧ c.toUpper.isLower = false) (by decide) h.1 h

theorem isLower_of_isUpper (h : c.toNat < 0x80) (hc : isUpper c = true) : isLower c = false := by
  rw [isUpper_ascii h] at hc
  rw [isLower_ascii h]
  exact ascii_check (p := fun c => c.isUpper = true → c.isLower = false) (by decide) h hc

theorem toLower_eq_iff (h : c.toNat < 0x80) : c.toLower = c ↔ c.isUpper = false :=
  ascii_check (p := fun c => c.toLower = c ↔ c.isUpper = false) (by decide) h

theorem toUpper_eq_iff (h : c.toNat < 0x80) : c.toUpper = c ↔ c.isLower = false :=
  ascii_check (p := fun c => c.toUpper = c ↔ c.isLower = false) (by decide) h

/-! ## Words -/

theorem lowerWord_ascii (h : Ascii w) : lowerWord w = w.map Char.toLower := by
  fun_induction lowerWord w with
  | case1 => rfl
  | case2 => exact absurd (h 'Σ' List.mem_cons_self) (by decide)
  | case3 c rest hsigma ih =>
    rw [ih fun d hd => h d (List.mem_cons_of_mem c hd), lower_ascii (h c List.mem_cons_self)]
    rfl

theorem capitalWord_ascii {rest : List Char} (h : Ascii (c :: rest)) :
    capitalWord (c :: rest) = c.toUpper :: rest.map Char.toLower := by
  rw [capitalWord, upper_ascii (h c List.mem_cons_self), lowerWord_ascii fun d hd => h d (List.mem_cons_of_mem c hd)]
  rfl

theorem words_of_isSimple (h : ∀ c ∈ w, IsSimple c) : words w = humps .fresh [] w := by
  have hjoined : ∀ c ∈ w, (!isAlphanumeric c) = false := fun c hc => by
    rw [isAlphanumeric_ascii (h c hc).1, (h c hc).2, Bool.not_true]
  rw [words, cut_of_free hjoined, List.flatMap_singleton]

theorem isSimple_of_mem_words {name : List Char} (hname : Ascii name) (hw : w ∈ words name) : ∀ c ∈ w, IsSimple c := by
  intro c hc
  obtain ⟨hmem, halpha⟩ := mem_of_mem_words w hw c hc
  have hascii := hname c hmem
  exact ⟨hascii, by rwa [isAlphanumeric_ascii hascii] at halpha⟩

theorem isLow_of_mem_lowerWord (h : ∀ c ∈ w, IsSimple c) : ∀ c ∈ lowerWord w, IsLow c := by
  rw [lowerWord_ascii fun c hc => (h c hc).1]
  intro c hc
  obtain ⟨d, hd, rfl⟩ := List.mem_map.1 hc
  exact isLow_toLower (h d hd)

theorem isSimple_of_mem_capitalWord (h : ∀ c ∈ w, IsSimple c) : ∀ c ∈ capitalWord w, IsSimple c := by
  cases w with
  | nil => simp [capitalWord]
  | cons d rest =>
    rw [capitalWord_ascii fun c hc => (h c hc).1]
    intro c hc
    rcases List.mem_cons.1 hc with rfl | hc
    · exact (isSimple_toUpper (h d List.mem_cons_self)).1
    · obtain ⟨e, he, rfl⟩ := List.mem_map.1 hc
      exact (isLow_toLower (h e (List.mem_cons_of_mem d he))).1

theorem isSimple_of_mem_pascal {name : List Char} (hname : Ascii name) : ∀ c ∈ pascal name, IsSimple c := by
  intro c hc
  obtain ⟨w, hw, hc⟩ := List.mem_flatMap.1 hc
  exact isSimple_of_mem_capitalWord (isSimple_of_mem_words hname hw) c hc

end Text

/-- a spelling in ASCII is of small letters and digits -/
theorem isLow_of_mem_spelling {name : String} (hname : Text.Ascii name.toList) :
    ∀ w ∈ spelling name, ∀ c ∈ w, Text.IsLow c := by
  unfold spelling
  dsimp only
  split_ifs with hnone
  · simp [Text.IsLow, Text.IsSimple]
  · intro w hw
    obtain ⟨v, hv, rfl⟩ := List.mem_map.1 hw
    exact Text.isLow_of_mem_lowerWord (Text.isSimple_of_mem_words hname hv)

end ClientPlan
