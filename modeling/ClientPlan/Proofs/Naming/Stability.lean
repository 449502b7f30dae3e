/-
Names that are made again. Only the words of a name matter, so that it can be cleaned first (`words_cleaned`); and the
words of a member name are the words it was made from, in lower case. In ASCII, lower case is lower case again, and a
member name is its own member name (`memberName_stable`): what it was mended with goes, and comes back.
-/
import ClientPlan.Proofs.Naming.Ascii

namespace ClientPlan

namespace Text

/-! ## Cleaning -/

/-- what has been kept of a name so far, and whether a separator has come since -/
structure Cleaning where
  kept : List Char
  gap : Bool

/-- a letter or number is kept, with an underscore before it if separators stand between it and the one before -/
def Cleaning.step (s : Cleaning) (c : Char) : Cleaning :=
  if isAlphanumeric c then ⟨(if s.gap && !s.kept.isEmpty then s.kept ++ ['_'] else s.kept) ++ [c], false⟩
  else { s with gap := true }

/-- a name with one underscore for each run of separators between letters and numbers, and no other separators -/
def cleaned (name : List Char) : List Char :=
  (name.foldl Cleaning.step ⟨[], false⟩).kept

/-- the separators that have come are as good as an underscore -/
def Cleaning.text (s : Cleaning) : List Char :=
  s.kept ++ if s.gap then ['_'] else []

theorem Cleaning.words_text (s : Cleaning) : words s.text = words s.kept := by
  rw [Cleaning.text]
  split_ifs
  · rw [words_append_sep underscore_separates, words_nil, List.append_nil]
  · rw [List.append_nil]

/-- one character more: no word changes -/
theorem Cleaning.words_step (s : Cleaning) (c : Char) (rest : List Char) :
    words ((s.step c).text ++ rest) = words (s.text ++ c :: rest) := by
  by_cases hc : isAlphanumeric c = true
  · obtain ⟨kept, gap⟩ := s
    cases gap with
    | false => simp [Cleaning.step, Cleaning.text, hc]
    | true =>
      cases kept with
      | nil => simp [Cleaning.step, Cleaning.text, hc, words_cons_sep underscore_separates]
      | cons d ds => simp [Cleaning.step, Cleaning.text, hc]
  · have hsep : isAlphanumeric c = false := by simpa using hc
    have hstep : (s.step c).text = s.kept ++ ['_'] := by simp [Cleaning.step, Cleaning.text, hsep]
    rw [hstep, List.append_assoc, List.singleton_append, words_append_sep underscore_separates,
      words_append_sep hsep, s.words_text]

/-- **A clean name has the words of the name**, so its identifiers are those of the name. -/
theorem words_cleaned (name : List Char) : words (cleaned name) = words name := by
  have hrun : ∀ s : Cleaning, words (name.foldl Cleaning.step s).kept = words (s.text ++ name) := by
    induction name with
    | nil =>
      intro s
      rw [List.foldl_nil, List.append_nil, s.words_text]
    | cons c cs ih =>
      intro s
      rw [List.foldl_cons, ih, s.words_step]
  exact hrun ⟨[], false⟩

/-! ## Words in lower case -/

variable {w : List Char}

theorem lowerWord_of_isLow (h : ∀ c ∈ w, IsLow c) : lowerWord w = w := by
  rw [lowerWord_ascii fun c hc => (h c hc).1.1]
  exact (List.map_congr_left fun c hc => (toLower_eq_iff (h c hc).1.1).2 (h c hc).2).trans (List.map_id w)

/-- a text of small letters and digits is one word -/
theorem words_of_isLow (h : ∀ c ∈ w, IsLow c) (hne : w ≠ []) : words w = [w] := by
  have hupper : ∀ c ∈ w, isUpper c = false := fun c hc => (isUpper_ascii (h c hc).1.1).trans (h c hc).2
  rw [words_of_isSimple fun c hc => (h c hc).1, humps_of_notUpper hupper .fresh [] hne]
  rfl

/-- what is joined from words in lower case has these words -/
theorem words_intercalate {ws : List (List Char)} (h : ∀ w ∈ ws, w ≠ [] ∧ ∀ c ∈ w, IsLow c) :
    words (['_'].intercalate ws) = ws := by
  induction ws with
  | nil => rfl
  | cons w ws ih =>
    obtain ⟨hne, hlow⟩ := h w List.mem_cons_self
    have hrest := ih fun v hv => h v (List.mem_cons_of_mem w hv)
    cases ws with
    | nil => simpa using words_of_isLow hlow hne
    | cons v ws =>
      rw [List.intercalate_cons_of_ne_nil (List.cons_ne_nil v ws), List.append_assoc, List.singleton_append,
        words_append_sep underscore_separates, words_of_isLow hlow hne, hrest]
      rfl

end Text

/-! ## Identifiers -/

/-- **Cleaning a name first changes no identifier.** -/
theorem identifiers_cleaned (name : String) :
    typeName (String.ofList (Text.cleaned name.toList)) = typeName name ∧
      memberName (String.ofList (Text.cleaned name.toList)) = memberName name := by
  constructor
  · rw [typeName, typeName, String.toList_ofList, Text.pascal, Text.pascal, Text.words_cleaned]
  · rw [memberName, memberName, String.toList_ofList, Text.snake, Text.snake, Text.words_cleaned]

/-- **A member name is its own member name**, if it was made from ASCII. -/
theorem memberName_stable (name : String) (hname : Text.Ascii name.toList) :
    memberName (memberName name) = memberName name := by
  have hjoinable := joinable_spelling name
  have hlow := isLow_of_mem_spelling hname
  have hwords : Text.words (memberName name).toList = spelling name := by
    rw [memberName_eq, String.toList_ofList, words_finished]
    exact Text.words_intercalate fun w hw => ⟨(hjoinable.2 w hw).1, hlow w hw⟩
  have hlowered : (spelling name).map Text.lowerWord = spelling name :=
    (List.map_congr_left fun w hw => Text.lowerWord_of_isLow (hlow w hw)).trans (List.map_id _)
  refine (memberName_eq_iff _ _).2 ?_
  rw [spelling, hwords, hlowered]
  exact if_neg hjoinable.1

/-- the underscore for a reserved word goes, and comes back -/
theorem memberName_stable_reserved :
    Text.Ascii "From?".toList ∧ memberName "From?" = "from_" ∧ memberName (memberName "From?") = memberName "From?" :=
  ⟨by decide, by decide, memberName_stable "From?" (by decide)⟩

end ClientPlan
