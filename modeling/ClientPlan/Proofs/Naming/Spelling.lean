/-
Spellings. A member name keeps nothing of a name but its words in lower case: names with the same words get the same
identifier, however they are capitalised and whatever stands between the words, and other names get other identifiers
(`memberName_eq_iff`). The marks by which reserved words and leading digits are mended confuse no two names.
-/
import ClientPlan.Proofs.Naming.Identifier

namespace ClientPlan

namespace Text

/-! ## Words -/

theorem words_nil : words [] = [] :=
  rfl

/-- no word goes across what separates words -/
theorem words_append_sep {sep : Char} (hsep : isAlphanumeric sep = false) (as bs : List Char) :
    words (as ++ sep :: bs) = words as ++ words bs := by
  have hsplit : (as ++ sep :: bs).splitOnP (fun c => !isAlphanumeric c) =
      as.splitOnP (fun c => !isAlphanumeric c) ++ bs.splitOnP (fun c => !isAlphanumeric c) :=
    List.splitOnP_append_cons _ _ (by simp [hsep])
  rw [words, words, words, cut_eq_splitOnP, hsplit, List.flatMap_append, ← cut_eq_splitOnP, ← cut_eq_splitOnP]

theorem words_cons_sep {sep : Char} (hsep : isAlphanumeric sep = false) (cs : List Char) :
    words (sep :: cs) = words cs :=
  words_append_sep hsep [] cs

theorem flatten_humps (mode : Mode) (word cs : List Char) (hne : cs ≠ []) :
    (humps mode word cs).flatten = word.reverse ++ cs := by
  fun_induction humps mode word cs with
  | case1 => exact absurd rfl hne
  | case2 mode word c => simp
  | case3 mode word c next rest hcut ih => simp [ih (List.cons_ne_nil _ _)]
  | case4 mode word c next rest hcut hcapital ih => simp [ih (List.cons_ne_nil _ _)]
  | case5 mode word c next rest hcut hcapital ih => simp [ih (List.cons_ne_nil _ _)]

/-- the words of a name are its letters and numbers -/
theorem flatten_words (name : List Char) : (words name).flatten = name.filter isAlphanumeric := by
  have hpiece : ∀ p : List Char, (humps .fresh [] p).flatten = p := fun p => by
    cases p with
    | nil => rfl
    | cons c cs => exact flatten_humps _ _ _ (List.cons_ne_nil c cs)
  have hpieces : ∀ ps : List (List Char), (ps.flatMap (humps .fresh [])).flatten = ps.flatten := fun ps => by
    induction ps with
    | nil => rfl
    | cons p ps ih => rw [List.flatMap_cons, List.flatten_append, hpiece, ih, List.flatten_cons]
  rw [words, hpieces, flatten_cut]
  simp only [Bool.not_not]

/-- where there are no capitals, a piece is one word -/
theorem humps_of_notUpper {cs : List Char} (hcs : ∀ c ∈ cs, isUpper c = false) (mode : Mode) (word : List Char)
    (hne : cs ≠ []) : humps mode word cs = [word.reverse ++ cs] := by
  fun_induction humps mode word cs with
  | case1 => exact absurd rfl hne
  | case2 mode word c => simp
  | case3 mode word c next rest hcut ih =>
    have hnext := hcs next (by simp)
    simp [hnext] at hcut
  | case4 mode word c next rest hcut hcapital ih =>
    have hc := hcs c List.mem_cons_self
    simp [hc] at hcapital
  | case5 mode word c next rest hcut hcapital ih =>
    rw [ih (fun d hd => hcs d (List.mem_cons_of_mem c hd)) (List.cons_ne_nil _ _)]
    simp

/-! ## Words are not empty -/

theorem caseForm_ne_nil {forms : List (Nat × List Nat)} (hforms : ∀ f ∈ forms, f.2 ≠ [])
    (shifts : List (Span × Int)) (c : Char) : caseForm forms shifts c ≠ [] := by
  unfold caseForm
  split
  · next form hform =>
    obtain ⟨_, _, heq, -⟩ := List.lookup_eq_some_iff.1 hform
    have hne : form ≠ [] := hforms (c.toNat, form) (by simp [heq])
    simpa using hne
  · split <;> exact List.cons_ne_nil _ _

theorem lower_ne_nil (c : Char) : lower c ≠ [] := by
  unfold lower
  split_ifs
  · exact List.cons_ne_nil _ _
  · exact caseForm_ne_nil (by decide) _ _

theorem upper_ne_nil (c : Char) : upper c ≠ [] := by
  unfold upper
  split_ifs
  · exact List.cons_ne_nil _ _
  · exact caseForm_ne_nil (by decide +kernel) _ _

/-- no word is empty: where the last capital of a run begins a word, another one ends before it -/
theorem humps_ne_nil (mode : Mode) (word cs : List Char) (hmode : mode = .upper → word ≠ []) :
    ∀ w ∈ humps mode word cs, w ≠ [] := by
  fun_induction humps mode word cs with
  | case1 => simp
  | case2 mode word c => simp
  | case3 mode word c next rest hcut ih =>
    simpa using ih (by simp)
  | case4 mode word c next rest hcut hcapital ih =>
    have hupper : mode = .upper := by simp_all
    simpa using ⟨hmode hupper, ih (by simp)⟩
  | case5 mode word c next rest hcut hcapital ih =>
    exact ih fun _ => List.cons_ne_nil _ _

theorem ne_nil_of_mem_words {name w : List Char} (h : w ∈ words name) : w ≠ [] := by
  obtain ⟨p, -, hw⟩ := List.mem_flatMap.1 h
  exact humps_ne_nil .fresh [] p (by simp) w hw

theorem lowerWord_ne_nil {w : List Char} (h : w ≠ []) : lowerWord w ≠ [] := by
  fun_cases lowerWord w with
  | case1 => exact h
  | case2 => exact List.cons_ne_nil _ _
  | case3 c rest => simp [lower_ne_nil]

end Text

/-! ## Identifiers -/

/-- a cased name that is no word of the language as it stands, but is mended -/
def finished (reserved : String → Bool) (cased : List Char) : List Char :=
  mended cased ++ if reserved (String.ofList (mended cased)) then ['_'] else []

theorem asIdentifier_of_ne_nil (reserved : String → Bool) {cased : List Char} (h : cased ≠ []) :
    asIdentifier reserved cased = String.ofList (finished reserved cased) := by
  obtain ⟨c, cs, rfl⟩ := List.exists_cons_of_ne_nil h
  rw [asIdentifier_cons, finished]
  split_ifs
  · rfl
  · rw [List.append_nil]

theorem mended_eq (c : Char) (cs : List Char) :
    mended (c :: cs) = (if c.isDigit then ['_'] else []) ++ c :: cs := by
  rw [mended]
  split_ifs <;> rfl

theorem getLast?_mended (cased : List Char) : (mended cased).getLast? = cased.getLast? := by
  cases cased with
  | nil => rfl
  | cons c cs => rw [mended_eq, List.getLast?_append_cons]

theorem underscore_separates : Text.isAlphanumeric '_' = false := by
  decide

theorem words_mended (cased : List Char) : Text.words (mended cased) = Text.words cased := by
  cases cased with
  | nil => rfl
  | cons c cs =>
    rw [mended_eq]
    split_ifs
    · exact Text.words_cons_sep underscore_separates (c :: cs)
    · rfl

/-- the underscores that mend a name are no part of its words -/
theorem words_finished (reserved : String → Bool) (cased : List Char) :
    Text.words (finished reserved cased) = Text.words cased := by
  rw [finished]
  split_ifs
  · rw [Text.words_append_sep underscore_separates, Text.words_nil, List.append_nil, words_mended]
  · rw [List.append_nil, words_mended]

/-- an underscore at the beginning is there because of a digit -/
theorem mended_injective {c d : Char} {cs ds : List Char} (hc : c ≠ '_') (hd : d ≠ '_')
    (h : mended (c :: cs) = mended (d :: ds)) : c :: cs = d :: ds := by
  rw [mended_eq, mended_eq] at h
  split_ifs at h
  · simpa using h
  · exact absurd (List.head_eq_of_cons_eq h).symm hd
  · exact absurd (List.head_eq_of_cons_eq h) hc
  · simpa using h

/-- an underscore at the end is there because of a reserved word -/
theorem finished_injective {reserved : String → Bool} {as bs : List Char} (has : as.getLast? ≠ some '_')
    (hbs : bs.getLast? ≠ some '_') (h : finished reserved as = finished reserved bs) : mended as = mended bs := by
  unfold finished at h
  split_ifs at h
  · exact List.append_cancel_right h
  · rw [List.append_nil] at h
    rw [← getLast?_mended, ← h] at hbs
    exact absurd List.getLast?_concat hbs
  · rw [List.append_nil] at h
    rw [← getLast?_mended, h] at has
    exact absurd List.getLast?_concat has
  · simpa using h

/-- what a member name keeps of a name: its words in lower case. A name without words has one that stands for it. -/
def spelling (name : String) : List (List Char) :=
  let lowered := (Text.words name.toList).map Text.lowerWord
  if lowered = [] then ["unnamed".toList] else lowered

theorem joinable_spelling (name : String) : Text.Joinable '_' (spelling name) := by
  unfold spelling
  dsimp only
  split_ifs with hnone
  · exact ⟨List.cons_ne_nil _ _, by decide⟩
  · refine ⟨hnone, fun w hw => ?_⟩
    obtain ⟨v, hv, rfl⟩ := List.mem_map.1 hw
    refine ⟨Text.lowerWord_ne_nil (Text.ne_nil_of_mem_words hv), fun hscore => ?_⟩
    rcases Text.mem_lowerWord hscore with hsigma | ⟨c, hc, hform⟩
    · exact absurd hsigma (by decide)
    · exact Text.unmarked_of_mem_lower (Text.mem_of_mem_words v hv c hc).2 hform (by decide)

/-- a member name is the words with underscores between them, mended -/
theorem memberName_eq (name : String) :
    memberName name = String.ofList (finished reservedWords.contains (['_'].intercalate (spelling name))) := by
  have hne : ['_'].intercalate (spelling name) ≠ [] := by
    obtain ⟨c, cs, hcs, -⟩ := (joinable_spelling name).exists_cons
    exact hcs ▸ List.cons_ne_nil c cs
  rw [← asIdentifier_of_ne_nil _ hne, memberName, Text.snake, spelling]
  split_ifs with hnone
  · rw [hnone]
    decide
  · rfl

/-- **Member names tell spellings apart, and nothing else.** -/
theorem memberName_eq_iff (a b : String) : memberName a = memberName b ↔ spelling a = spelling b := by
  constructor
  · intro h
    rw [memberName_eq, memberName_eq] at h
    have ha := joinable_spelling a
    have hb := joinable_spelling b
    have hmended := finished_injective ha.getLast?_ne hb.getLast?_ne (String.ofList_injective h)
    obtain ⟨c, cs, hcs, hc⟩ := ha.exists_cons
    obtain ⟨d, ds, hds, hd⟩ := hb.exists_cons
    rw [hcs, hds] at hmended
    refine ha.eq_of_intercalate hb ?_
    rw [hcs, hds]
    exact mended_injective hc hd hmended
  · intro h
    rw [memberName_eq, memberName_eq, h]

/-- so member names are apart exactly if the spellings are -/
theorem nodup_memberNames_iff (names : List String) :
    (names.map memberName).Nodup ↔ (names.map spelling).Nodup := by
  rw [List.Nodup, List.Nodup, List.pairwise_map, List.pairwise_map]
  exact List.Pairwise.iff fun a b => not_congr (memberName_eq_iff a b)

end ClientPlan
