/-
Type names of type names. A type name need not be its own: `xY` becomes `XY`, which becomes `Xy`. It is exactly if its
capitalised words are those of the name that they make (`typeName_typeName_iff`); and with a number after it, it still
is, unless an underscore stands between them because the word is reserved (`typeName_numbered_iff`).
-/
import ClientPlan.Proofs.Naming.Spelling

namespace ClientPlan

namespace Text

/-! ## Digits -/

/-- a digit is a character of every word, and has one form -/
structure Plain (c : Char) : Prop where
  alphanumeric : isAlphanumeric c = true
  notLower : isLower c = false
  notUpper : isUpper c = false
  lower : lower c = [c]
  upper : upper c = [c]
  notSigma : c ≠ 'Σ'

theorem toNat_lt_of_isDigit {c : Char} (h : c.isDigit = true) : c.toNat < 0x80 := by
  simp only [Char.isDigit, Bool.and_eq_true, decide_eq_true_eq, ge_iff_le, UInt32.le_iff_toNat_le] at h
  exact Nat.lt_of_le_of_lt h.2 (by decide)

theorem plain_of_isDigit {c : Char} (h : c.isDigit = true) : Plain c := by
  obtain ⟨halpha, hlower, hupper, hlow, hup, hsigma⟩ := ascii_check
    (p := fun c => c.isDigit = true → isAlphanumeric c = true ∧ isLower c = false ∧ isUpper c = false ∧
      lower c = [c] ∧ upper c = [c] ∧ c ≠ 'Σ') (by decide) (toNat_lt_of_isDigit h) h
  exact ⟨halpha, hlower, hupper, hlow, hup, hsigma⟩

/-! ## Words of a name with digits after it -/

section Digits

variable {ds : List Char} (hds : ∀ d ∈ ds, Plain d)

include hds

/-- digits after a piece go to its last word -/
theorem humps_append (mode : Mode) (word cs : List Char) (hcs : cs ≠ []) :
    ∃ ws w, humps mode word cs = ws ++ [w] ∧ humps mode word (cs ++ ds) = ws ++ [w ++ ds] ∧
      w.getLast? = cs.getLast? := by
  fun_induction humps mode word cs with
  | case1 => exact absurd rfl hcs
  | case2 mode word c =>
    refine ⟨[], (c :: word).reverse, rfl, ?_, by simp⟩
    cases ds with
    | nil => simp [humps]
    | cons d ds =>
      have hd := hds d List.mem_cons_self
      rw [List.singleton_append, humps, hd.notUpper, hd.notLower, Bool.and_false, if_neg Bool.false_ne_true,
        Bool.and_false, if_neg Bool.false_ne_true]
      exact humps_of_notUpper (fun c hc => (hds c hc).notUpper) _ _ (List.cons_ne_nil d ds)
  | case3 mode word c next rest hcut ih =>
    obtain ⟨ws, w, hws, happend, hlast⟩ := ih (List.cons_ne_nil _ _)
    refine ⟨(c :: word).reverse :: ws, w, by rw [hws]; rfl, ?_, by rw [hlast, List.getLast?_cons_cons]⟩
    rw [List.cons_append, List.cons_append, humps, if_pos hcut, ← List.cons_append, happend]
    rfl
  | case4 mode word c next rest hcut hcapital ih =>
    obtain ⟨ws, w, hws, happend, hlast⟩ := ih (List.cons_ne_nil _ _)
    refine ⟨word.reverse :: ws, w, by rw [hws]; rfl, ?_, by rw [hlast, List.getLast?_cons_cons]⟩
    rw [List.cons_append, List.cons_append, humps, if_neg hcut, if_pos hcapital, ← List.cons_append, happend]
    rfl
  | case5 mode word c next rest hcut hcapital ih =>
    obtain ⟨ws, w, hws, happend, hlast⟩ := ih (List.cons_ne_nil _ _)
    refine ⟨ws, w, hws, ?_, by rw [hlast, List.getLast?_cons_cons]⟩
    rw [List.cons_append, List.cons_append, humps, if_neg hcut, if_neg hcapital, ← List.cons_append, happend]

end Digits

/-- what separates nothing goes to the last piece, with which the text ends -/
theorem cut_append {α : Type} {sep : α → Bool} {ds : List α} (hds : ∀ d ∈ ds, sep d = false) (cs : List α) :
    ∃ ps p, cut sep cs = ps ++ [p] ∧ cut sep (cs ++ ds) = ps ++ [p ++ ds] ∧
      ∃ front, cs = front ++ p ∧ (ps = [] → front = []) := by
  induction cs with
  | nil => exact ⟨[], [], rfl, cut_of_free hds, [], rfl, fun _ => rfl⟩
  | cons c cs ih =>
    obtain ⟨ps, p, hcut, happend, front, hfront, hsingle⟩ := ih
    rw [List.cons_append, cut, cut, hcut, happend]
    by_cases hc : sep c = true
    · exact ⟨[] :: ps, p, by simp [hc], by simp [hc], c :: front, by simp [hfront], by simp⟩
    · cases ps with
      | nil =>
        obtain rfl : front = [] := hsingle rfl
        exact ⟨[], c :: p, by simp [hc], by simp [hc], [], by simp [hfront], fun _ => rfl⟩
      | cons q ps => exact ⟨(c :: q) :: ps, p, by simp [hc], by simp [hc], c :: front, by simp [hfront], by simp⟩

/-- digits after a name go to its last word, with which the name ends, or else are a word -/
theorem words_append {ds : List Char} (hds : ∀ d ∈ ds, Plain d) (hne : ds ≠ []) (name : List Char) :
    words (name ++ ds) = words name ++ [ds] ∨
      ∃ ws w, words name = ws ++ [w] ∧ words (name ++ ds) = ws ++ [w ++ ds] ∧ w.getLast? = name.getLast? := by
  have hjoined : ∀ d ∈ ds, (!isAlphanumeric d) = false := fun d hd => by simp [(hds d hd).alphanumeric]
  obtain ⟨ps, p, hcut, happend, front, hfront, -⟩ := cut_append hjoined name
  by_cases hp : p = []
  · subst hp
    left
    rw [words, words, hcut, happend, List.flatMap_append, List.flatMap_append, List.append_assoc]
    simp [humps, humps_of_notUpper (fun c hc => (hds c hc).notUpper) .fresh [] hne]
  · right
    obtain ⟨ws, w, hws, hdigits, hlast⟩ := humps_append hds .fresh [] p hp
    refine ⟨ps.flatMap (humps .fresh []) ++ ws, w, ?_, ?_, ?_⟩
    · rw [words, hcut, List.flatMap_append, List.flatMap_singleton, hws, List.append_assoc]
    · rw [words, happend, List.flatMap_append, List.flatMap_singleton, hdigits, List.append_assoc]
    · rw [hlast, hfront, List.getLast?_append_of_ne_nil _ hp]

/-! ## Capitalised words -/

theorem lowerWord_cons {c : Char} {rest : List Char} (h : c :: rest ≠ ['Σ']) :
    lowerWord (c :: rest) = lower c ++ lowerWord rest :=
  lowerWord.eq_3 c rest fun hc hrest => h (by rw [hc, hrest])

theorem lowerWord_append {ds : List Char} (hds : ∀ d ∈ ds, Plain d) {w : List Char} (hw : w.getLast? ≠ some 'Σ') :
    lowerWord (w ++ ds) = lowerWord w ++ ds := by
  induction w with
  | nil =>
    induction ds with
    | nil => rfl
    | cons d ds ih =>
      have hd := hds d List.mem_cons_self
      have hsigma : d :: ds ≠ ['Σ'] := fun heq => hd.notSigma (List.head_eq_of_cons_eq heq)
      rw [List.nil_append] at ih ⊢
      rw [lowerWord_cons hsigma, hd.lower, ih fun d hd => hds d (List.mem_cons_of_mem _ hd)]
      rfl
  | cons c w ih =>
    have hsigma : c :: w ≠ ['Σ'] := fun heq => hw (by rw [heq]; rfl)
    have hwhole : c :: (w ++ ds) ≠ ['Σ'] := by
      intro heq
      obtain ⟨hc, hnil⟩ := List.cons_eq_cons.1 heq
      exact hsigma (by rw [hc, (List.append_eq_nil_iff.1 hnil).1])
    have hrest : w.getLast? ≠ some 'Σ' := by
      cases w with
      | nil => simp
      | cons d w => rwa [List.getLast?_cons_cons] at hw
    rw [List.cons_append, lowerWord_cons hwhole, lowerWord_cons hsigma, ih hrest, List.append_assoc]

theorem getLast?_lowerWord {w : List Char} (hw : w.getLast? = some 'Σ') : (lowerWord w).getLast? = some 'ς' := by
  fun_induction lowerWord w with
  | case1 => simp at hw
  | case2 => rfl
  | case3 c rest hsigma ih =>
    cases rest with
    | nil => exact absurd (by simpa using hw) fun hc => hsigma hc rfl
    | cons d rest => rw [List.getLast?_append, ih (by rwa [List.getLast?_cons_cons] at hw), Option.some_or]

/-- digits after a word stay there, unless they take the last place from a capital sigma -/
theorem capitalWord_append {ds w : List Char} (hds : ∀ d ∈ ds, Plain d) (hne : w ≠ [])
    (hw : (capitalWord w).getLast? = w.getLast?) : capitalWord (w ++ ds) = capitalWord w ++ ds := by
  obtain ⟨c, rest, rfl⟩ := List.exists_cons_of_ne_nil hne
  have hrest : rest.getLast? ≠ some 'Σ' := by
    intro hsigma
    obtain ⟨d, ds, rfl⟩ := List.exists_cons_of_ne_nil (fun hnil => by simp [hnil] at hsigma : rest ≠ [])
    rw [capitalWord, List.getLast?_append, getLast?_lowerWord hsigma, List.getLast?_cons_cons, hsigma,
      Option.some_or] at hw
    exact absurd hw (by decide)
  rw [List.cons_append, capitalWord, capitalWord, lowerWord_append hds hrest, List.append_assoc]

theorem capitalWord_ne_nil {w : List Char} (h : w ≠ []) : capitalWord w ≠ [] := by
  obtain ⟨c, rest, rfl⟩ := List.exists_cons_of_ne_nil h
  simp [capitalWord, upper_ne_nil]

theorem capitalWord_plain {ds : List Char} (hds : ∀ d ∈ ds, Plain d) : capitalWord ds = ds := by
  cases ds with
  | nil => rfl
  | cons d ds =>
    have hrest := lowerWord_append (fun d hd => hds d (List.mem_cons_of_mem _ hd)) (w := []) (by simp)
    rw [List.nil_append] at hrest
    rw [capitalWord, (hds d List.mem_cons_self).upper, hrest]
    rfl

/-- **Digits after capitalised words stay there**, if the words are their own. -/
theorem pascal_append {ds name : List Char} (hds : ∀ d ∈ ds, Plain d) (hname : pascal name = name) :
    pascal (name ++ ds) = name ++ ds := by
  by_cases hne : ds = []
  · rw [hne, List.append_nil, hname]
  · rcases words_append hds hne name with hwords | ⟨ws, w, hwords, hdigits, hlast⟩
    · rw [pascal, hwords, List.flatMap_append, List.flatMap_singleton, capitalWord_plain hds]
      exact congrArg (· ++ ds) hname
    · have hword : w ≠ [] := ne_nil_of_mem_words (hwords ▸ List.mem_append_right _ (List.mem_singleton_self w))
      have hparts : ws.flatMap capitalWord ++ capitalWord w = name := by
        rw [pascal, hwords, List.flatMap_append, List.flatMap_singleton] at hname
        exact hname
      have hcapital : (capitalWord w).getLast? = w.getLast? := by
        rw [hlast, ← hparts, List.getLast?_append_of_ne_nil _ (capitalWord_ne_nil hword)]
      rw [pascal, hdigits, List.flatMap_append, List.flatMap_singleton, capitalWord_append hds hword hcapital,
        ← List.append_assoc, hparts]

theorem pascal_plain {ds : List Char} (hds : ∀ d ∈ ds, Plain d) : pascal ds = ds := by
  have happend := @pascal_append ds [] hds rfl
  rwa [List.nil_append] at happend

/-- what separates words can be left out between capitalised ones -/
theorem pascal_append_sep {sep : Char} (hsep : isAlphanumeric sep = false) (as bs : List Char) :
    pascal (as ++ sep :: bs) = pascal as ++ pascal bs := by
  rw [pascal, words_append_sep hsep, List.flatMap_append]
  rfl

/-- a name without words is one without letters and numbers -/
theorem pascal_ne_nil_iff (name : List Char) : pascal name ≠ [] ↔ ∃ c ∈ name, isAlphanumeric c = true := by
  have hwords : pascal name = [] ↔ (words name).flatten = [] := by
    rw [pascal, List.flatMap_eq_nil_iff, List.flatten_eq_nil_iff]
    exact forall₂_congr fun w hw =>
      iff_of_false (capitalWord_ne_nil (ne_nil_of_mem_words hw)) (ne_nil_of_mem_words hw)
  rw [ne_eq, hwords, flatten_words, List.filter_eq_nil_iff]
  simp

/-- capitalised words have no underscore -/
theorem underscore_notMem_pascal (name : List Char) : '_' ∉ pascal name := by
  intro hmem
  obtain ⟨w, hw, hscore⟩ := List.mem_flatMap.1 hmem
  have hforms : ∀ c ∈ w, isAlphanumeric c = true := fun c hc => (mem_of_mem_words w hw c hc).2
  cases w with
  | nil => cases hscore
  | cons c rest =>
    rcases List.mem_append.1 hscore with hupper | hlower
    · exact unmarked_of_mem_upper (hforms c List.mem_cons_self) hupper (by decide)
    · rcases mem_lowerWord hlower with hsigma | ⟨d, hd, hlower⟩
      · exact absurd hsigma (by decide)
      · exact unmarked_of_mem_lower (hforms d (List.mem_cons_of_mem c hd)) hlower (by decide)

/-! ## Lower case of a text -/

theorem mem_lowerAfter {before cs : List Char} {c x : Char} (hc : c ∈ cs) (hsigma : c ≠ 'Σ') (hx : x ∈ lower c) :
    x ∈ lowerAfter before cs := by
  induction cs generalizing before with
  | nil => cases hc
  | cons d cs ih =>
    rw [lowerAfter]
    rcases List.mem_cons.1 hc with rfl | hc
    · rw [if_neg hsigma]
      exact List.mem_append_left _ hx
    · exact List.mem_append_right _ (ih hc)

end Text

/-! ## Type names -/

/-- the words that types are not named by, in whichever case -/
def isReservedType (s : String) : Bool :=
  reservedWords.contains (Text.lowerText s)

/-- no reserved word has a digit -/
theorem isReservedType_of_digit {cs : List Char} {d : Char} (hd : d.isDigit = true) (hmem : d ∈ cs) :
    isReservedType (String.ofList cs) = false := by
  have hwords : ∀ w ∈ reservedWords, w.toList.all (!·.isDigit) = true := by decide
  have hplain := Text.plain_of_isDigit hd
  have hlowered : d ∈ (Text.lowerText (String.ofList cs)).toList := by
    rw [Text.lowerText, String.toList_ofList, String.toList_ofList]
    exact Text.mem_lowerAfter hmem hplain.notSigma (hplain.lower ▸ List.mem_singleton_self d)
  by_contra hreserved
  rw [Bool.not_eq_false, isReservedType, List.contains_iff_mem] at hreserved
  have hfree := List.all_eq_true.1 (hwords _ hreserved) d hlowered
  rw [hd] at hfree
  exact absurd hfree (by decide)

theorem typeName_of_nil {name : String} (h : Text.pascal name.toList = []) : typeName name = "unnamed" := by
  rw [typeName, h]
  rfl

theorem typeName_of_ne_nil {name : String} (h : Text.pascal name.toList ≠ []) :
    typeName name = String.ofList (finished isReservedType (Text.pascal name.toList)) :=
  asIdentifier_of_ne_nil isReservedType h

theorem typeName_unnamed : typeName "unnamed" ≠ "unnamed" := by
  decide

theorem pascal_mended (cased : List Char) : Text.pascal (mended cased) = Text.pascal cased :=
  congrArg (List.flatMap Text.capitalWord) (words_mended cased)

/-- the underscores that mend a name are lost -/
theorem pascal_finished (reserved : String → Bool) (cased : List Char) :
    Text.pascal (finished reserved cased) = Text.pascal cased :=
  congrArg (List.flatMap Text.capitalWord) (words_finished reserved cased)

/-- capitalised words are told apart by their identifiers -/
theorem finished_pascal_injective {a b : List Char} (ha : Text.pascal a ≠ []) (hb : Text.pascal b ≠ [])
    (h : finished isReservedType (Text.pascal a) = finished isReservedType (Text.pascal b)) :
    Text.pascal a = Text.pascal b := by
  have hlast : ∀ name, (Text.pascal name).getLast? ≠ some '_' := fun name hlast =>
    Text.underscore_notMem_pascal name (List.mem_of_getLast? hlast)
  have hmended := finished_injective (hlast a) (hlast b) h
  obtain ⟨c, cs, hcs⟩ := List.exists_cons_of_ne_nil ha
  obtain ⟨d, ds, hds⟩ := List.exists_cons_of_ne_nil hb
  have hc : c ≠ '_' := fun heq => Text.underscore_notMem_pascal a (by simp [hcs, heq])
  have hd : d ≠ '_' := fun heq => Text.underscore_notMem_pascal b (by simp [hds, heq])
  rw [hcs, hds] at hmended ⊢
  exact mended_injective hc hd hmended

/-- **A type name is its own** exactly if the name has words, and the capitalised words are those of what they make. -/
theorem typeName_typeName_iff (name : String) :
    typeName (typeName name) = typeName name ↔
      Text.pascal name.toList ≠ [] ∧ Text.pascal (Text.pascal name.toList) = Text.pascal name.toList := by
  by_cases hname : Text.pascal name.toList = []
  · rw [typeName_of_nil hname]
    simp [hname, typeName_unnamed]
  · have hchars : (typeName name).toList = finished isReservedType (Text.pascal name.toList) := by
      rw [typeName_of_ne_nil hname, String.toList_ofList]
    have hagain : Text.pascal (typeName name).toList = Text.pascal (Text.pascal name.toList) := by
      rw [hchars, pascal_finished]
    constructor
    · intro h
      refine ⟨hname, ?_⟩
      by_cases hnil : Text.pascal (Text.pascal name.toList) = []
      -- then the type name would be what stands for a name without words, which is none
      · have hunnamed : typeName name = "unnamed" := h.symm.trans (typeName_of_nil (hagain.trans hnil))
        rw [hunnamed] at h
        exact absurd h typeName_unnamed
      · have hne : Text.pascal (typeName name).toList ≠ [] := fun heq => hnil (hagain.symm.trans heq)
        have hsame := congrArg String.toList h
        rw [typeName_of_ne_nil hne, hagain, String.toList_ofList, hchars] at hsame
        exact finished_pascal_injective hnil hname hsame
    · rintro ⟨-, h⟩
      have hne : Text.pascal (typeName name).toList ≠ [] := fun heq => hname (h.symm.trans (hagain.symm.trans heq))
      rw [typeName_of_ne_nil hne, hagain, h, ← typeName_of_ne_nil hname]

theorem isDigit_of_mem_toString {k : Nat} : ∀ d ∈ (toString k).toList, d.isDigit = true := by
  intro d hd
  have hdigits : d ∈ Nat.toDigits 10 k := by simpa using hd
  exact Nat.isDigit_of_mem_toDigits (by decide) (by decide) hdigits

theorem toString_ne_nil (k : Nat) : (toString k).toList ≠ [] := by
  simp

theorem mended_append {cased : List Char} (h : cased ≠ []) (ds : List Char) :
    mended (cased ++ ds) = mended cased ++ ds := by
  obtain ⟨c, cs, rfl⟩ := List.exists_cons_of_ne_nil h
  rw [List.cons_append, mended_eq, mended_eq, List.append_assoc]
  rfl

/-- the type name of a numbered type name has the number right after the words -/
theorem typeName_numbered {name : String} (hname : Text.pascal name.toList ≠ [])
    (hagain : Text.pascal (Text.pascal name.toList) = Text.pascal name.toList) (k : Nat) :
    typeName (typeName name ++ toString k) =
      String.ofList (mended (Text.pascal name.toList) ++ (toString k).toList) := by
  let cased := Text.pascal name.toList
  let ds := (toString k).toList
  have hplain : ∀ d ∈ ds, Text.Plain d := fun d hd => Text.plain_of_isDigit (isDigit_of_mem_toString d hd)
  have hchars : (typeName name ++ toString k).toList = finished isReservedType cased ++ ds := by
    rw [typeName_of_ne_nil hname, String.toList_append, String.toList_ofList]
  have hpascal : Text.pascal (finished isReservedType cased ++ ds) = cased ++ ds := by
    rw [finished]
    split_ifs
    · rw [List.append_assoc, List.singleton_append, Text.pascal_append_sep underscore_separates, pascal_mended,
        hagain, Text.pascal_plain hplain]
    · rw [List.append_nil, ← mended_append hname, pascal_mended, Text.pascal_append hplain hagain]
  obtain ⟨d, hd⟩ := List.exists_mem_of_ne_nil _ (toString_ne_nil k)
  have hfree : isReservedType (String.ofList (mended (cased ++ ds))) = false := by
    rw [mended_append hname]
    exact isReservedType_of_digit (isDigit_of_mem_toString d hd) (List.mem_append_right _ hd)
  have hne : Text.pascal (typeName name ++ toString k).toList ≠ [] := by
    rw [hchars, hpascal]
    exact List.append_ne_nil_of_left_ne_nil hname ds
  rw [typeName_of_ne_nil hne, hchars, hpascal, finished, hfree, if_neg Bool.false_ne_true, List.append_nil,
    mended_append hname]

/-- a name whose type name is its own, and stays so with any number after it -/
def Steady (name : String) : Prop :=
  let cased := Text.pascal name.toList
  cased ≠ [] ∧ Text.pascal cased = cased ∧ isReservedType (String.ofList (mended cased)) = false

instance (name : String) : Decidable (Steady name) :=
  inferInstanceAs (Decidable (_ ∧ _))

/-- **Steady names** are those whose type name is its own, and is so with a number after it, whichever that is. -/
theorem steady_iff (name : String) (k : Nat) :
    Steady name ↔ typeName (typeName name) = typeName name ∧
      typeName (typeName name ++ toString k) = typeName name ++ toString k := by
  rw [typeName_typeName_iff, Steady, and_assoc]
  refine and_congr_right fun hname => and_congr_right fun hagain => ?_
  rw [typeName_numbered hname hagain, typeName_of_ne_nil hname, ← String.toList_inj, String.toList_append,
    String.toList_ofList, String.toList_ofList, List.append_cancel_right_eq, finished]
  -- an underscore for a reserved word stands before the number, where its type name has none
  cases isReservedType (String.ofList (mended (Text.pascal name.toList))) <;> simp

example : Steady "pet_owner" ∧ ¬ Steady "xY" ∧ ¬ Steady "none" ∧ ¬ Steady "" := by
  decide

end ClientPlan
