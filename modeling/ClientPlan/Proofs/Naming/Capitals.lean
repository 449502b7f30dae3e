/-
Words told by their capitals. In a type name, nothing but a capital shows where a word begins, and not each capital
does: there is a letter before it, and the last of these is a small one, or a small one comes right after the capital. A
type name made from ASCII is its own type name exactly if that holds of every capital in it but one at its beginning
(`typeName_stable_iff`); `XY`, made from `xY`, is not, since it is read as one word.
-/
import Mathlib.Data.List.Induction
import ClientPlan.Proofs.Naming.Ascii
import ClientPlan.Proofs.Naming.Pascal

namespace ClientPlan

namespace Text

/-! ## Capitals that begin words -/

/-- the last letter of a text -/
def lastLetter? (cs : List Char) : Option Char :=
  cs.reverse.find? fun c => isLower c || isUpper c

/-- a capital between `before` and `after` begins a word: the last letter before it is small, or there is one, and what
follows right after is small -/
def BeginsWord (before after : List Char) : Prop :=
  ∃ l ∈ lastLetter? before, isLower l = true ∨ after.head?.any isLower = true

/-- each capital but one at the very beginning is seen to begin a word -/
def Legible (cs : List Char) : Prop :=
  ∀ before c after, cs = before ++ c :: after → before ≠ [] → isUpper c = true → BeginsWord before after

/-- a word whose last letter is of case `mode` ends before a capital with `after` right after it -/
def Mode.EndsBefore (mode : Mode) (after : List Char) : Prop :=
  mode = .lower ∨ mode = .upper ∧ after.head?.any isLower = true

/-- `Legible` character by character, where `mode` is the case of the last letter before -/
def Seen (began : Bool) (mode : Mode) : List Char → Prop
  | [] => True
  | c :: rest => (began = true → isUpper c = true → mode.EndsBefore rest) ∧ Seen true (mode.after c) rest

instance (mode : Mode) (after : List Char) : Decidable (mode.EndsBefore after) :=
  inferInstanceAs (Decidable (_ ∨ _ ∧ _))

instance decidableSeen (began : Bool) (mode : Mode) : (cs : List Char) → Decidable (Seen began mode cs)
  | [] => isTrue trivial
  | c :: rest =>
    have := decidableSeen true (mode.after c) rest
    inferInstanceAs (Decidable (_ ∧ _))

theorem seen_cons (began : Bool) (mode : Mode) (c : Char) (rest : List Char) :
    Seen began mode (c :: rest) ↔
      (began = true → isUpper c = true → mode.EndsBefore rest) ∧ Seen true (mode.after c) rest :=
  Iff.rfl

theorem lastLetter?_concat (cs : List Char) (c : Char) :
    lastLetter? (cs ++ [c]) = if isLower c || isUpper c then some c else lastLetter? cs := by
  rw [lastLetter?, List.reverse_append, List.reverse_singleton, List.singleton_append, List.find?_cons]
  cases isLower c || isUpper c <;> rfl

/-- the mode of a word is the case of its last letter -/
theorem foldl_after (cs : List Char) :
    cs.foldl Mode.after .fresh =
      match lastLetter? cs with
      | some l => if isLower l then .lower else .upper
      | none => .fresh := by
  induction cs using List.reverseRecOn with
  | nil => rfl
  | append_singleton cs c ih =>
    rw [List.foldl_concat, ih, lastLetter?_concat, Mode.after]
    cases hlower : isLower c <;> cases hupper : isUpper c <;> simp [hlower]

theorem endsBefore_iff (before after : List Char) :
    (before.foldl Mode.after .fresh).EndsBefore after ↔ BeginsWord before after := by
  rw [foldl_after, Mode.EndsBefore, BeginsWord]
  cases lastLetter? before with
  | none => simp
  | some l => cases hl : isLower l <;> simp [hl]

theorem seen_iff (front cs : List Char) :
    Seen (!front.isEmpty) (front.foldl Mode.after .fresh) cs ↔
      ∀ before c after, cs = before ++ c :: after → front ++ before ≠ [] → isUpper c = true →
        BeginsWord (front ++ before) after := by
  induction cs generalizing front with
  | nil => simp [Seen]
  | cons d cs ih =>
    have hbegan : (!(front ++ [d]).isEmpty) = true := by cases front <;> rfl
    have hrest := ih (front ++ [d])
    rw [List.foldl_concat, hbegan] at hrest
    constructor
    · rintro ⟨hfirst, hseen⟩ before c after hcs hbefore hc
      cases before with
      | nil =>
        obtain ⟨rfl, rfl⟩ := List.cons_eq_cons.1 hcs
        rw [List.append_nil] at hbefore ⊢
        exact (endsBefore_iff _ _).1 (hfirst (by simpa using hbefore) hc)
      | cons e before =>
        obtain ⟨rfl, rfl⟩ := List.cons_eq_cons.1 hcs
        have hlater := hrest.1 hseen before c after rfl (by simp) hc
        rwa [List.append_assoc] at hlater
    · intro h
      refine ⟨fun hfront hd => (endsBefore_iff _ _).2 ?_, ?_⟩
      · simpa using h [] d cs rfl (by simpa using hfront) hd
      · refine hrest.2 fun before c after hcs _ hc => ?_
        rw [List.append_assoc]
        exact h (d :: before) c after (congrArg (d :: ·) hcs) (by simp) hc

theorem legible_iff (cs : List Char) : Legible cs ↔ Seen false .fresh cs :=
  (seen_iff [] cs).symm

instance (cs : List Char) : Decidable (Legible cs) :=
  decidable_of_iff _ (legible_iff cs).symm

/-! ## Words of a name with capitals -/

/-- no capital but at the beginning -/
def Proper (w : List Char) : Prop :=
  ∀ c ∈ w.tail, isUpper c = false

theorem proper_concat {word : List Char} {c : Char} (hne : word ≠ []) :
    Proper (word ++ [c]) ↔ Proper word ∧ isUpper c = false := by
  obtain ⟨d, ds, rfl⟩ := List.exists_cons_of_ne_nil hne
  simp only [Proper, List.cons_append, List.tail_cons, List.mem_append, List.mem_singleton, or_imp, forall_and,
    forall_eq]

/-- no character is a small letter and a capital at once -/
def Cased (cs : List Char) : Prop :=
  ∀ c ∈ cs, isUpper c = true → isLower c = false

theorem after_of_isLower {c : Char} (h : isLower c = true) (mode : Mode) : mode.after c = .lower :=
  if_pos h

theorem after_of_isUpper {c : Char} (hlower : isLower c = false) (hupper : isUpper c = true) (mode : Mode) :
    mode.after c = .upper := by
  simp [Mode.after, hlower, hupper]

namespace Cased

variable {c : Char} {cs : List Char}

theorem tail (h : Cased (c :: cs)) : Cased cs :=
  fun d hd => h d (List.mem_cons_of_mem c hd)

theorem notUpper (h : Cased cs) (hc : c ∈ cs) (hlower : isLower c = true) : isUpper c = false := by
  by_contra hupper
  rw [h c hc (by simpa using hupper)] at hlower
  cases hlower

/-- after a capital, the word is in upper case -/
theorem notUpper_of_after (h : Cased cs) (hc : c ∈ cs) {mode : Mode} (hafter : mode.after c = .lower) :
    isUpper c = false := by
  by_contra hupper
  rw [Bool.not_eq_false] at hupper
  rw [after_of_isUpper (h c hc hupper) hupper] at hafter
  cases hafter

end Cased

/-- the character joins the word: this is well if it is no capital, or is the first -/
theorem proper_step {mode : Mode} {word after : List Char} {c : Char}
    (hstay : word ≠ [] → isUpper c = true → ¬ mode.EndsBefore after) :
    Proper (c :: word).reverse ↔
      Proper word.reverse ∧ ((!word.isEmpty) = true → isUpper c = true → mode.EndsBefore after) := by
  rw [List.reverse_cons]
  cases word with
  | nil => simp [Proper]
  | cons d word =>
    rw [proper_concat (by simp)]
    refine and_congr_right fun _ => ?_
    cases hc : isUpper c with
    | false => simp
    | true => simpa using hstay (by simp) hc

/-- a capital begins a word, be it because of the small letter before it or because nothing is before it -/
theorem seen_capital {next : Char} {rest : List Char} (hlower : isLower next = false) (hupper : isUpper next = true) :
    Seen false .fresh (next :: rest) ↔ Seen true .lower (next :: rest) := by
  simp [Seen, Mode.EndsBefore, after_of_isUpper hlower hupper]

/-- what stands before a small letter is forgotten -/
theorem seen_small {next : Char} {rest : List Char} (hlower : isLower next = true) (hupper : isUpper next = false)
    (mode mode' : Mode) : Seen true mode (next :: rest) ↔ Seen true mode' (next :: rest) := by
  simp [Seen, hupper, after_of_isLower hlower]

/-- the cuts are before the capitals that are seen to begin words, so that those are the first of their words, and no
other ones are -/
theorem humps_proper_iff (mode : Mode) (word cs : List Char) (hne : cs ≠ []) (hcased : Cased cs)
    (hmode : word ≠ [] → mode = .lower → ∀ c, cs.head? = some c → isUpper c = false) :
    (∀ w ∈ humps mode word cs, Proper w) ↔ Proper word.reverse ∧ Seen (!word.isEmpty) mode cs := by
  fun_induction humps mode word cs with
  | case1 => exact absurd rfl hne
  | case2 mode word c =>
    have hstay : word ≠ [] → isUpper c = true → ¬ mode.EndsBefore [] := by
      rintro hword hc (hlower | ⟨-, hnone⟩)
      · simp [hmode hword hlower c rfl] at hc
      · cases hnone
    rw [List.forall_mem_singleton, proper_step hstay, Seen, Seen, and_true]
  | case3 mode word c next rest hcut ih =>
    simp only [Bool.and_eq_true, decide_eq_true_eq] at hcut
    obtain ⟨hlower, hnext⟩ := hcut
    have hc := hcased.notUpper_of_after List.mem_cons_self hlower
    have hseen := @seen_capital _ rest (hcased.tail next List.mem_cons_self hnext) hnext
    have hstay : word ≠ [] → isUpper c = true → ¬ mode.EndsBefore (next :: rest) := by simp [hc]
    rw [List.forall_mem_cons, ih (List.cons_ne_nil _ _) hcased.tail (fun h => absurd rfl h), proper_step hstay,
      seen_cons (!word.isEmpty) mode c (next :: rest), hlower, ← hseen, and_assoc]
    simp [Proper]
  | case4 mode word c next rest hcut hcapital ih =>
    simp only [Bool.and_eq_true, decide_eq_true_eq] at hcapital
    obtain ⟨⟨rfl, hc⟩, hnext⟩ := hcapital
    have hends : Mode.upper.EndsBefore (next :: rest) := Or.inr ⟨rfl, hnext⟩
    have hseen := @seen_small _ rest hnext (hcased.tail.notUpper List.mem_cons_self hnext) (Mode.upper.after c) .fresh
    have hstart : Proper [c] := by simp [Proper]
    rw [List.forall_mem_cons, ih (List.cons_ne_nil _ _) hcased.tail (by simp),
      seen_cons (!word.isEmpty) .upper c (next :: rest), hseen]
    simp [hstart, hends]
  | case5 mode word c next rest hcut hcapital ih =>
    simp only [Bool.and_eq_true, decide_eq_true_eq, not_and, Bool.not_eq_true] at hcut hcapital
    have hstay : word ≠ [] → isUpper c = true → ¬ mode.EndsBefore (next :: rest) := by
      rintro hword hc (hlower | ⟨hupper, hsmall⟩)
      · simp [hmode hword hlower c rfl] at hc
      · simp [hcapital ⟨hupper, hc⟩] at hsmall
    have hnext : c :: word ≠ [] → mode.after c = .lower → ∀ d, (next :: rest).head? = some d → isUpper d = false := by
      intro _ hlower d hd
      cases hd
      exact hcut hlower
    rw [ih (List.cons_ne_nil _ _) hcased.tail hnext, proper_step hstay, seen_cons (!word.isEmpty), and_assoc]
    rfl

/-! ## Names that are their own capitalised words -/

/-- a word begins with a capital, unless it is the first -/
theorem head_humps (mode : Mode) (word cs : List Char) :
    ∀ w ∈ humps mode word cs, ∀ c, w.head? = some c → isUpper c = true ∨ (word.reverse ++ cs).head? = some c := by
  fun_induction humps mode word cs with
  | case1 => simp
  | case2 mode word c => simp
  | case3 mode word c next rest hcut ih =>
    simp only [Bool.and_eq_true] at hcut
    intro w hw d hd
    rcases List.mem_cons.1 hw with rfl | hw
    · exact Or.inr (by simpa using hd)
    · rcases ih w hw d hd with hupper | hfirst
      · exact Or.inl hupper
      · cases hfirst
        exact Or.inl hcut.2
  | case4 mode word c next rest hcut hcapital ih =>
    simp only [Bool.and_eq_true] at hcapital
    intro w hw d hd
    rcases List.mem_cons.1 hw with rfl | hw
    · exact Or.inr (by rw [List.head?_append, hd, Option.some_or])
    · rcases ih w hw d hd with hupper | hfirst
      · exact Or.inl hupper
      · cases hfirst
        exact Or.inl hcapital.1.2
  | case5 mode word c next rest hcut hcapital ih =>
    intro w hw d hd
    simpa using ih w hw d hd

variable {w : List Char}

theorem length_capitalWord (h : ∀ c ∈ w, IsSimple c) : (capitalWord w).length = w.length := by
  cases w with
  | nil => rfl
  | cons d rest => rw [capitalWord_ascii fun c hc => (h c hc).1, List.length_cons, List.length_map, List.length_cons]

theorem capitalWord_eq_iff (h : ∀ c ∈ w, IsSimple c) :
    capitalWord w = w ↔ (∀ c, w.head? = some c → isLower c = false) ∧ Proper w := by
  cases w with
  | nil => simp [capitalWord, Proper]
  | cons d rest =>
    have hrest : rest.map Char.toLower = rest ↔ ∀ c ∈ rest, isUpper c = false := by
      nth_rewrite 2 [← List.map_id rest]
      rw [List.map_inj_left]
      refine forall₂_congr fun c hc => ?_
      have hascii := (h c (List.mem_cons_of_mem d hc)).1
      rw [id, toLower_eq_iff hascii, isUpper_ascii hascii]
    rw [capitalWord_ascii fun c hc => (h c hc).1, List.cons_eq_cons, toUpper_eq_iff (h d List.mem_cons_self).1, hrest,
      ← isLower_ascii (h d List.mem_cons_self).1]
    simp [Proper]

/-- words of one length stand in the same place when they are capitalised -/
theorem flatMap_capitalWord_iff {ws : List (List Char)} (h : ∀ w ∈ ws, ∀ c ∈ w, IsSimple c) :
    ws.flatMap capitalWord = ws.flatten ↔ ∀ w ∈ ws, capitalWord w = w := by
  induction ws with
  | nil => simp
  | cons w ws ih =>
    have hrest := ih fun v hv => h v (List.mem_cons_of_mem w hv)
    rw [List.flatMap_cons, List.flatten_cons, List.forall_mem_cons, ← hrest]
    constructor
    · exact fun heq => List.append_inj heq (length_capitalWord (h w List.mem_cons_self))
    · rintro ⟨hw, hws⟩
      rw [hw, hws]

/-- **Capitalised words can be told apart by their capitals** exactly if each capital is seen to begin a word. -/
theorem pascal_eq_iff {cs : List Char} (h : ∀ c ∈ cs, IsSimple c)
    (hfirst : ∀ c, cs.head? = some c → isLower c = false) : pascal cs = cs ↔ Legible cs := by
  by_cases hne : cs = []
  · subst hne
    simp [pascal, words_of_isSimple, humps, Legible]
  · have hmem : ∀ w ∈ humps .fresh [] cs, ∀ c ∈ w, c ∈ cs := fun w hw c hc =>
      (mem_of_mem_humps _ _ _ w hw c hc).resolve_left List.not_mem_nil
    have hwords : ∀ w ∈ humps .fresh [] cs, ∀ c ∈ w, IsSimple c := fun w hw c hc => h c (hmem w hw c hc)
    have hcased : Cased cs := fun c hc => isLower_of_isUpper (h c hc).1
    have hheads : ∀ w ∈ humps .fresh [] cs, ∀ c, w.head? = some c → isLower c = false := fun w hw c hc =>
      (head_humps _ _ _ w hw c hc).elim (hcased c (hmem w hw c (List.mem_of_head? hc))) (hfirst c)
    have hflat : (humps .fresh [] cs).flatten = cs := flatten_humps _ _ _ hne
    have hpascal : pascal cs = cs ↔ ∀ w ∈ humps .fresh [] cs, capitalWord w = w := by
      rw [← flatMap_capitalWord_iff hwords, hflat, pascal, words_of_isSimple h]
    have hproper : (∀ w ∈ humps .fresh [] cs, capitalWord w = w) ↔ ∀ w ∈ humps .fresh [] cs, Proper w :=
      forall₂_congr fun w hw => (capitalWord_eq_iff (hwords w hw)).trans (and_iff_right (hheads w hw))
    rw [hpascal, hproper, humps_proper_iff _ _ _ hne hcased (fun h => absurd rfl h), legible_iff]
    simp [Proper]

/-! ## Capitalised words of a name -/

/-- capitalised words do not begin with a small letter -/
theorem isLower_head_pascal {name : List Char} (hname : Ascii name) :
    ∀ c, (pascal name).head? = some c → isLower c = false := by
  intro c hc
  rw [pascal] at hc
  cases hwords : words name with
  | nil => simp [hwords] at hc
  | cons w ws =>
    have hw : w ∈ words name := hwords ▸ List.mem_cons_self
    obtain ⟨d, ds, rfl⟩ := List.exists_cons_of_ne_nil (ne_nil_of_mem_words hw)
    have hsimple := isSimple_of_mem_words hname hw
    rw [hwords, List.flatMap_cons, capitalWord_ascii fun c hc => (hsimple c hc).1] at hc
    obtain rfl : d.toUpper = c := by simpa using hc
    obtain ⟨hupper, hlower⟩ := isSimple_toUpper (hsimple d List.mem_cons_self)
    rwa [isLower_ascii hupper.1]

/-! ## Underscores -/

theorem seen_concat_underscore (began : Bool) (mode : Mode) (cs : List Char) :
    Seen began mode (cs ++ ['_']) ↔ Seen began mode cs := by
  have hupper : isUpper '_' = false := by decide
  have hlower : isLower '_' = false := by decide
  induction cs generalizing began mode with
  | nil => simp [Seen, hupper]
  | cons c cs ih =>
    have hends : mode.EndsBefore (cs ++ ['_']) ↔ mode.EndsBefore cs := by
      cases cs with
      | nil => simp [Mode.EndsBefore, hlower]
      | cons d ds => rfl
    rw [List.cons_append, seen_cons, seen_cons, hends]
    exact and_congr_right fun _ => ih true (mode.after c)

theorem seen_underscore_cons {c : Char} (hc : Plain c) (cs : List Char) :
    Seen false .fresh ('_' :: c :: cs) ↔ Seen false .fresh (c :: cs) := by
  have hafter : Mode.fresh.after '_' = .fresh := by decide
  simp [Seen, hafter, hc.notUpper]

end Text

/-! ## Type names -/

/-- an underscore neither is a letter nor hides one -/
theorem legible_finished (reserved : String → Bool) (cased : List Char) :
    Text.Legible (finished reserved cased) ↔ Text.Legible cased := by
  have hmended : Text.Seen false .fresh (mended cased) ↔ Text.Seen false .fresh cased := by
    fun_cases mended cased with
    | case1 c cs hdigit => exact Text.seen_underscore_cons (Text.plain_of_isDigit hdigit) cs
    | case2 => rfl
    | case3 => rfl
  rw [Text.legible_iff, Text.legible_iff, ← hmended, finished]
  split_ifs
  · exact Text.seen_concat_underscore false .fresh (mended cased)
  · rw [List.append_nil]

/-- **A type name is its own type name**, if it was made from ASCII, exactly if there was a letter or digit to make it
from, and each capital in it but one at the very beginning has a letter before it, and either the last of these is a
small one, or a small one comes right after the capital. -/
theorem typeName_stable_iff (name : String) (hname : Text.Ascii name.toList) :
    typeName (typeName name) = typeName name ↔
      (∃ c ∈ name.toList, Text.isAlphanumeric c = true) ∧ Text.Legible (typeName name).toList := by
  rw [typeName_typeName_iff, Text.pascal_ne_nil_iff]
  refine and_congr_right fun halpha => ?_
  rw [typeName_of_ne_nil ((Text.pascal_ne_nil_iff _).2 halpha), String.toList_ofList, legible_finished]
  exact Text.pascal_eq_iff (Text.isSimple_of_mem_pascal hname) (Text.isLower_head_pascal hname)

/-- a run of capitals is one word, and is told from the next -/
theorem typeName_stable_acronym :
    Text.Ascii "HTTPServer".toList ∧ typeName "HTTPServer" = "HttpServer" ∧
      typeName (typeName "HTTPServer") = typeName "HTTPServer" :=
  ⟨by decide, by decide, (typeName_stable_iff "HTTPServer" (by decide)).2 ⟨⟨'H', by simp, by decide⟩, by decide⟩⟩

/-- the capital `Y` is not seen to begin a word: the letter before it is a capital, and nothing follows -/
theorem typeName_capitals_unstable :
    Text.Ascii "xY".toList ∧ typeName "xY" = "XY" ∧ typeName "XY" = "Xy" ∧
      typeName (typeName "xY") ≠ typeName "xY" := by
  decide

end ClientPlan
