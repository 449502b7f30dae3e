/-
Choices by rank. The alternatives that a document offers fall into classes, and an alternative counts by the first
class that it is in. What is chosen is the first alternative of the best rank, be it the status of a successful call or
the media type of a body (`choices_first_best`). A choice stays the same when other alternatives are left out: if the
chosen one is kept, then it is chosen among those that are kept, as long as these keep their order (`IsFirstBest.kept`).
-/
import Mathlib.Data.List.Infix
import Mathlib.Data.Option.Basic
import Mathlib.Data.String.Basic
import ClientPlan.Document.Choice

namespace ClientPlan

section Rank

variable {α : Type} {classes : List (α → Bool)} {rank : α → Nat} {l : List α} {i j : Nat}

/-- the number of the first class that an alternative is in -/
def rankAmong (classes : List (α → Bool)) (a : α) : Nat :=
  classes.findIdx (· a)

/-- the position of the first alternative of the first class that any alternative is in -/
def firstAmong (classes : List (α → Bool)) (l : List α) : Option Nat :=
  classes.findSome? (l.findIdx? ·)

/-- no alternative has a better rank than the one at position `i`, and none before it has the same -/
def IsFirstBest (rank : α → Nat) (l : List α) (i : Nat) : Prop :=
  ∃ a, l[i]? = some a ∧ ∀ j b, l[j]? = some b → rank a ≤ rank b ∧ (j < i → rank a < rank b)

theorem IsFirstBest.unique (h : IsFirstBest rank l i) (h' : IsFirstBest rank l j) : i = j := by
  obtain ⟨a, ha, hbest⟩ := h
  obtain ⟨b, hb, hbest'⟩ := h'
  rcases Nat.lt_trichotomy i j with hlt | heq | hlt
  · exact absurd (hbest j b hb).1 (Nat.not_le.2 ((hbest' i a ha).2 hlt))
  · exact heq
  · exact absurd (hbest' i a ha).1 (Nat.not_le.2 ((hbest j b hb).2 hlt))

/-- the first best alternative is the first best one of those that are kept, if it is among them -/
theorem IsFirstBest.kept {kept : List (Nat × α)} (hrise : kept.Pairwise (·.1 < ·.1))
    (hat : ∀ e ∈ kept, l[e.1]? = some e.2) {k : Nat} {e : Nat × α} (hk : kept[k]? = some e)
    (h : IsFirstBest rank l e.1) : IsFirstBest rank (kept.map (·.2)) k := by
  obtain ⟨a, ha, hbest⟩ := h
  obtain rfl : a = e.2 := Option.some.inj (ha.symm.trans (hat e (List.mem_of_getElem? hk)))
  refine ⟨e.2, by rw [List.getElem?_map, hk, Option.map_some], fun j b hb => ?_⟩
  rw [List.getElem?_map, Option.map_eq_some_iff] at hb
  obtain ⟨e', hj, rfl⟩ := hb
  obtain ⟨hle, hlt⟩ := hbest e'.1 e'.2 (hat e' (List.mem_of_getElem? hj))
  refine ⟨hle, fun hjk => hlt ?_⟩
  obtain ⟨hklt, rfl⟩ := List.getElem?_eq_some_iff.1 hk
  obtain ⟨hjlt, rfl⟩ := List.getElem?_eq_some_iff.1 hj
  exact List.pairwise_iff_getElem.1 hrise j k hjlt hklt hjk

theorem firstAmong_cons {p : α → Bool} : firstAmong (p :: classes) l = (l.findIdx? p <|> firstAmong classes l) := by
  rw [firstAmong, List.findSome?_cons]
  cases l.findIdx? p <;> rfl

theorem rankAmong_cons {p : α → Bool} {a : α} :
    rankAmong (p :: classes) a = if p a = true then 0 else rankAmong classes a + 1 := by
  rw [rankAmong, List.findIdx_cons, Bool.cond_eq_ite]
  rfl

/-- class by class, the first one that has an alternative in it decides -/
theorem firstAmong_isFirstBest (h : firstAmong classes l = some i) : IsFirstBest (rankAmong classes) l i := by
  induction classes with
  | nil => cases h
  | cons p classes ih =>
    rw [firstAmong_cons] at h
    cases hfound : l.findIdx? p with
    | some k =>
      obtain rfl : k = i := Option.some.inj (by rwa [hfound] at h)
      obtain ⟨hk, hp, hbefore⟩ := List.findIdx?_eq_some_iff_getElem.1 hfound
      refine ⟨l[k], List.getElem?_eq_getElem hk, fun j b hb => ?_⟩
      obtain ⟨hj, rfl⟩ := List.getElem?_eq_some_iff.1 hb
      rw [rankAmong_cons, if_pos hp, rankAmong_cons]
      refine ⟨Nat.zero_le _, fun hjk => ?_⟩
      rw [if_neg (hbefore j hjk)]
      exact Nat.succ_pos _
    | none =>
      rw [hfound] at h
      -- nothing is in the first class, so that all ranks are one more than among the others
      have hshift : ∀ b ∈ l, rankAmong (p :: classes) b = rankAmong classes b + 1 := by
        intro b hb
        rw [rankAmong_cons, List.findIdx?_eq_none_iff.1 hfound b hb, if_neg Bool.false_ne_true]
      obtain ⟨a, ha, hbest⟩ := ih h
      refine ⟨a, ha, fun j b hb => ?_⟩
      rw [hshift a (List.mem_of_getElem? ha), hshift b (List.mem_of_getElem? hb)]
      exact ⟨Nat.succ_le_succ (hbest j b hb).1, fun hji => Nat.succ_lt_succ ((hbest j b hb).2 hji)⟩

/-- nothing is chosen only if no alternative is in any class -/
theorem firstAmong_eq_none_iff : firstAmong classes l = none ↔ ∀ p ∈ classes, ∀ a ∈ l, p a = false := by
  simp only [firstAmong, List.findSome?_eq_none_iff, List.findIdx?_eq_none_iff]

/-- where every alternative is in some class, the choice is the first best one -/
theorem firstAmong_eq_some_iff (hall : ∀ a ∈ l, ∃ p ∈ classes, p a = true) :
    firstAmong classes l = some i ↔ IsFirstBest (rankAmong classes) l i := by
  refine ⟨firstAmong_isFirstBest, fun h => ?_⟩
  cases hchoice : firstAmong classes l with
  | some j => rw [h.unique (firstAmong_isFirstBest hchoice)]
  | none =>
    obtain ⟨a, ha, -⟩ := h
    have hmem := List.mem_of_getElem? ha
    obtain ⟨p, hp, hpa⟩ := hall a hmem
    exact absurd hpa (by rw [firstAmong_eq_none_iff.1 hchoice p hp a hmem]; exact Bool.false_ne_true)

end Rank

/-! ## The status of a successful call -/

/-- the classes of statuses, from the best one on -/
def successClasses : List (String → Bool) :=
  [(· == "200"), isSuccessCode, isSuccessClass, (· == "default"), fun _ => true]

/-- how good a status is for a successful call: the lower, the better -/
def successRank : String → Nat :=
  rankAmong successClasses

theorem successIndex?_eq (codes : List String) : successIndex? codes = firstAmong successClasses codes := by
  have hfirst : (if codes.isEmpty then none else some 0) = codes.findIdx? (fun _ => true) := by
    cases codes <;> rfl
  rw [successIndex?, hfirst]
  simp only [successClasses, firstAmong_cons]
  cases codes.findIdx? fun _ => true <;> rfl

/-- **The status of a successful call** is the first one of the best rank. -/
theorem successIndex?_eq_some_iff {codes : List String} {i : Nat} :
    successIndex? codes = some i ↔ IsFirstBest successRank codes i := by
  rw [successIndex?_eq]
  exact firstAmong_eq_some_iff fun code _ => ⟨fun _ => true, by simp [successClasses], rfl⟩

theorem successIndex?_eq_none_iff {codes : List String} : successIndex? codes = none ↔ codes = [] := by
  rw [successIndex?_eq, firstAmong_eq_none_iff]
  refine ⟨fun h => List.eq_nil_iff_forall_not_mem.2 fun code hcode => ?_, fun h => ?_⟩
  · cases h (fun _ => true) (by simp [successClasses]) code hcode
  · rw [h]
    exact fun _ _ => List.forall_mem_nil _

/-- a code of three digits, the first of which is 2 -/
def IsSuccess (code : String) : Prop :=
  code.length = 3 ∧ code.toList.head? = some '2' ∧ ∀ c ∈ code.toList, c.isDigit = true

instance (code : String) : Decidable (IsSuccess code) :=
  inferInstanceAs (Decidable (_ ∧ _ ∧ _))

/-- the rank of a status by its text -/
def statusRank (code : String) : Nat :=
  if code = "200" then 0
  else if IsSuccess code then 1
  else if code ∈ ["2XX", "2Xx", "2xX", "2xx"] then 2
  else if code = "default" then 3
  else 4

theorem isSuccessCode_iff {code : String} : isSuccessCode code = true ↔ IsSuccess code := by
  rw [isSuccessCode, IsSuccess, ← String.length_toList]
  generalize code.toList = cs
  split
  · simp [show Char.isDigit '2' = true from rfl]
  · next hother =>
    refine iff_of_false Bool.false_ne_true ?_
    rintro ⟨hlength, hhead, -⟩
    obtain ⟨a, b, c, rfl⟩ := List.length_eq_three.1 hlength
    obtain rfl : a = '2' := Option.some.inj hhead
    exact hother b c rfl

/-- only a capital is written differently in lower case -/
theorem toLower_eq_small_iff {c d : Char} (hd : ¬ (65 ≤ d.toNat ∧ d.toNat ≤ 90)) :
    c.toLower = d ↔ c = d ∨ 65 ≤ c.toNat ∧ c.toNat ≤ 90 ∧ c.toNat + 32 = d.toNat := by
  have hrange : (c.val ≥ 'A'.val ∧ c.val ≤ 'Z'.val) ↔ 65 ≤ c.toNat ∧ c.toNat ≤ 90 :=
    and_congr UInt32.le_iff_toNat_le UInt32.le_iff_toNat_le
  by_cases hc : 65 ≤ c.toNat ∧ c.toNat ≤ 90
  · have hshift : c.toLower.val = c.val + 32 := congrArg Char.val (dif_pos (hrange.2 hc))
    have hlow : c.toLower.toNat = c.toNat + 32 := by
      refine (congrArg UInt32.toNat hshift).trans ((UInt32.toNat_add _ _).trans (Nat.mod_eq_of_lt ?_))
      change c.toNat + 32 < _
      omega
    have hne : c ≠ d := fun heq => hd (heq ▸ hc)
    rw [← Char.toNat_inj, hlow]
    simp [hne, hc]
  · have hsame : c.toLower = c := dif_neg fun hcapital => hc (hrange.1 hcapital)
    rw [hsame]
    exact (or_iff_left fun h => hc ⟨h.1, h.2.1⟩).symm

theorem isSuccessClass_iff {code : String} :
    isSuccessClass code = true ↔ code ∈ ["2XX", "2Xx", "2xX", "2xx"] := by
  have htwo : ∀ c : Char, c.toLower = '2' ↔ c = '2' := by
    intro c
    rw [toLower_eq_small_iff (by decide)]
    refine or_iff_left fun h => ?_
    change _ ∧ _ ∧ _ = 50 at h
    omega
  have hx : ∀ c : Char, c.toLower = 'x' ↔ c = 'x' ∨ c = 'X' := by
    intro c
    rw [toLower_eq_small_iff (by decide), ← @Char.toNat_inj c 'X']
    refine or_congr_right ?_
    change _ ∧ _ ∧ _ = 120 ↔ _ = 88
    omega
  rw [isSuccessClass, beq_iff_eq]
  simp only [List.map_eq_cons_iff, List.map_eq_nil_iff, htwo, hx, List.mem_cons, List.not_mem_nil, or_false,
    ← String.toList_inj]
  constructor
  · rintro ⟨_, _, hcode, rfl, _, _, rfl, hb, _, _, rfl, hc, rfl⟩
    rcases hb with rfl | rfl <;> rcases hc with rfl | rfl <;> simp [hcode]
  · rintro (h | h | h | h) <;> simp [h]

theorem successRank_eq (code : String) : successRank code = statusRank code := by
  simp only [successRank, successClasses, rankAmong_cons, statusRank, isSuccessCode_iff, isSuccessClass_iff,
    beq_iff_eq]
  split_ifs <;> rfl

/-! ## The media type of a body -/

theorem occursIn_iff {part cs : List Char} : occursIn part cs = true ↔ part <:+: cs := by
  induction cs with
  | nil => rw [occursIn, List.isEmpty_iff, List.infix_nil]
  | cons c cs ih => rw [occursIn, Bool.or_eq_true, List.isPrefixOf_iff_prefix, ih, List.infix_cons_iff]

/-- the classes of media types, from the best one on -/
def mediaClasses : List (String → Bool) :=
  [(· == jsonMediaType), fun key => occursIn "json".toList key.toList, (· == eventStreamMediaType), fun _ => true]

/-- the rank of a media type by its text: the lower, the better -/
def mediaRank (key : String) : Nat :=
  if key = "application/json" then 0
  else if "json".toList <:+: key.toList then 1
  else if key = "text/event-stream" then 2
  else 3

theorem mediaRank_eq : rankAmong mediaClasses = mediaRank := by
  funext key
  simp only [mediaClasses, rankAmong_cons, mediaRank, occursIn_iff, beq_iff_eq, jsonMediaType, eventStreamMediaType]
  split_ifs <;> rfl

section Content

variable {α : Type} {content : Keyed α}

/-- an entry is chosen among the entries as its key is among the keys -/
theorem firstAmong_keys_cons {p : String → Bool} {classes : List (String → Bool)} :
    (firstAmong (p :: classes) content.keys).bind (content[·]?) =
      (content.find? (p ·.1) <|> (firstAmong classes content.keys).bind (content[·]?)) := by
  have hfind : content.find? (p ·.1) = (content.keys.findIdx? p).bind (content[·]?) := by
    rw [List.find?_eq_bind_findIdx?_getElem?, Keyed.keys, List.findIdx?_map]
    rfl
  rw [firstAmong_cons, hfind]
  cases hfound : content.keys.findIdx? p with
  | none => rfl
  | some i =>
    have hi : i < List.length content := by
      simpa [Keyed.keys] using (List.findIdx?_eq_some_iff_getElem.1 hfound).1
    simp [hi]

theorem selectMediaType_eq : selectMediaType content = (firstAmong mediaClasses content.keys).bind (content[·]?) := by
  have hfirst : content.head? = content.find? fun _ => true := by cases content <;> rfl
  rw [selectMediaType, hfirst]
  simp only [mediaClasses, firstAmong_keys_cons]
  cases content.find? fun _ => true <;> rfl

/-- every media type is in some class -/
theorem exists_mediaClass (key : String) : ∃ p ∈ mediaClasses, p key = true :=
  ⟨fun _ => true, by simp [mediaClasses], rfl⟩

theorem selectMediaType_eq_some_iff {e : String × α} :
    selectMediaType content = some e ↔ ∃ i, content[i]? = some e ∧ IsFirstBest mediaRank content.keys i := by
  rw [selectMediaType_eq, Option.bind_eq_some_iff]
  refine exists_congr fun i => ?_
  rw [firstAmong_eq_some_iff fun key _ => exists_mediaClass key, mediaRank_eq, and_comm]

theorem selectMediaType_eq_none_iff : selectMediaType content = none ↔ content = [] := by
  constructor
  · intro h
    simp only [selectMediaType, Option.orElse_eq_none] at h
    exact List.head?_eq_none_iff.1 h.2.2.2
  · rintro rfl
    rfl

end Content

/-- **Both choices fall on the first alternative of the best rank.** Of statuses, one is chosen if there are any, and
its position is that of the first one of the best rank; of media types, one is chosen if there are any, and it is the
first one of the best rank. -/
theorem choices_first_best {α : Type} (codes : List String) (content : Keyed α) :
    (successIndex? codes = none ↔ codes = []) ∧
      (∀ i, successIndex? codes = some i ↔ IsFirstBest statusRank codes i) ∧
      (selectMediaType content = none ↔ content = []) ∧
      ∀ e, selectMediaType content = some e ↔ ∃ i, content[i]? = some e ∧ IsFirstBest mediaRank content.keys i := by
  have hrank : successRank = statusRank := funext successRank_eq
  refine ⟨successIndex?_eq_none_iff, fun i => ?_, selectMediaType_eq_none_iff, fun e => selectMediaType_eq_some_iff⟩
  rw [successIndex?_eq_some_iff, hrank]

/-- a code from 200 to 299 comes before its class, and a vendor's JSON before an event stream -/
example : successIndex? ["404", "2xx", "204", "201"] = some 2 ∧
    (selectMediaType [("text/event-stream", 1), ("application/vnd.api+json", 2)]).map (·.2) = some 2 := by
  decide

end ClientPlan
