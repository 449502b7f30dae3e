/-
Names that are kept where they stand for the first time. Such a name can be taken all the same, by the number that an
earlier name got. All of them are kept exactly if no repeated name becomes a name of the list, and whether one does can
be read off the list (`firstsKept_iff`): the repeats of a name get, in order, the numbers with which the name is not in
the list, so it matters how many repeats stand before the place of a name with a number. Repeats of different names do
not get in each other's way, since a name with a number tells both.
-/
import Mathlib.Data.Nat.Count
import ClientPlan.Proofs.Naming.Numbering

namespace ClientPlan

/-! ## Counts -/

/-- a count takes every value below the one that it reaches where it goes up -/
theorem exists_count_eq {p : Nat → Prop} [DecidablePred p] {c n : Nat} (h : c < Nat.count p n) :
    ∃ i < n, p i ∧ Nat.count p i = c := by
  induction n with
  | zero => simp at h
  | succ n ih =>
    by_cases hlt : c < Nat.count p n
    · obtain ⟨i, hi, hp⟩ := ih hlt
      exact ⟨i, by omega, hp⟩
    · rw [Nat.count_succ] at h
      split_ifs at h with hp
      · exact ⟨n, by omega, hp, by omega⟩
      · omega

theorem count_take_eq (names : List String) (name : String) (i : Nat) :
    (names.take i).count name = Nat.count (names[·]? = some name) i := by
  induction i with
  | zero => rfl
  | succ i ih =>
    rw [List.take_add_one, List.count_append, ih, Nat.count_succ]
    cases names[i]? with
    | none => simp
    | some other => simp [List.count_singleton]

/-! ## First names and repeats -/

section FirstNames

variable {names : List String} {i j k : Nat} {name given : String}

/-- each name is kept where it stands for the first time -/
def FirstsKept (names out : List String) : Prop :=
  ∀ i name, names[i]? = some name → name ∉ names.take i → out[i]? = some name

/-- no name that repeats an earlier one became a name of the list -/
def RepeatsApart (names out : List String) : Prop :=
  ∀ i name given, names[i]? = some name → name ∈ names.take i → out[i]? = some given → given ∉ names

/-- no name is given twice -/
theorem position_of_given (hi : (distinctNames names)[i]? = some given) (hj : (distinctNames names)[j]? = some given) :
    i = j :=
  (List.getElem?_inj (List.getElem?_eq_some_iff.1 hi).1 (nodup_distinctNames names)).1 (hi.trans hj.symm)

/-- each name is given something, by what was given before -/
theorem exists_given (hname : names[i]? = some name) : ∃ given, (distinctNames names)[i]? = some given ∧
    Becomes ((distinctNames names).take i) name given := by
  have hlt : i < (distinctNames names).length := by
    rw [length_distinctNames]
    exact (List.getElem?_eq_some_iff.1 hname).1
  have hgiven := List.getElem?_eq_getElem hlt
  exact ⟨_, hgiven, (distinctNames_numbered names).becomes i name _ hname hgiven⟩

/-- a name is kept exactly if it was not given before -/
theorem kept_iff_notMem (hname : names[i]? = some name) :
    (distinctNames names)[i]? = some name ↔ name ∉ (distinctNames names).take i := by
  constructor
  · intro hkept htaken
    obtain ⟨j, hj, hsame⟩ := List.mem_take_iff_getElem.1 htaken
    have hearlier : (distinctNames names)[j]? = some name := List.getElem?_eq_some_iff.2 ⟨by omega, hsame⟩
    have heq := position_of_given hearlier hkept
    omega
  · intro hfree
    obtain ⟨given, hgiven, hbecomes⟩ := exists_given hname
    cases hbecomes with
    | kept _ => exact hgiven
    | numbered htaken _ => exact absurd htaken hfree

/-- where all names are kept that stand for the first time, repeated ones become other names -/
theorem FirstsKept.repeatsApart (h : FirstsKept names (distinctNames names)) :
    RepeatsApart names (distinctNames names) := by
  intro i name given hname hrepeated hgiven hmem
  have hfirst : names[names.idxOf given]? = some given := by
    rw [List.getElem?_eq_getElem (List.idxOf_lt_length_of_mem hmem), List.getElem_idxOf]
  have hnew : given ∉ names.take (names.idxOf given) := fun htake =>
    Nat.lt_irrefl _ ((List.mem_take_iff_idxOf_lt hmem).1 htake)
  -- the first place of the given name is the place of the repeated one, which is not its first
  have hplace := position_of_given (h _ _ hfirst hnew) hgiven
  rw [hplace] at hfirst hnew
  obtain rfl : name = given := Option.some.inj (hname.symm.trans hfirst)
  exact hnew hrepeated

/-! ## What the list tells -/

/-- a number from 2 on with which the name is not in the list -/
def IsLeft (names : List String) (name : String) (k : Nat) : Prop :=
  2 ≤ k ∧ s!"{name}_{k}" ∉ names

instance (names : List String) (name : String) : DecidablePred (IsLeft names name) := fun _ =>
  inferInstanceAs (Decidable (_ ∧ _))

/-- before the first place of a name with a number, there are no more repeats of the name than smaller numbers that are
left for them -/
def NumbersLeft (names : List String) : Prop :=
  ∀ name k, 2 ≤ k → s!"{name}_{k}" ∈ names →
    (names.take (names.idxOf s!"{name}_{k}")).count name ≤ Nat.count (IsLeft names name) k + 1

/-- what was given before a place is told by the list: its names up to there, and each of them with as many of the
numbers that are left for it as it has repeats there -/
def Told (names : List String) (i : Nat) : Prop :=
  ∀ m, m ∈ (distinctNames names).take i ↔ m ∈ names.take i ∨
    ∃ name k, m = s!"{name}_{k}" ∧ IsLeft names name k ∧
      Nat.count (IsLeft names name) k + 1 < (names.take i).count name

theorem Told.freeAt_iff (h : Told names i) : FreeAt ((distinctNames names).take i) name k ↔
    s!"{name}_{k}" ∉ names.take i ∧
      (IsLeft names name k → (names.take i).count name ≤ Nat.count (IsLeft names name) k + 1) := by
  rw [FreeAt, h, not_or]
  refine and_congr_right fun _ => ⟨fun hnone hleft => ?_, ?_⟩
  · by_contra hlt
    exact hnone ⟨name, k, rfl, hleft, by omega⟩
  · rintro hle ⟨other, j, heq, hleft, hlt⟩
    obtain ⟨rfl, rfl⟩ := suffixed_inj.1 heq
    have := hle hleft
    omega

/-- a search does not pass the next number that is left -/
theorem Told.count_le (h : Told names i) (hrepeated : name ∈ names.take i)
    (hsearch : Search (FreeAt ((distinctNames names).take i) name) 2 k) :
    Nat.count (IsLeft names name) k + 1 ≤ (names.take i).count name := by
  have hpos : 0 < (names.take i).count name := List.count_pos_iff.2 hrepeated
  by_contra hlt
  obtain ⟨j, hj, hleft, hcount⟩ := @exists_count_eq (IsLeft names name) _ ((names.take i).count name - 1) k (by omega)
  refine hsearch.passed j hleft.1 hj (h.freeAt_iff.2 ⟨fun hmem => hleft.2 (List.mem_of_mem_take hmem), fun _ => ?_⟩)
  omega

/-- if the number that it finds is left, it is the next one -/
theorem Told.count_eq (h : Told names i) (hrepeated : name ∈ names.take i)
    (hsearch : Search (FreeAt ((distinctNames names).take i) name) 2 k) (hleft : IsLeft names name k) :
    Nat.count (IsLeft names name) k + 1 = (names.take i).count name := by
  have hle := h.count_le hrepeated hsearch
  have hge := (h.freeAt_iff.1 hsearch.ends_free).2 hleft
  omega

/-- **What is told up to a place is told after it**, if a repeated name there does not become a name of the list. -/
theorem Told.step (h : Told names i) (hname : names[i]? = some name)
    (hapart : name ∈ names.take i → ∀ given, (distinctNames names)[i]? = some given → given ∉ names) :
    Told names (i + 1) := by
  have hcount : ∀ other, (names.take (i + 1)).count other =
      (names.take i).count other + if name = other then 1 else 0 := fun other => by
    rw [count_take_eq, Nat.count_succ, ← count_take_eq]
    simp only [hname, Option.some.injEq]
  obtain ⟨given, hgiven, hbecomes⟩ := exists_given hname
  have hmem : ∀ m, m ∈ (distinctNames names).take (i + 1) ↔ m ∈ (distinctNames names).take i ∨ m = given := by
    intro m
    rw [List.take_add_one, hgiven]
    simp
  have hmem' : ∀ m, m ∈ names.take (i + 1) ↔ m ∈ names.take i ∨ m = name := by
    intro m
    rw [List.take_add_one, hname]
    simp
  intro m
  rw [hmem, hmem', h m]
  cases hbecomes with
  -- a name that is kept was not in the list before, so it has no repeats yet
  | kept hfree =>
    have hnew : (names.take i).count name = 0 := List.count_eq_zero.2 fun hin => hfree ((h name).2 (Or.inl hin))
    have hsame : ∀ other c, c + 1 < (names.take (i + 1)).count other ↔ c + 1 < (names.take i).count other := by
      intro other c
      rw [hcount]
      split_ifs with hother
      · subst hother
        omega
      · rfl
    simp only [hsame]
    exact or_right_comm
  -- a repeated name gets the next number that is left for it
  | @numbered k htaken hsearch =>
    have hrepeated : name ∈ names.take i := by
      refine ((h name).1 htaken).resolve_right ?_
      rintro ⟨other, j, rfl, hleft, -⟩
      exact hleft.2 (List.mem_of_getElem? hname)
    have hleft : IsLeft names name k := ⟨hsearch.start_le, hapart hrepeated _ hgiven⟩
    have hnext := h.count_eq hrepeated hsearch hleft
    constructor
    · rintro ((hin | ⟨other, j, rfl, hother, hlt⟩) | rfl)
      · exact Or.inl (Or.inl hin)
      · refine Or.inr ⟨other, j, rfl, hother, ?_⟩
        rw [hcount]
        omega
      · refine Or.inr ⟨name, k, rfl, hleft, ?_⟩
        rw [hcount, if_pos rfl]
        omega
    · rintro ((hin | rfl) | ⟨other, j, rfl, hother, hlt⟩)
      · exact Or.inl (Or.inl hin)
      · exact Or.inl (Or.inl hrepeated)
      · rw [hcount] at hlt
        split_ifs at hlt with hsame
        · subst hsame
          rcases Nat.lt_or_ge (Nat.count (IsLeft names name) j + 1) ((names.take i).count name) with hbefore | hlast
          · exact Or.inl (Or.inr ⟨name, j, rfl, hother, hbefore⟩)
          · obtain rfl : j = k := Nat.count_injective hother hleft (by omega)
            exact Or.inr rfl
        · exact Or.inl (Or.inr ⟨other, j, rfl, hother, hlt⟩)

/-- the same at every place, if it is so at each -/
theorem told_of_step (hstep : ∀ i name, names[i]? = some name → Told names i → name ∈ names.take i →
    ∀ given, (distinctNames names)[i]? = some given → given ∉ names) (i : Nat) : Told names i := by
  induction i with
  | zero => simp [Told]
  | succ i ih =>
    cases hname : names[i]? with
    | some name => exact ih.step hname (hstep i name hname ih)
    | none =>
      have hlength : names.length ≤ i := List.getElem?_eq_none_iff.1 hname
      have hlength' : (distinctNames names).length ≤ i := by rwa [length_distinctNames]
      have hsame : Told names i := ih
      rw [Told, List.take_of_length_le hlength, List.take_of_length_le hlength'] at hsame
      rw [Told, List.take_of_length_le (by omega), List.take_of_length_le (by omega)]
      exact hsame

theorem RepeatsApart.told (h : RepeatsApart names (distinctNames names)) (i : Nat) : Told names i :=
  told_of_step (fun i name hname _ hrepeated given hgiven => h i name given hname hrepeated hgiven) i

/-- where repeated names become other names, all names are kept that stand for the first time -/
theorem RepeatsApart.firstsKept (h : RepeatsApart names (distinctNames names)) :
    FirstsKept names (distinctNames names) := by
  intro i name hname hnew
  obtain ⟨given, hgiven, hbecomes⟩ := exists_given hname
  cases hbecomes with
  | kept _ => exact hgiven
  | numbered htaken _ =>
    rcases (h.told i name).1 htaken with hin | ⟨other, k, rfl, hleft, -⟩
    · exact absurd hin hnew
    · exact absurd (List.mem_of_getElem? hname) hleft.2

/-- where enough numbers are left, a repeated name gets one of them -/
theorem NumbersLeft.apart (h : NumbersLeft names) (htold : Told names i) (hname : names[i]? = some name)
    (hrepeated : name ∈ names.take i) (hgiven : (distinctNames names)[i]? = some given) : given ∉ names := by
  obtain ⟨_, hsame, hbecomes⟩ := exists_given hname
  obtain rfl := Option.some.inj (hgiven.symm.trans hsame)
  cases hbecomes with
  | kept hfree => exact absurd ((htold name).2 (Or.inl hrepeated)) hfree
  | @numbered k _ hsearch =>
    -- were it in the list, then after this place, and so there would be a repeat too many before it
    intro hmem
    have hnew : s!"{name}_{k}" ∉ names.take i := (htold.freeAt_iff.1 hsearch.ends_free).1
    have hplace : i < names.idxOf s!"{name}_{k}" := by
      refine Nat.lt_of_le_of_ne (Nat.not_lt.1 (mt (List.mem_take_iff_idxOf_lt hmem).2 hnew)) fun heq => hnew ?_
      have hthere : names[i]? = some s!"{name}_{k}" := by
        rw [heq, List.getElem?_eq_getElem (List.idxOf_lt_length_of_mem hmem), List.getElem_idxOf]
      rwa [← Option.some.inj (hname.symm.trans hthere)]
    have hcount : (names.take i).count name < (names.take (names.idxOf s!"{name}_{k}")).count name := by
      rw [count_take_eq, count_take_eq]
      exact Nat.count_strict_mono hname hplace
    have henough := h name k hsearch.start_le hmem
    have := htold.count_le hrepeated hsearch
    omega

/-- a name of the list with a number would be given to a repeat that is too many before it -/
theorem RepeatsApart.numbersLeft (h : RepeatsApart names (distinctNames names)) : NumbersLeft names := by
  intro name k htwo hmem
  by_contra hmany
  rw [count_take_eq] at hmany
  obtain ⟨i, hi, hname, hcount⟩ := @exists_count_eq (names[·]? = some name) _ (Nat.count (IsLeft names name) k + 1)
    (names.idxOf s!"{name}_{k}") (by omega)
  rw [← count_take_eq] at hcount
  have htold := h.told i
  have hrepeated : name ∈ names.take i := List.count_pos_iff.1 (by omega)
  obtain ⟨given, hgiven, hbecomes⟩ := exists_given hname
  cases hbecomes with
  | kept hfree => exact absurd ((htold name).2 (Or.inl hrepeated)) hfree
  | @numbered k' _ hsearch =>
    have hleft : IsLeft names name k' := ⟨hsearch.start_le, h i name _ hname hrepeated hgiven⟩
    have hnext := htold.count_eq hrepeated hsearch hleft
    have hfree : FreeAt ((distinctNames names).take i) name k := by
      refine htold.freeAt_iff.2 ⟨fun hin => ?_, fun hleft => absurd hmem hleft.2⟩
      exact absurd ((List.mem_take_iff_idxOf_lt hmem).1 hin) (by omega)
    have hle : k' ≤ k := by
      by_contra hpassed
      exact hsearch.passed k htwo (by omega) hfree
    rcases Nat.eq_or_lt_of_le hle with rfl | hlt
    · exact hleft.2 hmem
    · have := Nat.count_strict_mono hleft hlt
      omega

/-- **Names that stand for the first time are kept** exactly if enough numbers are left for the repeats before them. -/
theorem firstsKept_iff : FirstsKept names (distinctNames names) ↔ NumbersLeft names := by
  constructor
  · exact fun h => h.repeatsApart.numbersLeft
  · intro h
    have hapart : RepeatsApart names (distinctNames names) := by
      intro i name given hname hrepeated hgiven
      have htold := told_of_step (fun i name hname htold hrepeated given hgiven => h.apart htold hname hrepeated hgiven) i
      exact h.apart htold hname hrepeated hgiven
    exact hapart.firstsKept

end FirstNames

end ClientPlan
