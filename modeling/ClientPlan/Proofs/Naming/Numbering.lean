/-
Numbers of names. A name that is taken gets a number. The search for it counts up and ends at the first number that is
free; it does not begin at 2, but after the number that the name was given last. No free number is skipped by that, so
the search ends where it would if it began at 2 (`distinctNames_refines`).
-/
import ClientPlan.Proofs.Naming.Distinct

namespace ClientPlan

/-! ## Searches -/

/-- a search that counts up from a number ends at the first one that is free -/
inductive Search (free : Nat → Prop) : (start found : Nat) → Prop
  | found {k : Nat} : free k → Search free k k
  | next {k j : Nat} : ¬ free k → Search free (k + 1) j → Search free k j

namespace Search

variable {free : Nat → Prop} {k j : Nat}

theorem ends_free (h : Search free k j) : free j := by
  induction h with
  | found hk => exact hk
  | next _ _ ih => exact ih

theorem start_le (h : Search free k j) : k ≤ j := by
  induction h with
  | found _ => exact Nat.le_refl _
  | next _ _ ih => exact Nat.le_of_succ_le ih

/-- no number that the search has passed is free -/
theorem passed (h : Search free k j) : ∀ i, k ≤ i → i < j → ¬ free i := by
  induction h with
  | found _ => exact fun i hki hij => absurd hij (Nat.not_lt.2 hki)
  | next hk _ ih =>
    intro i hki hij
    rcases Nat.eq_or_lt_of_le hki with rfl | hlt
    · exact hk
    · exact ih i hlt hij

/-- a search may begin earlier if nothing is free there -/
theorem from_earlier {i : Nat} (h : Search free k j) (hik : i ≤ k) (hnone : ∀ n, i ≤ n → n < k → ¬ free n) :
    Search free i j := by
  obtain ⟨gap, rfl⟩ := Nat.exists_eq_add_of_le hik
  induction gap generalizing i with
  | zero => exact h
  | succ gap ih =>
    have hgap : i + (gap + 1) = i + 1 + gap := by omega
    rw [hgap] at h hnone
    refine .next (hnone i (Nat.le_refl i) (by omega)) (ih h (Nat.le_add_right _ _) fun n hin hn => ?_)
    exact hnone n (Nat.le_of_succ_le hin) hn

/-- a search ends at one number only -/
theorem unique {j' : Nat} (h : Search free k j) (h' : Search free k j') : j = j' := by
  rcases Nat.lt_trichotomy j j' with hlt | heq | hlt
  · exact absurd h.ends_free (h'.passed j h.start_le hlt)
  · exact heq
  · exact absurd h'.ends_free (h.passed j' h'.start_le hlt)

end Search

/-- the bounded search is a search, as long as there is a free number in its reach -/
theorem firstFree_search {free : Nat → Bool} {tries k j : Nat} (hkj : k ≤ j) (hj : j ≤ k + tries)
    (hfree : free j = true) : Search (free · = true) k (firstFree free tries k) := by
  induction tries generalizing k with
  | zero =>
    obtain rfl : j = k := by omega
    exact .found hfree
  | succ tries ih =>
    rw [firstFree]
    split_ifs with hk
    · exact .found hk
    · have hne : k ≠ j := fun h => hk (h ▸ hfree)
      exact .next hk (ih (by omega) (by omega))

/-! ## Names among names that are taken -/

/-- the name with that number is not taken -/
def FreeAt (taken : List String) (name : String) (k : Nat) : Prop :=
  s!"{name}_{k}" ∉ taken

/-- what a name becomes: it stays as it is if it is free, and else gets the first free number from 2 on -/
inductive Becomes (taken : List String) (name : String) : String → Prop
  | kept : name ∉ taken → Becomes taken name name
  | numbered {k : Nat} : name ∈ taken → Search (FreeAt taken name) 2 k → Becomes taken name s!"{name}_{k}"

theorem Becomes.unique {taken : List String} {name given given' : String} (h : Becomes taken name given)
    (h' : Becomes taken name given') : given = given' := by
  cases h with
  | kept hfree =>
    cases h' with
    | kept _ => rfl
    | numbered htaken _ => exact absurd htaken hfree
  | numbered htaken hsearch =>
    cases h' with
    | kept hfree => exact absurd htaken hfree
    | numbered _ hsearch' => rw [hsearch.unique hsearch']

theorem Becomes.of_mem_iff {taken taken' : List String} {name given : String} (h : Becomes taken name given)
    (hmem : ∀ n, n ∈ taken' ↔ n ∈ taken) : Becomes taken' name given := by
  have hfree : FreeAt taken' name = FreeAt taken name := by
    funext k
    exact propext (not_congr (hmem _))
  cases h with
  | kept hnot => exact .kept (mt (hmem _).1 hnot)
  | numbered htaken hsearch => exact .numbered ((hmem _).2 htaken) (hfree ▸ hsearch)

/-- a list of names made distinct without memory: each becomes what it does among those that were given before it -/
structure Numbered (names out : List String) : Prop where
  length_eq : out.length = names.length
  becomes : ∀ i name given, names[i]? = some name → out[i]? = some given → Becomes (out.take i) name given

/-- there is only one way to do so -/
theorem Numbered.unique {names out out' : List String} (h : Numbered names out) (h' : Numbered names out') :
    out = out' := by
  have hstart : ∀ i, i ≤ out.length → out.take i = out'.take i := by
    intro i hi
    induction i with
    | zero => rfl
    | succ i ih =>
      have hlt : i < out.length := hi
      have hlt' : i < out'.length := by rw [h'.length_eq, ← h.length_eq]; exact hlt
      have hname : i < names.length := h.length_eq ▸ hlt
      have hsame := ih (Nat.le_of_succ_le hi)
      have hgiven := h.becomes i _ _ (List.getElem?_eq_getElem hname) (List.getElem?_eq_getElem hlt)
      have hgiven' := h'.becomes i _ _ (List.getElem?_eq_getElem hname) (List.getElem?_eq_getElem hlt')
      rw [← hsame] at hgiven'
      rw [List.take_add_one, List.take_add_one, hsame, List.getElem?_eq_getElem hlt, List.getElem?_eq_getElem hlt',
        hgiven.unique hgiven']
  have hlength : out.length = out'.length := h.length_eq.trans h'.length_eq.symm
  calc out
    _ = out.take out.length := List.take_length.symm
    _ = out'.take out.length := hstart _ (Nat.le_refl _)
    _ = out' := by rw [hlength, List.take_length]

/-! ## Names with memory -/

namespace Distinct

variable (d : Distinct) (name : String)

/-- the number at which the search for a name begins -/
def start : Nat :=
  (Keyed.get? d.next name).getD 2

/-- the memory after a list of names -/
def after (names : List String) : Distinct :=
  names.foldl (fun d name => (d.add name).2) d

/-- every number from 2 on that searches leave out is taken -/
def Tight : Prop :=
  ∀ name, 2 ≤ d.start name ∧ ∀ k, 2 ≤ k → k < d.start name → ¬ FreeAt d.taken name k

theorem tight_empty : Tight {} := by
  intro name
  refine ⟨Nat.le_refl 2, fun k h2 hk => ?_⟩
  have hstart : start {} name = 2 := rfl
  omega

variable {d name}

/-- **A search with memory ends**, and the name gets the number that was found, which is the last one for the name. -/
theorem add_search (htaken : name ∈ d.taken) : ∃ k, Search (FreeAt d.taken name) (d.start name) k ∧
    d.add name = (s!"{name}_{k}", ⟨s!"{name}_{k}" :: d.taken, Keyed.insert d.next name (k + 1)⟩) := by
  obtain ⟨j, hstart, hj, hfree⟩ := exists_free (suffixed_injective name) d.taken (d.start name)
  have hsearch := @firstFree_search (fun i => !d.taken.contains s!"{name}_{i}") d.taken.length (d.start name) j hstart
    hj (by simpa using hfree)
  have hsame : (fun i => (!d.taken.contains s!"{name}_{i}") = true) = FreeAt d.taken name := by
    funext i
    simp [FreeAt]
  rw [hsame] at hsearch
  refine ⟨_, hsearch, ?_⟩
  rw [add, if_pos (by simpa using htaken)]
  rfl

theorem add_free (hfree : name ∉ d.taken) : d.add name = (name, { d with taken := name :: d.taken }) := by
  rw [add, if_neg (by simpa using hfree)]

theorem start_insert {taken : List String} {other : String} {k : Nat} :
    start ⟨taken, Keyed.insert d.next name k⟩ other = if other = name then k else d.start other := by
  rw [start, Keyed.get?_insert]
  split_ifs <;> rfl

/-- what is taken stays taken -/
theorem Tight.add (h : d.Tight) (name : String) : (d.add name).2.Tight := by
  intro other
  by_cases htaken : name ∈ d.taken
  · obtain ⟨k, hsearch, hadd⟩ := d.add_search htaken
    have hstays : ∀ i, ¬ FreeAt d.taken other i → ¬ FreeAt (s!"{name}_{k}" :: d.taken) other i := fun i hi hfree =>
      hi fun hmem => hfree (List.mem_cons_of_mem _ hmem)
    rw [hadd]
    dsimp only
    rw [start_insert]
    split_ifs with hother
    -- the numbers before the one that was found are taken, be it since earlier searches or since this one
    · subst hother
      have hle := hsearch.start_le
      refine ⟨by have := (h other).1; omega, fun i h2 hi => ?_⟩
      rcases Nat.lt_or_ge i (d.start other) with hlt | hge
      · exact hstays i ((h other).2 i h2 hlt)
      · rcases Nat.eq_or_lt_of_le (Nat.le_of_lt_succ hi) with rfl | hlt
        · exact fun hfree => hfree List.mem_cons_self
        · exact hstays i (hsearch.passed i hge hlt)
    · exact ⟨(h other).1, fun i h2 hi => hstays i ((h other).2 i h2 hi)⟩
  · rw [d.add_free htaken]
    exact ⟨(h other).1, fun i h2 hi hfree => (h other).2 i h2 hi fun hmem => hfree (List.mem_cons_of_mem _ hmem)⟩

theorem Tight.after (h : d.Tight) (names : List String) : (d.after names).Tight := by
  induction names generalizing d with
  | nil => exact h
  | cons name names ih => exact ih (h.add name)

/-- **The memory skips no free number.** -/
theorem Tight.add_becomes (h : d.Tight) (name : String) : Becomes d.taken name (d.add name).1 := by
  by_cases htaken : name ∈ d.taken
  · obtain ⟨k, hsearch, hadd⟩ := d.add_search htaken
    rw [hadd]
    exact .numbered htaken (hsearch.from_earlier (h name).1 (h name).2)
  · rw [d.add_free htaken]
    exact .kept htaken

/-! ## Positions -/

variable (d)

theorem addAll_getElem? (names : List String) (i : Nat) :
    (d.addAll names)[i]? = (names[i]?).map fun name => ((d.after (names.take i)).add name).1 := by
  induction names generalizing d i with
  | nil => rfl
  | cons name names ih =>
    cases i with
    | zero => rfl
    | succ i => exact ih (d.add name).2 i

theorem take_addAll (names : List String) (i : Nat) : (d.addAll names).take i = d.addAll (names.take i) := by
  induction names generalizing d i with
  | nil => simp [addAll]
  | cons name names ih =>
    cases i with
    | zero => rfl
    | succ i => exact congrArg (_ :: ·) (ih (d.add name).2 i)

/-- all names that were given are taken -/
theorem taken_after (names : List String) : (d.after names).taken = (d.addAll names).reverse ++ d.taken := by
  induction names generalizing d with
  | nil => rfl
  | cons name names ih =>
    rw [addAll, List.reverse_cons, List.append_assoc, List.singleton_append, ← d.add_spec name |>.2]
    exact ih (d.add name).2

end Distinct

section DistinctNames

variable (names : List String)

theorem mem_taken_after (i : Nat) (n : String) :
    n ∈ (Distinct.after {} (names.take i)).taken ↔ n ∈ (distinctNames names).take i := by
  rw [Distinct.taken_after, distinctNames, Distinct.take_addAll]
  simp

/-- names made distinct with memory are names made distinct without -/
theorem distinctNames_numbered : Numbered names (distinctNames names) where
  length_eq := length_distinctNames names
  becomes i name given hname hgiven := by
    have htight := Distinct.tight_empty.after (names.take i)
    rw [distinctNames, Distinct.addAll_getElem?, hname, Option.map_some] at hgiven
    rw [← Option.some.inj hgiven]
    exact (htight.add_becomes name).of_mem_iff fun n => (mem_taken_after names i n).symm

/-- **Names made distinct.** There are as many as before and no two are equal. They are the one list in which each name
stays as it is if it was not given before it, and else gets the first number from 2 on with which it was not. Where a
name gets a number, the search that begins after its last one ends there. -/
theorem distinctNames_refines :
    (distinctNames names).Nodup ∧ (∀ out, out = distinctNames names ↔ Numbered names out) ∧
      ∀ i name, names[i]? = some name → name ∈ (distinctNames names).take i →
        ∃ k, Search (FreeAt ((distinctNames names).take i) name) ((Distinct.after {} (names.take i)).start name) k ∧
          (distinctNames names)[i]? = some s!"{name}_{k}" := by
  refine ⟨nodup_distinctNames names, fun out => ⟨?_, fun h => h.unique (distinctNames_numbered names)⟩, ?_⟩
  · rintro rfl
    exact distinctNames_numbered names
  · intro i name hname htaken
    obtain ⟨k, hsearch, hadd⟩ := Distinct.add_search ((mem_taken_after names i name).2 htaken)
    have hfree : FreeAt (Distinct.after {} (names.take i)).taken name = FreeAt ((distinctNames names).take i) name := by
      funext j
      exact propext (not_congr (mem_taken_after names i _))
    refine ⟨k, hfree ▸ hsearch, ?_⟩
    rw [distinctNames, Distinct.addAll_getElem?, hname, Option.map_some, hadd]

/-- a number that is taken by a name of the list itself is skipped -/
theorem distinctNames_refines_skip :
    Numbered ["pet_2", "pet", "pet"] ["pet_2", "pet", "pet_3"] ∧
      ∃ k, Search (FreeAt ["pet_2", "pet"] "pet") 2 k ∧ "pet_3" = s!"pet_{k}" := by
  obtain ⟨-, hnumbered, hsearch⟩ := distinctNames_refines ["pet_2", "pet", "pet"]
  refine ⟨(hnumbered _).1 (by decide), ?_⟩
  obtain ⟨k, hk, hgiven⟩ := hsearch 2 "pet" rfl (by decide)
  exact ⟨k, hk, Option.some.inj hgiven⟩

end DistinctNames

end ClientPlan
