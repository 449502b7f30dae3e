/-
Names made distinct. Each name of the result is free when it is given, so the result has no repeats; a name that was
taken differs from what was wanted by an underscore and a number, so the result is made of segments if the names are.
-/
import ClientPlan.Proofs.Naming.Fresh
import ClientPlan.Proofs.Naming.Identifier

namespace ClientPlan

theorem toList_suffixed (name : String) (k : Nat) : (s!"{name}_{k}").toList = name.toList ++ '_' :: Nat.toDigits 10 k := by
  change (name ++ "_" ++ Nat.repr k).toList = _
  simp

theorem isDigit_of_mem_digits {k : Nat} {c : Char} (hc : c ∈ Nat.toDigits 10 k) : c.isDigit = true :=
  Nat.isDigit_of_mem_toDigits (by decide) (by decide) hc

/-- a name with a number after it tells the name: what follows the last underscore is the number -/
theorem suffixed_prefix {name other : String} {k j : Nat} (h : s!"{name}_{k}" = s!"{other}_{j}") : name = other := by
  have hlist := congrArg String.toList h
  rw [toList_suffixed, toList_suffixed] at hlist
  have hnone : ∀ n, '_' ∉ Nat.toDigits 10 n := fun n hmem => absurd (isDigit_of_mem_digits hmem) (by decide)
  apply String.toList_inj.1
  rcases List.append_eq_append_iff.1 hlist with ⟨between, heq, hrest⟩ | ⟨between, heq, hrest⟩
  · cases between with
    | nil => simpa using heq.symm
    | cons c between => exact absurd (List.mem_append_right _ List.mem_cons_self) ((List.cons.inj hrest).2 ▸ hnone k)
  · cases between with
    | nil => simpa using heq
    | cons c between => exact absurd (List.mem_append_right _ List.mem_cons_self) ((List.cons.inj hrest).2 ▸ hnone j)

/-- a name with a number after it tells its number -/
theorem suffixed_injective (name : String) : Function.Injective fun k : Nat => s!"{name}_{k}" :=
  numbered_injective (name ++ "_")

theorem suffixed_inj {name other : String} {k j : Nat} :
    s!"{name}_{k}" = s!"{other}_{j}" ↔ name = other ∧ k = j := by
  constructor
  · intro h
    obtain rfl := suffixed_prefix h
    exact ⟨rfl, suffixed_injective name h⟩
  · rintro ⟨rfl, rfl⟩
    rfl

namespace Distinct

variable (d : Distinct) (name : String)

/-- the name that is given was free, and is taken from then on -/
theorem add_spec : (d.add name).1 ∉ d.taken ∧ (d.add name).2.taken = (d.add name).1 :: d.taken := by
  unfold add
  split_ifs with h
  · refine ⟨?_, rfl⟩
    let start := (Keyed.get? d.next name).getD 2
    obtain ⟨j, hstart, hj, hfree⟩ := exists_free (suffixed_injective name) d.taken start
    have hfound := @firstFree_spec (fun i => !d.taken.contains s!"{name}_{i}") d.taken.length start j hstart hj
      (by simpa using hfree)
    simpa using hfound
  · exact ⟨by simpa using h, rfl⟩

/-- the name that is given is the wanted one, or has a number after it -/
theorem add_form : (d.add name).1 = name ∨ ∃ k : Nat, (d.add name).1 = s!"{name}_{k}" := by
  unfold add
  split_ifs with h
  · exact Or.inr ⟨_, rfl⟩
  · exact Or.inl rfl

variable (names : List String)

theorem length_addAll : (d.addAll names).length = names.length := by
  induction names generalizing d with
  | nil => rfl
  | cons name names ih => rw [addAll, List.length_cons, ih, List.length_cons]

theorem addAll_fresh : (d.addAll names).Nodup ∧ ∀ n ∈ d.addAll names, n ∉ d.taken := by
  induction names generalizing d with
  | nil => exact ⟨List.nodup_nil, by simp [addAll]⟩
  | cons name names ih =>
    obtain ⟨hfree, htaken⟩ := d.add_spec name
    obtain ⟨hnodup, hrest⟩ := ih (d.add name).2
    rw [htaken] at hrest
    refine ⟨List.nodup_cons.2 ⟨fun h => hrest _ h List.mem_cons_self, hnodup⟩, fun n hn => ?_⟩
    rcases List.mem_cons.1 hn with rfl | hn
    · exact hfree
    · exact fun h => hrest n hn (List.mem_cons_of_mem _ h)

theorem addAll_form {n : String} (hn : n ∈ d.addAll names) :
    ∃ name ∈ names, n = name ∨ ∃ k : Nat, n = s!"{name}_{k}" := by
  induction names generalizing d with
  | nil => cases hn
  | cons name names ih =>
    rcases List.mem_cons.1 hn with rfl | hn
    · exact ⟨name, List.mem_cons_self, d.add_form name⟩
    · obtain ⟨other, hmem, hform⟩ := ih _ hn
      exact ⟨other, List.mem_cons_of_mem _ hmem, hform⟩

end Distinct

section DistinctNames

variable (names : List String)

theorem length_distinctNames : (distinctNames names).length = names.length :=
  Distinct.length_addAll _ _

theorem nodup_distinctNames : (distinctNames names).Nodup :=
  (Distinct.addAll_fresh _ _).1

/-- a number after a segment makes another segment -/
theorem IsSegment.suffixed {name : String} (h : IsSegment name) (k : Nat) : IsSegment s!"{name}_{k}" := by
  have hlist := toList_suffixed name k
  have hmark : ∀ c : Char, c.isDigit = false → c ≠ '_' → c ∉ name.toList → c ∉ (s!"{name}_{k}").toList := by
    intro c hc hunderscore hname hmem
    rw [hlist, List.mem_append, List.mem_cons] at hmem
    rcases hmem with hmem | hmem | hmem
    · exact hname hmem
    · exact hunderscore hmem
    · exact absurd (isDigit_of_mem_digits hmem) (by simp [hc])
  refine ⟨fun hempty => ?_, hmark _ rfl (by decide) h.2.1, hmark _ rfl (by decide) h.2.2⟩
  rw [hempty] at hlist
  simp at hlist

theorem distinctNames_isSegment (h : ∀ name ∈ names, IsSegment name) : ∀ n ∈ distinctNames names, IsSegment n := by
  intro n hn
  obtain ⟨name, hname, rfl | ⟨k, rfl⟩⟩ := Distinct.addAll_form _ _ hn
  · exact h _ hname
  · exact (h _ hname).suffixed k

end DistinctNames

end ClientPlan
