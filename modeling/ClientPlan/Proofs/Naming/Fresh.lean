/-
Free names exist: among as many numbers as there are taken names, and one more, one gives a free name, and the search
stops at the first such number. So a claimed name was not taken before.
-/
import Mathlib.Data.List.Nodup
import Mathlib.Data.List.Perm.Subperm
import Std.Data.String.ToNat
import ClientPlan.Naming.Fresh

namespace ClientPlan

/-- a numbered name tells its number -/
theorem numbered_injective (base : String) : Function.Injective fun k : Nat => base ++ toString k := by
  intro a b h
  have hl : base.toList ++ (Nat.repr a).toList = base.toList ++ (Nat.repr b).toList := by
    simpa only [String.toList_append, Nat.toString_eq_repr] using congrArg String.toList h
  exact Nat.repr_injective (String.toList_inj.1 (List.append_cancel_left hl))

/-- some number of the first `taken.length + 1` ones gives a name that is not taken -/
theorem exists_free {names : Nat → String} (hinj : Function.Injective names) (taken : List String) (k : Nat) :
    ∃ j, k ≤ j ∧ j ≤ k + taken.length ∧ names j ∉ taken := by
  by_contra hnone
  have hall : ∀ i, i < taken.length + 1 → names (k + i) ∈ taken := fun i hi => by
    by_contra hfree
    exact hnone ⟨k + i, by omega, by omega, hfree⟩
  have hnodup : ((List.range (taken.length + 1)).map fun i => names (k + i)).Nodup :=
    List.Nodup.map (fun a b h => Nat.add_left_cancel (hinj h)) List.nodup_range
  have hsub : ((List.range (taken.length + 1)).map fun i => names (k + i)) ⊆ taken := by
    intro s hs
    obtain ⟨i, hi, rfl⟩ := List.mem_map.1 hs
    exact hall i (List.mem_range.1 hi)
  have hlen := (List.subperm_of_subset hnodup hsub).length_le
  simp only [List.length_map, List.length_range] at hlen
  omega

/-- the search ends at a free number if there is one in its reach -/
theorem firstFree_spec {free : Nat → Bool} {tries k j : Nat} (hkj : k ≤ j) (hj : j ≤ k + tries)
    (hfree : free j = true) :
    free (firstFree free tries k) = true := by
  induction tries generalizing k with
  | zero =>
    have hk : j = k := by omega
    rwa [firstFree, ← hk]
  | succ tries ih =>
    rw [firstFree]
    split_ifs with hk
    · exact hk
    · have hne : k ≠ j := fun h => hk (h ▸ hfree)
      exact ih (by omega) (by omega)

/-- a fresh name is not taken -/
theorem freshName_notMem (taken : List String) (base : String) : freshName taken base ∉ taken := by
  unfold freshName
  split_ifs with hbase
  · obtain ⟨j, h2, hj, hfree⟩ := exists_free (numbered_injective base) taken 2
    have hfound := @firstFree_spec (fun k => !taken.contains (base ++ toString k)) taken.length 2 j h2 hj
      (by simpa using hfree)
    simpa using hfound
  · simpa using hbase

namespace ClaimedNames

/-- a claimed name was not given away before -/
theorem claim_fresh (claimed : ClaimedNames) (base : String) : (claimed.claim base).1 ∉ claimed.names :=
  freshName_notMem _ _

@[simp] theorem names_claim (claimed : ClaimedNames) (base : String) :
    (claimed.claim base).2.names = (claimed.claim base).1 :: claimed.names :=
  rfl

/-- reserving gives away each component's name, as written and as a type name -/
theorem mem_foldl_reserve {names : List String} {claimed : ClaimedNames} {name : String} :
    name ∈ (names.foldl reserve claimed).names ↔
      name ∈ claimed.names ∨ ∃ c ∈ names, name = c ∨ name = typeName c := by
  induction names generalizing claimed with
  | nil => simp
  | cons c names ih =>
    rw [List.foldl_cons, ih]
    simp only [reserve, List.mem_cons, exists_eq_or_imp]
    grind

end ClaimedNames

end ClientPlan
