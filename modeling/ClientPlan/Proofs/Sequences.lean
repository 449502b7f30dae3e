/-
Lists and chains: lists that are related element by element, lists without repeats that are made by keeping the first of
equal elements, and chains of steps where each element has at most one step, as references that are followed one after
the other.
-/
import Mathlib.Data.List.Forall2
import Mathlib.Logic.Relation

namespace ClientPlan

/-! ## Related lists -/

section Related

variable {α β : Type} {R : α → β → Prop} {xs : List α} {ys : List β}

theorem exists_left_of_forall₂ (h : List.Forall₂ R xs ys) {y : β} (hy : y ∈ ys) : ∃ x ∈ xs, R x y := by
  induction h with
  | nil => cases hy
  | @cons x y' xs ys hxy _ ih =>
    rcases List.mem_cons.1 hy with rfl | hy
    · exact ⟨x, List.mem_cons_self, hxy⟩
    · obtain ⟨x', hx', hR⟩ := ih hy
      exact ⟨x', List.mem_cons_of_mem _ hx', hR⟩

/-- changing an element together with its partner changes no other pair -/
theorem forall₂_modify (h : List.Forall₂ R xs ys) {i : Nat} {y : β} (hy : ys[i]? = some y) :
    ∃ x, R x y ∧ ∀ {g y'}, R (g x) y' → List.Forall₂ R (xs.modify i g) (ys.set i y') := by
  induction h generalizing i with
  | nil => cases hy
  | @cons x y' xs ys hxy hrest ih =>
    cases i with
    | zero =>
      obtain rfl := Option.some.inj hy
      exact ⟨x, hxy, fun hb => .cons hb hrest⟩
    | succ i =>
      obtain ⟨x', hx', hset⟩ := ih hy
      exact ⟨x', hx', fun hb => .cons hxy (hset hb)⟩

end Related

/-! ## Lists without repeats -/

section Repeats

variable {α : Type} [BEq α] [LawfulBEq α]

theorem nodup_eraseDups (xs : List α) : xs.eraseDups.Nodup := by
  match xs with
  | [] => exact .nil
  | x :: xs =>
    rw [List.eraseDups_cons, List.nodup_cons]
    exact ⟨by simp [List.mem_eraseDups], nodup_eraseDups _⟩
termination_by xs.length
decreasing_by exact Nat.lt_succ_of_le (List.length_filter_le _ xs)

/-- adding elements one by one adds just these -/
theorem mem_foldl_addNew {xs added : List α} {a : α} :
    a ∈ added.foldl (fun xs x => if xs.contains x then xs else xs ++ [x]) xs ↔ a ∈ xs ∨ a ∈ added := by
  induction added generalizing xs with
  | nil => simp
  | cons x added ih =>
    rw [List.foldl_cons, ih]
    by_cases hx : x ∈ xs
    · have hmem : xs.contains x = true := by simpa using hx
      rw [if_pos hmem, List.mem_cons]
      constructor
      · exact fun h => h.imp_right Or.inr
      · rintro (h | rfl | h)
        · exact Or.inl h
        · exact Or.inl hx
        · exact Or.inr h
    · have hnot : ¬ xs.contains x = true := by simpa using hx
      rw [if_neg hnot, List.mem_append, List.mem_singleton, List.mem_cons, or_assoc]

end Repeats

/-! ## Chains -/

section Chains

open Relation

variable {α : Type} {r : α → α → Prop} {a b c : α}

/-- what leads to an end does not stand on a circle -/
theorem not_circle_of_end (hr : Relator.RightUnique r) (hab : ReflTransGen r a b) (hend : ∀ c, ¬ r b c) :
    ¬ TransGen r a a := by
  induction hab using ReflTransGen.head_induction_on with
  | refl =>
    intro hcircle
    obtain ⟨c, hstep, -⟩ := TransGen.head'_iff.1 hcircle
    exact hend c hstep
  | head hstep _ ih =>
    intro hcircle
    obtain ⟨next, hnext, hback⟩ := TransGen.head'_iff.1 hcircle
    obtain rfl := hr hnext hstep
    exact ih (TransGen.tail' hback hstep)

/-- from an element on the way, a chain goes on to the same end -/
theorem end_of_reached (hr : Relator.RightUnique r) (hab : ReflTransGen r a b) (hend : ∀ c, ¬ r b c)
    (hac : ReflTransGen r a c) : ReflTransGen r c b := by
  rcases ReflTransGen.total_of_right_unique hr hab hac with hbc | hcb
  · rcases ReflTransGen.cases_head hbc with rfl | ⟨d, hstep, -⟩
    · exact .refl
    · exact absurd hstep (hend d)
  · exact hcb

end Chains

end ClientPlan
