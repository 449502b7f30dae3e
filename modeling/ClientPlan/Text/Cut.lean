/-
Cutting a text at its separators. `n` separators give `n + 1` pieces, so an empty text is one empty piece, and joining
the pieces with the separator gives the text back.
-/
namespace ClientPlan.Text

/-- the pieces between the characters that `sep` picks -/
def cut {α : Type} (sep : α → Bool) : List α → List (List α)
  | [] => [[]]
  | c :: cs =>
    if sep c then [] :: cut sep cs
    else match cut sep cs with
      | [] => [[c]]
      | piece :: pieces => (c :: piece) :: pieces

theorem cut_ne_nil {α : Type} (sep : α → Bool) (cs : List α) : cut sep cs ≠ [] := by
  fun_cases cut sep cs <;> simp

/-- the pieces with the separator between them are the text -/
theorem intercalate_cut (sep : Char) (cs : List Char) : [sep].intercalate (cut (· == sep) cs) = cs := by
  induction cs with
  | nil => rfl
  | cons c cs ih =>
    rw [cut]
    obtain ⟨piece, rest, h⟩ := List.exists_cons_of_ne_nil (cut_ne_nil (· == sep) cs)
    rw [h] at ih ⊢
    by_cases hc : c = sep
    · simp [hc, List.intercalate, ← ih]
    · cases rest <;> simp [hc, List.intercalate, List.intersperse, ← ih]

/-- the pieces of `s` between the characters `sep` -/
def pieces (sep : Char) (s : String) : List String :=
  (cut (· == sep) s.toList).map String.ofList

/-- the pieces of `s` between the characters `sep` that are not empty -/
def segments (sep : Char) (s : String) : List String :=
  (pieces sep s).filter (· ≠ "")

/-- the texts one after the other with `sep` between them -/
def join (sep : String) (ss : List String) : String :=
  sep.intercalate ss

/-- what follows `start` in `s`, if `s` begins with it -/
def afterStart? (start s : String) : Option String :=
  go start.toList s.toList
where
  /-- character by character -/
  go : List Char → List Char → Option String
    | [], rest => some (String.ofList rest)
    | _ :: _, [] => none
    | a :: as, b :: bs => if a = b then go as bs else none

theorem afterStart?_eq_some_iff {start s rest : String} : afterStart? start s = some rest ↔ s = start ++ rest := by
  have hgo : ∀ as bs : List Char, afterStart?.go as bs = some rest ↔ bs = as ++ rest.toList := by
    intro as bs
    fun_induction afterStart?.go as bs with
    | case1 bs => rw [Option.some.injEq, List.nil_append, ← String.toList_inj, String.toList_ofList]
    | case2 a as => simp
    | case3 as b bs ih => simpa using ih
    | case4 a as b bs hne => simpa using fun h => absurd h.symm hne
  rw [afterStart?, hgo, ← String.toList_inj, String.toList_append]

/-- what precedes `ending` in `s`, if `s` ends with it -/
def beforeEnd? (ending s : String) : Option String :=
  (afterStart? (String.ofList ending.toList.reverse) (String.ofList s.toList.reverse)).map
    fun t => String.ofList t.toList.reverse

end ClientPlan.Text
