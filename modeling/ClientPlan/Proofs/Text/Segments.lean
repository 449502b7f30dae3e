/-
Cutting and joining. The pieces of a text are free of the separator, and joining undoes cutting; texts that are free of
the separator come back when they were joined.
-/
import Mathlib.Data.List.Basic
import ClientPlan.Text.Cut

namespace ClientPlan.Text

variable {sep : Char} {s : String} {ss : List String}

theorem cut_eq_splitOnP {α : Type} (sep : α → Bool) (cs : List α) : cut sep cs = cs.splitOnP sep := by
  induction cs with
  | nil => simp [cut]
  | cons c cs ih =>
    obtain ⟨piece, pieces, h⟩ := List.exists_cons_of_ne_nil (cut_ne_nil sep cs)
    rw [List.splitOnP_cons_eq_if_modifyHead, ← ih, cut, h]
    rfl

theorem cut_of_free {α : Type} {sep : α → Bool} {cs : List α} (h : ∀ c ∈ cs, sep c = false) : cut sep cs = [cs] := by
  rw [cut_eq_splitOnP]
  exact List.splitOnP_eq_singleton (by simpa using h)

theorem flatten_cut {α : Type} (sep : α → Bool) (cs : List α) : (cut sep cs).flatten = cs.filter (!sep ·) := by
  induction cs with
  | nil => rfl
  | cons c cs ih =>
    obtain ⟨piece, rest, h⟩ := List.exists_cons_of_ne_nil (cut_ne_nil sep cs)
    rw [h] at ih
    rw [cut, h]
    by_cases hc : sep c = true
    · simpa [hc] using ih
    · simpa [hc] using ih

theorem pieces_ne_nil (sep : Char) (s : String) : pieces sep s ≠ [] :=
  fun h => cut_ne_nil _ _ (List.map_eq_nil_iff.1 h)

/-- the pieces of a list consist of its elements that separate nothing -/
theorem mem_of_mem_cut {α : Type} {sep : α → Bool} {cs : List α} :
    ∀ p ∈ cut sep cs, ∀ c ∈ p, c ∈ cs ∧ sep c = false := by
  induction cs with
  | nil => simp [cut]
  | cons c cs ih =>
    obtain ⟨piece, rest, h⟩ := List.exists_cons_of_ne_nil (cut_ne_nil sep cs)
    rw [h] at ih
    rw [cut, h]
    by_cases hc : sep c
    · grind
    · grind

/-- a piece is free of what separates the pieces -/
theorem notMem_of_mem_pieces {p : String} (hp : p ∈ pieces sep s) : sep ∉ p.toList := by
  obtain ⟨cs, hcs, rfl⟩ := List.mem_map.1 hp
  rw [String.toList_ofList]
  intro hsep
  simpa using (mem_of_mem_cut cs hcs sep hsep).2

/-- a piece consists of characters of the text -/
theorem mem_of_mem_pieces {p : String} (hp : p ∈ pieces sep s) {c : Char} (hc : c ∈ p.toList) : c ∈ s.toList := by
  obtain ⟨cs, hcs, rfl⟩ := List.mem_map.1 hp
  rw [String.toList_ofList] at hc
  exact (mem_of_mem_cut cs hcs c hc).1

theorem join_pieces (sep : Char) (s : String) : join (String.ofList [sep]) (pieces sep s) = s := by
  have hlists : (pieces sep s).map String.toList = cut (· == sep) s.toList := by simp [pieces]
  apply String.toList_inj.1
  rw [join, String.toList_intercalate, hlists, String.toList_ofList, intercalate_cut]

theorem mem_intercalate {sep : Char} {ws : List (List Char)} {x : Char} (h : x ∈ [sep].intercalate ws) :
    x = sep ∨ ∃ w ∈ ws, x ∈ w := by
  induction ws with
  | nil => simp at h
  | cons w ws ih =>
    cases ws with
    | nil => exact Or.inr ⟨w, List.mem_cons_self, by simpa using h⟩
    | cons v ws =>
      rw [List.intercalate_cons_of_ne_nil (List.cons_ne_nil _ _)] at h
      grind

/-- what can be joined so that it comes back: there is a part, and no part is empty or has the separator in it -/
def Joinable (sep : Char) (ws : List (List Char)) : Prop :=
  ws ≠ [] ∧ ∀ w ∈ ws, w ≠ [] ∧ sep ∉ w

section Joinable

variable {ws vs : List (List Char)}

theorem Joinable.eq_of_intercalate (hws : Joinable sep ws) (hvs : Joinable sep vs)
    (h : [sep].intercalate ws = [sep].intercalate vs) : ws = vs := by
  have hsplit := congrArg (List.splitOn sep) h
  rwa [List.splitOn_intercalate sep (fun w hw => (hws.2 w hw).2) hws.1,
    List.splitOn_intercalate sep (fun v hv => (hvs.2 v hv).2) hvs.1] at hsplit

/-- a joined text does not begin with the separator -/
theorem Joinable.exists_cons (hws : Joinable sep ws) : ∃ c cs, [sep].intercalate ws = c :: cs ∧ c ≠ sep := by
  obtain ⟨hne, hall⟩ := hws
  obtain ⟨w, ws, rfl⟩ := List.exists_cons_of_ne_nil hne
  obtain ⟨hw, hfree⟩ := hall w List.mem_cons_self
  obtain ⟨c, w, rfl⟩ := List.exists_cons_of_ne_nil hw
  have hc : c ≠ sep := fun heq => hfree (heq ▸ List.mem_cons_self)
  cases ws with
  | nil => exact ⟨c, w, by simp, hc⟩
  | cons v ws => exact ⟨c, _, by rw [List.intercalate_cons_of_ne_nil (List.cons_ne_nil v ws)]; rfl, hc⟩

/-- a joined text does not end with the separator -/
theorem Joinable.getLast?_ne (hws : Joinable sep ws) : ([sep].intercalate ws).getLast? ≠ some sep := by
  obtain ⟨hne, hall⟩ := hws
  induction ws with
  | nil => exact absurd rfl hne
  | cons w ws ih =>
    cases ws with
    | nil =>
      intro hlast
      exact (hall w List.mem_cons_self).2 (List.mem_of_getLast? (by simpa using hlast))
    | cons v ws =>
      have hrest : Joinable sep (v :: ws) :=
        ⟨List.cons_ne_nil v ws, fun u hu => hall u (List.mem_cons_of_mem w hu)⟩
      obtain ⟨c, cs, hcs, -⟩ := hrest.exists_cons
      have hlast := ih hrest.1 hrest.2
      rw [List.intercalate_cons_of_ne_nil hrest.1]
      rw [hcs] at hlast ⊢
      rwa [List.getLast?_append_cons]

end Joinable

/-- a joined text consists of the separator and of the texts -/
theorem mem_join {c : Char} (h : c ∈ (join (String.ofList [sep]) ss).toList) : c = sep ∨ ∃ s ∈ ss, c ∈ s.toList := by
  rw [join, String.toList_intercalate, String.toList_ofList] at h
  simpa using mem_intercalate h

theorem pieces_join (hss : ∀ s ∈ ss, sep ∉ s.toList) (hne : ss ≠ []) :
    pieces sep (join (String.ofList [sep]) ss) = ss := by
  have hfree : ∀ cs ∈ ss.map String.toList, sep ∉ cs := by
    intro cs hcs
    obtain ⟨s, hs, rfl⟩ := List.mem_map.1 hcs
    exact hss s hs
  have hcut : cut (· == sep) (join (String.ofList [sep]) ss).toList = ss.map String.toList := by
    rw [cut_eq_splitOnP, join, String.toList_intercalate, String.toList_ofList]
    exact List.splitOn_intercalate sep hfree (by simpa using hne)
  rw [pieces, hcut, List.map_map]
  simp

/-- texts that are joined after the same texts can be told apart -/
theorem join_concat_injective {sep s t : String} (h : join sep (ss ++ [s]) = join sep (ss ++ [t])) : s = t := by
  by_cases hss : ss = []
  · simpa [join, hss] using h
  · rw [join, join, String.intercalate_append_of_ne_nil hss (List.cons_ne_nil s []),
      String.intercalate_append_of_ne_nil hss (List.cons_ne_nil t [])] at h
    simpa using h

/-- a text with a separator in it has the pieces before and the pieces after that separator -/
theorem pieces_append (sep : Char) (s t : String) :
    pieces sep (s ++ String.ofList [sep] ++ t) = pieces sep s ++ pieces sep t := by
  have hlist : (s ++ String.ofList [sep] ++ t).toList = s.toList ++ sep :: t.toList := by simp
  rw [pieces, hlist, cut_eq_splitOnP, List.splitOnP_append_cons _ _ (by simp), List.map_append, ← cut_eq_splitOnP,
    ← cut_eq_splitOnP]
  rfl

theorem pieces_of_free (h : sep ∉ s.toList) : pieces sep s = [s] := by
  have hjoin : join (String.ofList [sep]) [s] = s := by simp [join]
  have hpieces := pieces_join (by simpa using h) (List.cons_ne_nil s [])
  rwa [hjoin] at hpieces

theorem segments_join (hss : ∀ s ∈ ss, s ≠ "" ∧ sep ∉ s.toList) :
    segments sep (join (String.ofList [sep]) ss) = ss := by
  have hall : ss.filter (· ≠ "") = ss := List.filter_eq_self.2 fun s hs => decide_eq_true (hss s hs).1
  cases ss with
  | nil => rfl
  | cons s ss => rw [segments, pieces_join (fun s hs => (hss s hs).2) (List.cons_ne_nil _ _), hall]

end ClientPlan.Text
