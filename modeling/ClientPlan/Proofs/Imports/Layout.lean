/-
The layout of a block: a line for each printed module, with its symbols in order, first for modules outside the tree and
then for those inside. The block is the text of its layout (`blockOf_eq`), in which nothing that was asked for is lost
and nothing stands twice (`symbols_layoutOf`).
-/
import Mathlib.Data.List.Sort
import Mathlib.Data.List.Perm.Basic
import Mathlib.Data.Prod.Lex
import Mathlib.Data.String.Basic
import Mathlib.Data.Sum.Order
import Mathlib.Order.WithBot
import ClientPlan.Imports.Block
import ClientPlan.Proofs.Sequences

namespace ClientPlan.Imports

/-- a line of a block: a module as it is written there, and what is imported from it -/
structure Row where
  module : String
  symbols : List Requirement
  deriving DecidableEq, Repr

def Row.text (row : Row) : String :=
  "from " ++ row.module ++ " import " ++ Text.join ", " (row.symbols.map Requirement.text)

/-- the lines of a block -/
structure Layout where
  /-- for modules outside the tree -/
  outside : List Row
  /-- for modules of the tree -/
  inside : List Row
  deriving DecidableEq, Repr

/-- both groups of lines, with an empty line between them if there are both -/
def Layout.text (l : Layout) : String :=
  Text.join "\n" (l.outside.map Row.text) ++ (if l.outside ≠ [] ∧ l.inside ≠ [] then "\n\n" else "") ++
    Text.join "\n" (l.inside.map Row.text)

/-! ## Orders -/

/-- the alias of a symbol, where none comes before all others -/
def Requirement.rank (r : Requirement) : WithBot String :=
  r.localName

/-- the place of a symbol in its line: by the symbol, and then by the alias -/
def Requirement.key (r : Requirement) : String ×ₗ WithBot String :=
  toLex (r.symbol, r.rank)

/-- the place of a relative path: by the dots that it begins with, and then by what follows them -/
def climbKey (module : String) : Nat ×ₗ String :=
  toLex (relativeDepth module, String.ofList (module.toList.drop (relativeDepth module)))

/-- a printed module as a relative path is -/
def Printed.relative (module : String) : Printed :=
  .inside (relativeDepth module) (String.ofList (module.toList.drop (relativeDepth module)))

/-- the place of a printed module: modules outside the tree come first -/
def Printed.key : Printed → String ⊕ₗ (Nat ×ₗ String)
  | outside module => toLex (.inl module)
  | inside depth suffix => toLex (.inr (toLex (depth, suffix)))

theorem Printed.le_iff (a b : Printed) : a.le b = true ↔ a.key ≤ b.key := by
  cases a <;> cases b <;> simp [Printed.le, Printed.key, Prod.Lex.toLex_le_toLex]

theorem Printed.key_injective : Function.Injective Printed.key := by
  intro a b h
  cases a <;> cases b <;> simp_all [Printed.key]

theorem Requirement.rank_le_iff (a b : Requirement) :
    a.rank ≤ b.rank ↔ ∀ x, a.localName = some x → ∃ y, b.localName = some y ∧ x ≤ y :=
  WithBot.le_iff_forall

theorem Requirement.le_iff (a b : Requirement) : a.le b = true ↔ a.key ≤ b.key := by
  rw [Requirement.key, Requirement.key, Prod.Lex.toLex_le_toLex, rank_le_iff]
  unfold Requirement.le
  by_cases hsymbol : a.symbol = b.symbol
  · rw [if_pos hsymbol]
    cases a.localName <;> cases b.localName <;> simp [hsymbol]
  · rw [if_neg hsymbol, decide_eq_true_iff]
    constructor
    · exact fun hle => Or.inl (lt_of_le_of_ne hle hsymbol)
    · rintro (hlt | ⟨heq, -⟩)
      · exact hlt.le
      · exact absurd heq hsymbol

/-- symbols in one place of a line have one name -/
theorem Requirement.bound_of_key {a b : Requirement} (h : a.key = b.key) : a.bound = b.bound := by
  obtain ⟨hsymbol, hrank⟩ := Prod.mk.inj (toLex_inj.1 h)
  have hlocal : a.localName = b.localName := hrank
  rw [Requirement.bound, Requirement.bound, hsymbol, hlocal]

/-- what is sorted by places that differ rises -/
theorem rising_mergeSort {α β : Type} [LinearOrder β] {le : α → α → Bool} {key : α → β}
    (hle : ∀ a b, le a b = true ↔ key a ≤ key b) {xs : List α} (hapart : (xs.map key).Nodup) :
    (xs.mergeSort le).Pairwise fun a b => key a < key b := by
  have hsorted : (xs.mergeSort le).Pairwise fun a b => le a b = true := by
    apply List.pairwise_mergeSort
    · intro a b c hab hbc
      exact (hle a c).2 (((hle a b).1 hab).trans ((hle b c).1 hbc))
    · intro a b
      rw [Bool.or_eq_true, hle, hle]
      exact le_total _ _
  have hne : (xs.mergeSort le).Pairwise fun a b => key a ≠ key b :=
    List.pairwise_map.1 (((List.mergeSort_perm xs le).map key).nodup_iff.2 hapart)
  exact (hsorted.and hne).imp fun hboth => lt_of_le_of_ne ((hle _ _).1 hboth.1) hboth.2

instance asymm_of_key {α β : Type} [LinearOrder β] (key : α → β) : Std.Asymm fun a b => key a < key b :=
  ⟨fun _ _ => lt_asymm⟩

/-! ## Lines -/

section Entries

variable (entries : List (Printed × Requirement))

/-- the printed modules, each once and in order -/
def modulesOf : List Printed :=
  (entries.map (·.1)).eraseDups.mergeSort Printed.le

/-- what is imported from a printed module, in order -/
def symbolsOf (m : Printed) : List Requirement :=
  ((entries.filter (·.1 == m)).map (·.2)).mergeSort Requirement.le

def rowOf (m : Printed) : Row :=
  ⟨m.text, symbolsOf entries m⟩

/-- the layout of a block that prints these entries -/
def layoutOf : Layout where
  outside := ((modulesOf entries).filter Printed.isOutside).map (rowOf entries)
  inside := ((modulesOf entries).filter (not ∘ Printed.isOutside)).map (rowOf entries)

theorem lines_eq (ms : List Printed) : lines entries ms = (ms.map (rowOf entries)).map Row.text := by
  induction ms with
  | nil => rfl
  | cons m ms ih => exact congrArg (_ :: ·) ih

/-- the block is the text of the layout -/
theorem blockOf_eq : blockOf entries = (layoutOf entries).text := by
  have hparts : ∀ outside inside : List Row,
      Text.join "\n\n" (([outside.map Row.text, inside.map Row.text].filter (!·.isEmpty)).map (Text.join "\n")) =
        (Layout.mk outside inside).text := by
    intro outside inside
    cases outside <;> cases inside <;> simp [Layout.text, Text.join]
  unfold blockOf
  dsimp only
  rw [List.partition_eq_filter_filter, lines_eq, lines_eq]
  exact hparts _ _

theorem mem_modulesOf {m : Printed} : m ∈ modulesOf entries ↔ ∃ r, (m, r) ∈ entries := by
  simp [modulesOf, List.mem_mergeSort, List.mem_eraseDups]

theorem mem_symbolsOf {m : Printed} {r : Requirement} : r ∈ symbolsOf entries m ↔ (m, r) ∈ entries := by
  simp [symbolsOf, List.mem_mergeSort]

theorem modulesOf_rising : (modulesOf entries).Pairwise fun a b => a.key < b.key :=
  rising_mergeSort Printed.le_iff ((nodup_eraseDups _).map Printed.key_injective)

/-- elements that are taken key by key are the elements with these keys -/
theorem flatMap_filter_perm {α β : Type} [DecidableEq β] (key : α → β) (xs : List α) {ks : List β} (hks : ks.Nodup) :
    (ks.flatMap fun k => xs.filter (key · == k)).Perm (xs.filter (key · ∈ ks)) := by
  induction ks with
  | nil => simp
  | cons k ks ih =>
    obtain ⟨hk, hks⟩ := List.nodup_cons.1 hks
    let ys := xs.filter (key · ∈ k :: ks)
    have hhead : ys.filter (key · == k) = xs.filter (key · == k) := by
      rw [List.filter_filter]
      exact List.filter_congr fun x _ => by simp +contextual
    have htail : ys.filter (fun x => !(key x == k)) = xs.filter (key · ∈ ks) := by
      rw [List.filter_filter]
      refine List.filter_congr fun x _ => ?_
      by_cases hx : key x = k
      · simp [hx, hk]
      · simp [hx]
    calc ((k :: ks).flatMap fun k => xs.filter (key · == k))
      _ = ys.filter (key · == k) ++ ks.flatMap fun k => xs.filter (key · == k) := by rw [List.flatMap_cons, hhead]
      List.Perm _ (ys.filter (key · == k) ++ xs.filter (key · ∈ ks)) := (ih hks).append_left _
      _ = ys.filter (key · == k) ++ ys.filter (fun x => !(key x == k)) := by rw [htail]
      List.Perm _ ys := List.filter_append_perm _ _

/-- every printed module has its line -/
theorem rows_layoutOf :
    ((layoutOf entries).outside ++ (layoutOf entries).inside).Perm ((modulesOf entries).map (rowOf entries)) := by
  rw [layoutOf, ← List.map_append]
  exact (List.filter_append_perm _ _).map _

/-- **Nothing is lost and nothing is printed twice.** -/
theorem symbols_layoutOf :
    (((layoutOf entries).outside ++ (layoutOf entries).inside).flatMap Row.symbols).Perm (entries.map (·.2)) := by
  have hnodup : (modulesOf entries).Nodup := (modulesOf_rising entries).imp fun hlt heq => hlt.ne (congrArg _ heq)
  have hall : entries.filter (fun e => decide (e.1 ∈ modulesOf entries)) = entries :=
    List.filter_eq_self.2 fun e he => decide_eq_true ((mem_modulesOf entries).2 ⟨e.2, he⟩)
  have hsymbols : ∀ m ∈ modulesOf entries,
      (symbolsOf entries m).Perm ((entries.filter fun e => e.1 == m).map Prod.snd) := fun m _ =>
    List.mergeSort_perm _ _
  calc ((layoutOf entries).outside ++ (layoutOf entries).inside).flatMap Row.symbols
    List.Perm _ (((modulesOf entries).map (rowOf entries)).flatMap Row.symbols) :=
      (rows_layoutOf entries).flatMap_right _
    _ = (modulesOf entries).flatMap (symbolsOf entries) := by
      rw [List.flatMap_map]
      rfl
    List.Perm _ ((modulesOf entries).flatMap fun m => (entries.filter fun e => e.1 == m).map Prod.snd) :=
      List.Perm.flatMap_left _ hsymbols
    _ = ((modulesOf entries).flatMap fun m => entries.filter fun e => e.1 == m).map Prod.snd := List.map_flatMap.symm
    List.Perm _ ((entries.filter fun e => decide (e.1 ∈ modulesOf entries)).map Prod.snd) :=
      (flatMap_filter_perm Prod.fst entries hnodup).map _
    _ = entries.map Prod.snd := by rw [hall]

end Entries

end ClientPlan.Imports
