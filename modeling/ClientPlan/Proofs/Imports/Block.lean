/-
Import blocks and what they print. A requirement whose module has a printed form has a line in the block: the line of
that form, among whose symbols it is. A file never prints its own module, so the only requirements without a line would
be those for the file itself, and a planner makes none of these (`Foreign`).
-/
import ClientPlan.Imports.Block
import ClientPlan.Proofs.Imports.Planner
import ClientPlan.Proofs.Imports.Relative

namespace ClientPlan.Imports

/-! ## Lines -/

theorem infix_join {sep s : String} {ss : List String} (h : s ∈ ss) : s.toList <:+: (Text.join sep ss).toList := by
  rw [Text.join, String.toList_intercalate]
  induction ss with
  | nil => cases h
  | cons t ss ih =>
    rcases List.mem_cons.1 h with rfl | h
    · cases ss with
      | nil => simp
      | cons u ss =>
        rw [List.map_cons, List.intercalate_cons_of_ne_nil (by simp), List.append_assoc]
        exact (List.prefix_append _ _).isInfix
    · have hne : ss.map String.toList ≠ [] := by
        rw [Ne, List.map_eq_nil_iff]
        exact List.ne_nil_of_mem h
      rw [List.map_cons, List.intercalate_cons_of_ne_nil hne]
      exact (ih h).trans (List.suffix_append _ _).isInfix

/-- the line of a module with all that is imported from it -/
def lineOf (entries : List (Printed × Requirement)) (m : Printed) : String :=
  line m ((entries.filter (·.1 == m)).map (·.2))

theorem lineOf_mem_lines {entries : List (Printed × Requirement)} {m : Printed} {ms : List Printed} (h : m ∈ ms) :
    lineOf entries m ∈ lines entries ms := by
  induction ms with
  | nil => cases h
  | cons other ms ih =>
    rw [lines]
    rcases List.mem_cons.1 h with rfl | h
    · exact List.mem_cons_self
    · exact List.mem_cons_of_mem _ (ih h)

/-- **Every requirement has its line**: the block has the line of the printed module, with the symbol in it. -/
theorem lineOf_infix_blockOf {entries : List (Printed × Requirement)} {m : Printed} {r : Requirement}
    (h : (m, r) ∈ entries) : (lineOf entries m).toList <:+: (blockOf entries).toList := by
  let modules := ((entries.map (·.1)).eraseDups).mergeSort Printed.le
  have hm : m ∈ modules := List.mem_mergeSort.2 (List.mem_eraseDups.2 (List.mem_map_of_mem h))
  -- a module stands in one of the two parts, and a part with a line is not left out
  have hpart : ∀ part, m ∈ part →
      lines entries part ∈ [lines entries (modules.partition Printed.isOutside).1,
        lines entries (modules.partition Printed.isOutside).2] →
      (lineOf entries m).toList <:+: (blockOf entries).toList := by
    intro part hmem hlines
    have hline := @lineOf_mem_lines entries m part hmem
    have hkept : (!(lines entries part).isEmpty) = true := by
      simpa using List.ne_nil_of_mem hline
    exact (infix_join hline).trans (infix_join (List.mem_map_of_mem (List.mem_filter.2 ⟨hlines, hkept⟩)))
  rw [List.partition_eq_filter_filter] at hpart
  cases houtside : m.isOutside with
  | true => exact hpart _ (List.mem_filter.2 ⟨hm, houtside⟩) List.mem_cons_self
  | false =>
    exact hpart _ (List.mem_filter.2 ⟨hm, by simp [houtside]⟩) (List.mem_cons_of_mem _ List.mem_cons_self)

/-! ## Printed modules -/

/-- the module is not that of the file, spelled with the package or without -/
def Tree.Foreign (tree : Tree) (package path module : String) : Prop :=
  moduleToFile ((tree.inside? package module).getD module) ≠ path

section Printed

variable {tree : Tree} {package path module : String}

/-- a module of the tree is printed by its relative path -/
theorem printed?_inside {inner : String} (hforeign : tree.Foreign package path module)
    (hinside : tree.inside? package module = some inner) :
    tree.printed? package path module = some (.inside (relativeDepth (relativeModule path inner))
      (String.ofList ((relativeModule path inner).toList.drop (relativeDepth (relativeModule path inner))))) := by
  have hne : moduleToFile inner ≠ path := by
    rw [Tree.Foreign, hinside] at hforeign
    exact hforeign
  rw [Tree.printed?, hinside]
  exact if_neg hne

end Printed

namespace Planner

theorem isCurrent_eq_false_iff {p : Planner} {module : String} :
    p.isCurrent module = false ↔ p.tree.Foreign p.package p.current module :=
  beq_eq_false_iff_ne

/-- no file requires anything from itself -/
def AllForeign (p : Planner) : Prop :=
  ∀ path, ∀ r ∈ p.requirements path, p.tree.Foreign p.package path r.module

variable {p : Planner}

theorem AllForeign.setCurrent (h : p.AllForeign) (path : String) : (p.setCurrent path).AllForeign := by
  intro other r hr
  rw [requirements, file_setCurrent] at hr
  exact h other r hr

theorem AllForeign.declare (h : p.AllForeign) (name : String) : (p.declare name).AllForeign := by
  intro path r hr
  rw [requirements, file_declare] at hr
  split_ifs at hr with hpath
  · exact hpath ▸ h p.current r hr
  · exact h path r hr

/-- **A file requires nothing from itself**, whatever it asks for. -/
theorem AllForeign.add (h : p.AllForeign) (module symbol : String) (localName : Option String) :
    (p.add module symbol localName).2.AllForeign := by
  obtain ⟨htree, hpackage, -⟩ := @add_frame p module symbol localName
  intro path r hr
  rw [htree, hpackage]
  cases hcurrent : p.isCurrent module with
  | true =>
    rw [add_current _ _ hcurrent] at hr
    exact h path r hr
  | false =>
    rw [requirements, (add_other symbol localName hcurrent).2] at hr
    split_ifs at hr with hpath
    · rcases File.mem_requirements_add hr with hr | hmodule
      · exact hpath ▸ h p.current r hr
      · rw [hmodule, hpath]
        exact isCurrent_eq_false_iff.1 hcurrent
    · exact h path r hr

end Planner

end ClientPlan.Imports
