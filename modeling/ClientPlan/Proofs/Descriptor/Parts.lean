/-
The parts of a descriptor. A descriptor mentions a name of the table if a model or an enumeration of that name is one of
its parts; the names and the scalar types that are collected from a descriptor are those of its parts.
-/
import Mathlib.Tactic.Common
import ClientPlan.Descriptor.Basic

namespace ClientPlan.Descriptor

/-- the descriptors directly inside this one -/
def children : Descriptor → List Descriptor
  | optional inner => [inner]
  | list item => [item]
  | map value => [value]
  | union variants => variants
  | leaf _ | named _ | enumeration _ => []

/-- a descriptor inside another one, at any depth, or that descriptor itself -/
inductive Inside : Descriptor → Descriptor → Prop
  | root (d : Descriptor) : Inside d d
  | within {d child root : Descriptor} : Inside d child → child ∈ root.children → Inside d root

/-- the descriptor mentions a name of the table -/
def Mentions (name : String) (d : Descriptor) : Prop :=
  Inside (named name) d ∨ Inside (enumeration name) d

section Parts

variable {name other : String} {d part : Descriptor} {variants : List Descriptor} {l m : Leaf}

theorem inside_iff : Inside part d ↔ part = d ∨ ∃ c ∈ d.children, Inside part c := by
  constructor
  · rintro (_ | ⟨h, hc⟩)
    · exact Or.inl rfl
    · exact Or.inr ⟨_, hc, h⟩
  · rintro (rfl | ⟨c, hc, h⟩)
    · exact .root _
    · exact .within h hc

theorem mentions_iff :
    Mentions name d ↔ (named name = d ∨ enumeration name = d) ∨ ∃ c ∈ d.children, Mentions name c := by
  unfold Mentions
  rw [inside_iff, @inside_iff d]
  grind

@[simp] theorem mentions_leaf : ¬ Mentions name (leaf l) := by
  rw [mentions_iff]
  simp [children]

@[simp] theorem mentions_optional : Mentions name (optional d) ↔ Mentions name d := by
  rw [mentions_iff]
  simp [children]

@[simp] theorem mentions_list : Mentions name (list d) ↔ Mentions name d := by
  rw [mentions_iff]
  simp [children]

@[simp] theorem mentions_map : Mentions name (map d) ↔ Mentions name d := by
  rw [mentions_iff]
  simp [children]

@[simp] theorem mentions_named : Mentions name (named other) ↔ name = other := by
  rw [mentions_iff]
  simp [children]

@[simp] theorem mentions_enumeration : Mentions name (enumeration other) ↔ name = other := by
  rw [mentions_iff]
  simp [children]

@[simp] theorem mentions_union : Mentions name (union variants) ↔ ∃ v ∈ variants, Mentions name v := by
  rw [mentions_iff]
  simp [children]

end Parts

/-- the names that are collected are those that are mentioned, after those that were found before -/
theorem mem_namesAfter {name : String} :
    (∀ found d, name ∈ namesAfter found d ↔ name ∈ found ∨ Mentions name d) ∧
    (∀ found ds, name ∈ namesAfterAll found ds ↔ name ∈ found ∨ ∃ d ∈ ds, Mentions name d) := by
  apply namesAfter.mutual_induct
  case case1 => intro found l; simp [namesAfter]
  case case2 => intro found inner ih; simp [namesAfter, ih]
  case case3 => intro found item ih; simp [namesAfter, ih]
  case case4 => intro found value ih; simp [namesAfter, ih]
  case case5 => intro found other h; simp only [namesAfter, h, mentions_named]; grind
  case case6 => intro found other h; simp only [namesAfter, h, mentions_named]; grind
  case case7 => intro found variants ih; simp [namesAfter, ih]
  case case8 => intro found other h; simp only [namesAfter, h, mentions_enumeration]; grind
  case case9 => intro found other h; simp only [namesAfter, h, mentions_enumeration]; grind
  case case10 => intro found; simp [namesAfterAll]
  case case11 => intro found d ds ih ihrest; simp [namesAfterAll, ih, ihrest, or_assoc]

theorem mem_names {name : String} {d : Descriptor} : name ∈ d.names ↔ Mentions name d := by
  rw [names, mem_namesAfter.1]
  simp

/-- the scalar types that are collected are those among the parts -/
theorem mem_leavesAll {l : Leaf} :
    (∀ d, l ∈ leaves d ↔ Inside (leaf l) d) ∧ (∀ ds, l ∈ leavesAll ds ↔ ∃ d ∈ ds, Inside (leaf l) d) := by
  apply leaves.mutual_induct
  case case1 => intro m; rw [inside_iff]; simp [leaves, children]
  case case2 => intro inner ih; rw [inside_iff]; simp [leaves, children, ih]
  case case3 => intro item ih; rw [inside_iff]; simp [leaves, children, ih]
  case case4 => intro value ih; rw [inside_iff]; simp [leaves, children, ih]
  case case5 => intro other; rw [inside_iff]; simp [leaves, children]
  case case6 => intro variants ih; rw [inside_iff]; simp [leaves, children, ih]
  case case7 => intro other; rw [inside_iff]; simp [leaves, children]
  case case8 => simp [leavesAll]
  case case9 => intro d ds ih ihrest; simp [leavesAll, ih, ihrest]

theorem mem_leaves {l : Leaf} {d : Descriptor} : l ∈ d.leaves ↔ Inside (leaf l) d :=
  mem_leavesAll.1 d

end ClientPlan.Descriptor
