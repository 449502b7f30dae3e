/-
Imports of a file from itself. There are two spellings of a file: its module after the package, and its module alone, if
that is not read as lying in the package. The planner takes just these two for the file itself (`isCurrent_iff_spells`).
It registers nothing for them, and requires what is asked for from any other module (`self_imports_exact`).
-/
import ClientPlan.Proofs.Imports.ModulePath
import ClientPlan.Proofs.Imports.Planner

namespace ClientPlan

/-- segments joined by dots -/
def IsModule (module : String) : Prop :=
  ∀ s ∈ Text.pieces '.' module, s ≠ "" ∧ '/' ∉ s.toList

instance (module : String) : Decidable (IsModule module) :=
  inferInstanceAs (Decidable (∀ s ∈ _, _))

section Module

variable {path package module rest : String}

theorem IsModule.segments_eq (h : IsModule module) : Text.segments '.' module = Text.pieces '.' module :=
  List.filter_eq_self.2 fun s hs => decide_eq_true (h s hs).1

theorem IsModule.of_append (h : IsModule (package ++ "." ++ rest)) : IsModule rest := by
  intro s hs
  have hpieces : Text.pieces '.' (package ++ "." ++ rest) = Text.pieces '.' package ++ Text.pieces '.' rest :=
    Text.pieces_append '.' package rest
  exact h s (hpieces ▸ List.mem_append_right _ hs)

theorem IsModule.not_inPackage_empty (h : IsModule module) : ¬ InPackage "" module :=
  not_inPackage_of_pieces fun hempty => (h "" hempty).1 rfl

/-- **From a module to its file and back.** -/
theorem fileToModule_moduleToFile (h : IsModule module) : fileToModule (moduleToFile module) = module := by
  have hfile : Text.segments '/' (moduleToFile module) = Text.pieces '.' module := by
    rw [moduleToFile, h.segments_eq]
    exact Text.segments_join h
  rw [fileToModule, hfile]
  exact Text.join_pieces '.' module

theorem moduleToFile_eq_iff (hmodule : IsModule module) (hpath : IsPath path) :
    moduleToFile module = path ↔ module = fileToModule path := by
  constructor
  · rintro rfl
    exact (fileToModule_moduleToFile hmodule).symm
  · rintro rfl
    exact moduleToFile_fileToModule hpath

theorem inPackage_append : InPackage package (package ++ "." ++ rest) :=
  Or.inr ⟨rest.toList, String.toList_append.symm⟩

/-- what lies in the package is longer than the package -/
theorem append_ne_package : package ++ "." ++ rest ≠ package := by
  intro h
  have hlength := congrArg String.length h
  rw [String.length_append, String.length_append, show ".".length = 1 from rfl] at hlength
  omega

end Module

/-- a module spells the file at a path: it is the module of the file after the package, or the module of the file alone,
if that is neither the package nor begins with it -/
def Spells (package path module : String) : Prop :=
  package ≠ "" ∧ module = package ++ "." ++ fileToModule path ∨
    module = fileToModule path ∧ ¬ InPackage package module

instance (package path module : String) : Decidable (Spells package path module) :=
  inferInstanceAs (Decidable (_ ∨ _))

namespace Imports

/-- what is read of a module: what follows the package in it, or the module itself if it does not lie in the package -/
theorem Tree.read_cases (tree : Tree) (package : String) {module : String} (hmodule : IsModule module) :
    let read := (tree.inside? package module).getD module
    (¬ InPackage package module ∧ read = module) ∨ (package ≠ "" ∧ module = package ∧ read = "") ∨
      ∃ rest, package ≠ "" ∧ module = package ++ "." ++ rest ∧ read = rest := by
  intro read
  by_cases hpackage : InPackage package module
  · have hne : package ≠ "" := by
      rintro rfl
      exact hmodule.not_inPackage_empty hpackage
    rcases hpackage.eq_or_append with hself | ⟨rest, hrest⟩
    · refine Or.inr (Or.inl ⟨hne, hself, ?_⟩)
      simp only [read]
      rw [hself, inside?_package hne]
      rfl
    · refine Or.inr (Or.inr ⟨rest, hne, hrest, ?_⟩)
      simp only [read]
      rw [inside?_append hne hrest (hrest ▸ append_ne_package)]
      rfl
  · refine Or.inl ⟨hpackage, ?_⟩
    simp only [read]
    rcases inside?_of_not_inPackage hpackage with h | h <;> rw [h] <;> rfl

namespace Planner

variable {p : Planner} {module : String}

/-- **The spellings of the current file.** -/
theorem isCurrent_iff_spells (hpath : IsPath p.current) (hmodule : IsModule module) :
    p.isCurrent module = true ↔ Spells p.package p.current module := by
  rw [isCurrent, beq_iff_eq]
  rcases p.tree.read_cases p.package hmodule with
    ⟨hout, hread⟩ | ⟨-, hself, hread⟩ | ⟨rest, hne, hrest, hread⟩
  · rw [hread, moduleToFile_eq_iff hmodule hpath]
    constructor
    · exact fun h => Or.inr ⟨h, hout⟩
    · rintro (⟨-, h⟩ | ⟨h, -⟩)
      · exact absurd (h ▸ inPackage_append) hout
      · exact h
  -- the package is the root of the tree, which is no file
  · rw [hread, hself]
    refine iff_of_false (fun h => hpath.ne_empty h.symm) ?_
    rintro (⟨-, h⟩ | ⟨-, h⟩)
    · exact append_ne_package h.symm
    · exact h (Or.inl rfl)
  · have hinner : IsModule rest := IsModule.of_append (hrest ▸ hmodule)
    rw [hread, moduleToFile_eq_iff hinner hpath, hrest]
    constructor
    · exact fun h => Or.inl ⟨hne, h ▸ rfl⟩
    · rintro (⟨-, h⟩ | ⟨-, h⟩)
      · exact (String.append_right_inj _).1 h
      · exact absurd inPackage_append h

/-- **A file imports nothing from itself, and everything else.** If the module spells the current file, then nothing
changes and the symbol is told as it is. For every other module, the current file has a requirement for the symbol, by
the name that is told. Paths and modules lead to each other and back. -/
theorem self_imports_exact (hpath : IsPath p.current) (hmodule : IsModule module) (symbol : String)
    (localName : Option String) :
    (Spells p.package p.current module → p.add module symbol localName = (symbol, p)) ∧
      (¬ Spells p.package p.current module → ∃ r ∈ (p.add module symbol localName).2.requirements p.current,
        r.origin = (module, symbol) ∧ r.bound = (p.add module symbol localName).1) ∧
      moduleToFile (fileToModule p.current) = p.current ∧ fileToModule (moduleToFile module) = module := by
  refine ⟨fun h => ?_, fun h => ?_, moduleToFile_fileToModule hpath, fileToModule_moduleToFile hmodule⟩
  · exact add_current symbol localName ((isCurrent_iff_spells hpath hmodule).2 h)
  · have hother : p.isCurrent module = false :=
      Bool.eq_false_iff.2 fun hcurrent => h ((isCurrent_iff_spells hpath hmodule).1 hcurrent)
    obtain ⟨htold, hfiles⟩ := add_other symbol localName hother
    obtain ⟨r, hr, horigin, hbound⟩ := @File.add_bound (p.file p.current) module symbol localName
    refine ⟨r, ?_, horigin, hbound.trans htold.symm⟩
    rw [requirements, hfiles, if_pos rfl]
    exact hr

/-- in the package `client` a model spells itself in two ways, but not as a module of the package `client2` -/
theorem self_imports_exact_client :
    let p : Planner := { tree := ⟨["models"]⟩, package := "client", current := "models/pet" }
    IsPath p.current ∧ (∀ module ∈ ["models.pet", "client.models.pet"],
        IsModule module ∧ Spells p.package p.current module ∧ p.add module "Pet" none = ("Pet", p)) ∧
      IsModule "client2.models.pet" ∧ ¬ Spells p.package p.current "client2.models.pet" ∧
      ∃ r ∈ (p.add "client2.models.pet" "Pet" none).2.requirements p.current,
        r.origin = ("client2.models.pet", "Pet") ∧ r.bound = (p.add "client2.models.pet" "Pet" none).1 := by
  intro p
  have hpath : IsPath p.current := by decide
  have hspells : ∀ module ∈ ["models.pet", "client.models.pet"],
      IsModule module ∧ Spells p.package p.current module := by decide
  have hmodule : IsModule "client2.models.pet" := by decide
  have hother : ¬ Spells p.package p.current "client2.models.pet" := by decide
  refine ⟨hpath, fun module hmem => ?_, hmodule, hother, ?_⟩
  · obtain ⟨hmodule, hspell⟩ := hspells module hmem
    exact ⟨hmodule, hspell, (self_imports_exact hpath hmodule "Pet" none).1 hspell⟩
  · exact (self_imports_exact hpath hmodule "Pet" none).2.1 hother

end Planner

end Imports

end ClientPlan
