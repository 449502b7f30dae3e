/-
Files and their modules. A path is made of segments that have neither slashes nor dots; its module is made of the same
segments, and leads back to the path.
-/
import ClientPlan.Imports.Planner
import ClientPlan.Proofs.Text.Segments

namespace ClientPlan

/-- a segment that means the same in a path and in a module -/
def IsSegment (s : String) : Prop :=
  s ≠ "" ∧ '/' ∉ s.toList ∧ '.' ∉ s.toList

instance (s : String) : Decidable (IsSegment s) :=
  inferInstanceAs (Decidable (_ ∧ _ ∧ _))

/-- segments joined by slashes -/
def IsPath (path : String) : Prop :=
  ∀ s ∈ Text.pieces '/' path, s ≠ "" ∧ '.' ∉ s.toList

instance (path : String) : Decidable (IsPath path) :=
  inferInstanceAs (Decidable (∀ s ∈ _, _))

variable {path : String} {ss : List String}

theorem IsPath.isSegment (h : IsPath path) : ∀ s ∈ Text.pieces '/' path, IsSegment s :=
  fun s hs => ⟨(h s hs).1, Text.notMem_of_mem_pieces hs, (h s hs).2⟩

theorem IsPath.segments_eq (h : IsPath path) : Text.segments '/' path = Text.pieces '/' path :=
  List.filter_eq_self.2 fun s hs => decide_eq_true (h s hs).1

/-- a path consists of the directory that it is in and a segment -/
theorem pieces_inDirectory {directory stem : String} (hstem : IsSegment stem) :
    Text.pieces '/' (directory ++ "/" ++ stem) = Text.pieces '/' directory ++ [stem] := by
  have hpieces := Text.pieces_append '/' directory stem
  rwa [Text.pieces_of_free hstem.2.1] at hpieces

theorem inDirectory_injective {directory directory' stem stem' : String} (hstem : IsSegment stem)
    (hstem' : IsSegment stem') (h : directory ++ "/" ++ stem = directory' ++ "/" ++ stem') :
    directory = directory' ∧ stem = stem' := by
  have hpieces := congrArg (Text.pieces '/') h
  rw [pieces_inDirectory hstem, pieces_inDirectory hstem'] at hpieces
  obtain ⟨hdirectory, hlast⟩ := List.append_inj' hpieces rfl
  refine ⟨?_, List.singleton_inj.1 hlast⟩
  rw [← Text.join_pieces '/' directory, hdirectory, Text.join_pieces]

theorem isPath_inDirectory_iff {directory stem : String} (hstem : IsSegment stem) :
    IsPath (directory ++ "/" ++ stem) ↔ IsPath directory := by
  have hlast : stem ≠ "" ∧ '.' ∉ stem.toList := ⟨hstem.1, hstem.2.2⟩
  simp [IsPath, pieces_inDirectory hstem, or_imp, forall_and, hlast]

theorem IsPath.inDirectory {directory stem : String} (h : IsPath directory) (hstem : IsSegment stem) :
    IsPath (directory ++ "/" ++ stem) :=
  (isPath_inDirectory_iff hstem).2 h

/-- the module of a path has its segments -/
theorem segments_fileToModule (h : IsPath path) : Text.segments '.' (fileToModule path) = Text.pieces '/' path := by
  have hsegments : ∀ s ∈ Text.pieces '/' path, s ≠ "" ∧ '.' ∉ s.toList := h
  rw [fileToModule, h.segments_eq]
  exact Text.segments_join hsegments

theorem pieces_fileToModule (h : IsPath path) : Text.pieces '.' (fileToModule path) = Text.pieces '/' path := by
  rw [fileToModule, h.segments_eq]
  exact Text.pieces_join (fun s hs => (h s hs).2) (Text.pieces_ne_nil _ _)

/-- **From a file to its module and back.** -/
theorem moduleToFile_fileToModule (h : IsPath path) : moduleToFile (fileToModule path) = path := by
  rw [moduleToFile, segments_fileToModule h]
  exact Text.join_pieces '/' path

/-- files of one directory have modules of their own, whatever the directory is -/
theorem fileToModule_inDirectory_injective {directory stem stem' : String} (hstem : IsSegment stem)
    (hstem' : IsSegment stem')
    (h : fileToModule (directory ++ "/" ++ stem) = fileToModule (directory ++ "/" ++ stem')) : stem = stem' := by
  have hsegments : ∀ {stem}, IsSegment stem →
      Text.segments '/' (directory ++ "/" ++ stem) = Text.segments '/' directory ++ [stem] := by
    intro stem hstem
    rw [Text.segments, pieces_inDirectory hstem, List.filter_append, List.filter_singleton]
    simp [Text.segments, hstem.1]
  rw [fileToModule, fileToModule, hsegments hstem, hsegments hstem'] at h
  exact Text.join_concat_injective h

/-- a module of one segment is the file of that name -/
theorem moduleToFile_of_free {module : String} (h : '.' ∉ module.toList) : moduleToFile module = module := by
  rw [moduleToFile, Text.segments, Text.pieces_of_free h]
  by_cases hempty : module = ""
  · rw [hempty]
    rfl
  · simp [hempty, Text.join]

/-! ## Modules of a tree -/

/-- the module is the package, or lies in it -/
def InPackage (package module : String) : Prop :=
  module = package ∨ (package ++ ".").toList <+: module.toList

instance (package module : String) : Decidable (InPackage package module) :=
  inferInstanceAs (Decidable (_ ∨ _))

theorem afterStart?_eq_none {start s : String} (h : ¬ start.toList <+: s.toList) : Text.afterStart? start s = none := by
  refine Option.eq_none_iff_forall_ne_some.2 fun rest hrest => h ?_
  rw [Text.afterStart?_eq_some_iff.1 hrest, String.toList_append]
  exact List.prefix_append _ _

theorem afterStart?_append (start rest : String) : Text.afterStart? start (start ++ rest) = some rest :=
  Text.afterStart?_eq_some_iff.2 rfl

/-- a module that lies in the package is the package with a module after it -/
theorem InPackage.eq_or_append {package module : String} (h : InPackage package module) :
    module = package ∨ ∃ rest, module = package ++ "." ++ rest := by
  refine h.imp_right fun ⟨cs, hcs⟩ => ⟨String.ofList cs, String.toList_inj.1 ?_⟩
  rw [String.toList_append, String.toList_ofList, hcs]

theorem IsPath.ne_empty (h : IsPath path) : path ≠ "" := by
  rintro rfl
  exact (h "" (by decide)).1 rfl

/-- a module whose segments are not empty does not lie in the package without a name -/
theorem not_inPackage_of_pieces {module : String} (h : "" ∉ Text.pieces '.' module) : ¬ InPackage "" module := by
  intro hpackage
  apply h
  rcases hpackage.eq_or_append with hmodule | ⟨rest, hmodule⟩
  · rw [hmodule]
    decide
  · have hrest := Text.pieces_append '.' "" rest
    rw [hmodule]
    exact hrest ▸ List.mem_append_left _ (by decide)

/-- no module of a path lies in the package without a name -/
theorem not_inPackage_empty (h : IsPath path) : ¬ InPackage "" (fileToModule path) :=
  not_inPackage_of_pieces fun hempty => (h "" (pieces_fileToModule h ▸ hempty)).1 rfl

/-- a module has no slashes, whatever its file is -/
theorem slash_notMem_fileToModule (path : String) : '/' ∉ (fileToModule path).toList := by
  intro hslash
  rcases @Text.mem_join '.' _ _ hslash with heq | ⟨s, hs, hmem⟩
  · exact absurd heq (by decide)
  · exact Text.notMem_of_mem_pieces (List.mem_filter.1 hs).1 hmem

/-- the file that a module without slashes is, if it is one, is a path -/
theorem isPath_moduleToFile {module : String} (hslash : '/' ∉ module.toList) (hne : moduleToFile module ≠ "") :
    IsPath (moduleToFile module) := by
  have hsegments : Text.segments '.' module ≠ [] := fun h => hne (by rw [moduleToFile, h]; rfl)
  have hfree : ∀ s ∈ Text.segments '.' module, '/' ∉ s.toList := fun s hs hmem =>
    hslash (Text.mem_of_mem_pieces (List.mem_filter.1 hs).1 hmem)
  intro s hs
  rw [moduleToFile, Text.pieces_join hfree hsegments] at hs
  obtain ⟨hpiece, hs⟩ := List.mem_filter.1 hs
  exact ⟨of_decide_eq_true hs, Text.notMem_of_mem_pieces hpiece⟩

/-- what follows the package in a module of a path leads to another file -/
theorem moduleToFile_rest_ne {package rest : String} (h : IsPath path)
    (hmodule : fileToModule path = package ++ "." ++ rest) : moduleToFile rest ≠ path := by
  have hpieces : Text.pieces '.' package ++ Text.pieces '.' rest = Text.pieces '/' path := by
    rw [← pieces_fileToModule h, hmodule]
    exact (Text.pieces_append '.' package rest).symm
  have hsegment : ∀ s ∈ Text.pieces '.' rest, IsSegment s := fun s hs =>
    h.isSegment s (hpieces ▸ List.mem_append_right _ hs)
  have hsegments : Text.segments '.' rest = Text.pieces '.' rest :=
    List.filter_eq_self.2 fun s hs => decide_eq_true (hsegment s hs).1
  intro hfile
  have hback : Text.pieces '/' path = Text.pieces '.' rest := by
    rw [← hfile, moduleToFile, hsegments]
    exact Text.pieces_join (fun s hs => (hsegment s hs).2.1) (Text.pieces_ne_nil _ _)
  rw [hback] at hpieces
  exact Text.pieces_ne_nil _ _ (List.append_left_eq_self.1 hpieces)

namespace Imports.Tree

variable {tree : Tree} {package module : String}

/-- a module that is not in the package is found under its own name, if at all -/
theorem inside?_of_not_inPackage (h : ¬ InPackage package module) :
    tree.inside? package module = none ∨ tree.inside? package module = some module := by
  obtain ⟨hne, hstart⟩ := not_or.1 h
  unfold inside?
  rw [if_neg hne, afterStart?_eq_none hstart]
  by_cases hroot : (Text.pieces '.' module).head?.any tree.roots.contains = true
  · simp [hroot]
  · simp [hroot]

/-- a module that is not in the package and begins with a directory of the tree is found under its own name -/
theorem inside?_of_root (h : ¬ InPackage package module) {root : String}
    (hhead : (Text.pieces '.' module).head? = some root) (hroot : root ∈ tree.roots) :
    tree.inside? package module = some module := by
  obtain ⟨hne, hstart⟩ := not_or.1 h
  unfold inside?
  rw [if_neg hne, afterStart?_eq_none hstart, hhead]
  simp [hroot]

/-- a module that lies in the package is found under what follows the package -/
theorem inside?_append (hpackage : package ≠ "") {rest : String} (hmodule : module = package ++ "." ++ rest)
    (hne : module ≠ package) : tree.inside? package module = some rest := by
  unfold inside?
  rw [if_neg hpackage, if_neg hne, hmodule, afterStart?_append]
  rfl

theorem inside?_package (hpackage : package ≠ "") : tree.inside? package package = some "" := by
  unfold inside?
  rw [if_neg hpackage, if_pos rfl]
  rfl

variable (tree package module) in
/-- a module is found under its own name, as the package, or under what follows the package, if at all -/
theorem inside?_cases : tree.inside? package module = none ∨ tree.inside? package module = some module ∨
    tree.inside? package module = some "" ∨
      ∃ rest, module = package ++ "." ++ rest ∧ tree.inside? package module = some rest := by
  by_cases hempty : package = ""
  · by_cases hroot : (Text.pieces '.' module).head?.any tree.roots.contains = true <;> simp [inside?, hempty, hroot]
  · by_cases hself : module = package
    · rw [hself]
      exact Or.inr (Or.inr (Or.inl (inside?_package hempty)))
    · by_cases hpackage : InPackage package module
      · obtain ⟨rest, hrest⟩ := hpackage.eq_or_append.resolve_left hself
        exact Or.inr (Or.inr (Or.inr ⟨rest, hrest, inside?_append hempty hrest hself⟩))
      · exact (inside?_of_not_inPackage hpackage).imp_right Or.inl

/-- a module of one segment is found under its own name, or as the package, if at all -/
theorem inside?_of_free (h : '.' ∉ module.toList) :
    tree.inside? package module = none ∨ tree.inside? package module = some module ∨
      tree.inside? package module = some "" := by
  rcases inside?_cases tree package module with hfound | hfound | hfound | ⟨rest, hrest, -⟩
  · exact Or.inl hfound
  · exact Or.inr (Or.inl hfound)
  · exact Or.inr (Or.inr hfound)
  · exact absurd (by simp [hrest]) h

/-- a module is found under a part of itself -/
theorem mem_of_mem_inside? {inner : String} (h : tree.inside? package module = some inner) {c : Char}
    (hc : c ∈ inner.toList) : c ∈ module.toList := by
  rcases inside?_cases tree package module with hfound | hfound | hfound | ⟨rest, hrest, hfound⟩
  · cases hfound.symm.trans h
  · rwa [Option.some.inj (hfound.symm.trans h)]
  · rw [← Option.some.inj (hfound.symm.trans h)] at hc
    cases hc
  · rw [hrest, Option.some.inj (hfound.symm.trans h)]
    simp [hc]

end Imports.Tree

namespace Imports.Planner

variable {p : Planner}

/-- outside the package, only the module of the current file is the current file -/
theorem isCurrent_fileToModule (hpath : IsPath path) (hpackage : ¬ InPackage p.package (fileToModule path)) :
    p.isCurrent (fileToModule path) = true ↔ path = p.current := by
  have hinside : (p.tree.inside? p.package (fileToModule path)).getD (fileToModule path) = fileToModule path := by
    rcases Tree.inside?_of_not_inPackage hpackage with h | h <;> rw [h] <;> rfl
  rw [isCurrent, hinside, moduleToFile_fileToModule hpath, beq_iff_eq]

/-- a module of one segment is no file in a directory -/
theorem isCurrent_of_free {module : String} (hdot : '.' ∉ module.toList) (hslash : '/' ∉ module.toList)
    (hcurrent : '/' ∈ p.current.toList) : p.isCurrent module = false := by
  have hinside : (p.tree.inside? p.package module).getD module = module ∨
      (p.tree.inside? p.package module).getD module = "" := by
    rcases @Tree.inside?_of_free p.tree p.package module hdot with h | h | h <;> simp [h]
  have hne : moduleToFile ((p.tree.inside? p.package module).getD module) ≠ p.current := by
    rintro hfile
    rw [← hfile] at hcurrent
    rcases hinside with h | h
    · rw [h, moduleToFile_of_free hdot] at hcurrent
      exact hslash hcurrent
    · rw [h] at hcurrent
      exact absurd hcurrent (by decide)
  simpa [isCurrent] using hne

end Imports.Planner

end ClientPlan
