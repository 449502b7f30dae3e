/-
Imports of a file. Each symbol is required once, and each requirement gives it a name that was free in the file. Asking
again finds the requirement that is there; asking in one file changes no other file.
-/
import ClientPlan.Imports.Planner
import ClientPlan.Proofs.Naming.Fresh

namespace ClientPlan.Imports

/-- what a requirement stands for: the module and the symbol -/
def Requirement.origin (r : Requirement) : String × String :=
  (r.module, r.symbol)

namespace File

/-- the symbols that a file requires -/
def origins (f : File) : List (String × String) :=
  f.requirements.map Requirement.origin

/-- the name that a symbol gets in a file that does not require it yet -/
def nameFor (f : File) (module symbol : String) (localName : Option String) : String :=
  if f.bound.contains (localName.getD symbol) then f.aliasFor module symbol else localName.getD symbol

/-- import a symbol into a file and tell its name there -/
def add (f : File) (module symbol : String) (localName : Option String) : String × File :=
  match f.find? module symbol with
  | some r => (r.bound, f)
  | none => (f.nameFor module symbol localName, f.require module symbol (f.nameFor module symbol localName))

/-- each symbol is required once and has a name of its own, which is none of those that the file declares -/
structure Proper (own : List String) (f : File) : Prop where
  once : f.origins.Nodup
  apart : (f.requirements.map Requirement.bound).Nodup
  taken : ∀ r ∈ f.requirements, r.bound ∈ f.bound
  declared : ∀ name ∈ own, name ∈ f.bound ∧ ∀ r ∈ f.requirements, r.bound ≠ name

variable {own : List String} {f : File} (module symbol : String) (localName : Option String)

/-- a new name is free -/
theorem nameFor_fresh : f.nameFor module symbol localName ∉ f.bound := by
  unfold nameFor
  split_ifs with h
  · exact freshName_notMem _ _
  · simpa using h

variable {module symbol} in
theorem origin_of_find? {r : Requirement} (h : f.find? module symbol = some r) :
    r ∈ f.requirements ∧ r.origin = (module, symbol) := by
  have hkey := List.find?_some h
  simp only [Bool.and_eq_true, beq_iff_eq] at hkey
  exact ⟨List.mem_of_find?_eq_some h, Prod.ext hkey.1 hkey.2⟩

variable {module symbol} in
theorem find?_eq_none_iff : f.find? module symbol = none ↔ (module, symbol) ∉ f.origins := by
  simp [find?, origins, Requirement.origin, List.find?_eq_none]

/-- what is required under a name is known by that name -/
theorem bound_require (bound : String) :
    (⟨module, symbol, if bound = symbol then none else some bound⟩ : Requirement).bound = bound := by
  unfold Requirement.bound
  split_ifs with h
  · exact h.symm
  · rfl

theorem origins_require (bound : String) :
    (f.require module symbol bound).origins = f.origins ++ [(module, symbol)] := by
  simp [origins, require, Requirement.origin]

theorem Proper.require (h : f.Proper own) {bound : String} (hnew : (module, symbol) ∉ f.origins)
    (hfree : bound ∉ f.bound) : (f.require module symbol bound).Proper own := by
  let new : Requirement := ⟨module, symbol, if bound = symbol then none else some bound⟩
  have hbound : new.bound = bound := bound_require module symbol bound
  have hmem : ∀ r ∈ (f.require module symbol bound).requirements, r ∈ f.requirements ∨ r = new := fun r hr =>
    (List.mem_append.1 hr).imp_right List.mem_singleton.1
  refine ⟨?_, ?_, fun r hr => ?_, fun name hname => ⟨List.mem_cons_of_mem _ (h.declared name hname).1, fun r hr => ?_⟩⟩
  · rw [origins_require]
    exact h.once.append (List.nodup_singleton _) (by simpa using hnew)
  · change ((f.requirements ++ [new]).map Requirement.bound).Nodup
    rw [List.map_append]
    refine h.apart.append (List.nodup_singleton _) fun s hs hs' => ?_
    obtain ⟨r, hr, rfl⟩ := List.mem_map.1 hs
    obtain rfl : r.bound = bound := (List.mem_singleton.1 hs').trans hbound
    exact hfree (h.taken r hr)
  · rcases hmem r hr with hr | rfl
    · exact List.mem_cons_of_mem _ (h.taken r hr)
    · rw [hbound]
      exact List.mem_cons_self
  · rcases hmem r hr with hr | rfl
    · exact (h.declared name hname).2 r hr
    · rintro rfl
      exact hfree (hbound ▸ (h.declared _ hname).1)

/-- **Importing a symbol** leaves each symbol required once and under a name of its own. -/
theorem Proper.add (h : f.Proper own) : (f.add module symbol localName).2.Proper own := by
  unfold File.add
  split
  · exact h
  · next hnone => exact h.require _ _ (find?_eq_none_iff.1 hnone) (nameFor_fresh _ _ _)

theorem requirements_add : f.requirements <+: (f.add module symbol localName).2.requirements := by
  unfold File.add
  split
  · exact List.prefix_refl _
  · exact List.prefix_append _ _

variable {module symbol localName} in
/-- a requirement that is there after a request was there before, or is from the requested module -/
theorem mem_requirements_add {r : Requirement} (h : r ∈ (f.add module symbol localName).2.requirements) :
    r ∈ f.requirements ∨ r.module = module := by
  unfold File.add at h
  split at h
  · exact Or.inl h
  · refine (List.mem_append.1 h).imp_right fun h => ?_
    rw [List.mem_singleton.1 h]

theorem mem_origins_add {key : String × String} :
    key ∈ (f.add module symbol localName).2.origins ↔ key ∈ f.origins ∨ key = (module, symbol) := by
  unfold File.add
  split
  · next r hfound =>
    obtain ⟨hr, hkey⟩ := origin_of_find? hfound
    exact ⟨Or.inl, Or.rec id fun h => h ▸ hkey ▸ List.mem_map_of_mem hr⟩
  · rw [origins_require]
    simp

/-- the name that is told is the one under which the symbol is required -/
theorem add_bound : ∃ r ∈ (f.add module symbol localName).2.requirements, r.origin = (module, symbol) ∧
    r.bound = (f.add module symbol localName).1 := by
  unfold File.add
  split
  · next r hfound => exact ⟨r, (origin_of_find? hfound).1, (origin_of_find? hfound).2, rfl⟩
  · exact ⟨_, List.mem_append_right _ (List.mem_singleton_self _), rfl, bound_require _ _ _⟩

end File

namespace Planner

variable {p : Planner} {module : String} (symbol : String) (localName : Option String)

/-- the file and the tree decide whether a module is the current file -/
theorem isCurrent_congr {q : Planner} (htree : q.tree = p.tree) (hpackage : q.package = p.package)
    (hcurrent : q.current = p.current) (module : String) : q.isCurrent module = p.isCurrent module := by
  rw [isCurrent, isCurrent, htree, hpackage, hcurrent]

/-- a file imports nothing from itself -/
theorem add_current (h : p.isCurrent module = true) : p.add module symbol localName = (symbol, p) := by
  rw [add, if_pos h]

theorem file_insert (files : Keyed File) (path other : String) (f : File) :
    (Keyed.get? (files.insert path f) other).getD {} =
      if other = path then f else (Keyed.get? files other).getD {} := by
  rw [Keyed.get?_insert]
  split_ifs <;> rfl

theorem file_setCurrent (p : Planner) (path other : String) : (p.setCurrent path).file other = p.file other := by
  unfold setCurrent file
  rw [file_insert]
  split_ifs with h
  · rw [h]
  · rfl

theorem file_declare (p : Planner) (name path : String) :
    (p.declare name).file path =
      if path = p.current then { p.file p.current with bound := name :: (p.file p.current).bound }
      else p.file path :=
  file_insert _ _ _ _

/-- a symbol that is required already -/
theorem add_found (h : p.isCurrent module = false) {r : Requirement}
    (hr : (p.file p.current).find? module symbol = some r) : p.add module symbol localName = (r.bound, p) := by
  simp [add, h, hr]

/-- a symbol that is not required yet -/
theorem add_new (h : p.isCurrent module = false) (hnone : (p.file p.current).find? module symbol = none) :
    ∃ notices, p.add module symbol localName =
      ((p.file p.current).nameFor module symbol localName,
        { p with
          files := Keyed.insert p.files p.current
            ((p.file p.current).require module symbol ((p.file p.current).nameFor module symbol localName))
          notices := notices }) := by
  rw [add, h, if_neg Bool.false_ne_true]
  dsimp only
  rw [hnone]
  exact ⟨_, rfl⟩

/-- **Importing into the current file.** A symbol of any other module is imported, and no other file changes. -/
theorem add_other (h : p.isCurrent module = false) :
    (p.add module symbol localName).1 = ((p.file p.current).add module symbol localName).1 ∧
      ∀ path, (p.add module symbol localName).2.file path =
        if path = p.current then ((p.file p.current).add module symbol localName).2 else p.file path := by
  cases hfind : (p.file p.current).find? module symbol with
  | some r =>
    have hfile : (p.file p.current).add module symbol localName = (r.bound, p.file p.current) := by
      simp [File.add, hfind]
    rw [add_found _ _ h hfind, hfile]
    refine ⟨rfl, fun path => ?_⟩
    split_ifs with hpath
    · rw [hpath]
    · rfl
  | none =>
    obtain ⟨notices, hadd⟩ := add_new symbol localName h hfind
    have hfile : (p.file p.current).add module symbol localName =
        ((p.file p.current).nameFor module symbol localName,
          (p.file p.current).require module symbol ((p.file p.current).nameFor module symbol localName)) := by
      simp [File.add, hfind]
    rw [hadd, hfile]
    exact ⟨rfl, fun path => file_insert _ _ _ _⟩

/-- importing changes neither the tree nor the file that imports are for -/
theorem add_frame : (p.add module symbol localName).2.tree = p.tree ∧
    (p.add module symbol localName).2.package = p.package ∧
      (p.add module symbol localName).2.current = p.current := by
  cases h : p.isCurrent module with
  | true =>
    rw [add_current _ _ h]
    exact ⟨rfl, rfl, rfl⟩
  | false =>
    cases hfind : (p.file p.current).find? module symbol with
    | some r =>
      rw [add_found _ _ h hfind]
      exact ⟨rfl, rfl, rfl⟩
    | none =>
      obtain ⟨notices, hadd⟩ := add_new symbol localName h hfind
      rw [hadd]
      exact ⟨rfl, rfl, rfl⟩

end Planner

end ClientPlan.Imports
