/-
Symbols that a line imports twice. A file requires a symbol once for each module, by the module as it was spelled, but
its block has a line for each module as it is printed. A module of the tree has several spellings, with the package
before it and without, which are printed alike. So each line imports a symbol once just if the file asked for no symbol
under two spellings of one module (`imported_once_iff`).
-/
import ClientPlan.Proofs.Imports.Canonical

namespace ClientPlan.Imports

/-! ## Spellings -/

theorem Printed.relative_injective : Function.Injective Printed.relative := by
  intro a b h
  rw [← Printed.text_relative a, h, Printed.text_relative]

namespace Tree

/-- what a module spells: itself outside the tree, and segments of the tree inside -/
def spelled (tree : Tree) (package module : String) : String ⊕ List String :=
  match tree.inside? package module with
  | none => .inl module
  | some inner => .inr (Text.segments '.' inner)

variable {tree : Tree} {package path module module' : String}

/-- **Spellings of one module are printed alike, and no others.** -/
theorem printed?_eq_iff {m : Printed} (h : tree.printed? package path module = some m) :
    tree.printed? package path module' = some m ↔ tree.spelled package module = tree.spelled package module' := by
  unfold printed? at h ⊢
  unfold spelled
  cases hinside : tree.inside? package module with
  | none =>
    rw [hinside] at h
    obtain rfl := Option.some.inj h
    cases tree.inside? package module' with
    | none => simp [eq_comm]
    | some inner' => by_cases hown : moduleToFile inner' = path <;> simp [hown]
  | some inner =>
    rw [hinside] at h
    by_cases hown : moduleToFile inner = path
    · simp [hown] at h
    · obtain rfl : Printed.relative (relativeModule path inner) = m := Option.some.inj ((if_neg hown).symm.trans h)
      cases tree.inside? package module' with
      | none => simp [Printed.relative]
      -- both lie in the tree, where a relative path tells the segments and no more
      | some inner' =>
        dsimp only
        rw [Sum.inr.injEq]
        constructor
        · intro h'
          split_ifs at h'
          exact (relativeModule_eq_iff.1 (Printed.relative_injective (Option.some.inj h'))).symm
        · intro hsegments
          have hfile : moduleToFile inner' ≠ path := by
            rwa [moduleToFile, ← hsegments]
          rw [if_neg hfile]
          exact congrArg (some ∘ Printed.relative) (relativeModule_eq_iff.2 hsegments.symm)

theorem foreign_iff :
    tree.Foreign package path module ↔ (tree.spelled package module).elim moduleToFile (Text.join "/") ≠ path := by
  unfold Foreign spelled
  cases tree.inside? package module <;> rfl

/-- a module other than the file is so in all its spellings -/
theorem Foreign.of_spelled (h : tree.Foreign package path module)
    (hspelled : tree.spelled package module = tree.spelled package module') : tree.Foreign package path module' := by
  rw [foreign_iff] at h ⊢
  rwa [← hspelled]

theorem Foreign.printed (h : tree.Foreign package path module) : ∃ m, tree.printed? package path module = some m := by
  have hother : ¬ tree.IsOwn package path module := by
    intro hown
    obtain ⟨inner, hinside, hfile⟩ := Option.map_eq_some_iff.1 hown
    rw [Foreign, hinside] at h
    exact h hfile
  exact Option.ne_none_iff_exists'.1 fun hnone => hother (printed?_eq_none_iff.1 hnone)

end Tree

/-! ## Lines -/

/-- no line imports a symbol twice -/
def Layout.Once (l : Layout) : Prop :=
  ∀ row ∈ l.outside ++ l.inside, (row.symbols.map (·.symbol)).Nodup

instance (l : Layout) : Decidable l.Once :=
  inferInstanceAs (Decidable (∀ row ∈ _, _))

/-- symbols stand in one line if their modules are printed alike -/
theorem layoutOf_once_iff {tree : Tree} {package path : String} {rs : List Requirement}
    (hapart : (rs.map Requirement.bound).Nodup) :
    (layoutOf (entriesOf tree package path rs)).Once ↔ ∀ r ∈ rs, ∀ r' ∈ rs, ∀ m,
      tree.printed? package path r.module = some m → tree.printed? package path r'.module = some m →
        r.symbol = r'.symbol → r = r' := by
  let entries := entriesOf tree package path rs
  have hline : ∀ m, ((symbolsOf entries m).map (·.symbol)).Nodup ↔
      ∀ r ∈ symbolsOf entries m, ∀ r' ∈ symbolsOf entries m, r.symbol = r'.symbol → r = r' := by
    intro m
    have hnodup : (symbolsOf entries m).Nodup := (symbolsOf_rising hapart m).imp fun hlt heq => hlt.ne (congrArg _ heq)
    exact List.nodup_map_iff_inj_on hnodup
  have hmem : ∀ m r, r ∈ symbolsOf entries m ↔ r ∈ rs ∧ tree.printed? package path r.module = some m := fun m r =>
    (mem_symbolsOf entries).trans mem_entriesOf
  constructor
  · intro honce r hr r' hr' m hm hm' hsymbol
    have hmodule : m ∈ modulesOf entries := (mem_modulesOf entries).2 ⟨r, mem_entriesOf.2 ⟨hr, hm⟩⟩
    have hrow := honce (rowOf entries m) ((rows_layoutOf entries).mem_iff.2 (List.mem_map_of_mem hmodule))
    exact (hline m).1 hrow r ((hmem m r).2 ⟨hr, hm⟩) r' ((hmem m r').2 ⟨hr', hm'⟩) hsymbol
  · intro h row hrow
    obtain ⟨m, -, rfl⟩ := List.mem_map.1 ((rows_layoutOf entries).mem_iff.1 hrow)
    refine (hline m).2 fun r hr r' hr' hsymbol => ?_
    obtain ⟨hr, hm⟩ := (hmem m r).1 hr
    obtain ⟨hr', hm'⟩ := (hmem m r').1 hr'
    exact h r hr r' hr' m hm hm' hsymbol

/-! ## Runs -/

namespace Planner

/-- a symbol of a module is asked for in a file -/
def AskedIn (path : String) (calls : List Call) (module symbol : String) : Prop :=
  ∃ localName, Call.add module symbol localName ∈ callsFor path "" calls

/-- what a file requires after an import: what it required before, and what is imported there from another module -/
theorem mem_origins_import {p : Planner} {module symbol : String} {localName : Option String} {path : String}
    {key : String × String} :
    key ∈ (((p.add module symbol localName).2).file path).origins ↔ key ∈ (p.file path).origins ∨
      (p.current = path ∧ key = (module, symbol)) ∧ p.tree.Foreign p.package path key.1 := by
  rw [file_add]
  split_ifs with hboth
  · obtain ⟨rfl, hother⟩ := hboth
    rw [File.mem_origins_add]
    refine or_congr_right ⟨fun hkey => ⟨⟨rfl, hkey⟩, ?_⟩, fun h => h.1.2⟩
    rw [hkey]
    exact isCurrent_eq_false_iff.1 hother
  · refine (or_iff_left ?_).symm
    rintro ⟨⟨rfl, rfl⟩, hforeign⟩
    exact hboth ⟨rfl, isCurrent_eq_false_iff.2 hforeign⟩

/-- **What a file requires after a run**: what it required before, and what it was asked for from other modules. -/
theorem mem_origins_run (p : Planner) (calls : List Call) (path : String) (key : String × String) :
    key ∈ ((p.run calls).file path).origins ↔ key ∈ (p.file path).origins ∨
      (∃ localName, Call.add key.1 key.2 localName ∈ callsFor path p.current calls) ∧
        p.tree.Foreign p.package path key.1 := by
  induction calls generalizing p with
  | nil => simp [run, callsFor]
  | cons c calls ih =>
    rw [run_cons, ih]
    cases c with
    | setCurrent other =>
      rw [step, file_setCurrent]
      rfl
    | declare name =>
      have horigins : ((p.declare name).file path).origins = (p.file path).origins := by
        rw [file_declare]
        split_ifs with hpath
        · rw [hpath]
          rfl
        · rfl
      rw [step, horigins, callsFor]
      split_ifs <;> simp [declare]
    | add module symbol localName =>
      obtain ⟨htree, hpackage, hcurrent⟩ := @add_frame p module symbol localName
      have hasked : (∃ name, Call.add key.1 key.2 name ∈
            callsFor path p.current (.add module symbol localName :: calls)) ↔
          (p.current = path ∧ key = (module, symbol)) ∨
            ∃ name, Call.add key.1 key.2 name ∈ callsFor path p.current calls := by
        rw [callsFor]
        split_ifs with hpath
        · simp [hpath, Prod.ext_iff, exists_or]
        · simp [hpath]
      rw [step, htree, hpackage, hcurrent, mem_origins_import, hasked, or_and_right, or_assoc]

/-- a new planner requires what it was asked for from other modules -/
theorem mem_requirements_run (tree : Tree) (package : String) (calls : List Call) (path module symbol : String) :
    (∃ r ∈ ((new tree package).run calls).requirements path, r.origin = (module, symbol)) ↔
      AskedIn path calls module symbol ∧ tree.Foreign package path module := by
  have horigins := mem_origins_run (new tree package) calls path (module, symbol)
  exact List.mem_map.symm.trans (horigins.trans (or_iff_right List.not_mem_nil))

/-- **Symbols are imported once by each line**, just if the file was asked for none under two spellings of one module.
The block of a file is the text of its canonical layout. A line of that imports a symbol twice if the symbol was asked
for, in that file, from two modules that are spelled differently, are not the file itself, and are one module outside
the tree or have the same segments inside; otherwise none does. -/
theorem imported_once_iff (tree : Tree) (package : String) (calls : List Call) (path : String) :
    let p := (new tree package).run calls
    ∃ l : Layout, l.Canonical tree package path (p.requirements path) ∧ p.block path package = l.text ∧
      (l.Once ↔ ∀ module module' symbol, AskedIn path calls module symbol → AskedIn path calls module' symbol →
        tree.Foreign package path module → tree.spelled package module = tree.spelled package module' →
          module = module') := by
  intro p
  obtain ⟨hcanonical, hblock⟩ := layout_run tree package calls path package
  have hsound : p.Sound := (Sound.new tree package).run calls
  refine ⟨_, hcanonical, hblock, ?_⟩
  refine (layoutOf_once_iff (hsound.proper path).apart).trans ⟨?_, ?_⟩
  · intro honce module module' symbol hasked hasked' hforeign hspelled
    obtain ⟨r, hr, horigin⟩ := (mem_requirements_run tree package calls path module symbol).2 ⟨hasked, hforeign⟩
    obtain ⟨r', hr', horigin'⟩ := (mem_requirements_run tree package calls path module' symbol).2
      ⟨hasked', hforeign.of_spelled hspelled⟩
    obtain ⟨rfl, rfl⟩ := Prod.mk.inj horigin
    obtain ⟨rfl, hsymbol⟩ := Prod.mk.inj horigin'
    obtain ⟨m, hm⟩ := hforeign.printed
    exact congrArg Requirement.module (honce r hr r' hr' m hm ((Tree.printed?_eq_iff hm).2 hspelled) hsymbol.symm)
  · intro hone r hr r' hr' m hm hm' hsymbol
    obtain ⟨hasked, hforeign⟩ := (mem_requirements_run tree package calls path r.module r.symbol).1 ⟨r, hr, rfl⟩
    obtain ⟨hasked', -⟩ := (mem_requirements_run tree package calls path r'.module r'.symbol).1 ⟨r', hr', rfl⟩
    have hmodule : r.module = r'.module :=
      hone _ _ _ hasked (hsymbol ▸ hasked') hforeign ((Tree.printed?_eq_iff hm).1 hm')
    exact List.inj_on_of_nodup_map (hsound.proper path).once hr hr' (Prod.ext hmodule hsymbol)

/-- a model is asked for with the package before its module and without, and its line imports it twice -/
theorem pet_imported_twice :
    let tree : Tree := ⟨["endpoints", "models"]⟩
    let p := (new tree "client").run
      [.setCurrent "endpoints/pets", .add "models.pet" "Pet" none, .add "client.models.pet" "Pet" none]
    let pet : Requirement := ⟨"models.pet", "Pet", none⟩
    let again : Requirement := ⟨"client.models.pet", "Pet", some "PetPet"⟩
    let l : Layout := ⟨[], [⟨"..models.pet", [pet, again]⟩]⟩
    l.Canonical tree p.package p.current (p.requirements p.current) ∧
      p.block p.current p.package = "from ..models.pet import Pet, Pet as PetPet" ∧ ¬ l.Once := by
  intro tree p pet again l
  have hcurrent : p.current = "endpoints/pets" := by decide +kernel
  have hpackage : p.package = "client" := (run_frame (new tree "client") _).2
  have hrequired : p.requirements "endpoints/pets" = [pet, again] := by decide +kernel
  have hcanonical : l.Canonical tree "client" "endpoints/pets" (p.requirements "endpoints/pets") := by
    rw [hrequired]
    exact ⟨⟨by simp [l], by simp [l], by simp [l], by simp [l]⟩,
      ⟨by simp [l], by simp [l], by decide, by decide⟩, by decide⟩
  obtain ⟨hlayout, hblock⟩ := layout_run tree "client"
    [.setCurrent "endpoints/pets", .add "models.pet" "Pet" none, .add "client.models.pet" "Pet" none]
    "endpoints/pets" "client"
  rw [hcurrent, hpackage]
  refine ⟨hcanonical, hblock.trans ?_, by decide⟩
  rw [← hcanonical.unique hlayout]
  decide

end Planner

end ClientPlan.Imports
