/-
Runs of the planner. Files are made current, declare names and ask for symbols in any order. In every file each symbol
is required once and under a name of its own; requirements are only added, under names that the file had not taken, be
it for another requirement or by a declaration; and a symbol that is asked for again, with whichever alias, has the name
that was told the first time (`imports_disciplined`).
-/
import ClientPlan.Proofs.Imports.Block

namespace ClientPlan.Imports

namespace File

/-- a file and what became of it: no name is given up, and whatever is required in addition has a name that was free -/
structure Grows (f g : File) : Prop where
  bound : f.bound ⊆ g.bound
  added : ∃ new, g.requirements = f.requirements ++ new ∧ ∀ r ∈ new, r.bound ∉ f.bound

variable {f g h : File}

theorem Grows.refl (f : File) : f.Grows f :=
  ⟨List.Subset.refl _, [], (List.append_nil _).symm, by simp⟩

theorem Grows.trans (hfg : f.Grows g) (hgh : g.Grows h) : f.Grows h := by
  obtain ⟨new, hnew, hfree⟩ := hfg.added
  obtain ⟨new', hnew', hfree'⟩ := hgh.added
  refine ⟨List.Subset.trans hfg.bound hgh.bound, new ++ new', ?_, fun r hr => ?_⟩
  · rw [hnew', hnew, List.append_assoc]
  · rcases List.mem_append.1 hr with hr | hr
    · exact hfree r hr
    -- what was free later was free before
    · exact fun hmem => hfree' r hr (hfg.bound hmem)

theorem Grows.requirements (hfg : f.Grows g) : f.requirements <+: g.requirements := by
  obtain ⟨new, hnew, -⟩ := hfg.added
  exact ⟨new, hnew.symm⟩

/-- a declaration only takes a name -/
theorem grows_declared (f : File) (name : String) : f.Grows { f with bound := name :: f.bound } :=
  ⟨List.subset_cons_self _ _, [], (List.append_nil _).symm, by simp⟩

/-- importing a symbol requires it under a free name, unless it is required already -/
theorem grows_add (f : File) (module symbol : String) (localName : Option String) :
    f.Grows (f.add module symbol localName).2 := by
  unfold File.add
  split
  · exact .refl f
  · refine ⟨List.subset_cons_self _ _, _, rfl, fun r hr => ?_⟩
    rw [List.mem_singleton.1 hr, bound_require]
    exact nameFor_fresh module symbol localName

/-- declaring a name keeps what there is -/
theorem Proper.declaring (hf : f.Proper []) (name : String) : Proper [] { f with bound := name :: f.bound } where
  once := hf.once
  apart := hf.apart
  taken r hr := List.mem_cons_of_mem _ (hf.taken r hr)
  declared := by simp

/-- a symbol that a file requires is found under its origin -/
theorem Proper.find? {own : List String} (hf : f.Proper own) {r : Requirement} (hr : r ∈ f.requirements) :
    f.find? r.module r.symbol = some r := by
  cases hfound : f.find? r.module r.symbol with
  | none =>
    have hmem : (r.module, r.symbol) ∈ f.origins := List.mem_map_of_mem hr
    exact absurd hmem (find?_eq_none_iff.1 hfound)
  | some r' =>
    obtain ⟨hr', horigin⟩ := origin_of_find? hfound
    rw [List.inj_on_of_nodup_map hf.once hr' hr horigin]

end File

namespace Planner

/-- what a planner is asked to do -/
inductive Call where
  | setCurrent (path : String)
  | declare (name : String)
  | add (module symbol : String) (localName : Option String)
  deriving DecidableEq, Repr

/-- a planner that was not asked for anything -/
def new (tree : Tree) (package : String) : Planner :=
  { tree := tree, package := package }

/-- one call -/
def step (p : Planner) : Call → Planner
  | .setCurrent path => p.setCurrent path
  | .declare name => p.declare name
  | .add module symbol localName => (p.add module symbol localName).2

/-- calls one after the other -/
def run (p : Planner) (calls : List Call) : Planner :=
  calls.foldl step p

/-- the declarations and imports among calls that are made for one file, if `current` is the file at the start -/
def callsFor (path current : String) : List Call → List Call
  | [] => []
  | .setCurrent other :: calls => callsFor path other calls
  | .declare name :: calls =>
    let rest := callsFor path current calls
    if current = path then .declare name :: rest else rest
  | .add module symbol localName :: calls =>
    let rest := callsFor path current calls
    if current = path then .add module symbol localName :: rest else rest

/-- the names that calls declare -/
def declaredBy (calls : List Call) : List String :=
  calls.filterMap fun
    | .declare name => some name
    | _ => none

variable {p : Planner}

/-! ## One call -/

/-- no call changes the tree or the package -/
theorem step_frame (p : Planner) (c : Call) : (p.step c).tree = p.tree ∧ (p.step c).package = p.package := by
  cases c with
  | setCurrent path => exact ⟨rfl, rfl⟩
  | declare name => exact ⟨rfl, rfl⟩
  | add module symbol localName =>
    obtain ⟨htree, hpackage, -⟩ := @add_frame p module symbol localName
    exact ⟨htree, hpackage⟩

/-- what an import tells: the symbol itself if it is from the current file -/
theorem told_add (module symbol : String) (localName : Option String) :
    (p.add module symbol localName).1 =
      if p.isCurrent module then symbol else ((p.file p.current).add module symbol localName).1 := by
  cases hcurrent : p.isCurrent module with
  | true => rw [add_current _ _ hcurrent, if_pos rfl]
  | false => rw [(add_other symbol localName hcurrent).1, if_neg Bool.false_ne_true]

/-- what an import does to the files: it changes the current one, unless it is from there -/
theorem file_add (module symbol : String) (localName : Option String) (path : String) :
    ((p.add module symbol localName).2).file path =
      if path = p.current ∧ p.isCurrent module = false then ((p.file path).add module symbol localName).2
      else p.file path := by
  cases hcurrent : p.isCurrent module with
  | true =>
    rw [add_current _ _ hcurrent]
    simp
  | false =>
    rw [(add_other symbol localName hcurrent).2]
    by_cases hpath : path = p.current <;> simp [hpath]

/-- what a call does to a file: nothing, unless it is the current one and a name is declared or a symbol imported -/
theorem step_file (p : Planner) (c : Call) (path : String) :
    (p.step c).file path = p.file path ∨
      path = p.current ∧
        ((∃ name, c = .declare name ∧
            (p.step c).file path = { p.file path with bound := name :: (p.file path).bound }) ∨
          ∃ module symbol localName, c = .add module symbol localName ∧
            (p.step c).file path = ((p.file path).add module symbol localName).2) := by
  cases c with
  | setCurrent other => exact Or.inl (file_setCurrent _ _ _)
  | declare name =>
    rw [step, file_declare]
    split_ifs with hpath
    · subst hpath
      exact Or.inr ⟨rfl, Or.inl ⟨name, rfl, rfl⟩⟩
    · exact Or.inl rfl
  | add module symbol localName =>
    rw [step, file_add]
    split_ifs with hboth
    · exact Or.inr ⟨hboth.1, Or.inr ⟨module, symbol, localName, rfl, rfl⟩⟩
    · exact Or.inl rfl

/-- a call is no matter to a file that is not the current one -/
theorem step_elsewhere {path : String} (c : Call) (h : p.current ≠ path) : (p.step c).file path = p.file path := by
  rcases step_file p c path with hsame | ⟨hcurrent, -⟩
  · exact hsame
  · exact absurd hcurrent.symm h

/-- a call grows every file -/
theorem step_grows (p : Planner) (c : Call) (path : String) : (p.file path).Grows ((p.step c).file path) := by
  rcases step_file p c path with hfile | ⟨-, ⟨name, -, hfile⟩ | ⟨module, symbol, localName, -, hfile⟩⟩
  · rw [hfile]
    exact .refl _
  · rw [hfile]
    exact File.grows_declared _ _
  · rw [hfile]
    exact File.grows_add _ _ _ _

/-- what every file and every requirement of a planner keep -/
structure Sound (p : Planner) : Prop where
  proper : ∀ path, (p.file path).Proper []
  foreign : p.AllForeign

theorem Sound.new (tree : Tree) (package : String) : (new tree package).Sound where
  proper path := ⟨List.nodup_nil, List.nodup_nil, by simp [Planner.new, file], by simp⟩
  foreign path r hr := by cases hr

theorem Sound.step (hp : p.Sound) (c : Call) : (p.step c).Sound where
  proper path := by
    rcases step_file p c path with hfile | ⟨-, ⟨name, -, hfile⟩ | ⟨module, symbol, localName, -, hfile⟩⟩
    · rw [hfile]
      exact hp.proper path
    · rw [hfile]
      exact (hp.proper path).declaring name
    · rw [hfile]
      exact (hp.proper path).add module symbol localName
  foreign := by
    cases c with
    | setCurrent other => exact hp.foreign.setCurrent other
    | declare name => exact hp.foreign.declare name
    | add module symbol localName => exact hp.foreign.add module symbol localName

/-- **Asking again.** A symbol that the current file requires is told by its name there, and nothing changes. -/
theorem Sound.add_again (hp : p.Sound) {r : Requirement} (hr : r ∈ p.requirements p.current)
    (localName : Option String) : p.add r.module r.symbol localName = (r.bound, p) := by
  have hother : p.isCurrent r.module = false := beq_eq_false_iff_ne.2 (hp.foreign p.current r hr)
  exact add_found _ _ hother ((hp.proper p.current).find? hr)

/-! ## Runs -/

theorem run_cons (p : Planner) (c : Call) (calls : List Call) : p.run (c :: calls) = (p.step c).run calls :=
  rfl

theorem run_frame (p : Planner) (calls : List Call) :
    (p.run calls).tree = p.tree ∧ (p.run calls).package = p.package := by
  induction calls generalizing p with
  | nil => exact ⟨rfl, rfl⟩
  | cons c calls ih =>
    obtain ⟨htree, hpackage⟩ := step_frame p c
    obtain ⟨htree', hpackage'⟩ := ih (p.step c)
    exact ⟨htree'.trans htree, hpackage'.trans hpackage⟩

theorem run_grows (p : Planner) (calls : List Call) (path : String) :
    (p.file path).Grows ((p.run calls).file path) := by
  induction calls generalizing p with
  | nil => exact .refl _
  | cons c calls ih => exact (step_grows p c path).trans (ih (p.step c))

theorem Sound.run (hp : p.Sound) (calls : List Call) : (p.run calls).Sound := by
  induction calls generalizing p with
  | nil => exact hp
  | cons c calls ih => exact ih (hp.step c)

/-- what a file declares is taken there from then on -/
theorem declared_taken (p : Planner) (calls : List Call) (path : String) :
    ∀ name ∈ declaredBy (callsFor path p.current calls), name ∈ ((p.run calls).file path).bound := by
  induction calls generalizing p with
  | nil => simp [callsFor, declaredBy]
  | cons c calls ih =>
    intro name hname
    rw [run_cons]
    cases c with
    | setCurrent other => exact ih (p.setCurrent other) name hname
    | declare new =>
      rw [step]
      have hrest : name ∈ declaredBy (callsFor path p.current calls) →
          name ∈ (((p.declare new).run calls).file path).bound := ih (p.declare new) name
      rw [callsFor] at hname
      split_ifs at hname with hpath
      · rcases List.mem_cons.1 hname with rfl | hname
        · have htaken : name ∈ ((p.declare name).file path).bound := by
            rw [file_declare, if_pos hpath.symm]
            exact List.mem_cons_self
          exact (run_grows (p.declare name) calls path).bound htaken
        · exact hrest hname
      · exact hrest hname
    | add module symbol localName =>
      rw [step]
      obtain ⟨-, -, hcurrent⟩ := @add_frame p module symbol localName
      have hrest := ih (p.add module symbol localName).2 name
      rw [hcurrent] at hrest
      rw [callsFor] at hname
      split_ifs at hname with hpath
      · exact hrest hname
      · exact hrest hname

/-- a file at a point of a run at which, some time before, it had the requirements `earlier` and had declared `own` -/
structure Follows (earlier : List Requirement) (own : List String) (later : List Requirement) : Prop where
  /-- each symbol of a module is required once -/
  once : (later.map Requirement.origin).Nodup
  /-- different requirements have different names -/
  apart : (later.map Requirement.bound).Nodup
  /-- requirements stay as they are; those that were added have names that the file had not declared -/
  added : ∃ new, later = earlier ++ new ∧ ∀ r ∈ new, r.bound ∉ own

/-- **Discipline of imports.** Let some calls be made, and then others, in whichever files. In every file the earlier
requirements are followed by the new ones, which have names that were not declared before; no symbol is required twice
and no name given twice. A required symbol is told by its name, whatever alias is asked for; and the same request for
the same file is answered as it was the first time, and changes nothing. -/
theorem imports_disciplined (tree : Tree) (package : String) (before after : List Call) :
    let p := (new tree package).run before
    let q := p.run after
    (∀ path, Follows (p.requirements path) (declaredBy (callsFor path "" before)) (q.requirements path)) ∧
      (∀ r ∈ q.requirements q.current, ∀ localName, q.add r.module r.symbol localName = (r.bound, q)) ∧
      ∀ module symbol first again,
        let later := (p.add module symbol first).2.run after
        later.current = p.current → later.add module symbol again = ((p.add module symbol first).1, later) := by
  intro p q
  have hp : p.Sound := (Sound.new tree package).run before
  have hq : q.Sound := hp.run after
  refine ⟨fun path => ?_, fun r hr localName => hq.add_again hr localName, ?_⟩
  · obtain ⟨added, hadded, hfree⟩ := (run_grows p after path).added
    refine ⟨(hq.proper path).once, (hq.proper path).apart, added, hadded, fun r hr hdeclared => ?_⟩
    exact hfree r hr (declared_taken (new tree package) before path _ hdeclared)
  · intro module symbol first again later hcurrent
    let given := (p.add module symbol first).2
    obtain ⟨htree, hpackage, hstays⟩ := @add_frame p module symbol first
    obtain ⟨htree', hpackage'⟩ := run_frame given after
    have hsame : later.isCurrent module = p.isCurrent module :=
      isCurrent_congr (htree'.trans htree) (hpackage'.trans hpackage) hcurrent module
    cases hself : p.isCurrent module with
    -- a symbol of the file itself is told as it is, then and now
    | true => rw [add_current _ _ hself, add_current _ _ (hsame.trans hself)]
    | false =>
      obtain ⟨htold, hfiles⟩ := add_other symbol first hself
      obtain ⟨r, hr, horigin, hbound⟩ := @File.add_bound (p.file p.current) module symbol first
      have hgiven : r ∈ given.requirements p.current := by
        rw [requirements, hfiles, if_pos rfl]
        exact hr
      have hkept : r ∈ later.requirements later.current := by
        rw [hcurrent]
        exact (run_grows given after p.current).requirements.subset hgiven
      have hlater : later.Sound := (hp.step (.add module symbol first)).run after
      obtain ⟨rfl, rfl⟩ := Prod.mk.inj horigin
      rw [hlater.add_again hkept again, hbound, htold]

/-- two modules have an `Item`, so the second one is known by an alias, also to who asks for another alias -/
theorem imports_disciplined_items :
    let p := (new ⟨["models", "endpoints"]⟩ "client").run [.setCurrent "endpoints/x", .add "models.pet" "Item" none]
    let q := p.run [.add "models.order" "Item" none]
    let r : Requirement := ⟨"models.order", "Item", some "OrderItem"⟩
    r ∈ q.requirements q.current ∧ q.add r.module r.symbol (some "Thing") = (r.bound, q) := by
  intro p q r
  have hr : r ∈ q.requirements q.current := by decide
  have hall := imports_disciplined ⟨["models", "endpoints"]⟩ "client"
    [.setCurrent "endpoints/x", .add "models.pet" "Item" none] [.add "models.order" "Item" none]
  exact ⟨hr, hall.2.1 r hr (some "Thing")⟩

end Planner

end ClientPlan.Imports
