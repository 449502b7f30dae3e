/-
Names that are given away. A component's name is reserved as written and as a type name; a name that is claimed is new
among all texts that were given away before. It is declared under its type name, though, and that is new in all runs
exactly if the bases that names are claimed from are steady (`claimed_types_apart_iff`).
-/
import ClientPlan.Proofs.Naming.Fresh
import ClientPlan.Proofs.Naming.Pascal

namespace ClientPlan

/-! ## Fresh names -/

section FreshName

variable {taken : List String} {base : String}

theorem freshName_of_notMem (h : base ∉ taken) : freshName taken base = base := by
  rw [freshName, if_neg (by simpa using h)]

theorem freshName_second (h : base ∈ taken) (hfree : base ++ toString 2 ∉ taken) :
    freshName taken base = base ++ toString 2 := by
  have hfirst : firstFree (fun k => !taken.contains (base ++ toString k)) taken.length 2 = 2 := by
    have hfree2 : (!taken.contains (base ++ toString 2)) = true := by simpa using hfree
    cases taken.length with
    | zero => rfl
    | succ n => rw [firstFree, if_pos hfree2]
  rw [freshName, if_pos (by simpa using h), hfirst]

/-- a fresh name is the base, or the base with a number -/
theorem freshName_form (taken : List String) (base : String) :
    freshName taken base = base ∨ ∃ k : Nat, freshName taken base = base ++ toString k := by
  unfold freshName
  split_ifs
  · exact Or.inr ⟨_, rfl⟩
  · exact Or.inl rfl

end FreshName

/-! ## Runs -/

namespace ClaimedNames

/-- what claimed names are asked for -/
inductive Request where
  | reserve (name : String)
  | claim (base : String)
  deriving DecidableEq, Repr

/-- a name that was given away, be it reserved or claimed -/
structure Given where
  name : String
  claimed : Bool
  deriving DecidableEq, Repr

/-- the name is its own type name -/
def Given.IsOwnType (g : Given) : Prop :=
  typeName g.name = g.name

/-- one request: the name that is given away, and the names with it -/
def step (claimed : ClaimedNames) : Request → Given × ClaimedNames
  | .reserve name => (⟨name, false⟩, claimed.reserve name)
  | .claim base => (⟨(claimed.claim base).1, true⟩, (claimed.claim base).2)

/-- the names that requests give away one after the other -/
def run (claimed : ClaimedNames) : List Request → List Given
  | [] => []
  | r :: rs => (claimed.step r).1 :: (claimed.step r).2.run rs

theorem run_reserve (claimed : ClaimedNames) (name : String) (rs : List Request) :
    claimed.run (.reserve name :: rs) = ⟨name, false⟩ :: (claimed.reserve name).run rs :=
  rfl

theorem run_claim (claimed : ClaimedNames) (base : String) (rs : List Request) :
    claimed.run (.claim base :: rs) =
      ⟨freshName claimed.names (typeName base), true⟩ :: (claimed.claim base).2.run rs :=
  rfl

variable {claimed : ClaimedNames} {r : Request} {rs : List Request} {g : Given}

/-- no name is taken back -/
theorem names_step (claimed : ClaimedNames) (r : Request) : claimed.names ⊆ (claimed.step r).2.names := by
  cases r with
  | reserve name => exact List.Subset.trans (List.subset_cons_self _ _) (List.subset_cons_self _ _)
  | claim base => exact List.subset_cons_self _ _

theorem name_mem_step (claimed : ClaimedNames) (r : Request) : (claimed.step r).1.name ∈ (claimed.step r).2.names := by
  cases r with
  | reserve name => exact List.mem_cons_of_mem _ List.mem_cons_self
  | claim base => exact List.mem_cons_self

/-- the type name of a reserved name is given away with it -/
theorem typeName_mem_step (h : (claimed.step r).1.claimed = false) :
    typeName (claimed.step r).1.name ∈ (claimed.step r).2.names := by
  cases r with
  | reserve name => exact List.mem_cons_self
  | claim base => cases h

/-- **A claimed name was not given away before.** -/
theorem step_fresh (h : (claimed.step r).1.claimed = true) : (claimed.step r).1.name ∉ claimed.names := by
  cases r with
  | reserve name => cases h
  | claim base => exact claim_fresh claimed base

theorem run_fresh (hg : g ∈ claimed.run rs) (h : g.claimed = true) : g.name ∉ claimed.names := by
  induction rs generalizing claimed with
  | nil => cases hg
  | cons r rs ih =>
    rcases List.mem_cons.1 hg with rfl | hg
    · exact step_fresh h
    · exact fun hmem => ih hg (names_step claimed r hmem)

/-- what holds of a name and of those that are claimed after it, since they were not given away with it, holds
throughout a run -/
theorem run_pairwise {R : Given → Given → Prop}
    (hR : ∀ (claimed : ClaimedNames) r g, (g.claimed = true → g.name ∉ (claimed.step r).2.names) →
      R (claimed.step r).1 g) : (claimed.run rs).Pairwise R := by
  induction rs generalizing claimed with
  | nil => exact .nil
  | cons r rs ih => exact .cons (fun g hg => hR claimed r g (run_fresh hg)) ih

/-- a claimed name is new to one that was given away before: it is another text, and if that one was reserved, not its
type name -/
structure New (earlier later : Given) : Prop where
  name : later.claimed = true → later.name ≠ earlier.name
  reserved : later.claimed = true → earlier.claimed = false → later.name ≠ typeName earlier.name

theorem run_new (claimed : ClaimedNames) (rs : List Request) : (claimed.run rs).Pairwise New := by
  refine run_pairwise fun claimed r g hfresh => ⟨fun hg heq => ?_, fun hg hreserved heq => ?_⟩
  · exact hfresh hg (heq ▸ name_mem_step claimed r)
  · exact hfresh hg (heq ▸ typeName_mem_step hreserved)

/-- names that are new to each other and their own types have types of their own -/
theorem New.typeName_ne {earlier later : Given} (h : New earlier later) (hlater : later.claimed = true)
    (hown : later.IsOwnType) (hearlier : earlier.claimed = true → earlier.IsOwnType) :
    typeName earlier.name ≠ typeName later.name := by
  intro heq
  rw [hown] at heq
  cases hreserved : earlier.claimed with
  | false => exact h.reserved hlater hreserved heq.symm
  | true => exact h.name hlater (heq.symm.trans (hearlier hreserved))

/-! ## Type names -/

/-- the type of a claimed name is none of those of the names that were given away before -/
def TypesApart (gs : List Given) : Prop :=
  gs.Pairwise fun earlier later => later.claimed = true → typeName earlier.name ≠ typeName later.name

/-- a name that is claimed from a steady base is its own type -/
theorem isOwnType_claim (claimed : ClaimedNames) {base : String} (h : Steady base) :
    (claimed.step (.claim base)).1.IsOwnType := by
  rcases freshName_form claimed.names (typeName base) with hname | ⟨k, hname⟩
  · rw [Given.IsOwnType, step, claim, hname]
    exact ((steady_iff base 0).1 h).1
  · rw [Given.IsOwnType, step, claim, hname]
    exact ((steady_iff base k).1 h).2

theorem isOwnType_run (hsteady : ∀ base, .claim base ∈ rs → Steady base) (hg : g ∈ claimed.run rs)
    (h : g.claimed = true) : g.IsOwnType := by
  induction rs generalizing claimed with
  | nil => cases hg
  | cons r rs ih =>
    rcases List.mem_cons.1 hg with rfl | hg
    · cases r with
      | reserve name => cases h
      | claim base => exact isOwnType_claim claimed (hsteady base List.mem_cons_self)
    · exact ih (fun base hbase => hsteady base (List.mem_cons_of_mem r hbase)) hg

/-- types are apart in a run that claims names from steady bases only -/
theorem run_typesApart (claimed : ClaimedNames) (hsteady : ∀ base, .claim base ∈ rs → Steady base) :
    TypesApart (claimed.run rs) := by
  refine (run_new claimed rs).imp_of_mem fun hearlier hlater hnew hclaimed => ?_
  exact hnew.typeName_ne hclaimed (isOwnType_run hsteady hlater hclaimed) (isOwnType_run hsteady hearlier)

theorem typeName_underscore (name : String) : typeName ("_" ++ name) = typeName name := by
  have hpascal : Text.pascal ("_" ++ name).toList = Text.pascal name.toList := by
    rw [String.toList_append]
    exact Text.pascal_append_sep underscore_separates [] name.toList
  rw [typeName, hpascal]
  rfl

theorem underscore_append_ne (name : String) : "_" ++ name ≠ name := fun heq => by
  have hlength := congrArg String.length heq
  simp at hlength

/-- a name that differs from a claimed one by an underscore before it has the same type name -/
theorem not_typesApart {gs : List Given} {name : String} (hname : ⟨name, true⟩ ∈ gs) :
    ¬ TypesApart (⟨"_" ++ name, false⟩ :: gs) := fun hapart =>
  (List.pairwise_cons.1 hapart).1 ⟨name, true⟩ hname rfl (typeName_underscore name)

/-- a claimed name that is not its own type, where the underscored one is reserved -/
theorem clash_first {base : String} (h : typeName (typeName base) ≠ typeName base) :
    ¬ TypesApart (empty.run [.reserve ("_" ++ typeName base), .claim base]) := by
  have hclaim : freshName (empty.reserve ("_" ++ typeName base)).names (typeName base) = typeName base := by
    refine freshName_of_notMem ?_
    simp only [empty, reserve, List.mem_cons, List.not_mem_nil, or_false, not_or, typeName_underscore]
    exact ⟨h.symm, (underscore_append_ne _).symm⟩
  rw [run_reserve, run_claim, hclaim]
  exact not_typesApart List.mem_cons_self

/-- a claimed name that is its own type, but is taken, and is not its own type with a number -/
theorem clash_second {base : String} (h : typeName (typeName base) = typeName base)
    (hnumbered : typeName (typeName base ++ toString 2) ≠ typeName base ++ toString 2) :
    ¬ TypesApart (empty.run [.reserve ("_" ++ (typeName base ++ toString 2)), .reserve (typeName base), .claim base]) := by
  have hlong : typeName base ++ toString 2 ≠ typeName base := fun heq => by
    simpa using congrArg String.length heq
  have hclaim : freshName ((empty.reserve ("_" ++ (typeName base ++ toString 2))).reserve (typeName base)).names
      (typeName base) = typeName base ++ toString 2 := by
    refine freshName_second (List.mem_cons_of_mem _ List.mem_cons_self) ?_
    simp only [empty, reserve, List.mem_cons, List.not_mem_nil, or_false, not_or, typeName_underscore, h]
    exact ⟨hlong, hlong, hnumbered.symm, (underscore_append_ne _).symm⟩
  rw [run_reserve, run_reserve, run_claim, hclaim]
  exact not_typesApart (List.mem_cons_of_mem _ List.mem_cons_self)

/-- **A base that is not steady** has a run in which no name is claimed but from that base, and one is claimed that is
the type of a reserved name. -/
theorem exists_clash {base : String} (h : ¬ Steady base) :
    ∃ rs : List Request, (∀ other, .claim other ∈ rs → other = base) ∧ ¬ TypesApart (empty.run rs) := by
  by_cases hown : typeName (typeName base) = typeName base
  · exact ⟨_, by simp, clash_second hown fun heq => h ((steady_iff base 2).2 ⟨hown, heq⟩)⟩
  · exact ⟨_, by simp, clash_first hown⟩

/-- **Types of claimed names.** In every run, a claimed name is another text than all that was given away before. Its
type is another type in all runs exactly if names are claimed from steady bases only. -/
theorem claimed_types_apart_iff (allowed : String → Prop) :
    (∀ rs, (empty.run rs).Pairwise New) ∧
      ((∀ rs, (∀ base, .claim base ∈ rs → allowed base) → TypesApart (empty.run rs)) ↔
        ∀ base, allowed base → Steady base) := by
  refine ⟨run_new empty, fun hall base hbase => ?_, fun hsteady rs hrs => ?_⟩
  · by_contra hunsteady
    obtain ⟨rs, hrs, hclash⟩ := exists_clash hunsteady
    exact hclash (hall rs fun other hother => hrs other hother ▸ hbase)
  · exact run_typesApart empty fun base hmem => hsteady base (hrs base hmem)

/-- the type of the claimed name is that of the reserved one -/
theorem capitals_clash :
    let given := empty.run [.reserve "Xy", .claim "xY"]
    given = [⟨"Xy", false⟩, ⟨"XY", true⟩] ∧ typeName "Xy" = "Xy" ∧ typeName "XY" = "Xy" ∧ ¬ TypesApart given := by
  intro given
  have hgiven : given = [⟨"Xy", false⟩, ⟨"XY", true⟩] := by decide
  have hreserved : typeName "Xy" = "Xy" := by decide
  have hclaimed : typeName "XY" = "Xy" := by decide
  refine ⟨hgiven, hreserved, hclaimed, fun hapart => ?_⟩
  rw [hgiven] at hapart
  have hclash := (List.pairwise_cons.1 hapart).1 ⟨"XY", true⟩ List.mem_cons_self rfl
  exact hclash (hreserved.trans hclaimed.symm)

end ClaimedNames

end ClientPlan
