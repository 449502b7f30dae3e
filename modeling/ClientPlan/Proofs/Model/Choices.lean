/-
Where discriminators come from. Only a choice among several members that allow more than null has the discriminator
that its schema writes, with each target replaced by the name that it stands for; and no step of building makes, changes
or moves one. So every discriminator in a model, at any depth, is that of a choice in the nodes that it was built from,
which is what the law `choiceLaw` says; and the choice itself has it (`discriminator_node`).
-/
import ClientPlan.Model.Json
import ClientPlan.Proofs.Model.Forms
import ClientPlan.Proofs.Model.Sound
import ClientPlan.Proofs.Sequences

namespace ClientPlan

/-- the name that a discriminator's target stands for: the component that it refers to, or else the target itself -/
def targetName (target : String) : String :=
  (schemaName? target).getD target

/-- a choice whose model has the discriminator -/
structure Schema.Discriminates (s : Schema SchemaNode) (d : Discriminator) : Prop extends s.Chooses where
  several : 1 < s.nonNullAlternatives.length
  written : s.discriminator.map Reach.discriminator = Option.some d

/-- a schema has `target` for a value in the mapping of its discriminator -/
def Schema.Maps (s : Schema SchemaNode) (value target : String) : Prop :=
  ∃ w, s.discriminator = some w ∧ (value, target) ∈ w.mapping

/-- each name in a mapping is that of a target written for the value -/
theorem Schema.Discriminates.maps {s : Schema SchemaNode} {d : Discriminator} (h : s.Discriminates d)
    {e : String × String} (he : e ∈ d.mapping) : ∃ target, s.Maps e.1 target ∧ e.2 = targetName target := by
  obtain ⟨w, hw, rfl⟩ := Option.map_eq_some_iff.1 h.written
  rcases Keyed.mem_foldl_insert he with hnil | he
  · cases hnil
  · obtain ⟨⟨value, target⟩, htarget, rfl⟩ := List.mem_map.1 he
    exact ⟨target, ⟨w, hw, htarget⟩, rfl⟩

namespace Model

/-- a discriminator stands in the model, at any depth -/
def Discriminates (m : Model) (d : Discriminator) : Prop :=
  ∃ part : Model, part.Inside m ∧ part.shape.discriminator? = some d

variable {m m' : Model} {d : Discriminator}

theorem discriminates_iff :
    m.Discriminates d ↔ m.shape.discriminator? = some d ∨ ∃ c ∈ m.children, c.Discriminates d := by
  constructor
  · rintro ⟨part, hpart, hd⟩
    rcases hpart.root_or_below with rfl | ⟨c, hc, hpart⟩
    · exact Or.inl hd
    · exact Or.inr ⟨c, hc, part, hpart, hd⟩
  · rintro (hd | ⟨c, hc, part, hpart, hd⟩)
    · exact ⟨m, .root m, hd⟩
    · exact ⟨part, .within hpart hc, hd⟩

theorem discriminates_of_shape (h : m'.shape = m.shape) : m'.Discriminates d ↔ m.Discriminates d := by
  rw [discriminates_iff, discriminates_iff, h, children_of_shape h]

theorem not_discriminates_of_target {target : String} (h : m.shape = .reference target) : ¬ m.Discriminates d := by
  rw [discriminates_iff, children, h]
  rintro (hd | ⟨c, hc, -⟩)
  · cases hd
  · cases hc

theorem not_discriminates_scalar (kind : Scalar) : ¬ (Model.scalar kind).Discriminates d := by
  rw [discriminates_iff]
  rintro (hd | ⟨c, hc, -⟩)
  · cases hd
  · cases hc

/-- listed literals are told apart by themselves -/
theorem not_discriminates_ofLiterals (values : List Json) : ¬ (Model.ofLiterals values).Discriminates d := by
  unfold Model.ofLiterals
  dsimp only
  generalize literalKinds (values.filter fun v => !v.isNull) = kinds
  rw [discriminates_iff]
  match kinds with
  | [] =>
    rintro (hd | ⟨c, hc, -⟩)
    · cases hd
    · cases hc
  | [kind] =>
    rintro (hd | ⟨c, hc, -⟩)
    · cases hd
    · cases hc
  | kind :: kind' :: kinds =>
    rintro (hd | ⟨c, hc, h⟩)
    · cases hd
    · obtain ⟨k, -, rfl⟩ := List.mem_map.1 hc
      exact not_discriminates_scalar k h

end Model

/-! ## The law -/

/-- the discriminators in a model are those of choices in a region of nodes -/
def Model.Chosen (S : SchemaNode → Prop) (m : Model) : Prop :=
  ∀ d, m.Discriminates d → ∃ s, S (.schema s) ∧ s.Discriminates d

namespace Model.Chosen

variable {S : SchemaNode → Prop} {m m' : Model}

theorem of_shape (h : m.Chosen S) (hshape : m'.shape = m.shape) : m'.Chosen S :=
  fun d hd => h d ((Model.discriminates_of_shape hshape).1 hd)

theorem of_parts (hown : m.shape.discriminator? = none) (h : ∀ c ∈ m.children, c.Chosen S) : m.Chosen S := by
  intro d hd
  rcases Model.discriminates_iff.1 hd with hroot | ⟨c, hc, hd⟩
  · rw [hown] at hroot
    cases hroot
  · exact h c hc d hd

theorem of_none (h : ∀ d, ¬ m.Discriminates d) : m.Chosen S :=
  fun d hd => absurd hd (h d)

theorem of_single (h : m.Single (Chosen S)) : m.Chosen S := by
  refine of_parts ?_ h.children
  cases h <;> rfl

/-- what is built of a schema in one of its forms -/
theorem of_forms {s : Schema SchemaNode} (hs : S (.schema s)) (h : s.Forms (fun _ m => m.Chosen S) (Chosen S) m) :
    m.Chosen S := by
  cases h with
  | literals hvalues => exact of_none fun _ => Model.not_discriminates_ofLiterals _
  | lone _ _ _ hm => exact hm
  | vacant | null => exact of_none fun _ => Model.not_discriminates_scalar .null
  | left _ _ hm => exact hm
  | choice hchooses hmany hms =>
    intro d hd
    rcases Model.discriminates_iff.1 hd with hroot | ⟨c, hc, hd⟩
    · exact ⟨s, hs, { hchooses with several := hmany, written := hroot }⟩
    · obtain ⟨n, -, hm⟩ := exists_left_of_forall₂ hms hc
      exact hm d hd
  | single hm => exact of_single hm
  | types hms =>
    refine of_parts rfl fun c hc => ?_
    rcases hms c hc with hm | ⟨target, hshape⟩
    · exact of_single hm
    · exact of_none fun _ => Model.not_discriminates_of_target hshape

end Model.Chosen

/-- a region of nodes has all the discriminators of the models that are built in it -/
def choiceLaw (S : SchemaNode → Prop) : FormLaw S where
  Kin _ m := m.Chosen S
  Kept := Model.Chosen S
  kept h := h
  single := .of_single
  restyled := .of_shape
  placeholder _ := .of_none fun _ => Model.not_discriminates_scalar .any
  reference h := .of_none fun _ => Model.not_discriminates_of_target h
  formed hs h hshape := (Model.Chosen.of_forms hs h).of_shape hshape

/-! ## Choices -/

/-- a choice among several members has its discriminator -/
theorem Reach.discriminator_node (r : Reach) {s : Schema SchemaNode} {d : Discriminator} (h : s.Discriminates d)
    (context : String) (b : Build) :
    ((r.node context (.schema s)).run b).1.shape.discriminator? = some d := by
  change ((r.shaped context s).run b).1.shape.discriminator? = some d
  rw [r.shaped_of_chooses h.toChooses]
  change ((r.choice context s.discriminator s.nonNullAlternatives).run b).1.shape.discriminator? = some d
  have hmany := h.several
  cases hmembers : s.nonNullAlternatives with
  | nil => simp [hmembers] at hmany
  | cons n ns =>
    cases ns with
    | nil => simp [hmembers] at hmany
    | cons n' ns => exact h.written

/-- members that are built as references stay as they are -/
theorem Reach.run_nestedVariants_refs {r : Reach} {refs : List (SchemaNode × String)} {b : Build}
    (h : ∀ e ∈ refs, ∀ context, (r.below context e.1).run b = (.reference e.2, b)) (context : String) (i : Nat) :
    (r.nestedVariants context i (refs.map (·.1))).run b = (refs.map fun e => .reference e.2, b) := by
  induction refs generalizing i with
  | nil => rfl
  | cons e refs ih =>
    let inner := variantContext context i
    have hfirst : (r.nested inner e.1).run b = (.reference e.2, b) := by
      change (promote inner ((r.below inner e.1).run b).1).run ((r.below inner e.1).run b).2 = _
      rw [h e List.mem_cons_self]
      rfl
    have hrest := ih (fun e he => h e (List.mem_cons_of_mem _ he)) (i + 1)
    change (let p := (r.nested inner e.1).run b
      let q := (r.nestedVariants context (i + 1) (refs.map (·.1))).run p.2
      (p.1 :: q.1, q.2)) = _
    rw [hfirst]
    dsimp only
    rw [hrest]
    rfl

end ClientPlan
