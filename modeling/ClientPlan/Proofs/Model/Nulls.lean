/-
Members of unions that allow nothing but null. A member of type null alone makes the union nullable
(`nullable_of_null_member`). Nothing else is looked for: null as the only entry of a list of types, as a listed
literal, or as what a nested union or a lone member of `allOf` allows, is built like any other member. So models do not
mix null with other kinds as long as no schema hides it in this way, which is what the law `unmixedLaw` says.
-/
import ClientPlan.Proofs.Descriptor.Unmixed
import ClientPlan.Proofs.Model.Literals

namespace ClientPlan

namespace SchemaNode

/-- a schema that allows nothing but null, in whichever way it says so -/
inductive OnlyNull : SchemaNode → Prop
  | literals {s : Schema SchemaNode} {values : List Json} (h : s.Lists values) (hall : ∀ v ∈ values, v.isNull = true) :
      OnlyNull (.schema s)
  | typed {s : Schema SchemaNode} (h : s.NullTyped) : OnlyNull (.schema s)
  | lone {s : Schema SchemaNode} {only : SchemaNode} (h : s.Open) (hone : s.allOf = [only]) (hnone : s.properties = [])
      (honly : OnlyNull only) : OnlyNull (.schema s)
  | choice {s : Schema SchemaNode} (h : s.Chooses) (hall : ∀ n ∈ s.nonNullAlternatives, OnlyNull n) :
      OnlyNull (.schema s)

/-- a choice among several members, one of which allows nothing but null and yet is not of type null alone -/
def HidesNull (n : SchemaNode) : Prop :=
  ∃ s, n = .schema s ∧ s.Chooses ∧ 1 < s.nonNullAlternatives.length ∧ ∃ m ∈ s.nonNullAlternatives, m.OnlyNull

end SchemaNode

/-! ## The law -/

/-- the model of literals does not mix null with other kinds; it has the null kind if there are no others -/
theorem Model.ofLiterals_unmixed (values : List Json) :
    (Model.ofLiterals values).Unmixed ∧
      ((Model.ofLiterals values).kind? = some .null → ∀ v ∈ values, v.isNull = true) := by
  have hnull := null_notMem_literalKinds values
  have hnil := @literalKinds_eq_nil (values.filter fun v => !v.isNull)
  unfold Model.ofLiterals
  dsimp only
  generalize literalKinds (values.filter fun v => !v.isNull) = kinds at hnull hnil
  match kinds with
  | [] =>
    refine ⟨Model.unmixed_of_kind? rfl, fun _ v hv => ?_⟩
    simpa using List.filter_eq_nil_iff.1 (hnil rfl) v hv
  | [kind] =>
    refine ⟨Model.unmixed_of_kind? rfl, fun hkind => ?_⟩
    exact absurd (List.mem_singleton.2 (Option.some.inj hkind).symm) hnull
  | kind :: kind' :: kinds =>
    have hscalars : ∀ m ∈ (kind :: kind' :: kinds).map Model.scalar, m.Unmixed ∧ m.kind? ≠ some .null := by
      intro m hm
      obtain ⟨k, hk, rfl⟩ := List.mem_map.1 hm
      exact ⟨Model.unmixed_of_kind? rfl, fun hkind => hnull (Option.some.inj hkind ▸ hk)⟩
    exact ⟨(Model.unmixed_union hscalars _ none).of_shape rfl, fun hkind => by cases hkind⟩

theorem Model.Single.unmixed {m : Model} (h : m.Single Model.Unmixed) : m.Unmixed ∧ m.kind? ≠ some .null := by
  have hchildren := h.children
  cases h with
  | object | array => exact ⟨Model.unmixed_iff.2 ⟨nofun, hchildren⟩, nofun⟩
  | scalar format hkind =>
    exact ⟨Model.unmixed_of_kind? rfl, fun hnull => hkind (Option.some.inj hnull)⟩

/-- what is built of a schema in one of its forms -/
theorem Schema.Forms.unmixed {s : Schema SchemaNode} {m : Model} (hs : ¬ (SchemaNode.schema s).HidesNull)
    (h : s.Forms (fun n m => m.Unmixed ∧ (m.kind? = some .null → n.OnlyNull)) Model.Unmixed m) :
    m.Unmixed ∧ (m.kind? = some .null → (SchemaNode.schema s).OnlyNull) := by
  cases h with
  | literals hvalues =>
    obtain ⟨hunmixed, hnull⟩ := Model.ofLiterals_unmixed _
    exact ⟨hunmixed, fun hkind => .literals hvalues (hnull hkind)⟩
  | lone hopen hone hnone hm => exact ⟨hm.1, fun hkind => .lone hopen hone hnone (hm.2 hkind)⟩
  | vacant hchooses hnone =>
    refine ⟨Model.unmixed_of_kind? rfl, fun _ => .choice hchooses ?_⟩
    rw [hnone]
    exact List.forall_mem_nil _
  | left hchooses hone hm =>
    refine ⟨hm.1, fun hkind => .choice hchooses ?_⟩
    rw [hone]
    exact List.forall_mem_singleton.2 (hm.2 hkind)
  | choice hchooses hmany hms =>
    -- a member of the null kind comes from a schema that hides null
    refine ⟨Model.unmixed_union (fun m hm => ?_) _ _, fun hkind => by cases hkind⟩
    obtain ⟨i, hi, rfl⟩ := List.getElem_of_mem hm
    obtain ⟨hunmixed, hnull⟩ := hms.get (hms.length_eq ▸ hi) hi
    have hn := List.get_mem s.nonNullAlternatives ⟨i, hms.length_eq ▸ hi⟩
    exact ⟨hunmixed, fun hkind => hs ⟨s, rfl, hchooses, hmany, _, hn, hnull hkind⟩⟩
  | null hnull => exact ⟨Model.unmixed_of_kind? rfl, fun _ => .typed hnull⟩
  | single hsingle => exact ⟨hsingle.unmixed.1, fun hkind => absurd hkind hsingle.unmixed.2⟩
  | types hms =>
    refine ⟨Model.unmixed_union (fun m hm => ?_) _ _, fun hkind => by cases hkind⟩
    exact (hms m hm).elim (·.unmixed) fun ⟨_, hshape⟩ => Model.unmixed_reference hshape

/-- where no schema hides null, models do not mix it with other kinds -/
def unmixedLaw {S : SchemaNode → Prop} (hS : ∀ n, S n → ¬ n.HidesNull) : FormLaw S where
  Kin n m := m.Unmixed ∧ (m.kind? = some .null → n.OnlyNull)
  Kept := Model.Unmixed
  kept h := h.1
  single h := h.unmixed.1
  restyled := .of_shape
  placeholder _ := ⟨Model.unmixed_of_kind? rfl, fun hkind => by cases hkind⟩
  reference h := ⟨(Model.unmixed_reference h).1, fun hkind => absurd hkind (Model.unmixed_reference h).2⟩
  formed hs h hshape := by
    obtain ⟨hunmixed, hnull⟩ := h.unmixed (hS _ hs)
    exact ⟨hunmixed.of_shape hshape, fun hkind => hnull (Model.kind?_of_shape hshape ▸ hkind)⟩

/-! ## Members of type null -/

/-- what allows null has an optional type, or is null -/
theorem Model.optional_of_nullable {m : Model} (h : m.nullable = true) (t : Table) (required : Bool) :
    m.descriptor t required = .leaf .null ∨ (m.descriptor t required).isOptional = true := by
  obtain ⟨base, o, -, ho, hbase⟩ := exists_base t m
  rw [hbase, ho.2 (Or.inl h), Bool.or_true, Descriptor.withOptionality, if_pos rfl]
  split_ifs with hnull
  · exact Or.inl hnull
  · exact Or.inr (Descriptor.isOptional_orAbsent base)

/-- **A member of type null makes a union nullable.** -/
theorem nullable_of_null_member {r : Reach} {s : Schema SchemaNode} (hs : s.Chooses)
    (hnull : ∃ n ∈ s.alternatives, n.isNullType = true) (context : String) (b : Build) :
    ((r.node context (.schema s)).run b).1.nullable = true := by
  have hany : s.alternatives.any (·.isNullType) = true := List.any_eq_true.2 hnull
  change (((r.shaped context s).run b).1.nullable || s.declaresNullable) = true
  rw [r.shaped_of_chooses hs]
  change ((((r.choice context s.discriminator s.nonNullAlternatives).run b).1.nullable ||
    s.alternatives.any (·.isNullType)) || s.declaresNullable) = true
  rw [hany, Bool.or_true, Bool.true_or]

end ClientPlan
