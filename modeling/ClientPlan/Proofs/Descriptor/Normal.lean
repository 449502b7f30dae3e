/-
The normal form of descriptors. Nothing is optional that is optional already or that is null, and a union has at least
two members, all different, none of them optional. The functions that descriptors are made with keep it
(`normal_withOptionality`, `normal_ofVariants`), so the types of all models have it, and whether a type is required
decides about the outermost layer only (`descriptor_normal`).
-/
import ClientPlan.Descriptor.OfModel
import ClientPlan.Proofs.Descriptor.Parts
import ClientPlan.Proofs.Sequences

namespace ClientPlan

namespace Descriptor

/-- the outermost layer of a descriptor is in normal form -/
def Regular : Descriptor → Prop
  | optional inner => inner.isOptional = false ∧ inner ≠ leaf .null
  | union variants => 2 ≤ variants.length ∧ variants.Nodup ∧ ∀ v ∈ variants, v.isOptional = false
  | leaf _ | list _ | map _ | named _ | enumeration _ => True

/-- every part of a descriptor is in normal form -/
def Normal (d : Descriptor) : Prop :=
  ∀ part, Inside part d → part.Regular

section Normal

variable {d base : Descriptor} {ds : List Descriptor}

theorem normal_iff : d.Normal ↔ d.Regular ∧ ∀ c ∈ d.children, c.Normal := by
  constructor
  · exact fun h => ⟨h d (.root d), fun c hc part hpart => h part (.within hpart hc)⟩
  · rintro ⟨hroot, hchildren⟩ part hpart
    rcases inside_iff.1 hpart with rfl | ⟨c, hc, hpart⟩
    · exact hroot
    · exact hchildren c hc part hpart

@[simp] theorem normal_leaf (l : Leaf) : (leaf l).Normal :=
  normal_iff.2 ⟨trivial, by simp [children]⟩

@[simp] theorem normal_named (name : String) : (named name).Normal :=
  normal_iff.2 ⟨trivial, by simp [children]⟩

@[simp] theorem normal_enumeration (name : String) : (enumeration name).Normal :=
  normal_iff.2 ⟨trivial, by simp [children]⟩

@[simp] theorem normal_list : (list d).Normal ↔ d.Normal := by
  rw [normal_iff]
  simp [children, Regular]

@[simp] theorem normal_map : (map d).Normal ↔ d.Normal := by
  rw [normal_iff]
  simp [children, Regular]

/-! ## Optionality -/

@[simp] theorem orAbsent_orAbsent (d : Descriptor) : d.orAbsent.orAbsent = d.orAbsent := by
  cases d <;> rfl

@[simp] theorem isOptional_orAbsent (d : Descriptor) : d.orAbsent.isOptional = true := by
  cases d <;> rfl

theorem orAbsent_of_not (h : d.isOptional = false) : d.orAbsent = optional d := by
  cases d with
  | optional inner => cases h
  | _ => rfl

@[simp] theorem orAbsent_ne_null (d : Descriptor) : d.orAbsent ≠ leaf .null := by
  cases d <;> simp [orAbsent]

/-- optionality keeps the normal form -/
theorem normal_withOptionality (hbase : base.Normal) (hnot : base.isOptional = false) (o : Bool) :
    (base.withOptionality o).Normal := by
  unfold withOptionality
  split_ifs with hnull
  · exact hbase
  · rw [orAbsent_of_not hnot, normal_iff]
    exact ⟨⟨hnot, hnull⟩, fun c hc => List.mem_singleton.1 hc ▸ hbase⟩
  · exact hbase

/-- a type that is not required is optional, if it is not the null type -/
theorem withOptionality_true (base : Descriptor) (o : Bool) :
    base.withOptionality true =
      if base.withOptionality o = leaf .null then leaf .null else (base.withOptionality o).orAbsent := by
  unfold withOptionality
  by_cases hnull : base = leaf .null
  · simp [hnull]
  · cases o <;> simp [hnull]

theorem withOptionality_eq_null (o : Bool) : base.withOptionality o = leaf .null ↔ base = leaf .null := by
  unfold withOptionality
  split_ifs with hnull ho
  · simp [hnull]
  · simp [hnull]
  · simp [hnull]

/-- what is not null has the optionality that was put around it -/
theorem isOptional_withOptionality {o : Bool} (hnot : base.isOptional = false)
    (hnull : base.withOptionality o ≠ leaf .null) : (base.withOptionality o).isOptional = o := by
  unfold withOptionality at hnull ⊢
  split_ifs at hnull ⊢ with hbase ho
  · exact absurd hbase hnull
  · rw [isOptional_orAbsent, ho]
  · rw [hnot, eq_false_of_ne_true ho]

/-! ## Unions -/

/-- a descriptor without the optionality around it -/
def bare : Descriptor → Descriptor
  | optional inner => inner
  | d => d

theorem Normal.bare (h : d.Normal) : d.bare.Normal ∧ d.bare.isOptional = false := by
  cases d with
  | optional inner =>
    obtain ⟨⟨hnot, -⟩, hinner⟩ := normal_iff.1 h
    exact ⟨hinner inner (List.mem_singleton_self inner), hnot⟩
  | _ => exact ⟨h, rfl⟩

/-- a union of normal types is in normal form, if none of them is optional, and is not optional itself -/
theorem normal_oneOf (h : ∀ d ∈ ds, d.Normal ∧ d.isOptional = false) :
    (oneOf ds).Normal ∧ (oneOf ds).isOptional = false := by
  have hdistinct : ∀ d ∈ ds.eraseDups, d.Normal ∧ d.isOptional = false := fun d hd => h d (List.mem_eraseDups.1 hd)
  have hnodup : ds.eraseDups.Nodup := nodup_eraseDups _
  unfold oneOf
  generalize ds.eraseDups = es at hdistinct hnodup
  match es with
  | [] => exact ⟨normal_leaf _, rfl⟩
  | [d] => exact hdistinct d (List.mem_singleton_self d)
  | d :: d' :: es =>
    have hlength : 2 ≤ (d :: d' :: es).length := by simp
    exact ⟨normal_iff.2 ⟨⟨hlength, hnodup, fun v hv => (hdistinct v hv).2⟩, fun v hv => (hdistinct v hv).1⟩, rfl⟩

/-- a union of normal types is in normal form, optional or not: it takes over the optionality of its members -/
theorem normal_ofVariants (h : ∀ d ∈ ds, d.Normal) :
    (ofVariants ds).1.Normal ∧ (ofVariants ds).1.isOptional = false := by
  refine normal_oneOf fun d hd => ?_
  obtain ⟨v, hv, rfl⟩ := List.mem_map.1 hd
  exact (h v hv).bare

/-- a reference is not optional by itself -/
theorem normal_ofReference (t : Table) (name : String) :
    (ofReference t name).1.Normal ∧ (ofReference t name).1.isOptional = false := by
  unfold ofReference
  split
  · exact ⟨normal_leaf _, rfl⟩
  · dsimp only
    split_ifs
    · exact ⟨normal_leaf _, rfl⟩
    · exact ⟨normal_enumeration name, rfl⟩
    · exact ⟨normal_named name, rfl⟩

end Normal

end Descriptor

namespace Model

open Descriptor

/-- the types of models are in normal form -/
theorem normal_descriptor (t : Table) :
    (∀ m required, (descriptor t m required).Normal) ∧ (∀ ms, ∀ d ∈ descriptors t ms, d.Normal) ∧
      ∀ m?, (descriptorOrAny t m?).Normal := by
  -- one case for each branch of `descriptor`: what optionality is put around is never optional itself
  apply descriptor.mutual_induct t
  case case1 => intros; exact normal_withOptionality (normal_leaf _) rfl _
  case case2 => intros; exact normal_withOptionality (normal_named _) rfl _
  case case3 =>
    intro properties required additional format nullable description required' ih
    exact normal_withOptionality (normal_map.2 ih) rfl _
  case case4 =>
    intro name items format nullable description required ih
    exact normal_withOptionality (normal_list.2 ih) rfl _
  case case5 => intros; exact normal_withOptionality (normal_enumeration _) rfl _
  case case6 => intros; exact normal_withOptionality (normal_leaf _) rfl _
  case case7 =>
    intro name variants literals discriminator format nullable description required base optional hbase ih
    obtain ⟨hnormal, hnot⟩ := normal_ofVariants ih
    exact normal_withOptionality hnormal hnot _
  case case8 =>
    intro name target format nullable description required base optional hbase
    obtain ⟨hnormal, hnot⟩ := normal_ofReference t target
    exact normal_withOptionality hnormal hnot _
  case case9 => exact normal_leaf _
  case case10 => intro m ih; exact ih
  case case11 => simp [descriptors]
  case case12 =>
    intro m ms ih ihrest d hd
    rcases List.mem_cons.1 hd with rfl | hd
    · exact ih
    · exact ihrest d hd

/-! ## The outermost layer -/

/-- the types of the members of a union, one by one -/
theorem descriptors_eq_map (t : Table) (ms : List Model) : descriptors t ms = ms.map (descriptor t · true) := by
  induction ms with
  | nil => rw [descriptors, List.map_nil]
  | cons m ms ih => rw [descriptors, List.map_cons, ih]

/-- what a model stands for or consists of makes its type optional: it refers to an entry that allows null, or it is a
union with an optional member -/
def TakesNull (t : Table) (m : Model) : Prop :=
  match m.shape with
  | .reference target => ∃ e, Keyed.get? t target = some e ∧ e.nullable = true
  | .union variants _ _ => ∃ v ∈ variants, (v.descriptor t true).isOptional = true
  | _ => False

/-- optionality is put around a type that is not optional by itself: where the type is not required, and where the model
allows null or takes it from elsewhere -/
theorem exists_base (t : Table) (m : Model) : ∃ (base : Descriptor) (o : Bool), base.isOptional = false ∧
    (o = true ↔ m.nullable = true ∨ m.TakesNull t) ∧
      ∀ required, m.descriptor t required = base.withOptionality (!required || o) := by
  obtain ⟨name, shape, format, nullable, description⟩ := m
  cases shape with
  | scalar s => exact ⟨_, nullable, rfl, by simp [TakesNull], fun required => by rw [descriptor]⟩
  | object properties required additional =>
    cases name <;> exact ⟨_, nullable, rfl, by simp [TakesNull], fun required => by rw [descriptor]⟩
  | array items => exact ⟨_, nullable, rfl, by simp [TakesNull], fun required => by rw [descriptor]⟩
  | enumeration kind literals =>
    cases name <;> exact ⟨_, nullable, rfl, by simp [TakesNull], fun required => by rw [descriptor]⟩
  | union variants literals discriminator =>
    have hnormal := normal_ofVariants ((normal_descriptor t).2.1 variants)
    refine ⟨(ofVariants (descriptors t variants)).1, nullable || (ofVariants (descriptors t variants)).2, hnormal.2, ?_,
      fun required => by rw [descriptor, ← Bool.or_assoc]⟩
    simp [TakesNull, ofVariants, descriptors_eq_map]
  | reference target =>
    refine ⟨(ofReference t target).1, nullable || (ofReference t target).2, (normal_ofReference t target).2, ?_,
      fun required => by rw [descriptor, ← Bool.or_assoc]⟩
    cases hget : Keyed.get? t target <;> simp [TakesNull, ofReference, hget]

/-- **The types of models are in normal form**, at every depth, and a type that is not required is the required one made
optional, unless that is null, which is what both are then. -/
theorem descriptor_normal (t : Table) (m : Model) (required : Bool) :
    (m.descriptor t required).Normal ∧
      m.descriptor t false =
        if m.descriptor t true = leaf .null then leaf .null else (m.descriptor t true).orAbsent := by
  refine ⟨(normal_descriptor t).1 m required, ?_⟩
  obtain ⟨base, o, -, -, hbase⟩ := exists_base t m
  rw [hbase, hbase]
  exact withOptionality_true base o

end Model

end ClientPlan
