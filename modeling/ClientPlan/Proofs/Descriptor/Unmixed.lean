/-
Types that do not mix null with others. What allows null beside other values has a type that is optional, so null is to
be no member of a union. If no union among the models inside a model has a member of the null kind, then this holds of
its type, on any table (`unmixed_descriptor`): a reference is not followed, so null is never where a name stands.
-/
import ClientPlan.Proofs.Descriptor.Normal
import ClientPlan.Proofs.Model.Sound

namespace ClientPlan

namespace Descriptor

/-- no union in a type, at any depth, has null among its members -/
def Unmixed (d : Descriptor) : Prop :=
  ∀ variants, Inside (union variants) d → leaf .null ∉ variants

section Unmixed

variable {d base : Descriptor} {ds : List Descriptor}

theorem unmixed_iff :
    d.Unmixed ↔ (∀ variants, d = union variants → leaf .null ∉ variants) ∧ ∀ c ∈ d.children, c.Unmixed := by
  constructor
  · exact fun h => ⟨fun variants hd => h variants (hd ▸ .root _), fun c hc variants hin => h variants (.within hin hc)⟩
  · rintro ⟨hroot, hchildren⟩ variants hin
    rcases inside_iff.1 hin with hd | ⟨c, hc, hin⟩
    · exact hroot variants hd.symm
    · exact hchildren c hc variants hin

@[simp] theorem unmixed_leaf (l : Leaf) : (leaf l).Unmixed :=
  unmixed_iff.2 (by simp [children])

@[simp] theorem unmixed_named (name : String) : (named name).Unmixed :=
  unmixed_iff.2 (by simp [children])

@[simp] theorem unmixed_enumeration (name : String) : (enumeration name).Unmixed :=
  unmixed_iff.2 (by simp [children])

@[simp] theorem unmixed_list : (list d).Unmixed ↔ d.Unmixed := by
  rw [unmixed_iff]
  simp [children]

@[simp] theorem unmixed_map : (map d).Unmixed ↔ d.Unmixed := by
  rw [unmixed_iff]
  simp [children]

@[simp] theorem unmixed_optional : (optional d).Unmixed ↔ d.Unmixed := by
  rw [unmixed_iff]
  simp [children]

@[simp] theorem unmixed_union : (union ds).Unmixed ↔ leaf .null ∉ ds ∧ ∀ d ∈ ds, d.Unmixed := by
  rw [unmixed_iff]
  simp [children]

@[simp] theorem unmixed_orAbsent : d.orAbsent.Unmixed ↔ d.Unmixed := by
  cases d <;> simp [orAbsent]

@[simp] theorem unmixed_withOptionality (o : Bool) : (base.withOptionality o).Unmixed ↔ base.Unmixed := by
  unfold withOptionality
  split_ifs <;> simp

theorem unmixed_bare (h : d.Unmixed) : d.bare.Unmixed := by
  cases d with
  | optional inner => exact unmixed_optional.1 h
  | _ => exact h

/-- in normal form, null has no optionality around it -/
theorem Normal.bare_eq_null (h : d.Normal) (hnull : d.bare = leaf .null) : d = leaf .null := by
  cases d with
  | optional inner => exact absurd hnull (normal_iff.1 h).1.2
  | _ => exact hnull

theorem oneOf_unmixed (h : ∀ d ∈ ds, d ≠ leaf .null ∧ d.Unmixed) : oneOf ds ≠ leaf .null ∧ (oneOf ds).Unmixed := by
  have hdistinct : ∀ d ∈ ds.eraseDups, d ≠ leaf .null ∧ d.Unmixed := fun d hd => h d (List.mem_eraseDups.1 hd)
  unfold oneOf
  generalize ds.eraseDups = es at hdistinct
  match es with
  | [] => simp
  | [d] => exact hdistinct d (List.mem_singleton_self d)
  | d :: d' :: es =>
    refine ⟨by simp, unmixed_union.2 ⟨fun hnull => (hdistinct _ hnull).1 rfl, fun v hv => (hdistinct v hv).2⟩⟩

/-- a union of types other than null is not null, and not mixed with it -/
theorem ofVariants_unmixed (hnormal : ∀ d ∈ ds, d.Normal) (h : ∀ d ∈ ds, d ≠ leaf .null ∧ d.Unmixed) :
    (ofVariants ds).1 ≠ leaf .null ∧ (ofVariants ds).1.Unmixed := by
  refine oneOf_unmixed fun d hd => ?_
  obtain ⟨v, hv, rfl⟩ := List.mem_map.1 hd
  exact ⟨fun hnull => (h v hv).1 ((hnormal v hv).bare_eq_null hnull), unmixed_bare (h v hv).2⟩

theorem ofReference_unmixed (t : Table) (name : String) :
    (ofReference t name).1 ≠ leaf .null ∧ (ofReference t name).1.Unmixed := by
  unfold ofReference
  split
  · simp
  · dsimp only
    split_ifs <;> simp

end Unmixed

end Descriptor

theorem Scalar.refine_eq_null {s : Scalar} {format : Option String} : s.refine format = .null ↔ s = .null := by
  cases s <;> unfold refine <;> (try split) <;> simp_all

namespace Model

open Descriptor

/-- the kind of a scalar or of listed literals -/
def kind? (m : Model) : Option Scalar :=
  match m.shape with
  | .scalar s => some s
  | .enumeration s _ => some s
  | _ => none

/-- no union inside a model, at any depth, has a member of the null kind -/
def Unmixed (root : Model) : Prop :=
  ∀ m : Model, m.Inside root → ∀ variants literals discriminator, m.shape = .union variants literals discriminator →
    ∀ v ∈ variants, v.kind? ≠ some .null

theorem unmixed_iff {root : Model} : root.Unmixed ↔
    (∀ variants literals discriminator, root.shape = .union variants literals discriminator →
      ∀ v ∈ variants, v.kind? ≠ some .null) ∧ ∀ c ∈ root.children, c.Unmixed := by
  constructor
  · exact fun h => ⟨h root (.root root), fun c hc m hm => h m (.within hm hc)⟩
  · rintro ⟨hroot, hchildren⟩ m hm
    rcases hm.root_or_below with rfl | ⟨c, hc, hm⟩
    · exact hroot
    · exact hchildren c hc m hm

theorem kind?_of_shape {m m' : Model} (h : m'.shape = m.shape) : m'.kind? = m.kind? := by
  rw [kind?, kind?, h]

theorem Unmixed.of_shape {m m' : Model} (h : m.Unmixed) (hshape : m'.shape = m.shape) : m'.Unmixed := by
  rw [unmixed_iff, hshape, children_of_shape hshape]
  exact unmixed_iff.1 h

theorem unmixed_of_kind? {m : Model} {kind : Scalar} (h : m.kind? = some kind) : m.Unmixed := by
  obtain ⟨name, shape, format, nullable, description⟩ := m
  cases shape with
  | scalar s => exact unmixed_iff.2 (by simp [children])
  | enumeration s literals => exact unmixed_iff.2 (by simp [children])
  | _ => cases h

theorem unmixed_reference {m : Model} {target : String} (h : m.shape = .reference target) :
    m.Unmixed ∧ m.kind? ≠ some .null :=
  ⟨unmixed_iff.2 (by simp [children, h]), by simp [kind?, h]⟩

/-- a union of models that do not mix null and are not of its kind does not mix it either -/
theorem unmixed_union {ms : List Model} (h : ∀ m ∈ ms, m.Unmixed ∧ m.kind? ≠ some .null) (literals : List Json)
    (discriminator : Option Discriminator) : (Model.of (.union ms literals discriminator)).Unmixed := by
  refine unmixed_iff.2 ⟨fun variants literals discriminator hshape v hv => ?_, fun m hm => (h m hm).1⟩
  cases hshape
  exact (h v hv).2

/-- **Models that do not mix null have types that do not**, and what is not of the null kind does not have the null
type. -/
theorem unmixed_descriptor (t : Table) :
    (∀ m required, m.Unmixed →
      ((descriptor t m required) = leaf .null → m.kind? = some .null) ∧ (descriptor t m required).Unmixed) ∧
    (∀ ms : List Model, (∀ m ∈ ms, m.kind? ≠ some .null ∧ m.Unmixed) →
      ∀ d ∈ descriptors t ms, d ≠ leaf .null ∧ d.Unmixed) ∧
    ∀ m? : Option Model, (∀ m ∈ m?, m.Unmixed) → (descriptorOrAny t m?).Unmixed := by
  -- one case for each branch of `descriptor`
  apply descriptor.mutual_induct t
  case case1 =>
    intro name s format nullable description required h
    simp [descriptor, withOptionality_eq_null, Scalar.refine_eq_null, kind?]
  case case2 =>
    intro name properties required additional format nullable description required' h
    simp [descriptor, withOptionality_eq_null]
  case case3 =>
    intro properties required additional format nullable description required' ih h
    have hadditional := ih fun m hm => (unmixed_iff.1 h).2 m (List.mem_append_right _ (Option.mem_toList.2 hm))
    simpa [descriptor, withOptionality_eq_null] using hadditional
  case case4 =>
    intro name items format nullable description required ih h
    have hitems := ih fun m hm => (unmixed_iff.1 h).2 m (Option.mem_toList.2 hm)
    simpa [descriptor, withOptionality_eq_null] using hitems
  case case5 =>
    intro name kind literals format nullable description required h
    simp [descriptor, withOptionality_eq_null]
  case case6 =>
    intro kind literals format nullable description required h
    simp [descriptor, withOptionality_eq_null, Scalar.refine_eq_null, kind?]
  case case7 =>
    intro name variants literals discriminator format nullable description required base optional hbase ih h
    obtain ⟨hroot, hchildren⟩ := unmixed_iff.1 h
    have hvariants := ih fun m hm => ⟨hroot variants literals discriminator rfl m hm, hchildren m hm⟩
    obtain ⟨hnot, hunmixed⟩ := ofVariants_unmixed ((normal_descriptor t).2.1 variants) hvariants
    rw [descriptor, withOptionality_eq_null, unmixed_withOptionality]
    exact ⟨fun hnull => absurd hnull hnot, hunmixed⟩
  case case8 =>
    intro name target format nullable description required base optional hbase h
    obtain ⟨hnot, hunmixed⟩ := ofReference_unmixed t target
    rw [descriptor, withOptionality_eq_null, unmixed_withOptionality]
    exact ⟨fun hnull => absurd hnull hnot, hunmixed⟩
  case case9 => simp [descriptorOrAny]
  case case10 =>
    intro m ih h
    exact (ih (h m rfl)).2
  case case11 => simp [descriptors]
  case case12 =>
    intro m ms ih ihrest h
    obtain ⟨⟨hkind, hm⟩, hms⟩ := List.forall_mem_cons.1 h
    rw [descriptors]
    exact List.forall_mem_cons.2 ⟨⟨fun hnull => hkind ((ih hm).1 hnull), (ih hm).2⟩, ihrest hms⟩

end Model

end ClientPlan
