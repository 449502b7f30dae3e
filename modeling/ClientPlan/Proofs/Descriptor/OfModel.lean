/-
What the descriptors of models mention. A descriptor of a model mentions models of the table only, and those under their
names: a reference is followed as far as the table, and what stands in the model itself is mentioned by its own name.
-/
import ClientPlan.Descriptor.OfModel
import ClientPlan.Proofs.Descriptor.Parts
import ClientPlan.Proofs.Model.Sound

namespace ClientPlan

namespace Descriptor

variable {name : String} {d : Descriptor} {ds : List Descriptor} {t : Table}

@[simp] theorem mentions_orAbsent : Mentions name d.orAbsent ↔ Mentions name d := by
  cases d <;> simp [orAbsent]

/-- optionality mentions nothing -/
@[simp] theorem mentions_withOptionality (optional : Bool) :
    Mentions name (d.withOptionality optional) ↔ Mentions name d := by
  unfold withOptionality
  split_ifs <;> simp

@[simp] theorem mentions_oneOf : Mentions name (oneOf ds) ↔ ∃ d ∈ ds, Mentions name d := by
  have hmem : ∀ d, d ∈ ds.eraseDups ↔ d ∈ ds := fun d => List.mem_eraseDups
  simp only [← hmem]
  unfold oneOf
  generalize ds.eraseDups = es
  match es with
  | [] => simp
  | [d] => simp
  | d :: d' :: es => simp

/-- a union mentions what its members mention -/
@[simp] theorem mentions_ofVariants : Mentions name (ofVariants ds).1 ↔ ∃ d ∈ ds, Mentions name d := by
  simp only [ofVariants, mentions_oneOf, List.mem_map, exists_exists_and_eq_and]
  refine exists_congr fun d => and_congr_right fun _ => ?_
  cases d <;> simp

/-- a reference is mentioned if the table has the model -/
theorem mentions_ofReference {target : String} (h : Mentions name (ofReference t target).1) :
    name ∈ Keyed.keys t := by
  unfold ofReference at h
  split at h
  · simp at h
  · next found hfound =>
    have hname : name = target := by
      dsimp only at h
      split_ifs at h <;> simp at h <;> exact h
    exact hname ▸ Keyed.mem_keys_of_get? hfound

end Descriptor

namespace Model

open Descriptor

/-- the name belongs to the model, or to one inside it -/
def Owns (name : String) (root : Model) : Prop :=
  ∃ m : Model, m.Inside root ∧ m.name = some name

variable {name : String} {t : Table}

theorem Owns.within {c root : Model} (h : c.Owns name) (hc : c ∈ root.children) : root.Owns name := by
  obtain ⟨m, hm, hname⟩ := h
  exact ⟨m, .within hm hc, hname⟩

/-- **What a descriptor mentions** is in the table, or is a name inside the model. -/
theorem mentions_descriptor :
    (∀ m required, Mentions name (descriptor t m required) → name ∈ Keyed.keys t ∨ Owns name m) ∧
    (∀ ms, (∃ d ∈ descriptors t ms, Mentions name d) → name ∈ Keyed.keys t ∨ ∃ m ∈ ms, Owns name m) ∧
    (∀ m?, Mentions name (descriptorOrAny t m?) → name ∈ Keyed.keys t ∨ ∃ m ∈ m?, Owns name m) := by
  -- one case for each branch of `descriptor`: what is named is mentioned by its name, a reference only if it is found
  apply descriptor.mutual_induct t
  case case1 => intros; simp_all [descriptor]
  case case2 =>
    intro key properties required additional format nullable description required' h
    rw [descriptor, mentions_withOptionality, mentions_named] at h
    exact Or.inr ⟨_, .root _, congrArg some h.symm⟩
  case case3 =>
    intro properties required additional format nullable description required' ih h
    rw [descriptor, mentions_withOptionality, mentions_map] at h
    refine (ih h).imp_right fun ⟨m, hm, howns⟩ => howns.within ?_
    exact List.mem_append_right _ (Option.mem_toList.2 hm)
  case case4 =>
    intro key items format nullable description required ih h
    rw [descriptor, mentions_withOptionality, mentions_list] at h
    refine (ih h).imp_right fun ⟨m, hm, howns⟩ => howns.within ?_
    exact Option.mem_toList.2 hm
  case case5 =>
    intro key kind literals format nullable description required h
    rw [descriptor, mentions_withOptionality, mentions_enumeration] at h
    exact Or.inr ⟨_, .root _, congrArg some h.symm⟩
  case case6 => intros; simp_all [descriptor]
  case case7 =>
    intro key variants literals discriminator format nullable description required base optional hbase ih h
    have hvariants : Mentions name (ofVariants (descriptors t variants)).1 := by
      simpa [descriptor] using h
    refine (ih (mentions_ofVariants.1 hvariants)).imp_right fun ⟨m, hm, howns⟩ => howns.within hm
  case case8 =>
    intro key target format nullable description required base optional hbase h
    have htarget : Mentions name (ofReference t target).1 := by
      simpa [descriptor] using h
    exact Or.inl (mentions_ofReference htarget)
  case case9 => simp [descriptorOrAny]
  case case10 =>
    intro m ih h
    exact (ih h).imp_right fun howns => ⟨m, rfl, howns⟩
  case case11 => simp [descriptors]
  case case12 =>
    intro m ms ih ihrest h
    rw [descriptors] at h
    rcases h with ⟨d, hd, h⟩
    rcases List.mem_cons.1 hd with rfl | hd
    · exact (ih h).imp_right fun howns => ⟨m, List.mem_cons_self, howns⟩
    · exact (ihrest ⟨d, hd, h⟩).imp_right fun ⟨m', hm', howns⟩ => ⟨m', List.mem_cons_of_mem _ hm', howns⟩

end Model

end ClientPlan
