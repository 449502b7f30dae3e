/-
The nodes that a walk comes upon are written in the document. `Written` goes from a node to the nodes that stand in
it, at any depth; what is built one level below a node of a document is written in the same document, also where it
comes out of members that were merged (`Region.inner`), and a document has finitely many nodes
(`finite_writtenIn`).
-/
import Mathlib.Data.Set.Finite.Lattice
import ClientPlan.Proofs.Model.Nesting

namespace ClientPlan

open Relation

/-! ## Written nodes -/

namespace Schema

variable {ν : Type}

/-- the nodes written directly in a schema -/
def parts (s : Schema ν) : List ν :=
  s.objectNodes ++ s.items.toList ++ s.allOf ++ s.alternatives

theorem objectNodes_subset_parts (s : Schema ν) : s.objectNodes ⊆ s.parts :=
  fun _ h => by simp [parts, h]

theorem items_subset_parts (s : Schema ν) : s.items.toList ⊆ s.parts :=
  fun _ h => by simp only [parts, List.mem_append]; exact Or.inl (Or.inl (Or.inr h))

theorem allOf_subset_parts (s : Schema ν) : s.allOf ⊆ s.parts :=
  fun _ h => by simp [parts, h]

theorem singleNodes_subset_parts (s : Schema ν) (t : TypeName) : s.singleNodes t ⊆ s.parts := by
  cases t with
  | object => exact s.objectNodes_subset_parts
  | array => exact s.items_subset_parts
  | _ => exact List.nil_subset _

theorem untypedNodes_subset_parts (s : Schema ν) : s.untypedNodes ⊆ s.parts := by
  unfold untypedNodes
  split
  · exact s.objectNodes_subset_parts
  · exact s.items_subset_parts

theorem typedNodes_subset_parts (s : Schema ν) : s.typedNodes ⊆ s.parts := by
  unfold typedNodes
  split
  · exact s.untypedNodes_subset_parts
  · intro n hn
    obtain ⟨t, -, hn⟩ := List.mem_flatMap.1 hn
    exact s.singleNodes_subset_parts t hn

theorem nonNullAlternatives_subset_parts (s : Schema SchemaNode) : s.nonNullAlternatives ⊆ s.parts :=
  fun _ h => List.mem_append_right _ (List.mem_of_mem_filter h)

theorem mem_objectNodes_absorb {target member : Schema SchemaNode} {n : SchemaNode}
    (h : n ∈ (target.absorb member).objectNodes) : n ∈ target.objectNodes ∨ n ∈ member.objectNodes := by
  rcases List.mem_append.1 h with h | h
  · obtain ⟨e, he, rfl⟩ := List.mem_map.1 h
    exact (Keyed.mem_foldl_insert he).imp (fun he => List.mem_append_left _ (List.mem_map_of_mem he))
      (fun he => List.mem_append_left _ (List.mem_map_of_mem he))
  · unfold valueNodes at h
    cases hadd : member.additional with
    | none =>
      rw [absorb, hadd] at h
      exact Or.inl (List.mem_append_right _ h)
    | some extra =>
      rw [absorb, hadd] at h
      refine Or.inr (List.mem_append_right _ ?_)
      rw [valueNodes, hadd]
      exact h

/-- the members of a schema are merged, because there are several or there are properties beside them -/
def Merges (s : Schema ν) : Prop :=
  s.allOf ≠ [] ∧ ∀ only, s.allOf = [only] → s.properties ≠ []

/-- the nodes that a schema reads are written in it or come from members that are merged -/
theorem mem_innerNodes {components : Keyed SchemaNode} {s : Schema SchemaNode} {n : SchemaNode}
    (h : n ∈ s.innerNodes components) : n ∈ s.parts ∨ s.Merges ∧ n ∈ (ofMembers components s.allOf).objectNodes := by
  unfold innerNodes at h
  split at h
  · cases h
  · split_ifs at h
    · cases h
    · rename_i hall
      unfold mergedNodes at h
      split at h
      · rename_i only hone _
        exact Or.inl (s.allOf_subset_parts (hone ▸ h))
      · rename_i hmany
        rcases mem_objectNodes_absorb h with h | h
        · exact Or.inr ⟨⟨by simpa using hall, hmany⟩, h⟩
        · exact Or.inl (s.objectNodes_subset_parts h)
    · exact Or.inl (s.nonNullAlternatives_subset_parts h)
    · exact Or.inl (s.typedNodes_subset_parts h)

/-- a schema is larger than what its keywords hold -/
theorem sizeOf_fields [SizeOf ν] (s : Schema ν) : sizeOf s.properties < sizeOf s ∧ sizeOf s.additional < sizeOf s ∧
    sizeOf s.items < sizeOf s ∧ sizeOf s.allOf < sizeOf s ∧ sizeOf s.oneOf < sizeOf s ∧ sizeOf s.anyOf < sizeOf s := by
  cases s
  simp only [Schema.mk.sizeOf_spec]
  omega

theorem sizeOf_valueNodes [SizeOf ν] {s : Schema ν} {n : ν} (h : n ∈ s.valueNodes) :
    sizeOf n < sizeOf s.additional := by
  unfold valueNodes at h
  split at h
  · rename_i node hadd
    rw [List.mem_singleton.1 h, hadd, Option.some.sizeOf_spec, Extra.shaped.sizeOf_spec]
    omega
  · cases h

end Schema

namespace SchemaNode

/-- the nodes written directly in a node -/
def parts : SchemaNode → List SchemaNode
  | .schema s => s.parts
  | _ => []

/-- a node is larger than what is written in it -/
theorem sizeOf_parts {n m : SchemaNode} (h : m ∈ n.parts) : sizeOf m < sizeOf n := by
  cases n with
  | ref path => cases h
  | malformed v => cases h
  | schema s =>
    obtain ⟨hproperties, hadditional, hitems, hallOf, honeOf, hanyOf⟩ := s.sizeOf_fields
    rw [SchemaNode.schema.sizeOf_spec]
    simp only [parts, Schema.parts, Schema.objectNodes, Schema.alternatives, List.mem_append, List.mem_map] at h
    rcases h with (((⟨e, he, rfl⟩ | h) | h) | h) | h | h
    · have hentry := List.sizeOf_lt_of_mem he
      have hvalue : sizeOf e.2 < sizeOf e := by cases e; simp only [Prod.mk.sizeOf_spec]; omega
      omega
    · have hvalue := Schema.sizeOf_valueNodes h
      omega
    · rw [Option.mem_toList.1 h, Option.some.sizeOf_spec] at hitems
      omega
    · have hmember := List.sizeOf_lt_of_mem h
      omega
    · have hmember := List.sizeOf_lt_of_mem h
      omega
    · have hmember := List.sizeOf_lt_of_mem h
      omega

/-- `m` is written in `n`, at any depth -/
def Written (n m : SchemaNode) : Prop :=
  ReflTransGen (fun n m => m ∈ n.parts) n m

/-- finitely many nodes are written in a node -/
theorem finite_written (n : SchemaNode) : {m | n.Written m}.Finite := by
  have hcover : {m | n.Written m} ⊆ {n} ∪ ⋃ p ∈ {p | p ∈ n.parts}, {m | p.Written m} := by
    intro m hm
    rcases ReflTransGen.cases_head hm with rfl | ⟨p, hp, hm⟩
    · exact Or.inl rfl
    · exact Or.inr (Set.mem_biUnion hp hm)
  refine Set.Finite.subset ((Set.finite_singleton n).union ?_) hcover
  exact (List.finite_toSet n.parts).biUnion fun p hp => finite_written p
termination_by sizeOf n
decreasing_by exact sizeOf_parts hp

/-- a node is written in a component -/
def WrittenIn (components : Keyed SchemaNode) (n : SchemaNode) : Prop :=
  ∃ e ∈ components, e.2.Written n

theorem finite_writtenIn (components : Keyed SchemaNode) : {n | WrittenIn components n}.Finite := by
  have hcover : {n | WrittenIn components n} = ⋃ e ∈ {e | e ∈ components}, {n | e.2.Written n} := by
    ext n
    simp [WrittenIn]
  rw [hcover]
  exact (List.finite_toSet components).biUnion fun e _ => e.2.finite_written

/-! ## Nodes that a walk comes upon -/

section Reached

variable {components : Keyed SchemaNode}

theorem WrittenIn.part {n m : SchemaNode} (h : n.WrittenIn components) (hm : m ∈ n.parts) : m.WrittenIn components := by
  obtain ⟨e, he, hn⟩ := h
  exact ⟨e, he, hn.tail hm⟩

theorem writtenIn_of_get? {name : String} {n : SchemaNode} (h : components.get? name = some n) :
    n.WrittenIn components :=
  ⟨(name, n), Keyed.mem_of_get? h, ReflTransGen.refl⟩

/-- nodes that building does not lead out of: components are among them, and what is written in one of them is too -/
structure Region (components : Keyed SchemaNode) (S : SchemaNode → Prop) : Prop where
  component : ∀ {name n}, components.get? name = some n → S n
  part : ∀ {n m}, S n → m ∈ n.parts → S m

variable {S : SchemaNode → Prop}

/-- what holds of the target and outlasts every member in the region holds of a merge -/
theorem Region.merge_keeps (h : Region components S) {P : Schema SchemaNode → Prop}
    (habsorb : ∀ target s, P target → S (.schema s) → P (target.absorb s)) :
    (∀ merging target n, P target → S n → ∀ context b,
      P ((mergeNode components context merging target n).run b).1) ∧
    (∀ merging target ns, P target → (∀ n ∈ ns, S n) → ∀ context b,
      P ((mergeNodes components context merging target ns).run b).1) := by
  apply mergeNode.mutual_induct
  case case1 =>
    intro merging target v htarget _ context b
    rw [mergeNode]
    exact htarget
  case case2 =>
    intro merging target s ih htarget hn context b
    rw [run_mergeNode_schema]
    have hmembers : ∀ m ∈ s.allOf, S m := fun m hm => h.part hn (s.allOf_subset_parts hm)
    exact habsorb _ s (ih htarget hmembers context b) hn
  case case3 =>
    intro merging target path hpath htarget _ context b
    rw [mergeNode_unresolved hpath]
    exact htarget
  case case4 =>
    intro merging target path name n hpath hm htarget _ context b
    rw [mergeNode_ref hpath, if_pos hm]
    exact htarget
  case case5 =>
    intro merging target path name n hpath hm ih htarget _ context b
    rw [mergeNode_ref hpath, if_neg hm]
    exact ih htarget (h.component (component?_eq_some.1 hpath).2) context b
  case case6 =>
    intro merging target htarget _ context b
    rw [mergeNodes]
    exact htarget
  case case7 =>
    intro merging target n ns ih ihrest htarget hns context b
    rw [run_mergeNodes_cons]
    have hone := ih htarget (hns n List.mem_cons_self) context b
    exact ihrest _ hone (fun n' hn' => hns n' (List.mem_cons_of_mem _ hn')) context _

/-- what is built below a node of the region is in the region -/
theorem Region.inner (h : Region components S) {n m : SchemaNode} (hn : S n) (hm : m ∈ n.inner components) : S m := by
  cases n with
  | ref path => cases hm
  | malformed v => cases hm
  | schema s =>
    rcases Schema.mem_innerNodes hm with hm | ⟨-, hm⟩
    · exact h.part hn hm
    · have habsorb : ∀ target s' : Schema SchemaNode, (∀ x ∈ target.objectNodes, S x) → S (.schema s') →
          ∀ x ∈ (target.absorb s').objectNodes, S x := by
        intro target s' htarget hs' x hx
        rcases Schema.mem_objectNodes_absorb hx with hx | hx
        · exact htarget x hx
        · exact h.part hs' (s'.objectNodes_subset_parts hx)
      have hmembers : ∀ n ∈ s.allOf, S n := fun n hn' => h.part hn (s.allOf_subset_parts hn')
      exact (h.merge_keeps habsorb).2 [] {} s.allOf (fun x hx => by cases hx) hmembers "" {} m hm

theorem region_writtenIn : Region components (WrittenIn components) :=
  ⟨writtenIn_of_get?, WrittenIn.part⟩

/-- what is built below a written node is written -/
theorem WrittenIn.inner {n m : SchemaNode} (h : n.WrittenIn components) (hm : m ∈ n.inner components) :
    m.WrittenIn components :=
  region_writtenIn.inner h hm

end Reached

end SchemaNode

end ClientPlan
