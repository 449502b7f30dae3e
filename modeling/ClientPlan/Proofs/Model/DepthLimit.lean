/-
Whether some limit on depth is enough for a document. A walk only comes upon written nodes, of which there are
finitely many, so there is an endless chain of nodes below a component exactly if a node comes to stand below itself
(`limit_suffices_iff`). References alone cannot make one, since nothing is built below a reference; but the properties
that are merged from a referenced component are built again wherever it is merged, and a component may be merged below
itself.
-/
import Mathlib.Data.Fintype.Card
import ClientPlan.Proofs.Model.Overflow
import ClientPlan.Proofs.Model.Written

namespace ClientPlan

open Relation

/-! ## Chains and cycles -/

namespace SchemaNode

variable {components : Keyed SchemaNode}

/-- `m` is built one level below `n` -/
def Below (components : Keyed SchemaNode) (n m : SchemaNode) : Prop :=
  m ∈ n.inner components

/-- what is reached from a written node is written -/
theorem WrittenIn.reached {root n : SchemaNode} (h : root.WrittenIn components)
    (hn : ReflTransGen (Below components) root n) : n.WrittenIn components := by
  induction hn with
  | refl => exact h
  | tail _ hbelow ih => exact ih.inner hbelow

/-- from a node that stands below itself, chains do not end -/
theorem deep_of_cycle (k : Nat) {n : SchemaNode} (h : TransGen (Below components) n n) : n.Deep components k := by
  induction k generalizing n with
  | zero => trivial
  | succ k ih =>
    obtain ⟨n', hbelow, hback⟩ := TransGen.head'_iff.1 h
    exact ⟨n', hbelow, ih (TransGen.tail' hback hbelow)⟩

/-- nor do they end from where such a node is reached -/
theorem deep_of_reaches {n m : SchemaNode} (h : ReflTransGen (Below components) n m) (hm : ∀ k, m.Deep components k)
    (k : Nat) : n.Deep components k := by
  induction h using ReflTransGen.head_induction_on generalizing k with
  | refl => exact hm k
  | head hbelow _ ih =>
    cases k with
    | zero => trivial
    | succ k => exact ⟨_, hbelow, ih k⟩

theorem Deep.of_le {j k : Nat} {n : SchemaNode} (hjk : j ≤ k) (h : n.Deep components k) : n.Deep components j := by
  induction j generalizing k n with
  | zero => trivial
  | succ j ih =>
    obtain ⟨k, rfl⟩ := Nat.exists_eq_add_of_le' (Nat.lt_of_lt_of_le (Nat.succ_pos j) hjk)
    obtain ⟨n', hbelow, hdeep⟩ := h
    exact ⟨n', hbelow, ih (Nat.le_of_succ_le_succ hjk) hdeep⟩

/-- a length that the chains from each of several nodes do not reach -/
theorem exists_bound {ns : List SchemaNode} (h : ∀ n ∈ ns, ∃ k, ¬ n.Deep components k) :
    ∃ k, ∀ n ∈ ns, ¬ n.Deep components k := by
  induction ns with
  | nil => exact ⟨0, by simp⟩
  | cons n ns ih =>
    obtain ⟨k, hk⟩ := h n List.mem_cons_self
    obtain ⟨k', hk'⟩ := ih fun n' hn' => h n' (List.mem_cons_of_mem _ hn')
    refine ⟨max k k', fun n' hn' hdeep => ?_⟩
    rcases List.mem_cons.1 hn' with rfl | hn'
    · exact hk (hdeep.of_le (Nat.le_max_left k k'))
    · exact hk' n' hn' (hdeep.of_le (Nat.le_max_right k k'))

/-- where no node that is reached stands below itself, chains end: there are finitely many nodes -/
theorem exists_bound_of_acyclic {root : SchemaNode} (hroot : root.WrittenIn components)
    (h : ∀ n, ReflTransGen (Below components) root n → ¬ TransGen (Below components) n n) :
    ∃ k, ¬ root.Deep components k := by
  let Reached := {n // ReflTransGen (Below components) root n}
  have hfinite : Finite Reached := ((finite_writtenIn components).subset fun _ => hroot.reached).to_subtype
  have htrans : IsTrans Reached fun m n => TransGen (Below components) n.1 m.1 := ⟨fun _ _ _ h h' => h'.trans h⟩
  have hirrefl : Std.Irrefl fun (m n : Reached) => TransGen (Below components) n.1 m.1 := ⟨fun n => h n.1 n.2⟩
  have hwf : WellFounded fun (m n : Reached) => TransGen (Below components) n.1 m.1 :=
    Finite.wellFounded_of_trans_of_irrefl _
  -- each node has its own bound; the induction goes from the nodes below to the node above
  suffices hall : ∀ n : Reached, ∃ k, ¬ n.1.Deep components k from hall ⟨root, ReflTransGen.refl⟩
  intro n
  induction n using hwf.induction with
  | _ n ih =>
    have hinner : ∀ m ∈ n.1.inner components, ∃ k, ¬ m.Deep components k := fun m hm =>
      ih ⟨m, n.2.tail hm⟩ (TransGen.single hm)
    obtain ⟨k, hk⟩ := exists_bound hinner
    exact ⟨k + 1, fun ⟨m, hm, hdeep⟩ => hk m hm hdeep⟩

end SchemaNode

section Limit

open SchemaNode

variable (components : Keyed SchemaNode)

theorem overflowed_of_cycle {name : String} {root n : SchemaNode} (hroot : components.get? name = some root)
    (hn : ReflTransGen (Below components) root n) (hcycle : TransGen (Below components) n n) (limit : Nat) :
    (Source.parsed ⟨components, limit⟩).Overflowed :=
  (Source.overflowed_iff _).2 ⟨name, root, hroot, deep_of_reaches hn (fun k => deep_of_cycle k hcycle) _⟩

theorem exists_limit_of_acyclic (h : ∀ name root, components.get? name = some root →
      ∀ n, ReflTransGen (Below components) root n → ¬ TransGen (Below components) n n) :
    ∃ D, ∀ limit, D ≤ limit → ¬ (Source.parsed ⟨components, limit⟩).Overflowed := by
  have hroots : ∀ root ∈ components.keys.filterMap components.get?, ∃ k, ¬ root.Deep components k := by
    intro root hroot
    obtain ⟨name, -, hname⟩ := List.mem_filterMap.1 hroot
    exact exists_bound_of_acyclic (writtenIn_of_get? hname) (h name root hname)
  obtain ⟨D, hD⟩ := exists_bound hroots
  refine ⟨D, fun limit hlimit hover => ?_⟩
  obtain ⟨name, root, hname, hdeep⟩ := (Source.overflowed_iff _).1 hover
  have hmem : root ∈ components.keys.filterMap components.get? :=
    List.mem_filterMap.2 ⟨name, Keyed.mem_keys_of_get? hname, hname⟩
  exact hD root hmem (hdeep.of_le (Nat.le_succ_of_le hlimit))

/-- **When some limit suffices.** From some limit on, building the components does not come to the limit, exactly if no
node that is reached from a component stands below itself. -/
theorem limit_suffices_iff :
    (∃ D, ∀ limit, D ≤ limit → ¬ (Source.parsed ⟨components, limit⟩).Overflowed) ↔
      ∀ name root, components.get? name = some root →
        ∀ n, ReflTransGen (Below components) root n → ¬ TransGen (Below components) n n := by
  constructor
  · rintro ⟨D, hD⟩ name root hroot n hn hcycle
    exact hD D (Nat.le_refl D) (overflowed_of_cycle components hroot hn hcycle D)
  · exact exists_limit_of_acyclic components

/-- References alone never need the limit: it takes members that are merged. -/
theorem limit_suffices_of_unmerged (h : ∀ s, WrittenIn components (.schema s) → ¬ s.Merges) :
    ∃ D, ∀ limit, D ≤ limit → ¬ (Source.parsed ⟨components, limit⟩).Overflowed := by
  refine exists_limit_of_acyclic components fun name root hroot n hn hcycle => ?_
  have hwritten := (writtenIn_of_get? hroot).reached hn
  -- without merging, what is built below a node is written in it
  have hsmaller : ∀ {n m}, n.WrittenIn components → Below components n m → sizeOf m < sizeOf n := by
    intro n m hn hm
    cases n with
    | ref path => cases hm
    | malformed v => cases hm
    | schema s =>
      rcases Schema.mem_innerNodes hm with hm | ⟨hmerges, -⟩
      · exact sizeOf_parts (n := .schema s) hm
      · exact absurd hmerges (h s hn)
  have hcontains : ∀ {m}, TransGen (Below components) n m → sizeOf m < sizeOf n := by
    intro m hm
    induction hm with
    | single hbelow => exact hsmaller hwritten hbelow
    | tail hm hbelow ih => exact (hsmaller (hwritten.reached hm.to_reflTransGen) hbelow).trans ih
  exact Nat.lt_irrefl _ (hcontains hcycle)

end Limit

/-! ## A component merged below itself -/

/-- a property that describes the next node beside a reference to the component -/
def nextNode : SchemaNode :=
  .schema { allOf := [.ref "#/components/schemas/Node", .schema { description := some "the next node" }] }

/-- a list of nodes -/
def listNode : SchemaNode :=
  .schema { types := some (.one .object), properties := [("next", nextNode)] }

/-- the property of the component is a property of what is merged below it -/
theorem nextNode_below {components : Keyed SchemaNode}
    (h : component? components "#/components/schemas/Node" = some ("Node", listNode)) :
    SchemaNode.Below components nextNode nextNode := by
  let members : List SchemaNode :=
    [.ref "#/components/schemas/Node", .schema { description := some "the next node" }]
  have hmembers : (Schema.ofMembers components members).properties = [("next", nextNode)] := by
    simp only [members, Schema.ofMembers, run_mergeNodes_cons, mergeNode_ref h, List.not_mem_nil, if_false, listNode,
      run_mergeNode_schema, run_mergeNodes_nil]
    rfl
  change nextNode ∈ ((Schema.ofMembers components members).absorb { allOf := members }).objectNodes
  refine List.mem_append_left _ (List.mem_map.2 ⟨("next", nextNode), ?_, rfl⟩)
  change ("next", nextNode) ∈ (Schema.ofMembers components members).properties
  rw [hmembers]
  exact List.mem_singleton_self _

/-- no limit suffices: below the property stands the same property, merged from the component -/
theorem listNode_overflows :
    ¬ ∃ D, ∀ limit, D ≤ limit → ¬ (Source.parsed ⟨[("Node", listNode)], limit⟩).Overflowed := by
  have hname : Keyed.get? [("Node", listNode)] "Node" = some listNode := rfl
  have hroot : SchemaNode.Below [("Node", listNode)] listNode nextNode := List.mem_singleton_self _
  rintro ⟨D, hD⟩
  exact hD D (Nat.le_refl D) (overflowed_of_cycle _ hname (.single hroot) (.single (nextNode_below rfl)) D)

end ClientPlan
