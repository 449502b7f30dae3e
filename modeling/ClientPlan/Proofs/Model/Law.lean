/-
Laws that building a node keeps. A `NodeLaw` goes with an invariant of the state and has two relations: `Node` for a
model that was just built and may still get a name of its own, and `Nodes` for finished models side by side. Both say
which nodes were built one level below. The rules of a law are about single writes and about putting models together;
`NodeLaw.node_leads` says that building any node then keeps the law, by the kinds of outlines.
-/
import ClientPlan.Proofs.Model.Outline

namespace ClientPlan

/-- two relations that each step of building a node keeps, as it keeps the invariant -/
structure NodeLaw (components : Keyed SchemaNode) (Inv : Build → Prop) where
  /-- from the state before, over the nodes built below, to a model and the state after -/
  Node : Build → List SchemaNode → Model → Build → Prop
  /-- the same for finished models side by side -/
  Nodes : Build → List SchemaNode → List Model → Build → Prop
  idle : ∀ {b}, Nodes b [] [] b
  append : ∀ {b b' b'' ns ns' ms ms'}, Nodes b ns ms b' → Nodes b' ns' ms' b'' → Nodes b (ns ++ ns') (ms ++ ms') b''
  noticed : ∀ {b n}, Inv b → (∀ context name, n ≠ .promoted context name) →
    Inv (b.noticed n) ∧ Nodes b [] [] (b.noticed n)
  noted : ∀ {b d}, Inv b → (∀ limit, d.issue ≠ .depthExceeded limit) → Inv (b.noted d) ∧ Nodes b [] [] (b.noted d)
  after : ∀ {b b' b'' ns m}, Nodes b [] [] b' → Node b' ns m b'' → Node b ns m b''
  formed : ∀ {b ns m b'}, Nodes b ns m.children b' → m.name = none → (∀ t, m.target? = some t → t ∈ components.keys) →
    Node b ns m b'
  restyled : ∀ {b ns m m' b'}, Node b ns m b' → m'.name = m.name → m'.shape = m.shape → Node b ns m' b'
  kept : ∀ {b ns m b'}, Node b ns m b' → m.isPromotable = false → Nodes b ns [m] b'
  promoted : ∀ {b ns m b'}, Inv b' → Node b ns m b' → m.isPromotable = true → ∀ context,
    Inv (b'.promoted context m) ∧ Nodes b ns [b'.stub context m] (b'.promoted context m)

namespace NodeLaw

open Outline

variable {components : Keyed SchemaNode} {Inv : Build → Prop} (L : NodeLaw components Inv)

/-! ## Models without nodes below -/

/-- a model that refers to nothing and has nothing inside is built without a step -/
theorem bare {m : Model} (hname : m.name = none) (hchildren : m.children = []) (htarget : m.target? = none)
    (b : Build) :
    L.Node b [] m b := by
  refine L.formed ?_ hname fun t ht => ?_
  · rw [hchildren]; exact L.idle
  · rw [htarget] at ht; cases ht

theorem placeholder (b : Build) : L.Node b [] .placeholder b :=
  L.bare rfl rfl rfl b

theorem scalars (b : Build) (kinds : List Scalar) : L.Nodes b [] (kinds.map Model.scalar) b := by
  induction kinds with
  | nil => exact L.idle
  | cons kind kinds ih => exact L.append (L.kept (L.bare rfl rfl rfl b) rfl) ih

theorem ofLiterals (b : Build) (values : List Json) : L.Node b [] (.ofLiterals values) b := by
  unfold Model.ofLiterals
  dsimp only
  split
  · exact L.bare rfl rfl rfl b
  · exact L.bare rfl rfl rfl b
  · exact L.formed (L.scalars b _) rfl (fun t ht => by cases ht)

/-! ## Building nodes -/

/-- what was built becomes finished when it may get a name of its own -/
theorem promote_run {b mid : Build} {ns : List SchemaNode} {m : Model} (hmid : Inv mid) (hnode : L.Node b ns m mid)
    (context : String) : Inv ((promote context m).run mid).2 ∧
      L.Nodes b ns [((promote context m).run mid).1] ((promote context m).run mid).2 := by
  cases hm : m.isPromotable with
  | false => rw [promote_of_not hm]; exact ⟨hmid, L.kept hnode hm⟩
  | true => rw [run_promote hm]; exact L.promoted hmid hnode hm context

theorem mergeNodes_leads (context : String) (members : List SchemaNode) :
    Leads Inv (mergeNodes components context [] {} members) fun b _ b' => L.Nodes b [] [] b' :=
  (merge_leads (fun _ => L.idle) (fun _ _ _ h h' => L.append h h') (fun _ _ => L.noticed) fun _ _ => L.noted).2 [] {}
    members context

/-- what is built around parts is built of the nodes in them -/
theorem frame_leads {ν : Type} {nodesOf : ν → List SchemaNode} {f : ν → Building Model} {fr : Frame ν}
    (hf : ∀ x ∈ fr.parts, Leads Inv (f x) fun b m b' => L.Nodes b (nodesOf x) [m] b') :
    Leads Inv (fr.run f) fun b m b' => L.Node b (fr.parts.flatMap nodesOf) m b' := by
  have hparts := @Frame.run_leads ν Inv (fun b xs ms b' => L.Nodes b (xs.flatMap nodesOf) ms b')
    (fun _ => L.idle) (fun h h' => List.flatMap_append ▸ L.append h h') f fr
    (fun x hx => by simpa only [List.flatMap_singleton] using hf x hx)
  refine hparts.mono fun b m b' => ?_
  rintro ⟨fr', rfl, -, hms⟩
  refine L.formed (fr'.children_model ▸ hms) fr'.name_model fun t ht => ?_
  rw [Frame.target?_model] at ht
  cases ht

/-- the functions of `r` keep the law; below, they do so on the nodes in `S` -/
structure Obeyed (r : Reach) (S : List SchemaNode) : Prop where
  components : r.components = components
  below : ∀ context, ∀ n ∈ S, Leads Inv (r.below context n) fun b m b' => L.Node b [n] m b'
  enter : ∀ name, Leads Inv (r.enter name) fun b _ b' => L.Nodes b [] [] b'

namespace Obeyed

variable {L} {r : Reach} {S : List SchemaNode} {s : Schema SchemaNode}

theorem part (h : L.Obeyed r S) {p : Part} (hp : p.nodes ⊆ S) :
    Leads Inv (p.run r) fun b m b' => L.Nodes b p.nodes [m] b' := by
  cases p with
  | below context n =>
    intro b hb
    obtain ⟨hmid, hm⟩ := h.below context n (hp List.mem_cons_self) b hb
    exact L.promote_run hmid hm context
  | untyped => exact Leads.pure fun b _ => L.kept (L.placeholder b) rfl

theorem piece (h : L.Obeyed r S) {p : Piece} (hp : p.nodes ⊆ S) :
    Leads Inv (p.run r) fun b m b' => L.Node b p.nodes m b' := by
  cases p with
  | scalar kind format => exact Leads.pure fun b _ => L.bare rfl rfl rfl b
  | frame fr => exact L.frame_leads fun p hp' => h.part fun n hn => hp (List.mem_flatMap.2 ⟨p, hp', hn⟩)

theorem core (h : L.Obeyed r S) {c : Core} (hc : c.nodes ⊆ S) :
    Leads Inv (c.run r) fun b m b' => L.Node b c.nodes m b' := by
  cases c with
  | literals values => exact Leads.pure fun b _ => L.ofLiterals b values
  | only context n => exact h.below context n (hc List.mem_cons_self)
  | piece p => exact h.piece hc
  | merged context members fr =>
    have hframe := L.frame_leads fun p hp => h.part fun n hn => hc (List.mem_flatMap.2 ⟨p, hp, hn⟩)
    have hrun : Core.run r (.merged context members fr) = (do
        discard (mergeNodes components context [] {} members)
        fr.run (Part.run r)) := by rw [Core.run, h.components]
    rw [hrun]
    intro b hb
    obtain ⟨hmid, hmerge⟩ := L.mergeNodes_leads context members b hb
    obtain ⟨hend, hm⟩ := hframe _ hmid
    exact ⟨hend, L.after hmerge hm⟩
  | types pieces =>
    refine L.frame_leads fun e he b hb => ?_
    obtain ⟨hmid, hm⟩ := h.piece (fun n hn => hc (List.mem_flatMap.2 ⟨e, he, hn⟩)) b hb
    exact L.promote_run hmid hm e.1

theorem shaped (h : L.Obeyed r (s.innerNodes components)) (context : String) :
    Leads Inv (r.shaped context s) fun b m b' => L.Node b (s.innerNodes components) m b' := by
  rw [r.shaped_eq, h.components, ← s.nodes_outline context]
  rw [← s.nodes_outline context] at h
  intro b hb
  obtain ⟨hend, hm⟩ := h.core (List.Subset.refl _) b hb
  exact ⟨hend, L.restyled hm rfl rfl⟩

theorem reference (h : L.Obeyed r S) (context path : String) :
    Leads Inv (r.reference context path) fun b m b' => L.Node b [] m b' := by
  unfold Reach.reference
  rw [h.components]
  split
  · intro b hb
    obtain ⟨hend, hnote⟩ := L.noted (d := ⟨context, .unresolvedReference path⟩) hb (by simp)
    exact ⟨hend, L.after hnote (L.placeholder _)⟩
  · rename_i name hname
    have hmem : name ∈ components.keys := by
      have := (Option.filter_eq_some_iff.1 hname).2
      exact (Keyed.has_iff_mem_keys _ _).1 this
    have hrefer : ∀ b b', L.Nodes b [] [] b' → L.Node b [] (.reference name) b' := fun b b' hstep =>
      L.formed hstep rfl fun t ht => Option.some.inj ht ▸ hmem
    dsimp only
    split_ifs
    · intro b hb
      obtain ⟨hend, hnotice⟩ := L.noticed (n := .forwardReference context name) hb (by simp)
      exact ⟨hend, hrefer _ _ hnotice⟩
    · intro b hb
      obtain ⟨hend, henter⟩ := h.enter name b hb
      exact ⟨hend, hrefer _ _ henter⟩

end Obeyed

/-- **Building a node keeps the law**, if what is built below it does. -/
theorem node_leads {r : Reach} {n : SchemaNode} (h : L.Obeyed r (n.inner components)) (context : String) :
    Leads Inv (r.node context n) fun b m b' => L.Node b (n.inner components) m b' := by
  cases n with
  | ref path => exact h.reference context path
  | schema s =>
    intro b hb
    obtain ⟨hend, hm⟩ := Obeyed.shaped h context b hb
    exact ⟨hend, L.restyled hm rfl rfl⟩
  | malformed v =>
    intro b hb
    obtain ⟨hend, hnote⟩ := L.noted (d := ⟨context, .malformed⟩) hb (by simp)
    exact ⟨hend, L.after hnote (L.placeholder _)⟩

end NodeLaw

end ClientPlan
