/-
Two runs side by side. Building the same node twice, with other components entered on the way and other names given
away before, gives models that differ in the targets of references at most (`Alike`). A `TwinLaw` goes with an
invariant of the two states and a relation `Step` between the states before and after; its rules are about single
writes on both sides. `TwinLaw.node_twin` says that building any node then keeps the law, if what the node may use
does. Both runs build the same outline, so that the cases are its kinds, as they are for a single run.
-/
import Mathlib.Data.List.Forall2
import ClientPlan.Proofs.Model.Outline

namespace ClientPlan

namespace Model

/-! ## Targets of references -/

mutual

/-- the model with `f` applied to the targets of its references, at any depth -/
def retarget (f : String → String) : Model → Model
  | ⟨name, shape, format, nullable, description⟩ => ⟨name, retargetShape f shape, format, nullable, description⟩

/-- the shape with `f` applied to the targets of references -/
def retargetShape (f : String → String) : Shape Model → Shape Model
  | .scalar s => .scalar s
  | .object properties required additional =>
    .object (retargetEntries f properties) required (retarget? f additional)
  | .array items => .array (retarget? f items)
  | .enumeration kind literals => .enumeration kind literals
  | .union variants literals discriminator => .union (retargetAll f variants) literals discriminator
  | .reference target => .reference (f target)

/-- named models with `f` applied to the targets of references -/
def retargetEntries (f : String → String) : List (String × Model) → List (String × Model)
  | [] => []
  | (key, m) :: es => (key, m.retarget f) :: retargetEntries f es

/-- models with `f` applied to the targets of references -/
def retargetAll (f : String → String) : List Model → List Model
  | [] => []
  | m :: ms => m.retarget f :: retargetAll f ms

/-- a model that may be left out with `f` applied to the targets of references -/
def retarget? (f : String → String) : Option Model → Option Model
  | none => none
  | some m => some (m.retarget f)

end

mutual

theorem retarget_id : ∀ m : Model, m.retarget id = m
  | ⟨name, shape, format, nullable, description⟩ => by rw [retarget, retargetShape_id]

theorem retargetShape_id : ∀ s : Shape Model, retargetShape id s = s
  | .scalar _ => rfl
  | .object properties required additional => by rw [retargetShape, retargetEntries_id, retarget?_id]
  | .array items => by rw [retargetShape, retarget?_id]
  | .enumeration _ _ => rfl
  | .union variants literals discriminator => by rw [retargetShape, retargetAll_id]
  | .reference _ => rfl

theorem retargetEntries_id : ∀ es : List (String × Model), retargetEntries id es = es
  | [] => rfl
  | (key, m) :: es => by rw [retargetEntries, retarget_id, retargetEntries_id]

theorem retargetAll_id : ∀ ms : List Model, retargetAll id ms = ms
  | [] => rfl
  | m :: ms => by rw [retargetAll, retarget_id, retargetAll_id]

theorem retarget?_id : ∀ o : Option Model, retarget? id o = o
  | none => rfl
  | some m => by rw [retarget?, retarget_id]

end

/-- the models differ in the targets of references only, and not in what `f` makes of these -/
def Alike (f : String → String) (m m' : Model) : Prop :=
  m.retarget f = m'.retarget f

section Alike

variable {f : String → String} {m m' : Model}

theorem retarget_eq (f : String → String) (m : Model) : m.retarget f = { m with shape := retargetShape f m.shape } := by
  cases m
  rfl

theorem alike_iff : m.Alike f m' ↔ m.name = m'.name ∧ retargetShape f m.shape = retargetShape f m'.shape ∧
    m.format = m'.format ∧ m.nullable = m'.nullable ∧ m.description = m'.description := by
  rw [Alike, retarget_eq, retarget_eq, Model.mk.injEq]

theorem Alike.refl (m : Model) : m.Alike f m :=
  rfl

theorem Alike.eq (h : m.Alike id m') : m = m' := by
  rwa [Alike, retarget_id, retarget_id] at h

theorem isPromotable_retarget (f : String → String) (m : Model) : (m.retarget f).isPromotable = m.isPromotable := by
  obtain ⟨name, shape, format, nullable, description⟩ := m
  cases shape with
  | object properties required additional => cases properties <;> rfl
  | _ => rfl

theorem Alike.isPromotable (h : m.Alike f m') : m.isPromotable = m'.isPromotable := by
  rw [← isPromotable_retarget f m, h, isPromotable_retarget]

theorem Alike.nullable (h : m.Alike f m') : m.nullable = m'.nullable :=
  (alike_iff.1 h).2.2.2.1

theorem Alike.named (h : m.Alike f m') (name : Option String) :
    Alike f { m with name := name } { m' with name := name } := by
  obtain ⟨-, hrest⟩ := alike_iff.1 h
  exact alike_iff.2 ⟨rfl, hrest⟩

theorem Alike.orNull (h : m.Alike f m') (null : Bool) :
    Alike f { m with nullable := m.nullable || null } { m' with nullable := m'.nullable || null } := by
  obtain ⟨hname, hshape, hformat, hnullable, hdescription⟩ := alike_iff.1 h
  exact alike_iff.2 ⟨hname, hshape, hformat, by rw [hnullable], hdescription⟩

theorem Alike.annotate (h : m.Alike f m') (s : Schema SchemaNode) :
    Alike f (Reach.annotate s m) (Reach.annotate s m') := by
  obtain ⟨hname, hshape, hformat, hnullable, hdescription⟩ := alike_iff.1 h
  refine alike_iff.2 ⟨hname, hshape, ?_, ?_, ?_⟩
  · exact congrArg (· <|> s.format) hformat
  · exact congrArg (· || s.declaresNullable) hnullable
  · exact congrArg (s.description <|> ·) hdescription

theorem alike_object {ps ps' : List (String × Model)} {a a' : Option Model}
    (hps : retargetEntries f ps = retargetEntries f ps') (ha : retarget? f a = retarget? f a')
    (required : List String) :
    Alike f (.of (.object ps required a)) (.of (.object ps' required a')) := by
  refine alike_iff.2 ⟨rfl, ?_, rfl, rfl, rfl⟩
  simp only [of, retargetShape, hps, ha]

theorem alike_array {a a' : Option Model} (ha : retarget? f a = retarget? f a') :
    Alike f (.of (.array a)) (.of (.array a')) := by
  refine alike_iff.2 ⟨rfl, ?_, rfl, rfl, rfl⟩
  simp only [of, retargetShape, ha]

theorem alike_union {ms ms' : List Model} (h : retargetAll f ms = retargetAll f ms') (d : Option Discriminator) :
    Alike f (.of (.union ms [] d)) (.of (.union ms' [] d)) := by
  refine alike_iff.2 ⟨rfl, ?_, rfl, rfl, rfl⟩
  simp only [of, retargetShape, h]

theorem retargetAll_eq {ms ms' : List Model} (h : List.Forall₂ (Alike f) ms ms') :
    retargetAll f ms = retargetAll f ms' := by
  induction h with
  | nil => rfl
  | cons h _ ih => rw [retargetAll, retargetAll, ih, h]

theorem retargetEntries_eq {es es' : List (String × Model)}
    (h : List.Forall₂ (fun e e' => e.1 = e'.1 ∧ e.2.Alike f e'.2) es es') :
    retargetEntries f es = retargetEntries f es' := by
  induction h with
  | nil => rfl
  | cons h _ ih => rw [retargetEntries, retargetEntries, ih, h.1, h.2]

theorem retarget?_some (h : m.Alike f m') : retarget? f (some m) = retarget? f (some m') := by
  rw [retarget?, retarget?, h]

end Alike

end Model

/-! ## Laws of two runs -/

/-- an invariant of two states, and a relation between the states before, `b` and `q`, and the states after -/
structure TwinLaw (f : String → String) where
  Inv : Build → Build → Prop
  Step : (b q b' q' : Build) → Prop
  idle : ∀ {b q}, Step b q b q
  trans : ∀ {b q b' q' b'' q''}, Step b q b' q' → Step b' q' b'' q'' → Step b q b'' q''
  noticed : ∀ {b q n}, Inv b q → (∀ context name, n ≠ .promoted context name) →
    Inv (b.noticed n) (q.noticed n) ∧ Step b q (b.noticed n) (q.noticed n)
  noted : ∀ {b q d}, Inv b q → Inv (b.noted d) (q.noted d) ∧ Step b q (b.noted d) (q.noted d)
  promoted : ∀ {b q m m'}, Inv b q → m.Alike f m' → ∀ context,
    Inv (b.promoted context m) (q.promoted context m') ∧ Step b q (b.promoted context m) (q.promoted context m') ∧
      f (b.nextName context) = f (q.nextName context)

namespace TwinLaw

variable {f : String → String} (L : TwinLaw f) {α β : Type}

/-- run side by side, the computations keep the law, with results that `V` relates -/
def Twin (c c' : Building α) (V : α → α → Prop) : Prop :=
  ∀ b q, L.Inv b q → L.Inv (c.run b).2 (c'.run q).2 ∧ L.Step b q (c.run b).2 (c'.run q).2 ∧ V (c.run b).1 (c'.run q).1

variable {L} {c c' : Building α} {V : α → α → Prop}

theorem Twin.pure {a a' : α} (h : V a a') : L.Twin (pure a) (pure a') V :=
  fun _ _ hb => ⟨hb, L.idle, h⟩

theorem Twin.bind {W : β → β → Prop} {g g' : α → Building β} (h : L.Twin c c' V)
    (hg : ∀ a a', V a a' → L.Twin (g a) (g' a') W) : L.Twin (c >>= g) (c' >>= g') W := by
  intro b q hb
  obtain ⟨hmid, hstep, hv⟩ := h b q hb
  obtain ⟨hend, hstep', hw⟩ := hg _ _ hv _ _ hmid
  exact ⟨hend, L.trans hstep hstep', hw⟩

theorem Twin.map {W : β → β → Prop} {g : α → β} (h : L.Twin c c' V) (hg : ∀ a a', V a a' → W (g a) (g a')) :
    L.Twin (g <$> c) (g <$> c') W :=
  fun b q hb => (h b q hb).imp_right fun ⟨hstep, hv⟩ => ⟨hstep, hg _ _ hv⟩

theorem Twin.mapM {W : β → β → Prop} {g g' : α → Building β} {as : List α} (h : ∀ a ∈ as, L.Twin (g a) (g' a) W) :
    L.Twin (as.mapM g) (as.mapM g') (List.Forall₂ W) := by
  induction as with
  | nil => exact .pure .nil
  | cons a as ih =>
    obtain ⟨hone, hrest⟩ := List.forall_mem_cons.1 h
    rw [List.mapM_cons, List.mapM_cons]
    exact hone.bind fun _ _ hb => (ih hrest).bind fun _ _ hbs => .pure (.cons hb hbs)

theorem Twin.note (d : Diagnostic) : L.Twin (note d) (note d) fun _ _ => True :=
  fun _ _ hb => (L.noted hb).imp_right fun hstep => ⟨hstep, trivial⟩

theorem Twin.notice {n : Notice} (hn : ∀ context name, n ≠ .promoted context name) :
    L.Twin (notice n) (notice n) fun _ _ => True :=
  fun _ _ hb => (L.noticed hb hn).imp_right fun hstep => ⟨hstep, trivial⟩

theorem Twin.promote {m m' : Model} (h : m.Alike f m') (context : String) :
    L.Twin (promote context m) (promote context m') (Model.Alike f) := by
  have hkind := h.isPromotable
  cases hm : m.isPromotable with
  | false =>
    rw [promote_of_not hm, promote_of_not (hkind ▸ hm)]
    exact .pure h
  | true =>
    intro b q hb
    rw [run_promote hm, run_promote (hkind ▸ hm)]
    obtain ⟨hend, hstep, hname⟩ := L.promoted hb h context
    refine ⟨hend, hstep, Model.alike_iff.2 ⟨rfl, ?_, rfl, h.nullable, rfl⟩⟩
    exact congrArg Shape.reference hname

theorem Twin.option {g g' : α → Building Model} {a? : Option α}
    (h : ∀ a ∈ a?, L.Twin (g a) (g' a) (Model.Alike f)) :
    L.Twin (a?.mapM g) (a?.mapM g') fun m? m?' => Model.retarget? f m? = Model.retarget? f m?' := by
  cases a? with
  | none => exact .pure rfl
  | some a => exact (h a rfl).map fun _ _ hm => Model.retarget?_some hm

/-- building a frame twice keeps the law if building its parts does -/
theorem Twin.frame {ν : Type} {g g' : ν → Building Model} {fr : Outline.Frame ν}
    (h : ∀ x ∈ fr.parts, L.Twin (g x) (g' x) (Model.Alike f)) : L.Twin (fr.run g) (fr.run g') (Model.Alike f) := by
  have hbuild : L.Twin (fr.build g) (fr.build g') fun built built' => built.model.Alike f built'.model := by
    cases fr with
    | object properties required additional =>
      obtain ⟨hproperties, hadditional⟩ := List.forall_mem_append.1 h
      have hentries : ∀ e ∈ properties, L.Twin (do return (e.1, ← g e.2)) (do return (e.1, ← g' e.2))
          fun e e' : String × Model => e.1 = e'.1 ∧ e.2.Alike f e'.2 := fun e he =>
        (hproperties e.2 (List.mem_map_of_mem he)).bind fun _ _ hm => .pure ⟨rfl, hm⟩
      exact (Twin.mapM hentries).bind fun _ _ hps =>
        (Twin.option fun x hx => hadditional x (Option.mem_toList.2 hx)).bind fun _ _ ha =>
          .pure (Model.alike_object (Model.retargetEntries_eq hps) ha required)
    | array items =>
      exact (Twin.option fun x hx => h x (Option.mem_toList.2 hx)).bind fun _ _ hm => .pure (Model.alike_array hm)
    | union members discriminator =>
      exact (Twin.mapM h).bind fun _ _ hms => .pure (Model.alike_union (Model.retargetAll_eq hms) discriminator)
  exact hbuild.map fun _ _ hm => hm

/-! ## Building nodes -/

/-- members merge into the same schema wherever the same components are found -/
theorem merge_twin {components components' : Keyed SchemaNode}
    (hcomponents : ∀ name, components.get? name = components'.get? name) :
    (∀ merging target n, ∀ context, L.Twin (mergeNode components context merging target n)
      (mergeNode components' context merging target n) Eq) ∧
    (∀ merging target ns, ∀ context, L.Twin (mergeNodes components context merging target ns)
      (mergeNodes components' context merging target ns) Eq) := by
  have hfound : ∀ path, component? components' path = component? components path := fun path => by
    simp only [component?, hcomponents]
  apply mergeNode.mutual_induct
  case case1 =>
    intro merging target v context
    rw [mergeNode, mergeNode]
    exact (Twin.note _).bind fun _ _ _ => .pure rfl
  case case2 =>
    intro merging target s ih context
    rw [mergeNode, mergeNode]
    exact (ih context).bind fun t t' ht => .pure (ht ▸ rfl)
  case case3 =>
    intro merging target path h context
    rw [mergeNode_unresolved h, mergeNode_unresolved ((hfound path).trans h)]
    exact (Twin.note _).bind fun _ _ _ => .pure rfl
  case case4 =>
    intro merging target path name definition h hm context
    rw [mergeNode_ref h, mergeNode_ref ((hfound path).trans h), if_pos hm, if_pos hm]
    exact (Twin.notice (by simp)).bind fun _ _ _ => .pure rfl
  case case5 =>
    intro merging target path name definition h hm ih context
    rw [mergeNode_ref h, mergeNode_ref ((hfound path).trans h), if_neg hm, if_neg hm]
    exact ih context
  case case6 =>
    intro merging target context
    rw [mergeNodes, mergeNodes]
    exact .pure rfl
  case case7 =>
    intro merging target n ns ih ihrest context
    rw [mergeNodes, mergeNodes]
    refine (ih context).bind fun t t' ht => ?_
    subst ht
    exact ihrest t context

end TwinLaw

/-- two runs that do the same from the same state -/
def sameLaw : TwinLaw id where
  Inv b q := b = q
  Step _ _ _ _ := True
  idle := trivial
  trans _ _ := trivial
  noticed h _ := ⟨congrArg (Build.noticed · _) h, trivial⟩
  noted h := ⟨congrArg (Build.noted · _) h, trivial⟩
  promoted h hm context := by
    cases h
    cases hm.eq
    exact ⟨rfl, trivial, rfl⟩

/-- the same components make the same outlines -/
theorem Schema.outline_congr {components components' : Keyed SchemaNode}
    (hcomponents : ∀ name, components.get? name = components'.get? name) (context : String) (s : Schema SchemaNode) :
    s.outline context components = s.outline context components' := by
  have hmembers : Schema.ofMembers components = Schema.ofMembers components' := funext fun members => by
    obtain ⟨-, -, hmerged⟩ := (TwinLaw.merge_twin (L := sameLaw) hcomponents).2 [] {} members context {} {} rfl
    rwa [mergeNodes_value, mergeNodes_value] at hmerged
  rw [outline, outline, mergedOutline, mergedOutline, hmembers]

namespace TwinLaw

open Outline

variable {f : String → String} {L : TwinLaw f}

variable (L) in
/-- what two nodes may use: the same components, and functions that keep the law side by side, those for the nodes
below on the nodes in `S`, and those for references on the components in `T` -/
structure Paired (r r' : Reach) (S : List SchemaNode) (T : List String) : Prop where
  lookup : ∀ name, Keyed.get? r.components name = Keyed.get? r'.components name
  below : ∀ context, ∀ n ∈ S, L.Twin (r.below context n) (r'.below context n) (Model.Alike f)
  refer : ∀ context, ∀ name ∈ T,
    L.Twin (if r.resolving.contains name then notice (.forwardReference context name) else r.enter name)
      (if r'.resolving.contains name then notice (.forwardReference context name) else r'.enter name) fun _ _ => True

namespace Paired

variable {r r' : Reach} {S : List SchemaNode} {T : List String} {s : Schema SchemaNode}

theorem part (h : L.Paired r r' S T) {p : Part} (hp : p.nodes ⊆ S) : L.Twin (p.run r) (p.run r') (Model.Alike f) := by
  cases p with
  | below context n => exact (h.below context n (hp List.mem_cons_self)).bind fun _ _ hm => .promote hm context
  | untyped => exact .pure (.refl _)

theorem frame (h : L.Paired r r' S T) {fr : Frame Part} (hfr : fr.parts.flatMap Part.nodes ⊆ S) :
    L.Twin (fr.run (Part.run r)) (fr.run (Part.run r')) (Model.Alike f) :=
  .frame fun p hp => h.part fun _ hn => hfr (List.mem_flatMap.2 ⟨p, hp, hn⟩)

theorem piece (h : L.Paired r r' S T) {p : Piece} (hp : p.nodes ⊆ S) :
    L.Twin (p.run r) (p.run r') (Model.Alike f) := by
  cases p with
  | scalar kind format => exact .pure (.refl _)
  | frame fr => exact h.frame hp

theorem core (h : L.Paired r r' S T) {c : Core} (hc : c.nodes ⊆ S) : L.Twin (c.run r) (c.run r') (Model.Alike f) := by
  cases c with
  | literals values => exact .pure (.refl _)
  | only context n => exact h.below context n (hc List.mem_cons_self)
  | piece p => exact h.piece hc
  | merged context members fr =>
    have hmerge := ((merge_twin (L := L) h.lookup).2 [] {} members context).map fun _ _ _ => (rfl : () = ())
    exact hmerge.bind fun _ _ _ => h.frame hc
  | types pieces =>
    refine .frame fun e he => ?_
    have hpiece := h.piece fun n hn => hc (List.mem_flatMap.2 ⟨e, he, hn⟩)
    exact hpiece.bind fun _ _ hm => .promote hm e.1

theorem shaped (h : L.Paired r r' (s.innerNodes r.components) T) (context : String) :
    L.Twin (r.shaped context s) (r'.shaped context s) (Model.Alike f) := by
  rw [← s.nodes_outline context] at h
  rw [r.shaped_eq, r'.shaped_eq, ← Schema.outline_congr h.lookup]
  exact (h.core (List.Subset.refl _)).bind fun _ _ hm => .pure (hm.orNull _)

theorem reference {path : String} (h : L.Paired r r' S ((SchemaNode.ref path).linked r.components))
    (context : String) : L.Twin (r.reference context path) (r'.reference context path) (Model.Alike f) := by
  have hhas : ∀ name, Keyed.has r'.components name = Keyed.has r.components name := fun name => by
    rw [Bool.eq_iff_iff, Keyed.has_iff_mem_keys, Keyed.has_iff_mem_keys, ← Keyed.isSome_get?_iff,
      ← Keyed.isSome_get?_iff, h.lookup]
  unfold Reach.reference
  rw [funext hhas]
  split
  · exact (Twin.note _).bind fun _ _ _ => .pure (.refl _)
  · rename_i name hname
    have hmem : name ∈ (SchemaNode.ref path).linked r.components := by
      rw [SchemaNode.linked, hname]
      exact List.mem_singleton_self name
    have hrefer := h.refer context name hmem
    dsimp only
    split_ifs at hrefer ⊢ <;> exact hrefer.bind fun _ _ _ => .pure (.refl _)

end Paired

/-- **Building a node twice keeps the law**, if what it may use on both sides does. -/
theorem node_twin {r r' : Reach} {n : SchemaNode}
    (h : L.Paired r r' (n.inner r.components) (n.linked r.components)) (context : String) :
    L.Twin (r.node context n) (r'.node context n) (Model.Alike f) := by
  cases n with
  | ref path => exact h.reference context
  | schema s => exact (Paired.shaped h context).bind fun _ _ hm => .pure (hm.annotate s)
  | malformed v => exact (Twin.note _).bind fun _ _ _ => .pure (.refl _)

end TwinLaw

/-! ## Nodes with the same below -/

theorem sameLaw_twin_iff {c c' : Building Model} : sameLaw.Twin c c' (Model.Alike id) ↔ c = c' := by
  constructor
  · intro h
    refine StateT.ext fun b => ?_
    obtain ⟨hend, -, hm⟩ := h b b rfl
    exact Prod.ext hm.eq hend
  · rintro rfl b q rfl
    exact ⟨rfl, trivial, .refl _⟩

/-- what a node uses: the functions for the nodes below it, and the one that enters the component it refers to -/
theorem Reach.node_congr {r r' : Reach} {n : SchemaNode} (hcomponents : r.components = r'.components)
    (hresolving : r.resolving = r'.resolving)
    (hbelow : ∀ context, ∀ n' ∈ n.inner r.components, r.below context n' = r'.below context n')
    (henter : ∀ name ∈ n.linked r.components, name ∉ r.resolving → r.enter name = r'.enter name) (context : String) :
    r.node context n = r'.node context n := by
  have hpaired : sameLaw.Paired r r' (n.inner r.components) (n.linked r.components) := by
    refine ⟨fun name => by rw [hcomponents], fun context n' hn' => sameLaw_twin_iff.2 (hbelow context n' hn'), ?_⟩
    rintro context name hname b q rfl
    rw [← hresolving]
    split_ifs with hr
    · exact ⟨rfl, trivial, trivial⟩
    · rw [henter name hname (by simpa using hr)]
      exact ⟨rfl, trivial, trivial⟩
  exact sameLaw_twin_iff.1 (TwinLaw.node_twin hpaired context)

end ClientPlan
