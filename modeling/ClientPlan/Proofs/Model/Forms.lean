/-
What models look like, by the nodes that they are built from. `Schema.Forms` lists the ways in which the model of a
schema is put together from the models of the nodes in it; whatever the outline of a schema yields is one of these
(`Schema.forms_of_outline`). A `FormLaw` is about two things that outlast every such step: what ties a model to its node
(`Kin`), and what holds of everything that stands in an entry or in another model (`Kept`). Names and optionality do not
matter to it, only shapes. Where a `NodeLaw` tells in which order nodes are built, it tells which keyword decided about
each, and it stays in a region of nodes, so that a law may assume something about the nodes there.
-/
import ClientPlan.Proofs.Sequences
import ClientPlan.Proofs.Model.Walk
import ClientPlan.Proofs.Model.Written

namespace ClientPlan

/-! ## Forms -/

namespace Schema

variable (s : Schema SchemaNode)

/-- the literals that decide what a schema allows -/
inductive Lists : List Json → Prop
  | constant {v : Json} (h : s.constant = some v) : Lists [v]
  | literals (hnone : s.constant = none) (hsome : s.literals ≠ []) : Lists s.literals

/-- no literals decide -/
structure Open : Prop where
  constant : s.constant = none
  literals : s.literals = []

/-- the members of `oneOf` and `anyOf` decide -/
structure Chooses : Prop extends s.Open where
  allOf : s.allOf = []
  some : s.alternatives ≠ []

/-- no type but null is listed, and nothing says what other values are like -/
structure NullTyped : Prop extends s.Open where
  allOf : s.allOf = []
  alternatives : s.alternatives = []
  types : ∃ ts, s.types = some ts ∧ ts.nonNull = []
  properties : s.properties = []
  additional : s.additional = none
  items : s.items = none

end Schema

theorem Reach.shaped_of_chooses (r : Reach) {s : Schema SchemaNode} (h : s.Chooses) (context : String) :
    r.shaped context s = r.union context s := by
  have hsome : (!s.oneOf.isEmpty || !s.anyOf.isEmpty) = true := by
    by_contra hnone
    refine h.some (List.append_eq_nil_iff.2 ?_)
    simpa using hnone
  unfold shaped
  simp [h.constant, h.literals, h.allOf, hsome]

/-- a model of a single type other than null, with only such models in it that are kept -/
inductive Model.Single (Kept : Model → Prop) : Model → Prop
  | object {properties : List (String × Model)} {required : List String} {additional : Option Model}
      (hproperties : ∀ e ∈ properties, Kept e.2) (hadditional : ∀ m ∈ additional, Kept m) :
      Single Kept (.of (.object properties required additional))
  | array {items : Option Model} (hitems : ∀ m ∈ items, Kept m) : Single Kept (.of (.array items))
  | scalar {kind : Scalar} (format : Option String) (hkind : kind ≠ .null) :
      Single Kept { Model.scalar kind with format := format }

theorem Model.Single.children {Kept : Model → Prop} {m : Model} (h : m.Single Kept) : ∀ c ∈ m.children, Kept c := by
  intro c hc
  cases h with
  | object hproperties hadditional =>
    rcases List.mem_append.1 hc with hc | hc
    · obtain ⟨e, he, rfl⟩ := List.mem_map.1 hc
      exact hproperties e he
    · exact hadditional c (Option.mem_toList.1 hc)
  | array hitems => exact hitems c (Option.mem_toList.1 hc)
  | scalar format hkind => cases hc

/-- the ways to form a model of a schema; `Kin` tells what comes of the nodes in it -/
inductive Schema.Forms (Kin : SchemaNode → Model → Prop) (Kept : Model → Prop) (s : Schema SchemaNode) : Model → Prop
  | literals {values : List Json} (h : s.Lists values) : Forms Kin Kept s (.ofLiterals values)
  | lone {only : SchemaNode} {m : Model} (h : s.Open) (hone : s.allOf = [only]) (hnone : s.properties = [])
      (hm : Kin only m) : Forms Kin Kept s m
  | vacant (h : s.Chooses) (hnone : s.nonNullAlternatives = []) : Forms Kin Kept s (.scalar .null)
  | left {only : SchemaNode} {m : Model} (h : s.Chooses) (hone : s.nonNullAlternatives = [only]) (hm : Kin only m) :
      Forms Kin Kept s m
  | choice {ms : List Model} (h : s.Chooses) (hmany : 1 < s.nonNullAlternatives.length)
      (hms : List.Forall₂ Kin s.nonNullAlternatives ms) :
      Forms Kin Kept s (.of (.union ms [] (s.discriminator.map Reach.discriminator)))
  | null (h : s.NullTyped) : Forms Kin Kept s (.scalar .null)
  | single {m : Model} (hm : m.Single Kept) : Forms Kin Kept s m
  | types {ms : List Model} (hms : ∀ m ∈ ms, m.Single Kept ∨ ∃ target, m.shape = .reference target) :
      Forms Kin Kept s (.of (.union ms [] none))

/-! ## Outlines and forms -/

theorem formatScalar?_ne_null {format : String} {kind : Scalar} (h : formatScalar? format = some kind) :
    kind ≠ .null := by
  unfold formatScalar? at h
  split_ifs at h <;> cases h <;> decide

namespace Outline

variable {Kin : SchemaNode → Model → Prop} {Kept : Model → Prop}

/-- a part is what comes of the node in it -/
def Part.Yields (Kin : SchemaNode → Model → Prop) : Part → Model → Prop
  | below _ n, m => Kin n m
  | untyped, m => m = .placeholder

/-- a frame has around it what comes of its parts -/
def Frame.Yields {ν : Type} (V : ν → Model → Prop) (fr : Frame ν) (m : Model) : Prop :=
  ∃ fr' : Frame Model, m = fr'.model ∧ fr.Same fr' ∧ List.Forall₂ V fr.parts fr'.parts

def Piece.Yields (Kin : SchemaNode → Model → Prop) : Piece → Model → Prop
  | scalar kind format, m => m = { Model.scalar kind with format := format }
  | frame fr, m => fr.Yields (Part.Yields Kin) m

/-- the pieces of a union may have got names of their own -/
def Core.Yields (Kin : SchemaNode → Model → Prop) : Core → Model → Prop
  | literals values, m => m = .ofLiterals values
  | only _ n, m => Kin n m
  | piece p, m => p.Yields Kin m
  | merged _ _ fr, m => fr.Yields (Part.Yields Kin) m
  | types pieces, m => (Frame.union pieces none).Yields
      (fun e m => e.2.Yields Kin m ∨ ∃ target, m.shape = .reference target) m

/-- the frame of an object or an array -/
def Frame.Plain {ν : Type} : Frame ν → Prop
  | union _ _ => False
  | _ => True

/-- a single type other than null -/
def Piece.Plain : Piece → Prop
  | scalar kind _ => kind ≠ .null
  | frame fr => fr.Plain

/-- what is kept whatever node it was built from, and if it is untyped -/
structure Keeps (Kin : SchemaNode → Model → Prop) (Kept : Model → Prop) : Prop where
  kin : ∀ {n m}, Kin n m → Kept m
  untyped : Kept .placeholder

theorem Part.Yields.kept (hkept : Keeps Kin Kept) {p : Part} {m : Model} (h : p.Yields Kin m) : Kept m := by
  cases p with
  | below context n => exact hkept.kin h
  | untyped => exact h ▸ hkept.untyped

theorem Frame.Yields.single (hkept : Keeps Kin Kept) {fr : Frame Part} (hplain : fr.Plain) {m : Model}
    (h : fr.Yields (Part.Yields Kin) m) : m.Single Kept := by
  obtain ⟨fr', rfl, hsame, hparts⟩ := h
  have hall : ∀ m ∈ fr'.parts, Kept m := fun m hm => by
    obtain ⟨p, -, hp⟩ := exists_left_of_forall₂ hparts hm
    exact hp.kept hkept
  cases hsame with
  | object _ properties required _ additional =>
    refine .object (fun e he => hall e.2 ?_) fun m hm => hall m ?_
    · exact List.mem_append_left _ (List.mem_map_of_mem he)
    · exact List.mem_append_right _ (Option.mem_toList.2 hm)
  | array _ items => exact .array fun m hm => hall m (Option.mem_toList.2 hm)
  | union _ _ _ => exact hplain.elim

/-- only single types get names of their own -/
theorem Piece.Yields.plain {p : Piece} {m : Model} (h : p.Yields Kin m) (hm : m.isPromotable = true) : p.Plain := by
  cases p with
  | scalar kind format =>
    rw [h] at hm
    cases hm
  | frame fr =>
    obtain ⟨fr', rfl, hsame, -⟩ := h
    cases hsame with
    | union _ _ _ => cases hm
    | _ => trivial

theorem Piece.Yields.single (hkept : Keeps Kin Kept) {p : Piece} (hplain : p.Plain) {m : Model} (h : p.Yields Kin m) :
    m.Single Kept := by
  cases p with
  | scalar kind format => exact h ▸ .scalar format hplain
  | frame fr => exact Frame.Yields.single hkept hplain h

end Outline

namespace Schema

open Outline

variable (s : Schema SchemaNode) (context : String)

theorem objectFrame_plain : (s.objectFrame context).Plain :=
  trivial

theorem arrayFrame_plain : (s.arrayFrame context).Plain :=
  trivial

theorem piece_plain {t : TypeName} (ht : t ≠ .null) : (s.piece context t).Plain := by
  cases t with
  | object => exact s.objectFrame_plain context
  | array => exact s.arrayFrame_plain context
  | null => exact absurd rfl ht
  | _ => exact fun h => by cases h

theorem typed_ne_null {t : TypeName} (ht : t ∈ (s.types.map (·.nonNull)).getD []) : t ≠ .null := by
  cases htypes : s.types with
  | none =>
    rw [htypes] at ht
    cases ht
  | some ts =>
    rw [htypes] at ht
    simpa using (List.mem_filter.1 ht).2

variable {s context} {Kin : SchemaNode → Model → Prop} {Kept : Model → Prop} {m : Model}

/-- members of a union are what comes of their nodes -/
theorem memberParts_yields {ns : List SchemaNode} {i : Nat} {ms : List Model}
    (h : List.Forall₂ (Part.Yields Kin) (memberParts context i ns) ms) : List.Forall₂ Kin ns ms := by
  induction ns generalizing i ms with
  | nil =>
    cases h
    exact .nil
  | cons n ns ih =>
    obtain ⟨m, ms, hm, hms, rfl⟩ := List.forall₂_cons_left_iff.1 h
    exact .cons hm (ih hms)

theorem forms_of_unionOutline (hs : s.Chooses) (h : (s.unionOutline context).core.Yields Kin m) :
    s.Forms Kin Kept m := by
  unfold unionOutline at h
  dsimp only at h
  match hns : s.nonNullAlternatives with
  | [] =>
    rw [hns] at h
    exact h ▸ .vacant hs hns
  | [only] =>
    rw [hns] at h
    exact .left hs hns h
  | n :: n' :: ns =>
    have hmany : 1 < s.nonNullAlternatives.length := by simp [hns]
    rw [hns] at h
    obtain ⟨fr', rfl, hsame, hparts⟩ := h
    cases hsame with
    | union _ ms _ =>
      exact .choice hs hmany (hns ▸ memberParts_yields hparts)

theorem forms_of_mergedOutline {components : Keyed SchemaNode} (hopen : s.Open) (hkept : Keeps Kin Kept)
    (h : (s.mergedOutline context components).core.Yields Kin m) : s.Forms Kin Kept m := by
  unfold mergedOutline at h
  dsimp only at h
  split at h
  · exact .lone hopen ‹_› ‹_› h
  · exact .single (Frame.Yields.single hkept (objectFrame_plain _ context) h)

theorem forms_of_typedOutline (hopen : s.Open) (hall : s.allOf = []) (hnone : s.alternatives = [])
    (hkept : Keeps Kin Kept) (h : (s.typedOutline context).core.Yields Kin m) : s.Forms Kin Kept m := by
  have hother := @typed_ne_null s
  unfold typedOutline at h
  generalize hts : (s.types.map (·.nonNull)).getD [] = ts at h hother
  match ts with
  | [] =>
    dsimp only at h
    split_ifs at h with hobject hitems htypes
    · exact .single (Frame.Yields.single hkept (s.objectFrame_plain context) h)
    · exact .single (Frame.Yields.single hkept (s.arrayFrame_plain context) h)
    · obtain ⟨ts, hlisted⟩ := Option.isSome_iff_exists.1 htypes
      have hempty : s.properties = [] ∧ s.additional = none ∧ s.items = none := by simp_all
      rw [hlisted] at hts
      exact h ▸ .null ⟨hopen, hall, hnone, ⟨ts, hlisted, hts⟩, hempty.1, hempty.2.1, hempty.2.2⟩
    · have hplain : (Piece.scalar ((s.format.bind formatScalar?).getD .any) none).Plain := by
        cases hformat : s.format.bind formatScalar? with
        | none => exact fun h => by cases h
        | some kind =>
          obtain ⟨format, -, hkind⟩ := Option.bind_eq_some_iff.1 hformat
          exact formatScalar?_ne_null hkind
      exact .single (Piece.Yields.single hkept hplain h)
  | [t] => exact .single (Piece.Yields.single hkept (s.piece_plain context (hother List.mem_cons_self)) h)
  | t :: t' :: ts =>
    obtain ⟨fr', rfl, hsame, hparts⟩ := h
    cases hsame with
    | union _ ms _ =>
      refine .types fun m hm => ?_
      obtain ⟨e, he, hyields⟩ := exists_left_of_forall₂ hparts hm
      refine hyields.imp_left fun h => Piece.Yields.single hkept ?_ h
      obtain ⟨⟨t, i⟩, ht, rfl⟩ := List.mem_map.1 he
      exact s.piece_plain _ (hother (List.fst_mem_of_mem_zipIdx ht))

/-- **What an outline of a schema yields is one of its forms.** -/
theorem forms_of_outline {components : Keyed SchemaNode} (hkept : Keeps Kin Kept)
    (h : (s.outline context components).core.Yields Kin m) : s.Forms Kin Kept m := by
  unfold outline at h
  cases hconst : s.constant with
  | some v =>
    rw [hconst] at h
    exact h ▸ .literals (.constant hconst)
  | none =>
    rw [hconst] at h
    dsimp only at h
    split_ifs at h with hliterals hall hany
    · exact h ▸ .literals (.literals hconst (by simpa using hliterals))
    · exact forms_of_mergedOutline ⟨hconst, by simpa using hliterals⟩ hkept h
    · refine forms_of_unionOutline ⟨⟨hconst, by simpa using hliterals⟩, by simpa using hall, fun hnone => ?_⟩ h
      obtain ⟨honeOf, hanyOf⟩ := List.append_eq_nil_iff.1 hnone
      simp [honeOf, hanyOf] at hany
    · refine forms_of_typedOutline ⟨hconst, by simpa using hliterals⟩ (by simpa using hall) ?_ hkept h
      simpa [alternatives] using hany

end Schema

/-- what outlasts building models of the nodes in a region -/
structure FormLaw (S : SchemaNode → Prop) where
  /-- what ties a model to the node that it was built from -/
  Kin : SchemaNode → Model → Prop
  /-- what holds of every model that was built, wherever it stands -/
  Kept : Model → Prop
  kept : ∀ {n m}, Kin n m → Kept m
  single : ∀ {m}, m.Single Kept → Kept m
  restyled : ∀ {m m'}, Kept m → m'.shape = m.shape → Kept m'
  placeholder : ∀ n, Kin n .placeholder
  reference : ∀ {n m target}, m.shape = .reference target → Kin n m
  formed : ∀ {s m m'}, S (.schema s) → s.Forms Kin Kept m → m'.shape = m.shape → Kin (.schema s) m'

/-- merging leaves the table as it is -/
theorem mergeNodes_table {components : Keyed SchemaNode} (context : String) (members : List SchemaNode) (b : Build) :
    ((mergeNodes components context [] {} members).run b).2.table = b.table := by
  have hleads := @merge_leads components (fun _ => True) (fun b b' => b'.table = b.table) (fun _ => rfl)
    (fun _ _ _ h h' => h'.trans h) (fun _ _ _ _ => ⟨trivial, rfl⟩) fun _ _ _ _ => ⟨trivial, rfl⟩
  exact (hleads.2 [] {} members context b trivial).2

namespace FormLaw

open Outline

variable {S : SchemaNode → Prop} (L : FormLaw S)

/-- all entries are kept -/
def Inv (b : Build) : Prop :=
  ∀ e ∈ b.table, L.Kept e.2

variable {L}

variable (L) in
theorem keeps : Keeps L.Kin L.Kept :=
  ⟨L.kept, L.kept (L.placeholder (.malformed .null))⟩

theorem inv_entered {b : Build} {m : Model} (hb : L.Inv b) (hm : L.Kept m) (name : String) :
    L.Inv (b.entered name m) := by
  intro e he
  rcases Keyed.mem_insert he with he | rfl
  · exact hb e he
  · exact L.restyled hm rfl

/-- promoting puts a model into the table and leaves a reference in its place, or else does nothing -/
theorem promote_run {P : Model → Prop} {b : Build} {m : Model} (hb : L.Inv b)
    (hkept : m.isPromotable = true → L.Kept m) (hm : P m) (context : String) : L.Inv ((promote context m).run b).2 ∧
      (P ((promote context m).run b).1 ∨ ∃ target, ((promote context m).run b).1.shape = .reference target) := by
  cases hpromotable : m.isPromotable with
  | false =>
    rw [promote_of_not hpromotable]
    exact ⟨hb, Or.inl hm⟩
  | true =>
    rw [run_promote hpromotable]
    exact ⟨inv_entered hb (hkept hpromotable) (b.nextName context), Or.inr ⟨_, rfl⟩⟩

theorem promote_kin {b : Build} {n : SchemaNode} {m : Model} (hb : L.Inv b) (hm : L.Kin n m) (context : String) :
    L.Inv ((promote context m).run b).2 ∧ L.Kin n ((promote context m).run b).1 :=
  (promote_run hb (fun _ => L.kept hm) hm context).imp_right fun h => h.elim id fun ⟨_, hshape⟩ => L.reference hshape

/-! ## Building nodes -/

theorem frame_leads {ν : Type} {V : ν → Model → Prop} {f : ν → Building Model} {fr : Frame ν}
    (hf : ∀ x ∈ fr.parts, Leads L.Inv (f x) fun _ m _ => V x m) : Leads L.Inv (fr.run f) fun _ m _ => fr.Yields V m :=
  @Frame.run_leads ν L.Inv (fun _ xs ms _ => List.Forall₂ V xs ms) (fun _ => .nil) (fun h h' => List.rel_append h h')
    f fr fun x hx => (hf x hx).mono fun _ _ _ hv => .cons hv .nil

variable (L) in
/-- the functions of `r` keep the law on the nodes in `T` -/
structure Follows (r : Reach) (T : List SchemaNode) : Prop where
  below : ∀ context, ∀ n ∈ T, Leads L.Inv (r.below context n) fun _ m _ => L.Kin n m
  enter : ∀ name, Leads L.Inv (r.enter name) fun _ _ _ => True

namespace Follows

variable {r : Reach} {T : List SchemaNode} {s : Schema SchemaNode}

theorem part (h : L.Follows r T) {p : Part} (hp : p.nodes ⊆ T) :
    Leads L.Inv (p.run r) fun _ m _ => p.Yields L.Kin m := by
  cases p with
  | below context n =>
    intro b hb
    obtain ⟨hmid, hm⟩ := h.below context n (hp List.mem_cons_self) b hb
    exact promote_kin hmid hm context
  | untyped => exact Leads.pure fun b _ => rfl

theorem piece (h : L.Follows r T) {p : Piece} (hp : p.nodes ⊆ T) :
    Leads L.Inv (p.run r) fun _ m _ => p.Yields L.Kin m := by
  cases p with
  | scalar kind format => exact Leads.pure fun b _ => rfl
  | frame fr => exact frame_leads fun p hp' => h.part fun n hn => hp (List.mem_flatMap.2 ⟨p, hp', hn⟩)

theorem core (h : L.Follows r T) {c : Core} (hc : c.nodes ⊆ T) :
    Leads L.Inv (c.run r) fun _ m _ => c.Yields L.Kin m := by
  cases c with
  | literals values => exact Leads.pure fun b _ => rfl
  | only context n => exact h.below context n (hc List.mem_cons_self)
  | piece p => exact h.piece hc
  | merged context members fr =>
    intro b hb
    have hmid : L.Inv ((mergeNodes r.components context [] {} members).run b).2 := by
      rw [Inv, mergeNodes_table]
      exact hb
    exact frame_leads (fun p hp => h.part fun n hn => hc (List.mem_flatMap.2 ⟨p, hp, hn⟩)) _ hmid
  | types pieces =>
    refine frame_leads fun e he b hb => ?_
    obtain ⟨hmid, hm⟩ := h.piece (fun n hn => hc (List.mem_flatMap.2 ⟨e, he, hn⟩)) b hb
    exact promote_run hmid (fun hpromotable => L.single (hm.single L.keeps (hm.plain hpromotable))) hm e.1

/-- the model of a schema has one of its forms -/
theorem shaped (h : L.Follows r (s.innerNodes r.components)) (context : String) :
    Leads L.Inv (r.shaped context s) fun _ m _ => ∃ m', s.Forms L.Kin L.Kept m' ∧ m.shape = m'.shape := by
  rw [← s.nodes_outline context] at h
  rw [r.shaped_eq]
  intro b hb
  obtain ⟨hend, hm⟩ := h.core (List.Subset.refl _) b hb
  exact ⟨hend, _, Schema.forms_of_outline L.keeps hm, rfl⟩

theorem reference (h : L.Follows r T) (context path : String) :
    Leads L.Inv (r.reference context path) fun _ m _ => L.Kin (.ref path) m := by
  unfold Reach.reference
  split
  · exact fun b hb => ⟨hb, L.placeholder _⟩
  · rename_i name _
    dsimp only
    split_ifs
    · exact fun b hb => ⟨hb, L.reference rfl⟩
    · intro b hb
      exact ⟨(h.enter name b hb).1, L.reference rfl⟩

end Follows

/-- **Building a node keeps the law**, if what is built below it does. -/
theorem node_leads {r : Reach} {n : SchemaNode} (hn : S n) (h : L.Follows r (n.inner r.components)) (context : String) :
    Leads L.Inv (r.node context n) fun _ m _ => L.Kin n m := by
  cases n with
  | ref path => exact h.reference context path
  | schema s =>
    intro b hb
    obtain ⟨hend, m, hform, hshape⟩ := Follows.shaped h context b hb
    exact ⟨hend, L.formed hn hform hshape⟩
  | malformed v => exact fun b hb => ⟨hb, L.placeholder _⟩

/-! ## Walking -/

section Walk

variable {src : Source} (hS : SchemaNode.Region src.components S)
include hS

theorem reach_follows (resolving : List String) (budget : Nat) {enterComponent : String → Building Unit}
    {below : String → SchemaNode → Building Model}
    (henter : ∀ name, Leads L.Inv (enterComponent name) fun _ _ _ => True)
    (hbelow : ∀ context n, S n → Leads L.Inv (below context n) fun _ m _ => L.Kin n m) {n : SchemaNode} (hn : S n) :
    L.Follows (src.reach resolving enterComponent budget below) (n.inner src.components) := by
  refine ⟨fun context m hm => hbelow context m (hS.inner hn hm), fun name => ?_⟩
  unfold Source.reach
  dsimp only
  split_ifs
  · exact Leads.pure fun b _ => trivial
  · exact henter name

theorem descend_leads (resolving : List String) {enterComponent : String → Building Unit}
    (henter : ∀ name, Leads L.Inv (enterComponent name) fun _ _ _ => True) (budget : Nat) (context : String)
    (n : SchemaNode) (hn : S n) :
    Leads L.Inv (src.descend resolving enterComponent budget context n) fun _ m _ => L.Kin n m := by
  induction budget generalizing context n with
  | zero => exact fun b hb => ⟨hb, L.placeholder n⟩
  | succ budget ih => exact node_leads hn (reach_follows hS resolving budget henter ih hn) context

/-- **Seeing to a component keeps the law.** The induction is on the components that are not being built yet. -/
theorem component_leads (resolving : List String) (name : String) :
    Leads L.Inv (src.component resolving name) fun _ _ _ => True := by
  induction resolving, name using Source.component.induct src with
  | case1 resolving name hr =>
    rw [Source.component_resolving hr]
    exact Leads.pure fun b _ => trivial
  | case2 resolving name hr ih =>
    intro b hb
    rw [Source.run_component hr]
    split_ifs
    · exact ⟨hb, trivial⟩
    · cases hc : src.components.get? name with
      | none => exact ⟨hb, trivial⟩
      | some node =>
        have hnode : S node := hS.component hc
        have henter : ∀ other, Leads L.Inv (src.entering (name :: resolving) other) fun _ _ _ => True := fun other =>
          (ih node hc other).discard fun _ _ _ _ => trivial
        have hbelow := descend_leads hS (name :: resolving) henter src.limit
        have hroot := reach_follows hS (name :: resolving) src.limit henter hbelow hnode
        obtain ⟨hmid, hm⟩ := node_leads hnode hroot (typeName name) b hb
        exact ⟨inv_entered hmid (L.kept hm) name, trivial⟩

theorem parseComponents_leads : Leads L.Inv src.parseComponents fun _ _ _ => True := by
  unfold Source.parseComponents
  induction src.components.keys with
  | nil => exact Leads.pure fun b _ => trivial
  | cons name names ih =>
    intro b hb
    exact ih _ ((component_leads hS [] name b hb).1)

/-- a schema outside of the components -/
theorem nested_leads (context : String) {n : SchemaNode} (hn : S n) :
    Leads L.Inv (src.nested context n) fun _ m _ => L.Kin n m := by
  intro b hb
  have henter : ∀ name, Leads L.Inv (discard (src.component [] name)) fun _ _ _ => True := fun name =>
    (component_leads hS [] name).discard fun _ _ _ _ => trivial
  obtain ⟨hmid, hm⟩ := descend_leads hS [] henter src.limit context n hn b hb
  exact promote_kin hmid hm context

end Walk

end FormLaw

end ClientPlan
