/-
Outlines of models. The outline of a schema says, without building anything, which keyword decides about its model, what
is built below it and in which order, and what is put around that. It is the only place that looks at the keywords:
building a schema means building its outline (`Reach.shaped_eq`), so a law of building has to be proved for the few
kinds of outlines, and not for every function that a keyword leads to.
-/
import ClientPlan.Proofs.Model.Nesting

namespace ClientPlan

namespace Outline

/-! ## Frames -/

/-- a model with others in it, over what stands for these -/
inductive Frame (ν : Type) where
  | object (properties : List (String × ν)) (required : List String) (additional : Option ν)
  | array (items : Option ν)
  | union (members : List ν) (discriminator : Option Discriminator)

namespace Frame

variable {ν μ : Type}

/-- what stands directly in a frame, in the order in which it is built -/
def parts : Frame ν → List ν
  | object properties _ additional => properties.map (·.2) ++ additional.toList
  | array items => items.toList
  | union members _ => members

/-- a frame of models as a model -/
def model : Frame Model → Model
  | object properties required additional => .of (.object properties required additional)
  | array items => .of (.array items)
  | union members discriminator => .of (.union members [] discriminator)

/-- build the parts of a frame, one after the other -/
def build (f : ν → Building μ) : Frame ν → Building (Frame μ)
  | object properties required additional => do
    let properties ← properties.mapM fun e => do return (e.1, ← f e.2)
    let additional ← additional.mapM f
    return .object properties required additional
  | array items => do return .array (← items.mapM f)
  | union members discriminator => do return .union (← members.mapM f) discriminator

/-- build a model around what is built of the parts -/
def run (f : ν → Building Model) (fr : Frame ν) : Building Model :=
  model <$> fr.build f

/-- frames of one kind, whatever stands in them -/
inductive Same : Frame ν → Frame μ → Prop
  | object (properties : List (String × ν)) (properties' : List (String × μ)) (required : List String)
      (additional : Option ν) (additional' : Option μ) :
      Same (.object properties required additional) (.object properties' required additional')
  | array (items : Option ν) (items' : Option μ) : Same (.array items) (.array items')
  | union (members : List ν) (members' : List μ) (discriminator : Option Discriminator) :
      Same (.union members discriminator) (.union members' discriminator)

theorem children_model (fr : Frame Model) : fr.model.children = fr.parts := by
  cases fr <;> rfl

theorem name_model (fr : Frame Model) : fr.model.name = none := by
  cases fr <;> rfl

theorem target?_model (fr : Frame Model) : fr.model.target? = none := by
  cases fr <;> rfl

section Leads

variable {α β : Type} {P : Build → Prop} {Q : Build → List ν → List μ → Build → Prop}

/-- what the elements of a list lead to, one after the other, the whole list leads to -/
theorem mapM_leads (hnil : ∀ b, Q b [] [] b)
    (happend : ∀ {b b' b'' xs xs' ys ys'}, Q b xs ys b' → Q b' xs' ys' b'' → Q b (xs ++ xs') (ys ++ ys') b'')
    {g : α → Building β} (from' : α → ν) (to' : β → μ) {as : List α}
    (hg : ∀ a ∈ as, Leads P (g a) fun b c b' => Q b [from' a] [to' c] b') :
    Leads P (as.mapM g) fun b cs b' => Q b (as.map from') (cs.map to') b' := by
  induction as with
  | nil => exact Leads.pure fun b _ => hnil b
  | cons a as ih =>
    obtain ⟨hone, hrest⟩ := List.forall_mem_cons.1 hg
    rw [List.mapM_cons]
    intro b hb
    obtain ⟨hmid, hq⟩ := hone b hb
    obtain ⟨hend, hqs⟩ := ih hrest _ hmid
    exact ⟨hend, happend hq hqs⟩

/-- the same for what may be there or not -/
theorem option_mapM_leads (hnil : ∀ b, Q b [] [] b) {f : ν → Building μ} {x? : Option ν}
    (hf : ∀ x ∈ x?, Leads P (f x) fun b y b' => Q b [x] [y] b') :
    Leads P (x?.mapM f) fun b y? b' => Q b x?.toList y?.toList b' := by
  cases x? with
  | none => exact Leads.pure fun b _ => hnil b
  | some x => exact fun b hb => hf x rfl b hb

/-- **Building a frame** leads to what building its parts leads to, one after the other. -/
theorem build_leads (hnil : ∀ b, Q b [] [] b)
    (happend : ∀ {b b' b'' xs xs' ys ys'}, Q b xs ys b' → Q b' xs' ys' b'' → Q b (xs ++ xs') (ys ++ ys') b'')
    {f : ν → Building μ} {fr : Frame ν} (hf : ∀ x ∈ fr.parts, Leads P (f x) fun b y b' => Q b [x] [y] b') :
    Leads P (fr.build f) fun b fr' b' => fr.Same fr' ∧ Q b fr.parts fr'.parts b' := by
  cases fr with
  | object properties required additional =>
    obtain ⟨hproperties, hadditional⟩ := List.forall_mem_append.1 hf
    have hentries : ∀ e ∈ properties, Leads P (do return (e.1, ← f e.2) : Building (String × μ))
        fun b c b' => Q b [e.2] [c.2] b' := fun e he => hproperties e.2 (List.mem_map_of_mem he)
    intro b hb
    obtain ⟨hmid, hps⟩ := mapM_leads hnil happend Prod.snd Prod.snd hentries b hb
    obtain ⟨hend, ha⟩ := option_mapM_leads hnil (fun x hx => hadditional x (Option.mem_toList.2 hx)) _ hmid
    exact ⟨hend, .object _ _ _ _ _, happend hps ha⟩
  | array items =>
    intro b hb
    obtain ⟨hend, hitems⟩ := option_mapM_leads hnil (fun x hx => hf x (Option.mem_toList.2 hx)) b hb
    exact ⟨hend, .array _ _, hitems⟩
  | union members discriminator =>
    intro b hb
    obtain ⟨hend, hms⟩ := mapM_leads hnil happend id id hf b hb
    rw [List.map_id, List.map_id] at hms
    exact ⟨hend, .union _ _ _, hms⟩

theorem run_leads {Q : Build → List ν → List Model → Build → Prop} (hnil : ∀ b, Q b [] [] b)
    (happend : ∀ {b b' b'' xs xs' ys ys'}, Q b xs ys b' → Q b' xs' ys' b'' → Q b (xs ++ xs') (ys ++ ys') b'')
    {f : ν → Building Model} {fr : Frame ν} (hf : ∀ x ∈ fr.parts, Leads P (f x) fun b m b' => Q b [x] [m] b') :
    Leads P (fr.run f) fun b m b' => ∃ fr', m = fr'.model ∧ fr.Same fr' ∧ Q b fr.parts fr'.parts b' := by
  intro b hb
  obtain ⟨hend, hsame, hq⟩ := build_leads hnil happend hf b hb
  exact ⟨hend, _, rfl, hsame, hq⟩

end Leads

end Frame

/-! ## Outlines -/

/-- a part of a model: what is built of a node below, with a name of its own if it is to have one, or an untyped model -/
inductive Part where
  | below (context : String) (n : SchemaNode)
  | untyped

namespace Part

def nodes : Part → List SchemaNode
  | below _ n => [n]
  | untyped => []

def run (r : Reach) : Part → Building Model
  | below context n => r.nested context n
  | untyped => return .placeholder

end Part

/-- a model of a single type, over its parts -/
inductive Piece where
  | scalar (kind : Scalar) (format : Option String)
  | frame (fr : Frame Part)

namespace Piece

def nodes : Piece → List SchemaNode
  | scalar _ _ => []
  | frame fr => fr.parts.flatMap Part.nodes

def run (r : Reach) : Piece → Building Model
  | scalar kind format => return { Model.scalar kind with format := format }
  | frame fr => fr.run (Part.run r)

end Piece

/-- what a schema is built as -/
inductive Core where
  | literals (values : List Json)
  /-- a node below stands for the whole schema -/
  | only (context : String) (n : SchemaNode)
  | piece (p : Piece)
  /-- a piece of what members are merged into, which is noted -/
  | merged (context : String) (members : List SchemaNode) (fr : Frame Part)
  /-- a union of pieces; each gets a name of its own if it is to have one -/
  | types (pieces : List (String × Piece))

namespace Core

def nodes : Core → List SchemaNode
  | literals _ => []
  | only _ n => [n]
  | piece p => p.nodes
  | merged _ _ fr => fr.parts.flatMap Part.nodes
  | types pieces => pieces.flatMap (·.2.nodes)

def run (r : Reach) : Core → Building Model
  | literals values => return .ofLiterals values
  | only context n => r.below context n
  | piece p => p.run r
  | merged context members fr => do
    discard (mergeNodes r.components context [] {} members)
    fr.run (Part.run r)
  | types pieces => (Frame.union pieces none).run fun e => do promote e.1 (← e.2.run r)

end Core

end Outline

/-- what decides about a model, and what is built below it -/
structure Outline where
  core : Outline.Core
  /-- null is allowed beside it -/
  null : Bool := false

def Outline.run (r : Reach) (o : Outline) : Building Model := do
  let m ← o.core.run r
  return { m with nullable := m.nullable || o.null }

/-! ## Outlines of schemas -/

namespace Schema

open Outline

variable (s : Schema SchemaNode) (context : String)

def objectFrame : Frame Part :=
  .object (s.properties.map fun e => (e.1, .below (context ++ pascalCase e.1) e.2)) s.required.eraseDups
    (match s.additional with
      | some (.shaped n) => some (.below (context ++ "Value") n)
      | some (.allowed true) => some .untyped
      | _ => none)

def arrayFrame : Frame Part :=
  .array (s.items.map (.below (context ++ "Item")))

/-- a schema read as one type -/
def piece : TypeName → Piece
  | .object => .frame (s.objectFrame context)
  | .array => .frame (s.arrayFrame context)
  | .string => .scalar .string s.format
  | .integer => .scalar .integer s.format
  | .number => .scalar .number s.format
  | .boolean => .scalar .boolean s.format
  | .null => .scalar .null s.format

/-- a schema by its types, or without types by what else it says -/
def typedOutline : Outline :=
  match (s.types.map (·.nonNull)).getD [] with
  | [] =>
    if !s.properties.isEmpty || s.additional.isSome then { core := .piece (.frame (s.objectFrame context)) }
    else if s.items.isSome then { core := .piece (.frame (s.arrayFrame context)) }
    else if s.types.isSome then { core := .piece (.scalar .null none), null := true }
    else { core := .piece (.scalar ((s.format.bind formatScalar?).getD .any) none) }
  | [t] => { core := .piece (s.piece context t) }
  | ts =>
    { core := .types (ts.zipIdx.map fun e => (Reach.variantContext context e.2,
        s.piece (Reach.variantContext context e.2) e.1)) }

/-- the members of a union, numbered from `i` on -/
def memberParts (i : Nat) (ns : List SchemaNode) : List Part :=
  (ns.zipIdx i).map fun e => .below (Reach.variantContext context e.2) e.1

/-- a schema by its alternatives -/
def unionOutline : Outline where
  core := match s.nonNullAlternatives with
    | [] => .piece (.scalar .null none)
    | [only] => .only context only
    | members => .piece (.frame (.union (memberParts context 0 members) (s.discriminator.map Reach.discriminator)))
  null := s.alternatives.any (·.isNullType)

/-- a schema with members to merge -/
def mergedOutline (components : Keyed SchemaNode) : Outline where
  core := match s.allOf, s.properties with
    | [only], [] => .only context only
    | members, _ => .merged context members (((ofMembers components members).absorb s).objectFrame context)

/-- a schema by the keyword that decides about its model -/
def outline (components : Keyed SchemaNode) : Outline :=
  match s.constant with
  | some v => { core := .literals [v] }
  | none =>
    if !s.literals.isEmpty then { core := .literals s.literals }
    else if !s.allOf.isEmpty then s.mergedOutline context components
    else if !s.oneOf.isEmpty || !s.anyOf.isEmpty then s.unionOutline context
    else s.typedOutline context

end Schema

/-! ## Building outlines -/

namespace Reach

open Outline

variable (r : Reach) (context : String) (s : Schema SchemaNode)

/-- an outline without null is its core -/
theorem run_core (c : Core) : Outline.run r { core := c } = c.run r := by
  have hsame : ∀ m : Model, { m with nullable := m.nullable || false } = m := by
    rintro ⟨name, shape, format, nullable, description⟩
    rw [Bool.or_false]
  calc Outline.run r { core := c }
    _ = (c.run r >>= fun m => pure { m with nullable := m.nullable || false }) := rfl
    _ = (c.run r >>= pure) := by simp only [hsame]
    _ = c.run r := bind_pure _

theorem nestedEntries_eq (contextOf : String → String) (es : List (String × SchemaNode)) :
    r.nestedEntries contextOf es = (es.map fun e => (e.1, Part.below (contextOf e.1) e.2)).mapM
      fun e => do return (e.1, ← e.2.run r) := by
  induction es with
  | nil => rfl
  | cons e es ih =>
    rw [List.map_cons, List.mapM_cons, ← ih]
    simp only [bind_assoc, pure_bind]
    rfl

theorem nestedVariants_eq (i : Nat) (ns : List SchemaNode) :
    r.nestedVariants context i ns = (Schema.memberParts context i ns).mapM (Part.run r) := by
  induction ns generalizing i with
  | nil => rfl
  | cons n ns ih =>
    have hcons : Schema.memberParts context i (n :: ns) =
        .below (variantContext context i) n :: Schema.memberParts context (i + 1) ns := rfl
    rw [hcons, List.mapM_cons, ← ih]
    rfl

theorem object_eq : r.object context s = (s.objectFrame context).run (Part.run r) := by
  have hvalues : r.values context s.additional = Option.mapM (Part.run r) (match s.additional with
      | some (.shaped n) => some (.below (context ++ "Value") n)
      | some (.allowed true) => some .untyped
      | _ => none) := by
    match s.additional with
    | none => rfl
    | some (.allowed true) => rfl
    | some (.allowed false) => rfl
    | some (.shaped n) => rfl
  rw [object, nestedEntries_eq, hvalues]
  simp only [Schema.objectFrame, Frame.run, Frame.build, map_bind, map_pure]
  rfl

theorem array_eq : r.array context s = (s.arrayFrame context).run (Part.run r) := by
  rw [array, Schema.arrayFrame, Frame.run, Frame.build]
  cases s.items <;> rfl

theorem single_eq (t : TypeName) : r.single context t s = (s.piece context t).run r := by
  cases t with
  | object => exact r.object_eq context s
  | array => exact r.array_eq context s
  | _ => rfl

theorem singles_eq (i : Nat) (ts : List TypeName) :
    r.singles context s i ts = ((ts.zipIdx i).map fun e => (variantContext context e.2,
      s.piece (variantContext context e.2) e.1)).mapM (fun e => do promote e.1 (← e.2.run r)) := by
  induction ts generalizing i with
  | nil => rfl
  | cons t ts ih =>
    rw [List.zipIdx_cons, List.map_cons, List.mapM_cons, ← ih]
    simp only [bind_assoc, ← single_eq]
    rfl

theorem typed_eq : r.typed context s = (s.typedOutline context).run r := by
  unfold typed Schema.typedOutline
  generalize (s.types.map (·.nonNull)).getD [] = ts
  match ts with
  | [] =>
    dsimp only
    unfold untyped
    split_ifs
    · rw [run_core]
      exact r.object_eq context s
    · rw [run_core]
      exact r.array_eq context s
    · rfl
    · rw [run_core]
      cases s.format.bind formatScalar? <;> rfl
  | [t] =>
    rw [run_core]
    exact r.single_eq context s t
  | t :: t' :: ts =>
    rw [run_core]
    dsimp only
    rw [singles_eq]
    rfl

theorem union_eq : r.union context s = (s.unionOutline context).run r := by
  have hchoice : r.choice context s.discriminator s.nonNullAlternatives = (s.unionOutline context).core.run r := by
    unfold Schema.unionOutline
    dsimp only
    generalize s.nonNullAlternatives = ns
    match ns with
    | [] => rfl
    | [only] => rfl
    | n :: n' :: ns =>
      rw [choice.eq_3 _ _ _ _ (by simp) (by simp), nestedVariants_eq]
      rfl
  rw [union, hchoice]
  rfl

/-- the members are merged into the same schema in every state -/
theorem merged_eq : r.merged context s = (s.mergedOutline context r.components).run r := by
  rw [Schema.mergedOutline, run_core]
  unfold merged
  generalize hall : s.allOf = members, s.properties = properties
  have hmany : (do r.object context ((← mergeNodes r.components context [] {} members).absorb s)) =
      (Core.merged context members (((Schema.ofMembers r.components members).absorb s).objectFrame context)).run r := by
    refine StateT.ext fun b => ?_
    have hvalue : ((mergeNodes r.components context [] {} members).run b).1 = Schema.ofMembers r.components members :=
      mergeNodes_value context members b
    change (r.object context (((mergeNodes r.components context [] {} members).run b).1.absorb s)).run _ = _
    rw [hvalue, object_eq]
    rfl
  match members, properties with
  | [only], [] => rfl
  | [], ps => exact hmany
  | [only], p :: ps => exact hmany
  | n :: n' :: ns, ps => exact hmany

/-- **Building a schema means building its outline.** -/
theorem shaped_eq : r.shaped context s = (s.outline context r.components).run r := by
  unfold shaped Schema.outline
  cases s.constant with
  | some v => exact (r.run_core (.literals [v])).symm
  | none =>
    dsimp only
    split_ifs
    · exact (r.run_core (.literals s.literals)).symm
    · exact r.merged_eq context s
    · exact r.union_eq context s
    · exact r.typed_eq context s

end Reach

/-! ## Nodes of outlines -/

namespace Schema

open Outline

variable (s : Schema SchemaNode) (context : String)

theorem nodes_objectFrame : (s.objectFrame context).parts.flatMap Part.nodes = s.objectNodes := by
  have hproperties : (s.properties.map fun e => Part.below (context ++ pascalCase e.1) e.2).flatMap Part.nodes =
      s.properties.map (·.2) := by
    rw [List.flatMap_map]
    exact List.map_eq_flatMap.symm
  unfold objectFrame objectNodes valueNodes Frame.parts
  rw [List.flatMap_append, List.map_map]
  refine congr (congrArg (· ++ ·) hproperties) ?_
  match s.additional with
  | none => rfl
  | some (.allowed true) => rfl
  | some (.allowed false) => rfl
  | some (.shaped n) => rfl

theorem nodes_arrayFrame : (s.arrayFrame context).parts.flatMap Part.nodes = s.items.toList := by
  unfold arrayFrame
  cases s.items <;> rfl

theorem nodes_piece (t : TypeName) : (s.piece context t).nodes = s.singleNodes t := by
  cases t with
  | object => exact s.nodes_objectFrame context
  | array => exact s.nodes_arrayFrame context
  | _ => rfl

theorem nodes_memberParts (i : Nat) (ns : List SchemaNode) : (memberParts context i ns).flatMap Part.nodes = ns := by
  rw [memberParts, List.flatMap_map]
  exact List.map_eq_flatMap.symm.trans (List.zipIdx_map_fst i ns)

/-- **The nodes in the outline of a schema** are those one level below it, in order. -/
theorem nodes_outline (components : Keyed SchemaNode) :
    (s.outline context components).core.nodes = s.innerNodes components := by
  unfold outline innerNodes
  cases s.constant with
  | some v => rfl
  | none =>
    dsimp only
    split_ifs
    · rfl
    · unfold mergedOutline mergedNodes
      generalize s.allOf = members, s.properties = properties
      match members, properties with
      | [only], [] => rfl
      | [], ps => exact nodes_objectFrame _ context
      | [only], p :: ps => exact nodes_objectFrame _ context
      | n :: n' :: ns, ps => exact nodes_objectFrame _ context
    · unfold unionOutline
      dsimp only
      generalize s.nonNullAlternatives = ns
      match ns with
      | [] => rfl
      | [only] => rfl
      | n :: n' :: ns => exact nodes_memberParts context 0 _
    · unfold typedOutline typedNodes untypedNodes
      generalize (s.types.map (·.nonNull)).getD [] = ts
      match ts with
      | [] =>
        dsimp only
        split_ifs
        · exact s.nodes_objectFrame context
        · exact s.nodes_arrayFrame context
        all_goals simp_all [Core.nodes, Piece.nodes]
      | [t] =>
        dsimp only
        rw [List.flatMap_singleton]
        exact s.nodes_piece context t
      | t :: t' :: ts =>
        dsimp only [Core.nodes]
        rw [List.flatMap_map]
        simp only [nodes_piece]
        rw [← List.flatMap_map (f := Prod.fst), List.zipIdx_map_fst]

end Schema

end ClientPlan
