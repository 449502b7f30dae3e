/-
Laws that building the operations of a document keeps: operations build models through `Source.nested` and note what
they cannot follow, and do nothing else to the state. A parameter that another one replaces is built all the same, so
the models that are built are those of the operations and those of the parameters that were replaced. The schemas that
are asked for are listed (`pathSchemas`), for laws that only speak of some schemas.
-/
import ClientPlan.Proofs.Api.Override
import ClientPlan.Proofs.Model.Walk

namespace ClientPlan

namespace Api

/-- the models of parameters, body and responses -/
def Operation.models (op : Operation) : List Model :=
  op.parameters.map (·.model) ++ (op.body.map (·.model)).toList ++ op.responses.filterMap (·.model)

/-- the models that an API consists of: those of its table and of its operations -/
def models (api : Api) : List Model :=
  api.table.map (·.2) ++ api.operations.flatMap Operation.models

theorem models_cons (r : Response) (rs : List Response) :
    (r :: rs).filterMap (·.model) = r.model.toList ++ rs.filterMap (·.model) := by
  rw [List.filterMap_cons]
  cases r.model <;> rfl

end Api

namespace Document.Components

variable (c : Components)

/-! ## Schemas that are asked for -/

/-- the schemas of parameters -/
def parameterSchemas (items : List (OrRef Parameter)) : List SchemaNode :=
  (items.filterMap c.parameter?).flatMap (·.schema.toList)

/-- the schema of a body -/
def requestSchema? (item : OrRef RequestBody) : Option SchemaNode :=
  (c.requestBody? item).bind fun b => (selectBodyType b.content).bind (·.2.schema)

/-- the schema of a response -/
def responseSchema? (item : OrRef Response) : Option SchemaNode :=
  (c.response? item).bind fun r => (selectMediaType r.content).bind fun (contentType, media) =>
    Api.Setting.bodySchema? (contentType == eventStreamMediaType) media

/-- the schemas of responses -/
def responseSchemas (items : List (String × OrRef Response)) : List SchemaNode :=
  items.flatMap fun (_, item) => (c.responseSchema? item).toList

/-- the schemas that building an operation asks for -/
def operationSchemas (shared : List (OrRef Parameter)) (op : Operation) : List SchemaNode :=
  c.parameterSchemas shared ++ c.parameterSchemas op.parameters ++ (op.requestBody.bind c.requestSchema?).toList ++
    c.responseSchemas op.responses

/-- the schemas that building the operations of paths asks for -/
def pathSchemas (items : List (String × PathItem)) : List SchemaNode :=
  items.flatMap fun (_, item) => item.operations.flatMap fun (_, op) => c.operationSchemas item.parameters op

end Document.Components

/-! ## The law -/

/-- an invariant, and a relation for finished models built one after the other, that building operations keeps; what is
known of the model of a schema is its `Sketch`. Only some schemas may be asked for. -/
structure ApiLaw (src : Source) where
  Inv : Build → Prop
  Built : Build → List Model → Build → Prop
  Sketch : String → Option SchemaNode → Model → Prop
  Asked : SchemaNode → Prop
  idle : ∀ {b}, Built b [] b
  append : ∀ {b b' b'' ms ms'}, Built b ms b' → Built b' ms' b'' → Built b (ms ++ ms') b''
  noted : ∀ {b d}, Inv b → (∀ limit, d.issue ≠ .depthExceeded limit) → Inv (b.noted d) ∧ Built b [] (b.noted d)
  nested : ∀ context n, Asked n →
    Leads Inv (src.nested context n) fun b m b' => Built b [m] b' ∧ Sketch context (some n) m
  absent : ∀ context b, Built b [.placeholder] b ∧ Sketch context none .placeholder

namespace ApiLaw

open Api

variable {st : Api.Setting} (L : ApiLaw st.source)

/-- a parameter was built from one of the document -/
def Sketched (context : String) (p : Document.Parameter) (q : Parameter) : Prop :=
  q.key = (p.name, p.location) ∧ L.Sketch (context ++ pascalCase p.name) p.schema q.model

theorem noteUnfollowed_leads {α : Type} (context : String) (item : OrRef α) :
    Leads L.Inv (noteUnfollowed context item) fun b _ b' => L.Built b [] b' := by
  cases item with
  | ref path => exact fun b hb => L.noted hb (by simp)
  | inline a => exact Leads.pure fun b _ => L.idle

theorem modelOr_leads (context : String) {n : Option SchemaNode} (hn : ∀ m ∈ n, L.Asked m) :
    Leads L.Inv (st.modelOr context n) fun b m b' => L.Built b [m] b' ∧ L.Sketch context n m := by
  cases n with
  | none => exact Leads.pure fun b _ => L.absent context b
  | some n => exact L.nested context n (hn n rfl)

theorem model?_leads (context : String) {n : Option SchemaNode} (hn : ∀ m ∈ n, L.Asked m) :
    Leads L.Inv (st.model? context n) fun b m b' => L.Built b m.toList b' := by
  cases n with
  | none => exact Leads.pure fun b _ => L.idle
  | some n => exact (L.nested context n (hn n rfl)).mono fun _ _ _ h => h.1

theorem parameters_leads (context : String) {items : List (OrRef Document.Parameter)}
    (hitems : ∀ n ∈ st.components.parameterSchemas items, L.Asked n) :
    Leads L.Inv (st.parameters context items) fun b ps b' =>
      L.Built b (ps.map (·.model)) b' ∧ List.Forall₂ (L.Sketched context) (st.followed items) ps := by
  induction items with
  | nil => exact Leads.pure fun b _ => ⟨L.idle, .nil⟩
  | cons item items ih =>
    intro b hb
    unfold Api.Setting.parameters
    rw [Document.Components.parameterSchemas, List.filterMap_cons] at hitems
    rw [Setting.followed, List.filterMap_cons]
    cases hitem : st.components.parameter? item with
    | none =>
      rw [hitem] at hitems
      obtain ⟨hmid, hnote⟩ := L.noteUnfollowed_leads context item b hb
      obtain ⟨hend, hrest, hsketched⟩ := ih hitems _ hmid
      exact ⟨hend, L.append hnote hrest, hsketched⟩
    | some p =>
      rw [hitem] at hitems
      dsimp only at hitems
      rw [List.flatMap_cons, List.forall_mem_append] at hitems
      have hp : ∀ n ∈ p.schema, L.Asked n := fun n hn => hitems.1 n (Option.mem_toList.2 hn)
      obtain ⟨hmid, hm, hsketch⟩ := L.modelOr_leads (context ++ pascalCase p.name) hp b hb
      obtain ⟨hend, hrest, hsketched⟩ := ih hitems.2 _ hmid
      exact ⟨hend, L.append hm hrest, .cons ⟨rfl, hsketch⟩ hsketched⟩

theorem body_leads (context : String) {item : OrRef Document.RequestBody}
    (hitem : ∀ n ∈ st.components.requestSchema? item, L.Asked n) :
    Leads L.Inv (st.body context item) fun b x b' => L.Built b (x.map (·.model)).toList b' := by
  intro b hb
  unfold Api.Setting.body
  split
  · exact L.noteUnfollowed_leads context item b hb
  · rename_i body hbody
    rw [Document.Components.requestSchema?, hbody, Option.bind_some] at hitem
    split
    · exact ⟨hb, L.idle⟩
    · rename_i contentType media hmedia
      rw [hmedia] at hitem
      exact (L.modelOr_leads _ hitem b hb).imp_right fun h => h.1

theorem body?_leads (context : String) {item : Option (OrRef Document.RequestBody)}
    (hitem : ∀ n ∈ item.bind st.components.requestSchema?, L.Asked n) :
    Leads L.Inv (st.body? context item) fun b x b' => L.Built b (x.map (·.model)).toList b' := by
  cases item with
  | none => exact Leads.pure fun b _ => L.idle
  | some item => exact L.body_leads context hitem

theorem response_leads (context status : String) {item : OrRef Document.Response} {r : Document.Response}
    (hr : st.components.response? item = some r) (hitem : ∀ n ∈ st.components.responseSchema? item, L.Asked n) :
    Leads L.Inv (st.response context status r) fun b x b' => L.Built b x.model.toList b' := by
  intro b hb
  refine L.model?_leads context (fun n hn => hitem n ?_) b hb
  rw [Document.Components.responseSchema?, hr, Option.bind_some]
  cases hselected : selectMediaType r.content with
  | none => simp [hselected] at hn
  | some selected => simpa [hselected] using hn

theorem responses_leads (context : String) (success : Option Nat) (i : Nat)
    {items : List (String × OrRef Document.Response)}
    (hitems : ∀ n ∈ st.components.responseSchemas items, L.Asked n) :
    Leads L.Inv (st.responses context success i items) fun b rs b' => L.Built b (rs.filterMap (·.model)) b' := by
  induction items generalizing i with
  | nil => exact Leads.pure fun b _ => L.idle
  | cons item items ih =>
    obtain ⟨status, item⟩ := item
    rw [Document.Components.responseSchemas, List.flatMap_cons, List.forall_mem_append] at hitems
    obtain ⟨hitem, hitems⟩ := hitems
    intro b hb
    unfold Api.Setting.responses
    split
    · obtain ⟨hmid, hnote⟩ := L.noteUnfollowed_leads context item b hb
      obtain ⟨hend, hrest⟩ := ih (i + 1) hitems _ hmid
      exact ⟨hend, L.append hnote hrest⟩
    · rename_i r hr
      obtain ⟨hmid, hm⟩ := L.response_leads
        (if success = some i then context ++ "Response" else context ++ pascalCase status ++ "Response") status hr
        (fun n hn => hitem n (Option.mem_toList.2 hn)) b hb
      obtain ⟨hend, hrest⟩ := ih (i + 1) hitems _ hmid
      have hboth := L.append hm hrest
      rw [← models_cons] at hboth
      exact ⟨hend, hboth⟩

/-- models were built: those of `ms`, and in addition those of the parameters with the schemas `es` -/
def Placed (b : Build) (ms : List Model) (es : List (String × Option SchemaNode)) (b' : Build) : Prop :=
  ∃ all lost, L.Built b all b' ∧ (ms ++ lost).Perm all ∧ List.Forall₂ (fun e m => L.Sketch e.1 e.2 m) es lost

theorem placed_idle {b : Build} : L.Placed b [] [] b :=
  ⟨[], [], L.idle, .refl _, .nil⟩

theorem placed_append {b b' b'' : Build} {ms ms' : List Model} {es es' : List (String × Option SchemaNode)} :
    L.Placed b ms es b' → L.Placed b' ms' es' b'' → L.Placed b (ms ++ ms') (es ++ es') b'' := by
  rintro ⟨all, lost, hall, hperm, hlost⟩ ⟨all', lost', hall', hperm', hlost'⟩
  refine ⟨all ++ all', lost ++ lost', L.append hall hall', .trans ?_ (hperm.append hperm'), ?_⟩
  · rw [List.append_assoc, List.append_assoc]
    exact (List.perm_append_comm_assoc ms' lost lost').append_left ms
  · exact List.rel_append (R := fun (e : String × Option SchemaNode) m => L.Sketch e.1 e.2 m) hlost hlost'

/-- with body and responses: the models that stay and those of displaced parameters are all that were built -/
theorem displaced_models_perm (inherited own : List Parameter) (body responses : List Model) :
    ((own.foldl Setting.override inherited).map (·.model) ++ body ++ responses ++
      (displaced Parameter.key inherited own).map (·.model)).Perm
        ((inherited ++ own).map (·.model) ++ body ++ responses) := by
  have hperm := (foldl_override_perm inherited own).map (·.model)
  rw [List.map_append] at hperm
  rw [List.append_assoc, List.append_assoc, List.append_assoc]
  refine .trans ?_ (hperm.append_right (body ++ responses))
  rw [List.append_assoc]
  refine .append_left _ ?_
  rw [← List.append_assoc]
  exact List.perm_append_comm

/-- the models that are built for an operation are its own and those of the parameters that others replaced -/
theorem operation_leads (path : String) (shared : List (OrRef Document.Parameter)) (method : Method)
    (op : Document.Operation) (hop : ∀ n ∈ st.components.operationSchemas shared op, L.Asked n) :
    Leads L.Inv (st.operation path shared method op)
      fun b (x : Operation) b' => L.Placed b x.models (st.overriddenSchemas path shared method op) b' := by
  simp only [Document.Components.operationSchemas, List.forall_mem_append, Option.mem_toList] at hop
  obtain ⟨⟨⟨hparameters, hparameters'⟩, hrequest⟩, hresponse⟩ := hop
  intro b hb
  let context := st.context path method op
  obtain ⟨h1, hinherited, hshared⟩ := L.parameters_leads context hparameters b hb
  obtain ⟨h2, hown, hop⟩ := L.parameters_leads context hparameters' _ h1
  obtain ⟨h3, hbody⟩ := L.body?_leads context hrequest _ h2
  obtain ⟨h4, hresponses⟩ := L.responses_leads context (successIndex? op.responses.keys) 0 hresponse _ h3
  let inherited := ((st.parameters context shared).run b).1
  let own := ((st.parameters context op.parameters).run ((st.parameters context shared).run b).2).1
  refine ⟨h4, _, (displaced Parameter.key inherited own).map (·.model),
    L.append (L.append (L.append hinherited hown) hbody) hresponses, ?_, ?_⟩
  · rw [← List.map_append]
    exact displaced_models_perm inherited own _ _
  · have hlost : List.Forall₂ (L.Sketched context) (st.overridden shared op.parameters)
        (displaced Parameter.key inherited own) := displaced_related (fun _ _ h => h.1) hshared hop
    rw [Setting.overriddenSchemas, List.forall₂_map_left_iff, List.forall₂_map_right_iff]
    exact hlost.imp fun _ _ h => h.2

/-- the operations of one path -/
theorem pathOperations_leads (path : String) (shared : List (OrRef Document.Parameter))
    (ops : List (Method × Document.Operation))
    (hops : ∀ op ∈ ops, ∀ n ∈ st.components.operationSchemas shared op.2, L.Asked n) :
    Leads L.Inv (st.pathOperations path shared ops) fun b xs b' =>
      L.Placed b (xs.flatMap Operation.models)
        (ops.flatMap fun (m, op) => st.overriddenSchemas path shared m op) b' := by
  induction ops with
  | nil => exact Leads.pure fun b _ => L.placed_idle
  | cons op ops ih =>
    intro b hb
    obtain ⟨hop, hops⟩ := List.forall_mem_cons.1 hops
    obtain ⟨hmid, hone⟩ := L.operation_leads path shared op.1 op.2 hop b hb
    obtain ⟨hend, hrest⟩ := ih hops _ hmid
    exact ⟨hend, L.placed_append hone hrest⟩

/-- **Building the operations keeps the law**; what is built are their models and those of replaced parameters. -/
theorem operations_leads (items : List (String × Document.PathItem))
    (hitems : ∀ n ∈ st.components.pathSchemas items, L.Asked n) :
    Leads L.Inv (st.operations items) fun b xs b' =>
      L.Placed b (xs.flatMap Operation.models) (st.allOverriddenSchemas items) b' := by
  induction items with
  | nil => exact Leads.pure fun b _ => L.placed_idle
  | cons item items ih =>
    rw [Document.Components.pathSchemas, List.flatMap_cons, List.forall_mem_append] at hitems
    have hops : ∀ op ∈ item.2.operations, ∀ n ∈ st.components.operationSchemas item.2.parameters op.2, L.Asked n :=
      fun op hop n hn => hitems.1 n (List.mem_flatMap.2 ⟨op, hop, hn⟩)
    intro b hb
    obtain ⟨hmid, hone⟩ := L.pathOperations_leads item.1 item.2.parameters item.2.operations hops b hb
    obtain ⟨hend, hrest⟩ := ih hitems.2 _ hmid
    have hboth := L.placed_append hone hrest
    rw [← List.flatMap_append] at hboth
    exact ⟨hend, hboth⟩

end ApiLaw

namespace WalkLaw

open Api

/-- finished models, built one after the other from whichever nodes -/
def Built {src : Source} (L : WalkLaw src) (b : Build) (ms : List Model) (b' : Build) : Prop :=
  ∃ ns, L.outside.Nodes b ns ms b'

/-- a law of walks as a law of operations -/
def apiLaw {src : Source} (L : WalkLaw src) : ApiLaw src where
  Inv := L.Inv []
  Built := L.Built
  Sketch _ _ _ := True
  Asked _ := True
  idle := ⟨_, L.outside.idle⟩
  append := fun ⟨_, h⟩ ⟨_, h'⟩ => ⟨_, L.outside.append h h'⟩
  noted hb hd := (L.outside.noted hb hd).imp_right fun h => ⟨_, h⟩
  nested context n _ := (L.nested_leads context n).mono fun _ _ _ h => ⟨⟨_, h⟩, trivial⟩
  absent _ b := ⟨⟨_, L.outside.kept (L.outside.placeholder b) rfl⟩, trivial⟩

/-- the models of operations are among those that were built -/
theorem operations_leads {st : Api.Setting} (L : WalkLaw st.source) (items : List (String × Document.PathItem)) :
    Leads (L.Inv []) (st.operations items)
      fun b xs b' => ∃ ms, L.Built b ms b' ∧ xs.flatMap Operation.models ⊆ ms :=
  (L.apiLaw.operations_leads items fun _ _ => trivial).mono fun _ _ _ ⟨all, _, hall, hperm, _⟩ =>
    ⟨all, hall, fun _ hm => hperm.subset (List.mem_append_left _ hm)⟩

end WalkLaw

end ClientPlan
