/-
A parser does what the functions of its source do. A `Tracking` says what is known of a parser that stands in the state
of a walk, with given stacks and at a given depth, and that it is still known after every step. A computation of the
parser simulates one of the source if, from every state that is tracked, it ends with the same result in the state that
the other one ends in, with the stacks and at the depth that it began with. So the parser ends (`sim_component`).
-/
import ClientPlan.Proofs.Model.Orderly
import ClientPlan.Proofs.Model.Nesting
import ClientPlan.Proofs.Model.Walk
import ClientPlan.Proofs.Parser.Machine

namespace ClientPlan.Parser

open Input

/-- the parser after an inline model got a name of its own -/
def withPromoted (w : Parser) (context : String) (m : Model) : Parser :=
  { w with
    toBuild := w.toBuild.promoted context m
    order := Keyed.insert w.order (w.nextName context) w.nextOrder
    nextOrder := w.nextOrder + 1
    inserted := w.inserted ++ [(w.nextName context, { m with name := some (w.nextName context) })] }

/-- the parser after a component was finished, back at the depth where it came upon it -/
def withFinished (w : Parser) (depth : Nat) (name : String) (m : Model) : Parser :=
  { w with
    toBuild := w.toBuild.entered name m
    resolving := w.resolving.tail
    depth := depth
    inserted := w.inserted ++ [(name, { m with name := some name })] }

/-- what is known of a parser `w` in the state `b` of a walk, with the stacks `r` and `mg` and at depth `d` -/
structure Tracking (src : Source) where
  At : (r mg : List String) → (d : Nat) → (b : Build) → (w : Parser) → Prop
  toBuild : ∀ {r mg d b w}, At r mg d b w → w.toBuild = b
  resolving : ∀ {r mg d b w}, At r mg d b w → w.resolving = r
  merging : ∀ {r mg d b w}, At r mg d b w → w.merging = mg
  depth : ∀ {r mg d b w}, At r mg d b w → w.depth = d
  noticed : ∀ {r mg d b w n}, At r mg d b w → (∀ context name, n ≠ .promoted context name) →
    At r mg d (b.noticed n) { w with toBuild := w.toBuild.noticed n }
  noted : ∀ {r mg d b w x}, At r mg d b w → At r mg d (b.noted x) { w with toBuild := w.toBuild.noted x }
  promoted : ∀ {r mg d b w context m}, At r mg d b w → At r mg d (b.promoted context m) (w.withPromoted context m)
  pushed : ∀ {r mg d b w name}, At r mg d b w → At r (name :: mg) d b { w with merging := name :: w.merging }
  popped : ∀ {r mg d b w name}, At r (name :: mg) d b w → At r mg d b { w with merging := w.merging.tail }
  lowered : ∀ {r mg d b w}, At r mg d b w → At r mg (d + 1) b { w with depth := w.depth + 1 }
  raised : ∀ {r mg d b w}, At r mg (d + 1) b w → At r mg d b { w with depth := w.depth - 1 }
  opened : ∀ {r mg d b w name}, At r mg d b w → name ∈ src.components.keys → name ∉ b.keys →
    At (name :: r) mg 0 b { w with resolving := name :: w.resolving, depth := 0 }
  closed : ∀ {r mg d b w name m}, At (name :: r) mg 0 b w → name ∉ r →
    At r mg d (b.entered name m) (w.withFinished d name m)

/-- the computation of the parser does what the other one does, and stays where it is -/
def Sim {α : Type} {src : Source} (T : Tracking src) (r mg : List String) (d : Nat) (f : Parsing α) (c : Building α) :
    Prop :=
  ∀ b w, T.At r mg d b w → ∃ w', f.run w = some ((c.run b).1, w') ∧ T.At r mg d (c.run b).2 w'

variable {α β : Type} {src : Source} {T : Tracking src} {r mg : List String} {d : Nat}

/-! ## Putting computations together -/

namespace Sim

theorem pure (a : α) : Sim T r mg d (pure a) (pure a) :=
  fun _ w hw => ⟨w, rfl, hw⟩

theorem bind {f : Parsing α} {c : Building α} {g : α → Parsing β} {e : α → Building β} (h : Sim T r mg d f c)
    (hg : ∀ a, Sim T r mg d (g a) (e a)) : Sim T r mg d (f >>= g) (c >>= e) := by
  intro b w hw
  obtain ⟨w', hf, hw'⟩ := h b w hw
  obtain ⟨w'', hg, hw''⟩ := hg _ _ w' hw'
  refine ⟨w'', ?_, hw''⟩
  rw [StateT.run_bind, hf]
  exact hg

theorem map {f : Parsing α} {c : Building α} (h : Sim T r mg d f c) (g : α → β) :
    Sim T r mg d (f >>= fun a => Pure.pure (g a)) (g <$> c) := by
  intro b w hw
  obtain ⟨w', hf, hw'⟩ := h b w hw
  refine ⟨w', ?_, hw'⟩
  rw [StateT.run_bind, hf]
  rfl

theorem discard {f : Parsing α} {c : Building α} (h : Sim T r mg d f c) :
    Sim T r mg d (Functor.discard f) (Functor.discard c) := by
  intro b w hw
  obtain ⟨w', hf, hw'⟩ := h b w hw
  refine ⟨w', ?_, hw'⟩
  change ((fun _ => ()) <$> f).run _ = _
  rw [StateT.run_map, hf]
  rfl

/-- a result that is thrown away -/
theorem discard_bind {f : Parsing α} {c : Building Unit} {g : Parsing β} {e : Building β}
    (h : Sim T r mg d (Functor.discard f) c) (hg : Sim T r mg d g e) :
    Sim T r mg d (f >>= fun _ => g) (c >>= fun _ => e) := by
  have hboth := h.bind fun _ => hg
  simpa only [Functor.discard, map_const, Function.comp_apply, bind_map_left] using hboth

/-- what the parser reads is known from where it stands -/
theorem get {f : Parser → Parsing α} {c : Building α} (h : ∀ b w, T.At r mg d b w → Sim T r mg d (f w) c) :
    Sim T r mg d (get >>= f) c :=
  fun b w hw => h b w hw b w hw

/-- a change of place that is changed back -/
theorem moved {r' mg' : List String} {d' : Nat} {f : Parsing α} {c : Building α} {into out : Parser → Parser}
    (hinto : ∀ {b w}, T.At r mg d b w → T.At r' mg' d' b (into w))
    (hout : ∀ {b w}, T.At r' mg' d' b w → T.At r mg d b (out w)) (h : Sim T r' mg' d' f c) :
    Sim T r mg d (do modify into; let a ← f; modify out; return a) c := by
  intro b w hw
  obtain ⟨w', hf, hw'⟩ := h b (into w) (hinto hw)
  refine ⟨out w', ?_, hout hw'⟩
  have hstart : (modify into : Parsing Unit).run w = some ((), into w) := rfl
  rw [StateT.run_bind, hstart, Option.bind_eq_bind, Option.bind_some, StateT.run_bind, hf]
  rfl

theorem note (x : Diagnostic) : Sim T r mg d (doing (note x)) (note x) := by
  intro b w hw
  obtain rfl := T.toBuild hw
  exact ⟨_, rfl, T.noted hw⟩

theorem notice {n : Notice} (hn : ∀ context name, n ≠ .promoted context name) :
    Sim T r mg d (doing (notice n)) (notice n) := by
  intro b w hw
  obtain rfl := T.toBuild hw
  exact ⟨_, rfl, T.noticed hw hn⟩

theorem promote (context : String) (m : Model) :
    Sim T r mg d (promote context m) (ClientPlan.promote context m) := by
  intro b w hw
  obtain rfl := T.toBuild hw
  unfold Parser.promote
  cases hm : m.isPromotable with
  | false =>
    rw [promote_of_not hm]
    exact ⟨w, rfl, hw⟩
  | true =>
    rw [run_promote hm]
    exact ⟨w.withPromoted context m, rfl, T.promoted hw⟩

end Sim

/-! ## Merging -/

theorem sim_merge :
    (∀ merging target node, ∀ context, Sim T r merging d (mergeInto src context target node)
      (mergeNode src.components context merging target node)) ∧
    (∀ merging target nodes, ∀ context, Sim T r merging d (nodes.foldlM (mergeInto src context) target)
      (mergeNodes src.components context merging target nodes)) := by
  apply mergeNode.mutual_induct
  case case1 =>
    intro merging target v context
    rw [mergeInto, mergeNode]
    exact (Sim.note _).bind fun _ => .pure target
  case case2 =>
    intro merging target s ih context
    rw [mergeInto, mergeNode]
    exact (ih context).bind fun t => .pure (t.absorb s)
  case case3 =>
    intro merging target path h context
    rw [mergeInto, mergeNode_unresolved h]
    simp only [h]
    exact (Sim.note _).bind fun _ => .pure target
  case case4 =>
    intro merging target path name definition h hm context
    rw [mergeInto, mergeNode_ref h, if_pos hm]
    simp only [h]
    refine .get fun b w hw => ?_
    rw [T.merging hw, if_pos (by simpa using hm)]
    exact (Sim.notice (by simp)).bind fun _ => .pure target
  case case5 =>
    intro merging target path name definition h hm ih context
    rw [mergeInto, mergeNode_ref h, if_neg hm]
    simp only [h]
    refine .get fun b w hw => ?_
    rw [T.merging hw, if_neg (by simpa using hm)]
    exact .moved T.pushed T.popped (ih context)
  case case6 =>
    intro merging target context
    rw [mergeNodes]
    exact .pure target
  case case7 =>
    intro merging target node rest ih ihrest context
    rw [mergeNodes, List.foldlM_cons]
    exact (ih context).bind fun t => ihrest t context

/-! ## Building nodes -/

/-- what a node may use is what the parser does at depth `d` -/
structure Agrees {src : Source} (T : Tracking src) (r : List String) (d : Nat) (use : Reach) : Prop where
  components : use.components = src.components
  resolving : use.resolving = r
  below : ∀ context n, Sim T r [] d (descend src context n) (use.below context n)
  enter : d < src.limit → ∀ name, Sim T r [] d (discard (ensureNamed src name)) (use.enter name)
  limit : ¬ d < src.limit → ∀ name, use.enter name = pure ()

namespace Agrees

variable {use : Reach} {s : Schema SchemaNode}

theorem nested (h : Agrees T r d use) (context : String) (n : SchemaNode) :
    Sim T r [] d (parseNested src context n) (use.nested context n) := by
  rw [parseNested]
  exact (h.below context n).bind fun m => Sim.promote context m

theorem nestedEntries (h : Agrees T r d use) (contextOf : String → String) (es : List (String × SchemaNode)) :
    Sim T r [] d (es.mapM fun (key, n) => do return (key, ← parseNested src (contextOf key) n))
      (use.nestedEntries contextOf es) := by
  induction es with
  | nil => exact .pure []
  | cons e es ih =>
    rw [List.mapM_cons]
    simp only [bind_assoc, pure_bind]
    exact (h.nested (contextOf e.1) e.2).bind fun m => ih.bind fun ms => .pure ((e.1, m) :: ms)

theorem nestedVariants (h : Agrees T r d use) (context : String) (i : Nat) (ns : List SchemaNode) :
    Sim T r [] d ((ns.zipIdx i).mapM fun (n, i) => parseNested src (Reach.variantContext context i) n)
      (use.nestedVariants context i ns) := by
  induction ns generalizing i with
  | nil => exact .pure []
  | cons n ns ih =>
    rw [List.zipIdx_cons, List.mapM_cons]
    exact (h.nested (Reach.variantContext context i) n).bind fun m => (ih (i + 1)).bind fun ms => .pure (m :: ms)

theorem object (h : Agrees T r d use) (context : String) (s : Schema SchemaNode) :
    Sim T r [] d (object src context s) (use.object context s) := by
  rw [Input.object]
  refine (h.nestedEntries (fun key => context ++ pascalCase key) s.properties).bind fun ps => ?_
  cases s.additional with
  | none => exact .pure _
  | some extra =>
    cases extra with
    | allowed flag => cases flag <;> exact .pure _
    | shaped n =>
      change Sim T r [] d _ (some <$> use.nested (context ++ "Value") n >>= _)
      rw [bind_map_left]
      exact (h.nested (context ++ "Value") n).bind fun m => .pure _

theorem array (h : Agrees T r d use) (context : String) (s : Schema SchemaNode) :
    Sim T r [] d (array src context s) (use.array context s) := by
  rw [Input.array]
  unfold Reach.array
  cases s.items with
  | none => exact .pure _
  | some n =>
    change Sim T r [] d (some <$> parseNested src (context ++ "Item") n >>= _)
      (some <$> use.nested (context ++ "Item") n >>= _)
    rw [bind_map_left, bind_map_left]
    exact (h.nested (context ++ "Item") n).bind fun m => .pure _

theorem single (h : Agrees T r d use) (context : String) (t : TypeName) (s : Schema SchemaNode) :
    Sim T r [] d (single src context t s) (use.single context t s) := by
  rw [Input.single.eq_def]
  cases t with
  | object => exact h.object context s
  | array => exact h.array context s
  | _ => exact .pure _

theorem singles (h : Agrees T r d use) (context : String) (s : Schema SchemaNode) (i : Nat) (ts : List TypeName) :
    Sim T r [] d ((ts.zipIdx i).mapM fun (t, i) => do
        promote (Reach.variantContext context i) (← Input.single src (Reach.variantContext context i) t s))
      (use.singles context s i ts) := by
  induction ts generalizing i with
  | nil => exact .pure []
  | cons t ts ih =>
    rw [List.zipIdx_cons, List.mapM_cons]
    simp only [bind_assoc]
    exact (h.single (Reach.variantContext context i) t s).bind fun m =>
      (Sim.promote (Reach.variantContext context i) m).bind fun m => (ih (i + 1)).bind fun ms => .pure (m :: ms)

theorem typed (h : Agrees T r d use) (context : String) (s : Schema SchemaNode) :
    Sim T r [] d (typed src context s) (use.typed context s) := by
  rw [Input.typed]
  unfold Reach.typed
  generalize (s.types.map (·.nonNull)).getD [] = ts
  match ts with
  | [] =>
    dsimp only
    unfold Reach.untyped
    split_ifs
    · exact h.object context s
    · exact h.array context s
    · exact .pure _
    · exact .pure _
  | [t] => exact h.single context t s
  | t :: t' :: ts => exact (h.singles context s 0 (t :: t' :: ts)).bind fun ms => .pure _

theorem union (h : Agrees T r d use) (context : String) (s : Schema SchemaNode) :
    Sim T r [] d (Input.union src context s) (use.union context s) := by
  rw [Input.union]
  unfold Reach.union
  generalize s.nonNullAlternatives = ns
  match ns with
  | [] => exact .pure _
  | [only] => exact (h.below context only).bind fun m => .pure _
  | n :: n' :: ns =>
    unfold Reach.choice
    simp only [bind_assoc]
    exact (h.nestedVariants context 0 (n :: n' :: ns)).bind fun ms => .pure _

theorem merged (h : Agrees T r d use) (context : String) (s : Schema SchemaNode) :
    Sim T r [] d (merged src context s) (use.merged context s) := by
  rw [Input.merged]
  unfold Reach.merged
  rw [h.components]
  have hmerge : ∀ members, Sim T r [] d
      (do Input.object src context ((← members.foldlM (mergeInto src context) {}).absorb s))
      (do use.object context ((← mergeNodes src.components context [] {} members).absorb s)) := fun members =>
    (sim_merge.2 [] {} members context).bind fun target => h.object context (target.absorb s)
  generalize s.allOf = members, s.properties = ps
  match members, ps with
  | [only], [] => exact h.below context only
  | [], ps => exact hmerge []
  | [only], p :: ps => exact hmerge [only]
  | n :: n' :: ns, ps => exact hmerge (n :: n' :: ns)

theorem shaped (h : Agrees T r d use) (context : String) (s : Schema SchemaNode) :
    Sim T r [] d (shaped src context s) (use.shaped context s) := by
  rw [Input.shaped]
  unfold Reach.shaped
  cases s.constant with
  | some v => exact .pure _
  | none =>
    dsimp only
    split_ifs
    · exact .pure _
    · exact h.merged context s
    · exact h.union context s
    · exact h.typed context s

theorem reference (h : Agrees T r d use) (context path : String) :
    Sim T r [] d (reference src context path) (use.reference context path) := by
  rw [Input.reference]
  unfold Reach.reference
  rw [h.components, h.resolving]
  generalize (schemaName? path).filter (Keyed.has src.components) = target
  cases target with
  | none => exact (Sim.note _).bind fun _ => .pure _
  | some name =>
    refine .get fun b w hw => ?_
    rw [T.resolving hw, T.depth hw]
    dsimp only
    split_ifs with hr hd
    · exact (Sim.notice (by simp)).bind fun _ => .pure _
    · exact (h.enter hd name).discard_bind (.pure _)
    · rw [h.limit hd]
      exact .pure _

/-- the parser builds a node as `Reach.node` does -/
theorem node (h : Agrees T r d use) (context : String) (n : SchemaNode) :
    Sim T r [] d (buildNode src context n) (use.node context n) := by
  rw [buildNode.eq_def]
  cases n with
  | ref path => exact h.reference context path
  | schema s => exact (h.shaped context s).bind fun m => .pure _
  | malformed v => exact (Sim.note _).bind fun _ => .pure _

end Agrees

/-! ## Walking -/

/-- what a source lets a node use at a depth -/
theorem agrees_reach (henter : ∀ d name, Sim T r [] d (discard (ensureNamed src name)) (src.entering r name))
    {budget : Nat} {below : String → SchemaNode → Building Model} (hd : d + budget = src.limit)
    (hbelow : ∀ context n, Sim T r [] d (descend src context n) (below context n)) :
    Agrees T r d (src.reach r (src.entering r) budget below) := by
  refine ⟨rfl, rfl, hbelow, fun hlt name => ?_, fun hnot name => ?_⟩
  · have hbudget : budget ≠ 0 := by omega
    simp only [Source.reach, if_neg hbudget]
    exact henter d name
  · have hbudget : budget = 0 := by omega
    simp only [Source.reach, if_pos hbudget]

/-- going down simulates `Source.descend` with as many levels as the depth leaves -/
theorem sim_descend (henter : ∀ d name, Sim T r [] d (discard (ensureNamed src name)) (src.entering r name))
    (budget : Nat) : ∀ d, d + budget = src.limit → ∀ context n,
      Sim T r [] d (descend src context n) (src.descend r (src.entering r) budget context n) := by
  induction budget with
  | zero =>
    intro d hd context n
    rw [descend]
    refine .get fun b w hw => ?_
    rw [T.depth hw, if_pos (by omega)]
    exact (Sim.note _).bind fun _ => .pure _
  | succ budget ih =>
    intro d hd context n
    rw [descend]
    refine .get fun b w hw => ?_
    rw [T.depth hw, if_neg (by omega)]
    have hd' : d + 1 + budget = src.limit := by omega
    have hagrees := agrees_reach henter hd' (ih (d + 1) hd')
    exact .moved T.lowered T.raised (hagrees.node context n)

/-- a component is built on top of the stack, from depth 0 on -/
theorem sim_root {name : String} {f : Parsing Model} {c : Building Model} (h : Sim T (name :: r) [] 0 f c)
    (hname : name ∈ src.components.keys) (hr : name ∉ r) {b : Build} {w : Parser} (hw : T.At r [] d b w)
    (hnew : name ∉ b.keys) :
    ∃ w', (do
        modify fun w => { w with resolving := name :: w.resolving, depth := 0 }
        let m ← f
        modify fun w => { w with resolving := w.resolving.tail, depth := d }
        insert name { m with name := some name }
        return true : Parsing Bool).run w = some (true, w') ∧
      T.At r [] d ((c.run b).2.entered name (c.run b).1) w' := by
  obtain ⟨w', hf, hw'⟩ := h b _ (T.opened hw hname hnew)
  refine ⟨w'.withFinished d name (c.run b).1, ?_, T.closed hw' hr⟩
  have hstart : (modify fun w => { w with resolving := name :: w.resolving, depth := 0 } : Parsing Unit).run w =
      some ((), { w with resolving := name :: w.resolving, depth := 0 }) := rfl
  rw [StateT.run_bind, hstart, Option.bind_eq_bind, Option.bind_some, StateT.run_bind, hf]
  rfl

/-- **Seeing to a component is simulated.** The parser ends, at the depth and with the stacks that it began with,
although it counts the depth from 0 again below the component. The induction is on the components that are not on the
stack yet; below one component it is on the levels that the depth leaves (`sim_descend`). -/
theorem sim_component (T : Tracking src) (r : List String) (name : String) (d : Nat) :
    Sim T r [] d (ensureNamed src name) (src.component r name) := by
  induction r, name using Source.component.induct src generalizing d with
  | case1 r name hr =>
    rw [Source.component_resolving hr, ensureNamed]
    refine .get fun b w hw => ?_
    rw [if_pos (by simp [T.resolving hw, hr])]
    exact .pure true
  | case2 r name hr ih =>
    rw [ensureNamed]
    intro b w hw
    rw [Source.run_component hr, StateT.run_bind, StateT.run_get, Option.pure_def, Option.bind_eq_bind,
      Option.bind_some]
    have hresolving : w.resolving.contains name = false := by simpa [T.resolving hw] using hr
    have htable : w.table = b.table := congrArg Build.table (T.toBuild hw)
    rw [hresolving, Bool.or_false, htable]
    split_ifs with ht
    · exact ⟨w, rfl, hw⟩
    · cases hc : src.components.get? name with
      | none => exact ⟨w, rfl, hw⟩
      | some node =>
        -- below the component the simulation is known at every depth, as one more component is on the stack
        have hnew : name ∉ b.keys := fun h => ht ((Keyed.has_iff_mem_keys _ _).2 h)
        have henter : ∀ d other, Sim T (name :: r) [] d (discard (ensureNamed src other))
            (src.entering (name :: r) other) := fun d other => (ih node hc other d).discard
        have hlimit := Nat.zero_add src.limit
        have hagrees := agrees_reach henter hlimit (sim_descend henter src.limit 0 hlimit)
        rw [T.depth hw]
        exact sim_root (hagrees.node (typeName name) node) (Keyed.mem_keys_of_get? hc) hr hw hnew

/-! ## Public calls -/

theorem sim_parseComponents (T : Tracking src) : Sim T [] [] 0 (parseComponents src) src.parseComponents := by
  unfold parseComponents Source.parseComponents
  induction src.components.keys with
  | nil => exact .pure ()
  | cons name names ih => exact (sim_component T [] name 0).discard.bind fun _ => ih

/-- a schema is parsed with as many levels below it as the depth leaves -/
theorem sim_parseNested_at (T : Tracking src) (r : List String) {budget : Nat} (hd : d + budget = src.limit)
    (context : String) (n : SchemaNode) :
    Sim T r [] d (parseNested src context n)
      (src.descend r (src.entering r) budget context n >>= ClientPlan.promote context) := by
  rw [parseNested]
  have henter : ∀ d name, Sim T r [] d (discard (ensureNamed src name)) (src.entering r name) := fun d name =>
    (sim_component T r name d).discard
  exact (sim_descend henter budget d hd context n).bind fun m => Sim.promote context m

theorem sim_parseNested (T : Tracking src) (context : String) (n : SchemaNode) :
    Sim T [] [] 0 (parseNested src context n) (src.nested context n) :=
  sim_parseNested_at T [] (Nat.zero_add _) context n

theorem sim_call (T : Tracking src) (c : Call) : Sim T [] [] 0 (c.run src) (c.build src) := by
  cases c with
  | parseComponents => exact sim_parseComponents T
  | ensureNamed name => exact (sim_component T [] name 0).discard
  | parseNested context n => exact (sim_parseNested T context n).discard
  | record x => exact .note x

end ClientPlan.Parser
