/-
Laws that a whole walk keeps. While the components `resolving` are being built, nodes with `k` levels below them keep
the law `L.law resolving k`; what remains is to go one level down, to give up at the limit, to open a component, and
to close it by entering its model into the table. From these `WalkLaw` concludes that every function of a `Source`
keeps the law.
-/
import ClientPlan.Proofs.Model.Law
import ClientPlan.Model.Source

namespace ClientPlan

namespace Source

variable (src : Source)

/-! ## Building a component -/

/-- see to it that a component stands in the table, with its root as the only result -/
def entering (resolving : List String) (name : String) : Building Unit :=
  discard (src.component resolving name)

/-- build the root of a component while the components `resolving` are being built -/
def root (resolving : List String) (context : String) (node : SchemaNode) : Building Model :=
  (src.reach resolving (src.entering resolving) src.limit
    (src.descend resolving (src.entering resolving) src.limit)).node context node

variable {src} {resolving : List String} {name : String} {b : Build}

theorem component_resolving (hr : name ∈ resolving) : src.component resolving name = pure true := by
  rw [component, dif_pos hr]

theorem run_component (hr : name ∉ resolving) :
    (src.component resolving name).run b =
      if Keyed.has b.table name then (true, b)
      else match src.components.get? name with
        | none => (false, b)
        | some node =>
          let r := (src.root (name :: resolving) (typeName name) node).run b
          (true, r.2.entered name r.1) := by
  rw [component, dif_neg hr]
  change StateT.run (if Keyed.has b.table name = true then _ else _) b = _
  split_ifs with ht
  · rfl
  · split <;> simp_all <;> rfl

/-- a component that stands in the table is left as it is -/
theorem run_component_known (h : Keyed.has b.table name = true) :
    (src.component resolving name).run b = (true, b) := by
  by_cases hr : name ∈ resolving
  · rw [component_resolving hr]
    rfl
  · rw [run_component hr, if_pos h]

/-- another one is built and entered -/
theorem run_component_new {node : SchemaNode} (hr : name ∉ resolving) (hnew : name ∉ b.table.keys)
    (hnode : src.components.get? name = some node) :
    (src.component resolving name).run b =
      (true, ((src.root (name :: resolving) (typeName name) node).run b).2.entered name
        ((src.root (name :: resolving) (typeName name) node).run b).1) := by
  rw [run_component hr, if_neg fun h => hnew ((Keyed.has_iff_mem_keys _ _).1 h), hnode]

/-- a root that is a reference to a component enters that one, unless it is being built already or there are no levels -/
theorem run_root_ref {path target : String} (htarget : (schemaName? path).filter (Keyed.has src.components) = some target)
    (context : String) : (src.root resolving context (.ref path)).run b =
      (.reference target, if target ∈ resolving then b.noticed (.forwardReference context target)
        else if src.limit = 0 then b else ((src.component resolving target).run b).2) := by
  change ((src.reach resolving (src.entering resolving) src.limit _).reference context path).run b = _
  unfold Reach.reference reach
  dsimp only
  rw [htarget]
  dsimp only
  simp only [List.contains_iff_mem]
  split_ifs <;> rfl

/-- below the root, with levels left, a reference to a component in the table leaves everything as it is -/
theorem run_descend_ref {path target : String} (htarget : (schemaName? path).filter (Keyed.has src.components) = some target)
    (hr : target ∉ resolving) (hknown : Keyed.has b.table target = true) (budget : Nat) (context : String) :
    (src.descend resolving (src.entering resolving) (budget + 2) context (.ref path)).run b = (.reference target, b) := by
  have hentering : (src.entering resolving target).run b = ((), b) := by
    change ((), ((src.component resolving target).run b).2) = _
    rw [run_component_known hknown]
  change ((src.reach resolving (src.entering resolving) (budget + 1) _).reference context path).run b = _
  unfold Reach.reference reach
  dsimp only
  rw [htarget]
  simp only [List.contains_iff_mem, if_neg hr, if_neg (Nat.succ_ne_zero budget)]
  exact congrArg (fun p => (Model.reference target, p.2)) hentering

variable (src resolving) in
/-- one step of entering components, as a function of the state -/
theorem entering_eq :
    src.entering resolving = fun name => if name ∈ resolving then pure () else fun b =>
      ((), if Keyed.has b.table name then b else match src.components.get? name with
        | none => b
        | some node =>
          let m := (src.root (name :: resolving) (typeName name) node).run b
          m.2.entered name m.1) := by
  funext name
  split_ifs with hr
  · rw [entering, component_resolving hr]
    rfl
  · refine StateT.ext fun b => ?_
    change ((), ((src.component resolving name).run b).2) = ((), _)
    rw [run_component hr]
    split_ifs
    · rfl
    · cases src.components.get? name <;> rfl

end Source

/-- node laws for all components that are being built and every number of levels, and the steps between them -/
structure WalkLaw (src : Source) where
  Inv : List String → Build → Prop
  law : ∀ resolving, Nat → NodeLaw src.components (Inv resolving)
  /-- where no nodes were built, it does not matter how many levels there were for them -/
  level : ∀ {r k k' b ms b'}, (law r k).Nodes b [] ms b' → (law r k').Nodes b [] ms b'
  risen : ∀ {r k b n m b'}, (law r k).Node b (n.inner src.components) m b' → (law r (k + 1)).Node b [n] m b'
  overflowed : ∀ {r b context n}, Inv r b → Inv r (b.noted ⟨context, .depthExceeded src.limit⟩) ∧
    (law r 0).Node b [n] .placeholder (b.noted ⟨context, .depthExceeded src.limit⟩)
  opened : ∀ {r b name}, Inv r b → name ∈ src.components.keys → name ∉ r → name ∉ b.table.keys → Inv (name :: r) b
  closed : ∀ {r k b m b' name n}, Inv (name :: r) b' →
    (law (name :: r) src.limit).Node b (n.inner src.components) m b' → src.components.get? name = some n → name ∉ r →
    Inv r (b'.entered name m) ∧ (law r k).Nodes b [] [] (b'.entered name m)

namespace WalkLaw

variable {src : Source} (L : WalkLaw src)

/-- the law outside of components -/
abbrev outside : NodeLaw src.components (L.Inv []) :=
  L.law [] src.limit

/-- what a node may use with `budget` levels below it keeps the law if these levels and the components do -/
theorem reach_obeyed {r : List String} {enterComponent : String → Building Unit}
    {below : String → SchemaNode → Building Model} {budget k : Nat}
    (henter : ∀ name, Leads (L.Inv r) (enterComponent name) fun b _ b' => (L.law r k).Nodes b [] [] b')
    (hbelow : ∀ context n, Leads (L.Inv r) (below context n) fun b m b' => (L.law r k).Node b [n] m b')
    (S : List SchemaNode) : (L.law r k).Obeyed (src.reach r enterComponent budget below) S := by
  refine ⟨rfl, fun context n _ => hbelow context n, fun name => ?_⟩
  unfold Source.reach
  dsimp only
  split_ifs
  · exact Leads.pure fun b _ => (L.law r k).idle
  · exact henter name

theorem descend_leads {r : List String} {enterComponent : String → Building Unit}
    (henter : ∀ k name, Leads (L.Inv r) (enterComponent name) fun b _ b' => (L.law r k).Nodes b [] [] b')
    (budget : Nat) (context : String) (n : SchemaNode) :
    Leads (L.Inv r) (src.descend r enterComponent budget context n) fun b m b' => (L.law r budget).Node b [n] m b' := by
  induction budget generalizing context n with
  | zero => exact fun b hb => L.overflowed hb
  | succ budget ih =>
    intro b hb
    obtain ⟨hend, hm⟩ := (L.law r budget).node_leads (L.reach_obeyed (henter budget) ih _) context b hb
    exact ⟨hend, L.risen hm⟩

/-- **Seeing to a component keeps the law.** The induction is on the components that are not being built yet. -/
theorem component_leads (r : List String) (name : String) (k : Nat) :
    Leads (L.Inv r) (src.component r name) fun b _ b' => (L.law r k).Nodes b [] [] b' := by
  induction r, name using Source.component.induct src generalizing k with
  | case1 r name hr => rw [Source.component_resolving hr]; exact Leads.pure fun b _ => (L.law r k).idle
  | case2 r name hr ih =>
    intro b hb
    rw [Source.run_component hr]
    split_ifs with ht
    · exact ⟨hb, (L.law r k).idle⟩
    · cases hc : src.components.get? name with
      | none => exact ⟨hb, (L.law r k).idle⟩
      | some node =>
        have hopen := L.opened hb (Keyed.mem_keys_of_get? hc) hr fun h => ht ((Keyed.has_iff_mem_keys _ _).2 h)
        have henter : ∀ k other, Leads (L.Inv (name :: r)) (src.entering (name :: r) other)
            fun b _ b' => (L.law (name :: r) k).Nodes b [] [] b' := fun k other =>
          (ih node hc other k).discard fun _ _ _ h => h
        obtain ⟨hmid, hm⟩ := (L.law (name :: r) src.limit).node_leads
          (L.reach_obeyed (henter src.limit) (L.descend_leads henter src.limit) _) (typeName name) b hopen
        exact L.closed hmid hm hc hr

theorem ensureAll_leads (names : List String) :
    Leads (L.Inv []) (src.ensureAll names) fun b _ b' => L.outside.Nodes b [] [] b' := by
  induction names with
  | nil => exact Leads.pure fun b _ => L.outside.idle
  | cons name names ih =>
    intro b hb
    obtain ⟨hmid, hone⟩ := L.component_leads [] name src.limit b hb
    obtain ⟨hend, hrest⟩ := ih _ hmid
    exact ⟨hend, L.outside.append hone hrest⟩

theorem parseComponents_leads : Leads (L.Inv []) src.parseComponents fun b _ b' => L.outside.Nodes b [] [] b' :=
  L.ensureAll_leads _

theorem nested_leads (context : String) (n : SchemaNode) :
    Leads (L.Inv []) (src.nested context n) fun b m b' => L.outside.Nodes b [n] [m] b' := by
  intro b hb
  have henter : ∀ k name, Leads (L.Inv []) (src.entering [] name) fun b _ b' => (L.law [] k).Nodes b [] [] b' :=
    fun k name => (L.component_leads [] name k).discard fun _ _ _ h => h
  obtain ⟨hmid, hm⟩ := L.descend_leads henter src.limit context n b hb
  exact L.outside.promote_run hmid hm context

end WalkLaw

end ClientPlan
