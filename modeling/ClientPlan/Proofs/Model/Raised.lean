/-
Raising the limit on depth. The limit is looked at in two places: no node is built further below the root of a component,
and a reference that stands as far below the root as the limit allows does not enter the component that it leads to.
Where neither happens, the limit may be raised without any difference (`parsed_raised`). Where only references stand in
the last level, their components are entered later than with a higher limit, which is the only difference: one level
more and no limit makes any (`limit_raised`).
-/
import ClientPlan.Proofs.Model.Accounts
import ClientPlan.Proofs.Model.DepthLimit

namespace ClientPlan

/-! ## Levels -/

/-- `m` stands `k` levels below `n` -/
def SchemaNode.Beneath (components : Keyed SchemaNode) : Nat → SchemaNode → SchemaNode → Prop
  | 0, n, m => m = n
  | k + 1, n, m => ∃ n' ∈ n.inner components, Beneath components k n' m

theorem SchemaNode.Beneath.deep {components : Keyed SchemaNode} {k : Nat} {n m : SchemaNode}
    (h : n.Beneath components k m) : n.Deep components k := by
  induction k generalizing n with
  | zero => trivial
  | succ k ih =>
    obtain ⟨n', hn', hm⟩ := h
    exact ⟨n', hn', ih hm⟩

namespace Source

variable {components : Keyed SchemaNode} {d d' : Nat}

/-- the same node with the same components, with other functions -/
theorem reach_congr {src src' : Source} (hcomponents : src'.components = src.components) {r : List String}
    {enter enter' : String → Building Unit} {k k' : Nat} {below below' : String → SchemaNode → Building Model}
    {n : SchemaNode} (hbelow : ∀ context, ∀ n' ∈ n.inner src.components, below' context n' = below context n')
    (henter : ∀ name ∈ n.linked src.components, name ∉ r →
      (if k' = 0 then fun _ => pure () else enter') name = (if k = 0 then fun _ => pure () else enter) name)
    (context : String) :
    (src'.reach r enter' k' below').node context n = (src.reach r enter k below).node context n := by
  have hsame : (src'.reach r enter' k' below').components = src.components := hcomponents
  apply Reach.node_congr hsame
  · rfl
  · rw [hsame]
    exact hbelow
  · rw [hsame]
    exact henter

/-- A node is built with more levels below it as with `k`, if this is as many as it needs and the references in the last
level enter nothing. -/
theorem node_raised {r : List String} {enter : String → Building Unit} {k k' : Nat} (hk : k ≤ k') {n : SchemaNode}
    (hdeep : ¬ n.Deep components (k + 1))
    (hlast : ∀ m, n.Beneath components k m → ∀ name ∈ m.linked components, name ∉ r → enter name = pure ())
    (context : String) :
    (reach ⟨components, d'⟩ r enter k' (descend ⟨components, d'⟩ r enter k')).node context n =
      (reach ⟨components, d⟩ r enter k (descend ⟨components, d⟩ r enter k)).node context n := by
  have hcomponents : (⟨components, d'⟩ : Source).components = (⟨components, d⟩ : Source).components := rfl
  induction k generalizing k' n context with
  | zero =>
    refine reach_congr hcomponents (fun context n' hn' => (hdeep ⟨n', hn', trivial⟩).elim)
      (fun name hname hr => ?_) context
    have hidle : enter name = pure () := hlast n rfl name hname hr
    rw [if_pos rfl]
    split_ifs
    · rfl
    · exact hidle
  | succ k ih =>
    obtain ⟨k', rfl⟩ := Nat.exists_eq_add_of_le' (Nat.lt_of_lt_of_le (Nat.succ_pos k) hk)
    refine reach_congr hcomponents (fun context n' hn' => ?_) (fun name _ _ => ?_) context
    · rw [descend, descend]
      exact ih (Nat.le_of_succ_le_succ hk) (fun h => hdeep ⟨n', hn', h⟩)
        (fun m hm => hlast m ⟨n', hn', hm⟩) context
    · rw [if_neg (Nat.succ_ne_zero k'), if_neg (Nat.succ_ne_zero k)]

/-- the limit is enough, and the references in the last level lead to nothing but the component they stand in -/
structure Slack (components : Keyed SchemaNode) (d : Nat) : Prop where
  fits : ∀ name root, components.get? name = some root → ¬ root.Deep components (d + 1)
  last : ∀ name root, components.get? name = some root →
    ∀ m, root.Beneath components d m → ∀ target ∈ m.linked components, target = name

theorem component_raised (h : Slack components d) (hd : d ≤ d') (r : List String) (name : String) :
    component ⟨components, d'⟩ r name = component ⟨components, d⟩ r name := by
  induction r, name using component.induct ⟨components, d⟩ with
  | case1 r name hr => rw [component_resolving hr, component_resolving hr]
  | case2 r name hr ih =>
    refine StateT.ext fun b => ?_
    rw [run_component hr, run_component hr]
    split_ifs
    · rfl
    · cases hc : Keyed.get? components name with
      | none => rfl
      | some root =>
        have hentering : entering ⟨components, d'⟩ (name :: r) = entering ⟨components, d⟩ (name :: r) :=
          funext fun other => congrArg discard (ih root hc other)
        have hroot : Source.root ⟨components, d'⟩ (name :: r) (typeName name) root =
            Source.root ⟨components, d⟩ (name :: r) (typeName name) root := by
          rw [Source.root, Source.root, hentering]
          refine node_raised hd (h.fits name root hc) (fun m hm target htarget hr' => ?_) _
          exact (hr' (h.last name root hc m hm target htarget ▸ List.mem_cons_self)).elim
        dsimp only
        rw [hroot]

/-- **An unused limit may be raised**: all components together are built as before. -/
theorem parsed_raised (h : Slack components d) (hd : d ≤ d') : parsed ⟨components, d'⟩ = parsed ⟨components, d⟩ := by
  have hall : ∀ names, ensureAll ⟨components, d'⟩ names = ensureAll ⟨components, d⟩ names := by
    intro names
    induction names with
    | nil => rfl
    | cons name names ih => rw [ensureAll, ensureAll, ensure, ensure, component_raised h hd, ih]
  exact congrArg (fun c : Building Unit => (c.run (start ⟨components, d⟩)).2) (hall components.keys)

/-- what is built alone enters nothing, so that references do not matter -/
theorem drafting_raised {name : String}
    (hfits : ∀ root, components.get? name = some root → ¬ root.Deep components (d + 1)) (hd : d ≤ d') :
    drafting ⟨components, d'⟩ name = drafting ⟨components, d⟩ name := by
  unfold drafting
  dsimp only
  split
  · rename_i root hroot
    exact congrArg (fun c : Building Model => c.run (start ⟨components, d⟩))
      (node_raised hd (hfits root hroot) (fun _ _ _ _ _ => rfl) _)
  · rfl

end Source

/-! ## Promoted models -/

/-- a model without its own name and those of promoted models -/
def Source.anonymous (src : Source) (token : String) (m : Model) : Model :=
  Model.retarget (src.mask token) { m with name := none }

/-- the promoted models of a table, without names -/
def Source.stock (src : Source) (token : String) (table : Table) : List Model :=
  (table.filter (·.1 ∉ src.components.keys)).map fun e => src.anonymous token e.2

theorem Source.stock_append (src : Source) (token : String) (table table' : Table) :
    src.stock token (table ++ table') = src.stock token table ++ src.stock token table' := by
  rw [stock, List.filter_append, List.map_append]
  rfl

/-- finishing a table keeps its promoted models, in order -/
theorem Source.stock_finish (src : Source) (token : String) (b : Build) :
    src.stock token (src.finish b) = src.stock token b.table := by
  have hcomponents : src.stock token
      (src.components.keys.filterMap fun name => (Keyed.get? b.table name).map (Prod.mk name)) = [] := by
    rw [stock, List.map_eq_nil_iff, List.filter_eq_nil_iff]
    intro e he
    obtain ⟨name, hname, hget⟩ := List.mem_filterMap.1 he
    obtain ⟨m, -, rfl⟩ := Option.map_eq_some_iff.1 hget
    simpa using hname
  have hpromoted : src.stock token (b.table.filter fun e => !Keyed.has src.components e.1) =
      src.stock token b.table := by
    have hhas : ∀ key, Keyed.has src.components key = decide (key ∈ src.components.keys) := fun key => by
      rw [Bool.eq_iff_iff, Keyed.has_iff_mem_keys, decide_eq_true_eq]
    simp only [stock, List.filter_filter, hhas, decide_not, Bool.and_self]
  rw [finish, stock_append, hcomponents, hpromoted, List.nil_append]

/-- the promoted models, in any order, are a gauge -/
def stockGauge (canon : Source) (token : String) : Gauge canon token (Multiset Model) where
  of b := canon.stock token b.table
  diagnostic _ := 0
  model m := {canon.anonymous token m}
  alike h := congrArg _ (h.named none)
  start _ := rfl
  noticed _ _ _ := rfl
  noted _ _ := (add_zero _).symm
  promoted {b context} hnew hpromoted m := by
    have htable : (b.promoted context m).table = b.table ++ [(b.nextName context, { m with name := some _ })] :=
      Keyed.insert_of_new hnew _
    have hone : canon.stock token [(b.nextName context, { m with name := some (b.nextName context) })] =
        [canon.anonymous token m] := by
      simp [Source.stock, Source.anonymous, hpromoted]
    rw [htable, Source.stock_append, hone]
    rfl
  entered {b name} hnew hcomponent m := by
    have hnone : canon.stock token [(name, { m with name := some name })] = [] := by
      simp [Source.stock, hcomponent]
    rw [Build.table_entered hnew, Source.stock_append, hnone, List.append_nil]

/-! ## All components -/

section Raised

open Source

variable {components : Keyed SchemaNode} {d d' : Nat}

/-- what drafts contribute in any gauge, and so what all components do, is the same with a higher limit -/
theorem gauged_raised {token : String} {M : Type} [AddCommMonoid M] (G : Gauge ⟨components, d⟩ token M)
    (G' : Gauge ⟨components, d'⟩ token M) (hof : G'.of = G.of) (hkeys : components.keys.Nodup)
    (hdrafting : ∀ name, drafting ⟨components, d'⟩ name = drafting ⟨components, d⟩ name) :
    G.of (parsed ⟨components, d'⟩) = G.of (parsed ⟨components, d⟩) := by
  have hcost : G'.cost = G.cost := funext fun name => by rw [Gauge.cost, Gauge.cost, hof, hdrafting]
  calc G.of (parsed ⟨components, d'⟩) = G'.of (parsed ⟨components, d'⟩) := by rw [hof]
    _ = (components.keys.map G'.cost).sum := (parsed_gauged G' (.refl _) hkeys (.refl _)).2
    _ = (components.keys.map G.cost).sum := by rw [hcost]
    _ = G.of (parsed ⟨components, d⟩) := (parsed_gauged G (.refl _) hkeys (.refl _)).2.symm

/-- what comes of all components: the finished table and the diagnostics -/
def Source.outcome (src : Source) : Table × List Diagnostic :=
  (src.parsedTable, src.parsed.diagnostics)

theorem outcome_raised (h : Slack components d) (hd : d ≤ d') :
    outcome ⟨components, d'⟩ = outcome ⟨components, d⟩ := by
  rw [outcome, outcome, parsedTable, parsedTable, parsed_raised h hd]
  rfl

/-- where a limit is enough, higher limits have slack: nothing stands in their last level -/
theorem slack_of_fits (hfits : ∀ name root, components.get? name = some root → ¬ root.Deep components (d + 1))
    (hd : d < d') : Slack components d' where
  fits name root hroot h := hfits name root hroot (h.of_le (Nat.succ_le_succ hd.le))
  last name root hroot _ hm := (hfits name root hroot (hm.deep.of_le hd)).elim

/-- **Raising a limit that is enough** changes nothing from one level more on, and nothing at all if the references in the
last level lead to the component that they stand in. Otherwise it may change the order of diagnostics and of promoted
models, and the names of these, but nothing else. -/
theorem limit_raised (hkeys : components.keys.Nodup) (hd : d < d')
    (henough : ¬ (parsed ⟨components, d⟩).Overflowed) :
    (∀ d'', d' ≤ d'' → outcome ⟨components, d''⟩ = outcome ⟨components, d'⟩) ∧
      ((∀ name root, components.get? name = some root →
          ∀ m, root.Beneath components d m → ∀ target ∈ m.linked components, target = name) →
        outcome ⟨components, d'⟩ = outcome ⟨components, d⟩) ∧
      parsedKeys ⟨components, d'⟩ = parsedKeys ⟨components, d⟩ ∧
      (∀ token, ∀ name ∈ components.keys, ∃ m m', Keyed.get? (parsedTable ⟨components, d⟩) name = some m ∧
        Keyed.get? (parsedTable ⟨components, d'⟩) name = some m' ∧
        m'.retarget (mask ⟨components, d⟩ token) = m.retarget (mask ⟨components, d⟩ token)) ∧
      (∀ token, (stock ⟨components, d⟩ token (parsedTable ⟨components, d'⟩)).Perm
        (stock ⟨components, d⟩ token (parsedTable ⟨components, d⟩))) ∧
      (parsed ⟨components, d'⟩).diagnostics.Perm (parsed ⟨components, d⟩).diagnostics := by
  have hfits : ∀ name root, components.get? name = some root → ¬ root.Deep components (d + 1) :=
    fun name root hroot hdeep => henough ((overflowed_iff _).2 ⟨name, root, hroot, hdeep⟩)
  have hdrafting : ∀ name, drafting ⟨components, d'⟩ name = drafting ⟨components, d⟩ name :=
    fun name => drafting_raised (hfits name) hd.le
  refine ⟨fun d'' hd'' => outcome_raised (slack_of_fits hfits hd) hd'',
    fun hlast => outcome_raised ⟨hfits, hlast⟩ hd.le, ?_, fun token name hname => ?_, fun token => ?_, ?_⟩
  · rw [parsedKeys_eq, parsedKeys_eq]
  · obtain ⟨m, hm, halike⟩ := parsedTable_drafted (.refl ⟨components, d⟩) hkeys (.refl _) token hname
    obtain ⟨m', hm', halike'⟩ := parsedTable_drafted (.refl ⟨components, d'⟩) hkeys (.refl _) token hname
    rw [draft, hdrafting] at halike'
    exact ⟨m, m', hm, hm', halike'.trans halike.symm⟩
  · have hstock :=
      gauged_raised (stockGauge ⟨components, d⟩ token) (stockGauge ⟨components, d'⟩ token) rfl hkeys hdrafting
    rw [parsedTable, parsedTable, stock_finish ⟨components, d⟩]
    exact (stock_finish ⟨components, d'⟩ token _).symm ▸ Multiset.coe_eq_coe.1 hstock
  · have htally := gauged_raised (tallyGauge ⟨components, d⟩ "") (tallyGauge ⟨components, d'⟩ "") rfl hkeys hdrafting
    exact Multiset.coe_eq_coe.1 (congrArg Prod.fst htally)

/-! ### A reference in the last level -/

/-- a shelf with a book and a kind, and books with a genre -/
def shelfComponents : Keyed SchemaNode :=
  [("Shelf", .schema { properties := [("book", .ref "#/components/schemas/Book"),
      ("kind", .schema { literals := [.string "open"] })] }),
    ("Book", .schema { properties := [("genre", .schema { literals := [.string "novel"] })] })]

/-- with one level the reference does not enter the book, which comes after the shelf with its kind -/
theorem shelf_parsed_one : (parsed ⟨shelfComponents, 1⟩).diagnostics = [] ∧
    (parsed ⟨shelfComponents, 1⟩).synthesized = ["ShelfKind", "BookGenre"] := by
  have hparsed : parsed ⟨shelfComponents, 1⟩ = ((component ⟨shelfComponents, 1⟩ [] "Book").run
      ((component ⟨shelfComponents, 1⟩ [] "Shelf").run (start ⟨shelfComponents, 1⟩)).2).2 := rfl
  have hshelf : (component ⟨shelfComponents, 1⟩ [] "Shelf").run (start ⟨shelfComponents, 1⟩) = _ :=
    run_component_new List.not_mem_nil (by decide) rfl
  rw [hparsed, hshelf, run_component_new List.not_mem_nil (by decide) rfl]
  exact ⟨rfl, rfl⟩

/-- with two levels it does, so that the genre comes before the kind -/
theorem shelf_parsed_two : (parsed ⟨shelfComponents, 2⟩).synthesized = ["BookGenre", "ShelfKind"] := by
  have hparsed : parsed ⟨shelfComponents, 2⟩ = ((component ⟨shelfComponents, 2⟩ [] "Book").run
      ((component ⟨shelfComponents, 2⟩ [] "Shelf").run (start ⟨shelfComponents, 2⟩)).2).2 := rfl
  have hshelf : (component ⟨shelfComponents, 2⟩ [] "Shelf").run (start ⟨shelfComponents, 2⟩) = _ :=
    run_component_new List.not_mem_nil (by decide) rfl
  rw [hparsed, hshelf, root, entering_eq _ ["Shelf"], run_component_known]
  · decide +kernel
  · decide +kernel

theorem shelf_fits : ¬ (parsed ⟨shelfComponents, 1⟩).Overflowed := by
  rintro ⟨d, hd, -⟩
  rw [shelf_parsed_one.1] at hd
  cases hd

theorem limit_raised_shelf :
    shelfComponents.keys.Nodup ∧ 1 < 2 ∧ ¬ (parsed ⟨shelfComponents, 1⟩).Overflowed ∧
      outcome ⟨shelfComponents, 100⟩ = outcome ⟨shelfComponents, 2⟩ ∧
      (stock ⟨shelfComponents, 1⟩ "" (parsedTable ⟨shelfComponents, 2⟩)).Perm
        (stock ⟨shelfComponents, 1⟩ "" (parsedTable ⟨shelfComponents, 1⟩)) :=
  have hkeys : shelfComponents.keys.Nodup := by decide
  have hraised := limit_raised hkeys Nat.one_lt_two shelf_fits
  ⟨hkeys, Nat.one_lt_two, shelf_fits, hraised.1 100 (by decide), hraised.2.2.2.2.1 ""⟩

/-- the limit of one level is enough for the shelf, and two levels give another order -/
theorem shelf_reordered :
    ¬ (parsed ⟨shelfComponents, 1⟩).Overflowed ∧
      Keyed.keys (parsedTable ⟨shelfComponents, 1⟩) = ["Shelf", "Book", "ShelfKind", "BookGenre"] ∧
      Keyed.keys (parsedTable ⟨shelfComponents, 2⟩) = ["Shelf", "Book", "BookGenre", "ShelfKind"] := by
  refine ⟨shelf_fits, ?_, ?_⟩
  · rw [keys_parsedTable, shelf_parsed_one.2]
    rfl
  · rw [keys_parsedTable, shelf_parsed_two]
    rfl

end Raised

end ClientPlan
