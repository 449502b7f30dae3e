/-
What the models in the table look like at every moment of a walk. Models in flight, which were built but stand in no
entry yet, are unnamed; everything that was finished is in addition not promotable, at any depth, and a reference in
it leads to a component or to an entry that was promoted, whose nullability it has (`Tidy`). An entry is named by its
key and has only finished models below its root (`Rooted`). `soundLaw` says that every step keeps this, and
`component_enters` that a component stands in the table once it was asked for.
-/
import ClientPlan.Proofs.Model.Orderly
import ClientPlan.Proofs.Model.Walk

namespace ClientPlan

namespace Model

/-- a model inside another one, at any depth, or that model itself -/
inductive Inside : Model → Model → Prop
  | root (m : Model) : Inside m m
  | within {m child root : Model} : Inside m child → child ∈ root.children → Inside m root

theorem Inside.root_or_below {m root : Model} (h : m.Inside root) : m = root ∨ ∃ c ∈ root.children, m.Inside c := by
  cases h with
  | root => exact Or.inl rfl
  | within h hc => exact Or.inr ⟨_, hc, h⟩

theorem Inside.trans {m c root : Model} (h : m.Inside c) (hc : c.Inside root) : m.Inside root := by
  induction hc with
  | root => exact h
  | within _ hchild ih => exact .within ih hchild

theorem children_of_shape {m m' : Model} (h : m'.shape = m.shape) : m'.children = m.children := by
  rw [children, children, h]

theorem target?_of_shape {m m' : Model} (h : m'.shape = m.shape) : m'.target? = m.target? := by
  rw [target?, target?, h]

end Model

/-- a model that needs no entry of its own; `table` tells what it may refer to -/
structure Plain (src : Source) (table : Table) (m : Model) : Prop where
  unnamed : m.name = none
  unpromotable : m.isPromotable = false
  target : ∀ t, m.target? = some t → t ∈ src.components.keys ∨
    ∃ e, Keyed.get? table t = some e ∧ e.isPromotable = true ∧ e.nullable = m.nullable

/-- a finished model: it is plain at every depth -/
def Tidy (src : Source) (table : Table) (root : Model) : Prop :=
  ∀ m, m.Inside root → Plain src table m

/-- a model that stands in an entry, or may be entered: below its root it is finished -/
structure Rooted (src : Source) (table : Table) (name : Option String) (m : Model) : Prop where
  name : m.name = name
  target : ∀ t, m.target? = some t → t ∈ src.components.keys
  children : ∀ c ∈ m.children, Tidy src table c

/-- the state while the components `resolving` are being built -/
structure Sound (src : Source) (resolving : List String) (b : Build) : Prop where
  orderly : Orderly src resolving b
  entries : ∀ e ∈ b.table, Rooted src b.table (some e.1) e.2

section Growth

variable {src : Source} {b b' : Build}

theorem Plain.mono {m : Model} (h : Plain src b.table m) (hgrow : b.Grows b') : Plain src b'.table m := by
  refine { h with target := fun t ht => (h.target t ht).imp_right ?_ }
  rintro ⟨e, he, hkind⟩
  exact ⟨e, hgrow.get? he, hkind⟩

theorem Tidy.mono {root : Model} (h : Tidy src b.table root) (hgrow : b.Grows b') : Tidy src b'.table root :=
  fun m hm => (h m hm).mono hgrow

theorem Rooted.mono {name : Option String} {m : Model} (h : Rooted src b.table name m) (hgrow : b.Grows b') :
    Rooted src b'.table name m :=
  { h with children := fun c hc => (h.children c hc).mono hgrow }

/-- a model in flight that is not promotable is finished -/
theorem Rooted.tidy {table : Table} {root : Model} (h : Rooted src table none root)
    (hroot : root.isPromotable = false) :
    Tidy src table root := by
  intro m hm
  rcases hm.root_or_below with rfl | ⟨c, hc, hm⟩
  · exact ⟨h.name, hroot, fun t ht => Or.inl (h.target t ht)⟩
  · exact h.children c hc m hm

/-- only name and shape matter -/
theorem Rooted.restyle {table : Table} {name name' : Option String} {m m' : Model} (h : Rooted src table name m)
    (hname : m'.name = name') (hshape : m'.shape = m.shape) : Rooted src table name' m' :=
  ⟨hname, fun t ht => h.target t (Model.target?_of_shape hshape ▸ ht),
    fun c hc => h.children c (Model.children_of_shape hshape ▸ hc)⟩

end Growth

namespace Sound

variable {src : Source} {resolving : List String} {b : Build}

theorem start (src : Source) : Sound src [] src.start :=
  ⟨Orderly.start src, fun e he => by cases he⟩

/-- entries stay sound when one is added at the end -/
theorem entries_append {b' : Build} (h : Sound src resolving b) (hgrow : b.Grows b') {name : String} {m : Model}
    (htable : b'.table = b.table ++ [(name, { m with name := some name })]) (hm : Rooted src b.table none m) :
    ∀ e ∈ b'.table, Rooted src b'.table (some e.1) e.2 := by
  intro e he
  rw [htable, List.mem_append, List.mem_singleton] at he
  rcases he with he | rfl
  · exact (h.entries e he).mono hgrow
  · exact (hm.mono hgrow).restyle rfl rfl

theorem noted (h : Sound src resolving b) (d : Diagnostic) : Sound src resolving (b.noted d) :=
  ⟨h.orderly.noted d, h.entries⟩

theorem promoted (h : Sound src resolving b) {m : Model} (hm : Rooted src b.table none m) (context : String) :
    Sound src resolving (b.promoted context m) :=
  ⟨h.orderly.promoted context m,
    h.entries_append (h.orderly.grows_promoted context m) (h.orderly.table_promoted context m) hm⟩

theorem closed {name : String} (h : Sound src (name :: resolving) b) (hname : name ∉ resolving) {m : Model}
    (hm : Rooted src b.table none m) : Sound src resolving (b.entered name m) := by
  have hnew := (h.orderly.resolving name List.mem_cons_self).2
  exact ⟨h.orderly.closed hname m, h.entries_append (Build.grows_entered hnew m) (Build.table_entered hnew m) hm⟩

/-- the reference that replaces a promoted model is finished, and has the nullability of the entry -/
theorem stub_tidy (h : Sound src resolving b) {m : Model} (hm : m.isPromotable = true) (context : String) :
    Tidy src (b.promoted context m).table (b.stub context m) := by
  intro x hx
  rcases hx.root_or_below with rfl | ⟨c, hc, -⟩
  · refine ⟨rfl, rfl, fun t ht => Or.inr ⟨{ m with name := some (b.nextName context) }, ?_, hm, rfl⟩⟩
    obtain rfl : b.nextName context = t := Option.some.inj ht
    refine Keyed.get?_of_mem (h.orderly.promoted context m).distinct ?_
    rw [h.orderly.table_promoted]
    exact List.mem_append_right _ (List.mem_singleton_self _)
  · cases hc

end Sound

/-- every step of a walk keeps the state sound and lets it grow -/
def soundLaw (src : Source) : WalkLaw src where
  Inv := Sound src
  law resolving _ :=
    { Node := fun b _ m b' => b.Grows b' ∧ Rooted src b'.table none m
      Nodes := fun b _ ms b' => b.Grows b' ∧ ∀ m ∈ ms, Tidy src b'.table m
      idle := ⟨Build.Grows.refl _, by simp⟩
      append := by
        rintro b b' b'' _ _ ms ms' ⟨hgrow, hms⟩ ⟨hgrow', hms'⟩
        refine ⟨hgrow.trans hgrow', fun m hm => ?_⟩
        rcases List.mem_append.1 hm with hm | hm
        · exact (hms m hm).mono hgrow'
        · exact hms' m hm
      after := fun ⟨hgrow, _⟩ ⟨hgrow', hm⟩ => ⟨hgrow.trans hgrow', hm⟩
      noticed := fun h hn => ⟨⟨h.orderly.noticed hn, h.entries⟩, Build.grows_noticed _ _, by simp⟩
      noted := fun h _ => ⟨h.noted _, Build.grows_noted _ _, by simp⟩
      formed := fun ⟨hgrow, hms⟩ hname htarget => ⟨hgrow, hname, htarget, hms⟩
      restyled := fun ⟨hgrow, hm⟩ hname hshape => ⟨hgrow, hm.restyle (hname.trans hm.name) hshape⟩
      kept := fun ⟨hgrow, hm⟩ hnot => ⟨hgrow, fun x hx => List.mem_singleton.1 hx ▸ hm.tidy hnot⟩
      promoted := by
        rintro b _ m b' hb' ⟨hgrow, hm⟩ hpromotable context
        refine ⟨hb'.promoted hm context, hgrow.trans (hb'.orderly.grows_promoted context m), fun x hx => ?_⟩
        exact List.mem_singleton.1 hx ▸ hb'.stub_tidy hpromotable context }
  level := fun h => h
  risen := fun h => h
  overflowed := fun h => ⟨h.noted _, Build.grows_noted _ _, rfl, fun t ht => (by cases ht), fun c hc => (by cases hc)⟩
  opened := fun h hname _ hnew => ⟨h.orderly.opened hname hnew, h.entries⟩
  closed := by
    rintro r k b m b' name n hb' ⟨hgrow, hm⟩ _ hr
    have hnew := (hb'.orderly.resolving name List.mem_cons_self).2
    exact ⟨hb'.closed hr hm, hgrow.trans (Build.grows_entered hnew m), by simp⟩

namespace Source

variable {src : Source} {resolving : List String} {b : Build}

/-- a component stands in the table once it was asked for -/
theorem component_enters {resolving : List String} {name : String} (hr : name ∉ resolving)
    (hname : name ∈ src.components.keys) : name ∈ ((src.component resolving name).run b).2.keys := by
  rw [run_component hr]
  split_ifs with ht
  · exact (Keyed.has_iff_mem_keys _ _).1 ht
  · obtain ⟨node, hc⟩ := Option.isSome_iff_exists.1 ((Keyed.isSome_get?_iff _ _).2 hname)
    rw [hc]
    change name ∈ Keyed.keys (Keyed.insert _ _ _)
    rw [Keyed.keys_insert]
    split_ifs with hk
    · exact hk
    · exact List.mem_append_right _ (List.mem_singleton_self name)

theorem ensureAll_enters {names : List String} (hb : Sound src [] b) (hnames : names ⊆ src.components.keys) :
    names ⊆ ((src.ensureAll names).run b).2.keys := by
  induction names generalizing b with
  | nil => exact List.nil_subset _
  | cons name names ih =>
    have hone := (soundLaw src).component_leads [] name 0 b hb
    have hrest := (soundLaw src).ensureAll_leads names _ hone.1
    have hname := component_enters (b := b) (List.not_mem_nil : name ∉ []) (hnames List.mem_cons_self)
    intro n hn
    rcases List.mem_cons.1 hn with rfl | hn
    · exact hrest.2.1.keys hname
    · exact ih hone.1 (fun m hm => hnames (List.mem_cons_of_mem _ hm)) hn

/-- every component stands in the table when all were parsed -/
theorem parseComponents_enters (hb : Sound src [] b) : src.components.keys ⊆ (src.parseComponents.run b).2.keys :=
  ensureAll_enters hb (List.Subset.refl _)

/-- the finished table has the entries of the table that was built -/
theorem mem_finish (hb : b.keys.Nodup) {e : String × Model} : e ∈ src.finish b ↔ e ∈ b.table := by
  unfold finish
  rw [List.mem_append, List.mem_filterMap, List.mem_filter]
  constructor
  · rintro (⟨name, -, he⟩ | ⟨he, -⟩)
    · obtain ⟨m, hm, rfl⟩ := Option.map_eq_some_iff.1 he
      exact Keyed.mem_of_get? hm
    · exact he
  · intro he
    by_cases hname : e.1 ∈ src.components.keys
    · exact Or.inl ⟨e.1, hname, Option.map_eq_some_iff.2 ⟨e.2, Keyed.get?_of_mem hb he, rfl⟩⟩
    · refine Or.inr ⟨he, ?_⟩
      rw [← Keyed.has_iff_mem_keys] at hname
      simpa using hname

theorem mem_keys_finish (hb : b.keys.Nodup) {name : String} : name ∈ Keyed.keys (src.finish b) ↔ name ∈ b.keys := by
  simp only [Build.keys, Keyed.keys, List.mem_map, mem_finish hb]

/-- look-up does not depend on the final order -/
theorem get?_finish (hb : b.keys.Nodup) (name : String) :
    Keyed.get? (src.finish b) name = Keyed.get? b.table name := by
  have hsound : ∀ m, Keyed.get? (src.finish b) name = some m → Keyed.get? b.table name = some m := fun m hm =>
    Keyed.get?_of_mem hb ((mem_finish hb).1 (Keyed.mem_of_get? hm))
  cases hfinish : Keyed.get? (src.finish b) name with
  | some m => exact (hsound m hfinish).symm
  | none =>
    have hnot : name ∉ Keyed.keys (src.finish b) := by rw [← Keyed.isSome_get?_iff, hfinish]; simp
    rw [mem_keys_finish hb, Build.keys, ← Keyed.isSome_get?_iff] at hnot
    exact (Option.not_isSome_iff_eq_none.1 hnot).symm

/-- the names that are ordered: components, then promoted models -/
theorem names_nodup (hkeys : src.components.keys.Nodup) (hb : Orderly src resolving b) :
    (src.components.keys ++ b.synthesized).Nodup := by
  rw [← hb.synthesized]
  refine hkeys.append (hb.distinct.filter _) fun n hn hn' => ?_
  simpa [hn] using (List.mem_filter.1 hn').2

/-- the finished table of a source: components in document order, then promoted models in the order of promotion -/
theorem keys_finish (hb : Orderly src resolving b) :
    Keyed.keys (src.finish b) = src.components.keys.filter (· ∈ b.keys) ++ b.synthesized := by
  have hcomponents : ∀ names : List String,
      (names.filterMap fun n => (Keyed.get? b.table n).map (Prod.mk n)).map (·.1) = names.filter (· ∈ b.keys) := by
    intro names
    induction names with
    | nil => rfl
    | cons n names ih =>
      have hiff : (Keyed.get? b.table n).isSome = true ↔ n ∈ b.keys := Keyed.isSome_get?_iff _ _
      cases hn : Keyed.get? b.table n with
      | none => simpa [List.filterMap_cons, hn, ← hiff] using ih
      | some m => simpa [List.filterMap_cons, hn, ← hiff] using ih
  have hrest : (b.table.filter fun e => !Keyed.has src.components e.1).map (·.1) = b.synthesized := by
    have hhas : ∀ e ∈ b.table, (!Keyed.has src.components e.1) = decide (e.1 ∉ src.components.keys) := fun e _ => by
      simp [← Keyed.has_iff_mem_keys]
    rw [← hb.synthesized, List.filter_congr hhas]
    exact (List.filter_map (p := fun k => decide (k ∉ src.components.keys)) (l := b.table)).symm
  rw [finish, Keyed.keys, List.map_append, hcomponents, hrest]

end Source

end ClientPlan
