/-
When the limit on depth is reached. A node is `Deep` if there is a chain of nodes of that length below it, each built
one level below the one before; a component overflows when its root is deeper than the limit, however many components
were entered on the way to it and in whichever state. Building all components notes an overflow exactly if one of them
does (`overflowed_iff`).
-/
import ClientPlan.Proofs.Model.Sound

namespace ClientPlan

/-- there is a chain of `k` nodes, the first one below this node and each of the others below the one before it -/
def SchemaNode.Deep (components : Keyed SchemaNode) : Nat → SchemaNode → Prop
  | 0, _ => True
  | k + 1, n => ∃ n' ∈ n.inner components, Deep components k n'

/-- a diagnostic says that the limit was reached -/
def Build.Overflowed (b : Build) : Prop :=
  ∃ d ∈ b.diagnostics, ∃ limit, d.issue = .depthExceeded limit

namespace Source

/-- the state after all components were built -/
def parsed (src : Source) : Build :=
  (src.parseComponents.run src.start).2

/-- the component of that name is deeper than the limit -/
def Overflowing (src : Source) (name : String) : Prop :=
  ∃ n, src.components.get? name = some n ∧ n.Deep src.components (src.limit + 1)

end Source

/-! ## Writes and overflow -/

section Writes

variable {b : Build} {d : Diagnostic}

theorem Build.overflowed_noted : (b.noted d).Overflowed ↔ b.Overflowed ∨ ∃ limit, d.issue = .depthExceeded limit := by
  simp only [Overflowed, noted, List.mem_append, List.mem_singleton]
  constructor
  · rintro ⟨x, hx | rfl, hlimit⟩
    · exact Or.inl ⟨x, hx, hlimit⟩
    · exact Or.inr hlimit
  · rintro (⟨x, hx, hlimit⟩ | hlimit)
    · exact ⟨x, Or.inl hx, hlimit⟩
    · exact ⟨d, Or.inr rfl, hlimit⟩

theorem Build.overflowed_noted_other (h : ∀ limit, d.issue ≠ .depthExceeded limit) :
    (b.noted d).Overflowed ↔ b.Overflowed := by
  rw [overflowed_noted]
  exact or_iff_left fun ⟨limit, hd⟩ => h limit hd

end Writes

/-- the table holds no component that overflows without a diagnostic to say so -/
structure Watched (src : Source) (resolving : List String) (b : Build) : Prop where
  orderly : Orderly src resolving b
  entered : ∀ name ∈ b.keys, src.Overflowing name → b.Overflowed

/-- what building nodes with `k` levels below them has to do with overflow -/
structure Marks (src : Source) (k : Nat) (b : Build) (ns : List SchemaNode) (b' : Build) : Prop where
  lasts : b.Overflowed → b'.Overflowed
  deep : ∀ n ∈ ns, n.Deep src.components k → b'.Overflowed
  cause : b'.Overflowed → b.Overflowed ∨ (∃ n ∈ ns, n.Deep src.components k) ∨ ∃ name, src.Overflowing name

namespace Marks

variable {src : Source} {k : Nat} {b b' b'' : Build} {ns ns' : List SchemaNode}

/-- a step that adds no such diagnostic -/
theorem quiet (h : b'.Overflowed ↔ b.Overflowed) : Marks src k b [] b' :=
  ⟨h.2, by simp, fun hb' => Or.inl (h.1 hb')⟩

theorem append (h : Marks src k b ns b') (h' : Marks src k b' ns' b'') : Marks src k b (ns ++ ns') b'' := by
  refine ⟨fun hb => h'.lasts (h.lasts hb), fun n hn hdeep => ?_, fun hb'' => ?_⟩
  · rcases List.mem_append.1 hn with hn | hn
    · exact h'.lasts (h.deep n hn hdeep)
    · exact h'.deep n hn hdeep
  · rcases h'.cause hb'' with hb' | ⟨n, hn, hdeep⟩ | hname
    · rcases h.cause hb' with hb | ⟨n, hn, hdeep⟩ | hname
      · exact Or.inl hb
      · exact Or.inr (Or.inl ⟨n, List.mem_append_left _ hn, hdeep⟩)
      · exact Or.inr (Or.inr hname)
    · exact Or.inr (Or.inl ⟨n, List.mem_append_right _ hn, hdeep⟩)
    · exact Or.inr (Or.inr hname)

/-- what holds of the nodes below a node with `k` levels holds of the node with one level more -/
theorem up {n : SchemaNode} (h : Marks src k b (n.inner src.components) b') : Marks src (k + 1) b [n] b' := by
  refine ⟨h.lasts, fun n' hn' => ?_, fun hb' => ?_⟩
  · obtain rfl := List.mem_singleton.1 hn'
    exact fun ⟨n'', hn'', hdeep⟩ => h.deep n'' hn'' hdeep
  · rcases h.cause hb' with hb | hinner | hname
    · exact Or.inl hb
    · exact Or.inr (Or.inl ⟨n, List.mem_singleton_self n, hinner⟩)
    · exact Or.inr (Or.inr hname)

/-- a whole component: if its root is too deep, the component overflows -/
theorem component {n : SchemaNode} {name : String} (h : Marks src src.limit b (n.inner src.components) b')
    (hname : src.components.get? name = some n) : Marks src k b [] b' := by
  refine ⟨h.lasts, by simp, fun hb' => ?_⟩
  rcases h.cause hb' with hb | hinner | hother
  · exact Or.inl hb
  · exact Or.inr (Or.inr ⟨name, n, hname, hinner⟩)
  · exact Or.inr (Or.inr hother)

end Marks

namespace Watched

variable {src : Source} {resolving : List String} {b : Build}

theorem start (src : Source) : Watched src [] src.start :=
  ⟨Orderly.start src, fun name hname => by simp [Build.keys, Keyed.keys, Source.start] at hname⟩

theorem noted (h : Watched src resolving b) (d : Diagnostic) : Watched src resolving (b.noted d) :=
  ⟨h.orderly.noted d, fun name hname hover => Build.overflowed_noted.2 (Or.inl (h.entered name hname hover))⟩

theorem promoted (h : Watched src resolving b) (context : String) (m : Model) :
    Watched src resolving (b.promoted context m) := by
  refine ⟨h.orderly.promoted context m, fun name hname hover => ?_⟩
  rw [h.orderly.keys_promoted, List.mem_append, List.mem_singleton] at hname
  rcases hname with hname | rfl
  · exact h.entered name hname hover
  · obtain ⟨n, hn, -⟩ := hover
    exact absurd (Keyed.mem_keys_of_get? hn) (h.orderly.nextName_ne_component context)

/-- a component may be entered if the diagnostic is there in case it overflows -/
theorem closed {name : String} (h : Watched src (name :: resolving) b) (hname : name ∉ resolving) (m : Model)
    (hover : src.Overflowing name → b.Overflowed) : Watched src resolving (b.entered name m) := by
  refine ⟨h.orderly.closed hname m, fun other hother hdeep => ?_⟩
  have hnew := (h.orderly.resolving name List.mem_cons_self).2
  rw [Orderly.keys_entered b hnew, List.mem_append, List.mem_singleton] at hother
  rcases hother with hother | rfl
  · exact h.entered other hother hdeep
  · exact hover hdeep

end Watched

/-- every step of a walk watches for overflow -/
def overflowLaw (src : Source) : WalkLaw src where
  Inv := Watched src
  law _ k :=
    { Node := fun b ns _ b' => Marks src k b ns b'
      Nodes := fun b ns _ b' => Marks src k b ns b'
      idle := .quiet Iff.rfl
      append := Marks.append
      after := fun h h' => h.append h'
      noticed := fun h hn => ⟨⟨h.orderly.noticed hn, h.entered⟩, .quiet Iff.rfl⟩
      noted := fun h hd => ⟨h.noted _, .quiet (Build.overflowed_noted_other hd)⟩
      formed := fun h _ _ => h
      restyled := fun h _ _ => h
      kept := fun h _ => h
      promoted := fun hb' h _ context => ⟨hb'.promoted context _, h.lasts, h.deep, h.cause⟩ }
  level := fun h => ⟨h.lasts, by simp, fun hb' => by simpa using h.cause hb'⟩
  risen := Marks.up
  overflowed := by
    intro r b context n h
    have hover : (b.noted ⟨context, .depthExceeded src.limit⟩).Overflowed :=
      Build.overflowed_noted.2 (Or.inr ⟨src.limit, rfl⟩)
    exact ⟨h.noted _, fun _ => hover, fun _ _ _ => hover,
      fun _ => Or.inr (Or.inl ⟨_, List.mem_singleton_self _, trivial⟩)⟩
  opened := fun h hname _ hnew => ⟨h.orderly.opened hname hnew, h.entered⟩
  closed := by
    rintro r k b m b' name n hb' h hname hr
    -- the root was built with the whole limit below it, so it tells whether the component overflows
    refine ⟨hb'.closed hr m ?_, ?_⟩
    · rintro ⟨n', hn', n'', hn'', hdeep⟩
      obtain rfl := Option.some.inj (hname.symm.trans hn')
      exact h.deep n'' hn'' hdeep
    · obtain ⟨hlasts, hdeep, hcause⟩ := h.component (k := k) hname
      exact ⟨hlasts, hdeep, hcause⟩

/-- **Overflow is a matter of the components alone.** Building all of them notes that the limit was reached exactly if
one is deeper than the limit. -/
theorem Source.overflowed_iff (src : Source) :
    src.parsed.Overflowed ↔ ∃ name, src.Overflowing name := by
  obtain ⟨hend, hmarks⟩ := (overflowLaw src).parseComponents_leads _ (Watched.start src)
  constructor
  · intro h
    rcases hmarks.cause h with ⟨d, hd, -⟩ | ⟨n, hn, -⟩ | hname
    · cases hd
    · cases hn
    · exact hname
  · rintro ⟨name, n, hn, hdeep⟩
    have hmem := parseComponents_enters (Sound.start src) (Keyed.mem_keys_of_get? hn)
    exact hend.entered name hmem ⟨n, hn, hdeep⟩

end ClientPlan
