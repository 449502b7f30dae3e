/-
Book-keeping while models are built. `Orderly` ties the table, the names given away and the notices of promotions
together, whatever the models are: component names are reserved, every key was given away before it was entered, a
component that is being built has no entry yet, and the keys that are no components are the promoted names in order.
`Grows` is what a step does at most: it adds entries at the end of the table, diagnostics and notices.
-/
import ClientPlan.Proofs.Model.Building
import ClientPlan.Proofs.Naming.Fresh
import ClientPlan.Model.Source

namespace ClientPlan

namespace Build

/-- the names under which models stand in the table -/
def keys (b : Build) : List String :=
  Keyed.keys b.table

/-- the name that a notice of a promotion gives -/
def promotedName? : Notice → Option String
  | .promoted _ name => some name
  | _ => none

/-- the names that promoted models got, in order -/
def synthesized (b : Build) : List String :=
  b.notices.filterMap promotedName?

/-! ## Growth -/

/-- what was there is still there, and in the same place -/
structure Grows (b b' : Build) : Prop where
  table : b.table <+: b'.table
  diagnostics : b.diagnostics <+: b'.diagnostics
  notices : b.notices <+: b'.notices

theorem Grows.refl (b : Build) : b.Grows b :=
  ⟨List.prefix_refl _, List.prefix_refl _, List.prefix_refl _⟩

theorem Grows.trans {b b' b'' : Build} (h : b.Grows b') (h' : b'.Grows b'') : b.Grows b'' :=
  ⟨h.table.trans h'.table, h.diagnostics.trans h'.diagnostics, h.notices.trans h'.notices⟩

theorem Grows.keys {b b' : Build} (h : b.Grows b') : b.keys ⊆ b'.keys :=
  (Keyed.keys_prefix h.table).subset

theorem Grows.get? {b b' : Build} (h : b.Grows b') {n : String} {m : Model} (hm : Keyed.get? b.table n = some m) :
    Keyed.get? b'.table n = some m :=
  Keyed.get?_of_prefix h.table hm

theorem grows_noticed (b : Build) (n : Notice) : b.Grows (b.noticed n) :=
  ⟨List.prefix_refl _, List.prefix_refl _, List.prefix_append _ _⟩

theorem grows_noted (b : Build) (d : Diagnostic) : b.Grows (b.noted d) :=
  ⟨List.prefix_refl _, List.prefix_append _ _, List.prefix_append _ _⟩

/-- a new name gets its entry at the end of the table -/
theorem table_entered {b : Build} {name : String} (h : name ∉ b.keys) (m : Model) :
    (b.entered name m).table = b.table ++ [(name, { m with name := some name })] :=
  Keyed.insert_of_new h _

theorem grows_entered {b : Build} {name : String} (h : name ∉ b.keys) (m : Model) : b.Grows (b.entered name m) :=
  ⟨table_entered h m ▸ List.prefix_append _ _, List.prefix_refl _, List.prefix_refl _⟩

end Build

/-- the book-keeping of a walk that is building the components `resolving` -/
structure Orderly (src : Source) (resolving : List String) (b : Build) : Prop where
  reserved : ∀ c ∈ src.components.keys, c ∈ b.names.names ∧ typeName c ∈ b.names.names
  claimed : ∀ k ∈ b.keys, k ∈ b.names.names
  distinct : b.keys.Nodup
  resolving : ∀ n ∈ resolving, n ∈ src.components.keys ∧ n ∉ b.keys
  synthesized : (b.keys.filter fun k => k ∉ src.components.keys) = b.synthesized
  apart : ∀ n ∈ b.synthesized, ∀ c ∈ src.components.keys, n ≠ typeName c

namespace Orderly

variable {src : Source} {resolving : List String} {b : Build}

theorem start (src : Source) : Orderly src [] src.start := by
  refine ⟨fun c hc => ?_, by simp [Build.keys, Keyed.keys, Source.start], List.nodup_nil, by simp, rfl,
    by simp [Build.synthesized, Source.start]⟩
  have hname : ∀ n, (n = c ∨ n = typeName c) → n ∈ src.start.names.names := fun n hn =>
    ClaimedNames.mem_foldl_reserve.2 (Or.inr ⟨c, hc, hn⟩)
  exact ⟨hname c (Or.inl rfl), hname _ (Or.inr rfl)⟩

theorem synthesized_noticed (b : Build) {n : Notice} (hn : ∀ context name, n ≠ .promoted context name) :
    (b.noticed n).synthesized = b.synthesized := by
  have hnone : Build.promotedName? n = none := by
    cases n <;> first | rfl | exact absurd rfl (hn _ _)
  simp [Build.synthesized, Build.noticed, List.filterMap_append, hnone]

theorem synthesized_noted (b : Build) (d : Diagnostic) : (b.noted d).synthesized = b.synthesized := by
  simp [Build.synthesized, Build.noted, List.filterMap_append, Build.promotedName?]

theorem noticed (h : Orderly src resolving b) {n : Notice} (hn : ∀ context name, n ≠ .promoted context name) :
    Orderly src resolving (b.noticed n) := by
  have hsyn := synthesized_noticed b hn
  exact { h with synthesized := hsyn ▸ h.synthesized, apart := hsyn ▸ h.apart }

theorem noted (h : Orderly src resolving b) (d : Diagnostic) : Orderly src resolving (b.noted d) := by
  have hsyn := synthesized_noted b d
  exact { h with synthesized := hsyn ▸ h.synthesized, apart := hsyn ▸ h.apart }

theorem opened (h : Orderly src resolving b) {name : String} (hname : name ∈ src.components.keys)
    (hnew : name ∉ b.keys) :
    Orderly src (name :: resolving) b := by
  refine { h with resolving := fun n hn => ?_ }
  rcases List.mem_cons.1 hn with rfl | hn
  · exact ⟨hname, hnew⟩
  · exact h.resolving n hn

/-- the next name was not given away before -/
theorem nextName_fresh (b : Build) (context : String) : b.nextName context ∉ b.names.names :=
  ClaimedNames.claim_fresh _ _

theorem nextName_notMem_keys (h : Orderly src resolving b) (context : String) : b.nextName context ∉ b.keys :=
  fun hk => nextName_fresh b context (h.claimed _ hk)

theorem nextName_ne_component (h : Orderly src resolving b) (context : String) :
    b.nextName context ∉ src.components.keys :=
  fun hk => nextName_fresh b context (h.reserved _ hk).1

theorem table_promoted (h : Orderly src resolving b) (context : String) (m : Model) :
    (b.promoted context m).table = b.table ++ [(b.nextName context, { m with name := some (b.nextName context) })] :=
  Keyed.insert_of_new (h.nextName_notMem_keys context) _

theorem keys_promoted (h : Orderly src resolving b) (context : String) (m : Model) :
    (b.promoted context m).keys = b.keys ++ [b.nextName context] := by
  rw [Build.keys, h.table_promoted]
  simp [Build.keys, Keyed.keys]

theorem grows_promoted (h : Orderly src resolving b) (context : String) (m : Model) : b.Grows (b.promoted context m) :=
  ⟨h.table_promoted context m ▸ List.prefix_append _ _, List.prefix_refl _, List.prefix_append _ _⟩

theorem synthesized_promoted (b : Build) (context : String) (m : Model) :
    (b.promoted context m).synthesized = b.synthesized ++ [b.nextName context] := by
  simp [Build.synthesized, Build.promoted, List.filterMap_append, Build.promotedName?]

theorem promoted (h : Orderly src resolving b) (context : String) (m : Model) :
    Orderly src resolving (b.promoted context m) := by
  have hfresh := nextName_fresh b context
  have hkeys := h.keys_promoted context m
  have hnames : (b.promoted context m).names.names = b.nextName context :: b.names.names :=
    ClaimedNames.names_claim _ _
  refine ⟨fun c hc => ?_, fun k hk => ?_, ?_, fun n hn => ?_, ?_, fun n hn c hc => ?_⟩
  · rw [hnames]
    exact (h.reserved c hc).imp (List.mem_cons_of_mem _) (List.mem_cons_of_mem _)
  · rw [hnames]
    rw [hkeys, List.mem_append, List.mem_singleton] at hk
    rcases hk with hk | rfl
    · exact List.mem_cons_of_mem _ (h.claimed k hk)
    · exact List.mem_cons_self
  · rw [hkeys]
    exact h.distinct.append (List.nodup_singleton _) (by simpa using h.nextName_notMem_keys context)
  · refine ⟨(h.resolving n hn).1, fun hk => ?_⟩
    rw [hkeys, List.mem_append, List.mem_singleton] at hk
    rcases hk with hk | rfl
    · exact (h.resolving n hn).2 hk
    · exact h.nextName_ne_component context (h.resolving _ hn).1
  · rw [hkeys, synthesized_promoted, List.filter_append, h.synthesized]
    simp [h.nextName_ne_component context]
  · rw [synthesized_promoted, List.mem_append, List.mem_singleton] at hn
    rcases hn with hn | rfl
    · exact h.apart n hn c hc
    · exact fun heq => hfresh (heq ▸ (h.reserved c hc).2)

theorem keys_entered (b : Build) {name : String} (hnew : name ∉ b.keys) (m : Model) :
    (b.entered name m).keys = b.keys ++ [name] := by
  rw [Build.keys, Build.table_entered hnew]
  simp [Build.keys, Keyed.keys]

/-- a component is finished: its model goes into the table -/
theorem closed {name : String} (h : Orderly src (name :: resolving) b) (hname : name ∉ resolving) (m : Model) :
    Orderly src resolving (b.entered name m) := by
  obtain ⟨hcomponent, hnew⟩ := h.resolving name List.mem_cons_self
  have hkeys := keys_entered b hnew m
  refine ⟨h.reserved, fun k hk => ?_, ?_, fun n hn => ?_, ?_, h.apart⟩
  · rw [hkeys, List.mem_append, List.mem_singleton] at hk
    rcases hk with hk | rfl
    · exact h.claimed k hk
    · exact (h.reserved k hcomponent).1
  · rw [hkeys]
    exact h.distinct.append (List.nodup_singleton _) (by simpa using hnew)
  · obtain ⟨hmem, hn'⟩ := h.resolving n (List.mem_cons_of_mem _ hn)
    refine ⟨hmem, fun hk => ?_⟩
    rw [hkeys, List.mem_append, List.mem_singleton] at hk
    rcases hk with hk | rfl
    · exact hn' hk
    · exact hname hn
  · rw [hkeys, List.filter_append, h.synthesized]
    simp [hcomponent, Build.synthesized, Build.entered]

end Orderly

end ClientPlan
