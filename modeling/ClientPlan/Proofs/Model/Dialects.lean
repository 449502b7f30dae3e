/-
The dialects of nullability. A schema that lists types says that null is allowed as well in one of several ways: by a
flag, by one more type in the list, or as a choice between it and null. Only the flags are written beside the keyword
that decides the shape of the model, so the others are shown to make no difference to this shape: null is left out where
types are read (`shaped_marked`), and a choice with one member left stands for this member (`union_nullably`). What a
dialect can change is the level at which the schema is built, which does not matter if there are levels left
(`descend_nullably`).
-/
import ClientPlan.Proofs.Model.Raised

namespace ClientPlan

/-- the schema that only allows null -/
def SchemaNode.null : SchemaNode :=
  .schema { types := some (.one .null) }

/-- the ways to write a schema that allows null beside what `s` allows -/
inductive Schema.Nullably (s : Schema SchemaNode) : SchemaNode → Prop
  | flag : Nullably s (.schema { s with nullable := some true })
  | olderFlag : Nullably s (.schema { s with xNullable := some true })
  | listed {ts : TypeSet} {before after : List TypeName} (htypes : s.types = some ts)
      (hnames : ts.names = before ++ after) :
      Nullably s (.schema { s with types := some (.several (before ++ .null :: after)) })
  | oneOf {members : List SchemaNode} (hmembers : members.Perm [.schema s, .null]) :
      Nullably s (.schema { oneOf := members })
  | anyOf {members : List SchemaNode} (hmembers : members.Perm [.schema s, .null]) :
      Nullably s (.schema { anyOf := members })

/-- a schema that lists other types than null, whether or not it allows null itself -/
structure Schema.Typed (s : Schema SchemaNode) (ts : TypeSet) : Prop where
  types : s.types = some ts
  some : ts.nonNull ≠ []

/-- the schema with other types and flags -/
def Schema.marked (s : Schema SchemaNode) (ts : TypeSet) (nullable xNullable : Option Bool) : Schema SchemaNode :=
  { s with types := some ts, nullable := nullable, xNullable := xNullable }

/-- a dialect either marks the schema or makes it a choice -/
theorem Schema.Nullably.marks_or_chooses {s : Schema SchemaNode} {ts : TypeSet} {n : SchemaNode} (h : s.Typed ts)
    (hn : s.Nullably n) :
    (∃ ts' nullable xNullable, n = .schema (s.marked ts' nullable xNullable) ∧ ts'.nonNull = ts.nonNull ∧
      (s.marked ts' nullable xNullable).declaresNullable = true) ∨
    ∃ u members, n = .schema u ∧ (u = { oneOf := members } ∨ u = { anyOf := members }) ∧
      members.Perm [.schema s, .null] := by
  cases hn with
  | flag =>
    refine Or.inl ⟨ts, some true, s.xNullable, ?_, rfl, rfl⟩
    rw [marked, ← h.types]
  | olderFlag =>
    refine Or.inl ⟨ts, s.nullable, some true, ?_, rfl, ?_⟩
    · rw [marked, ← h.types]
    · simp [declaresNullable, marked]
  | @listed ts' before after htypes hnames =>
    obtain rfl : ts = ts' := Option.some.inj (h.types.symm.trans htypes)
    refine Or.inl ⟨.several (before ++ .null :: after), s.nullable, s.xNullable, rfl, ?_, ?_⟩
    · rw [TypeSet.nonNull, TypeSet.nonNull, hnames]
      simp [TypeSet.names]
    · simp [declaresNullable, marked, TypeSet.includesNull, TypeSet.names]
  | oneOf hmembers => exact Or.inr ⟨_, _, rfl, Or.inl rfl, hmembers⟩
  | anyOf hmembers => exact Or.inr ⟨_, _, rfl, Or.inr rfl, hmembers⟩

/-- the model that also allows null -/
def Model.orNull (m : Model) : Model :=
  { m with nullable := true }

namespace Reach

variable {s : Schema SchemaNode} {ts ts' : TypeSet} (r : Reach) (context : String)

/-! ## Marks beside the shape -/

theorem singles_marked (nullable xNullable : Option Bool) (i : Nat) (names : List TypeName) :
    r.singles context (s.marked ts' nullable xNullable) i names = r.singles context s i names := by
  induction names generalizing i with
  | nil => rfl
  | cons t names ih =>
    rw [singles, singles, ih]
    cases t <;> rfl

/-- neither the flags nor null among the types have a say in the shape of a model -/
theorem shaped_marked (h : s.Typed ts) (hsame : ts'.nonNull = ts.nonNull) (nullable xNullable : Option Bool) :
    r.shaped context (s.marked ts' nullable xNullable) = r.shaped context s := by
  have htyped : r.typed context (s.marked ts' nullable xNullable) = r.typed context s := by
    have htypes : (s.marked ts' nullable xNullable).types.map (·.nonNull) = some ts.nonNull := congrArg some hsame
    have hsome := h.some
    unfold typed
    rw [htypes, h.types]
    dsimp only [Option.map_some, Option.getD_some]
    generalize ts.nonNull = names at hsome
    match names with
    | [] => exact absurd rfl hsome
    | [t] => cases t <;> rfl
    | t :: t' :: names =>
      dsimp only
      rw [singles_marked]
  unfold shaped
  rw [htyped]
  rfl

/-- nor do they change which nodes are built one level below -/
theorem innerNodes_marked (h : s.Typed ts) (hsame : ts'.nonNull = ts.nonNull) (nullable xNullable : Option Bool)
    (components : Keyed SchemaNode) :
    (s.marked ts' nullable xNullable).innerNodes components = s.innerNodes components := by
  have htyped : (s.marked ts' nullable xNullable).typedNodes = s.typedNodes := by
    have htypes : (s.marked ts' nullable xNullable).types.map (·.nonNull) = some ts.nonNull := congrArg some hsame
    unfold Schema.typedNodes
    rw [htypes, h.types]
    rfl
  unfold Schema.innerNodes
  rw [htyped]
  rfl

/-- a schema with a mark is nullable, and otherwise what it is without one -/
theorem schema_marked (h : s.Typed ts) (hsame : ts'.nonNull = ts.nonNull) {nullable xNullable : Option Bool}
    (hmark : (s.marked ts' nullable xNullable).declaresNullable = true) :
    r.schema context (s.marked ts' nullable xNullable) = Model.orNull <$> r.schema context s := by
  have hannotate : ∀ m, annotate (s.marked ts' nullable xNullable) m = (annotate s m).orNull := fun m => by
    unfold annotate
    rw [hmark, Bool.or_true]
    rfl
  unfold schema
  rw [shaped_marked r context h hsame, map_bind]
  refine bind_congr fun m => ?_
  rw [map_pure, hannotate]

/-! ## A choice between a schema and null -/

theorem isNullType_of_typed (h : s.Typed ts) : (SchemaNode.schema s).isNullType = false := by
  have htypes : ts ≠ .one .null := by
    rintro rfl
    exact h.some rfl
  simp [SchemaNode.isNullType, h.types, htypes]

section Choice

variable {u : Schema SchemaNode} {members : List SchemaNode} (hu : u = { oneOf := members } ∨ u = { anyOf := members })
  (hmembers : members.Perm [.schema s, .null])
include hu hmembers

theorem alternatives_choice : u.alternatives.Perm [.schema s, .null] := by
  rcases hu with rfl | rfl
  · rwa [Schema.alternatives, List.append_nil]
  · exact hmembers

/-- null is no member to build -/
theorem nonNullAlternatives_choice (h : s.Typed ts) : u.nonNullAlternatives = [.schema s] := by
  have hfiltered := (alternatives_choice hu hmembers).filter fun n => !n.isNullType
  have hnull : SchemaNode.null.isNullType = true := rfl
  have hone : [SchemaNode.schema s, .null].filter (fun n => !n.isNullType) = [.schema s] := by
    simp [isNullType_of_typed h, hnull]
  exact List.perm_singleton.1 (hone ▸ hfiltered)

theorem innerNodes_choice (h : s.Typed ts) (components : Keyed SchemaNode) :
    u.innerNodes components = [.schema s] := by
  have hsome : members.isEmpty = false := hmembers.isEmpty_eq
  rw [← nonNullAlternatives_choice hu hmembers h]
  rcases hu with rfl | rfl <;> simp [Schema.innerNodes, hsome]

/-- null makes the other member nullable, which is built one level below -/
theorem schema_choice (h : s.Typed ts) :
    r.schema context u = Model.orNull <$> r.below context (.schema s) := by
  have hsome : members.isEmpty = false := hmembers.isEmpty_eq
  have hnull : u.alternatives.any (·.isNullType) = true := by
    have hlast : SchemaNode.null.isNullType = true := rfl
    simp [(alternatives_choice hu hmembers).any_eq, hlast]
  have hunion : r.union context u = Model.orNull <$> r.below context (.schema s) := by
    unfold union
    rw [nonNullAlternatives_choice hu hmembers h, hnull]
    simp only [choice, Bool.or_true]
    rfl
  have hshaped : r.shaped context u = r.union context u := by
    rcases hu with rfl | rfl <;> simp [shaped, hsome]
  have hplain : ∀ m, annotate u m = m := fun m => by
    cases m
    rcases hu with rfl | rfl <;> simp [annotate, Schema.declaresNullable]
  unfold schema
  rw [hshaped, hunion]
  simp only [hplain, bind_pure]

end Choice

end Reach

/-! ## Levels -/

section Levels

variable {src : Source} {s : Schema SchemaNode} {ts : TypeSet} {n : SchemaNode} {resolving : List String}
  {enter : String → Building Unit} {budget : Nat}

/-- a dialect needs at most one level more than the schema -/
theorem Schema.Nullably.deep {components : Keyed SchemaNode} (h : s.Typed ts) (hn : s.Nullably n) {k : Nat}
    (hdeep : n.Deep components (k + 1)) : (SchemaNode.schema s).Deep components k := by
  obtain ⟨n', hn', hdeep⟩ := hdeep
  rcases hn.marks_or_chooses h with ⟨ts', nullable, xNullable, rfl, hsame, -⟩ | ⟨u, members, rfl, hu, hmembers⟩
  · rw [SchemaNode.inner, Reach.innerNodes_marked h hsame] at hn'
    have hwhole : (SchemaNode.schema s).Deep components (k + 1) := ⟨n', hn', hdeep⟩
    exact hwhole.of_le (Nat.le_succ k)
  · rw [SchemaNode.inner, Reach.innerNodes_choice hu hmembers h, List.mem_singleton] at hn'
    exact hn' ▸ hdeep

namespace Source

/-- a schema is built the same with one level more, if it does not need them all -/
theorem node_spare (h : ¬ n.Deep src.components budget) (context : String) :
    (src.reach resolving enter (budget + 1) (src.descend resolving enter (budget + 1))).node context n =
      (src.reach resolving enter budget (src.descend resolving enter budget)).node context n :=
  node_raised (Nat.le_succ budget) (fun hdeep => h (hdeep.of_le (Nat.le_succ budget)))
    (fun _ hm _ _ _ => (h hm.deep).elim) context

/-- **Dialects agree.** Whichever way it is written that null is allowed beside what a schema allows, the model is that
of the schema and nullable, and the state is the same, if there is a level left for the choice between the schema and
null. -/
theorem descend_nullably (h : s.Typed ts) (hspare : ¬ (SchemaNode.schema s).Deep src.components budget)
    (hn : s.Nullably n) (context : String) :
    src.descend resolving enter (budget + 2) context n =
      Model.orNull <$> src.descend resolving enter (budget + 2) context (.schema s) := by
  rcases hn.marks_or_chooses h with ⟨ts', nullable, xNullable, rfl, hsame, hmark⟩ | ⟨u, members, rfl, hu, hmembers⟩
  · exact Reach.schema_marked _ context h hsame hmark
  · rw [descend, descend, node_spare hspare]
    exact Reach.schema_choice _ context hu hmembers h

end Source

end Levels

end ClientPlan
