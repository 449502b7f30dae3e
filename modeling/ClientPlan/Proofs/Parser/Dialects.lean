/-
A parser does not tell the dialects of nullability apart. What it does at a place is told by what its source does there
and by the numbers of the names that are promoted on the way (`numbered`), so two schemas that the source builds the
same are parsed the same, at any depth and whatever is in the table (`dialects_agree`).
-/
import ClientPlan.Proofs.Model.Dialects
import ClientPlan.Proofs.Parser.Termination

namespace ClientPlan.Parser

open Input

/-- the order with names entered under the numbers from `i` on -/
def numberedFrom (order : Keyed Nat) (i : Nat) (names : List String) : Keyed Nat :=
  (names.zipIdx i).foldl (fun o e => Keyed.insert o e.1 e.2) order

/-- where a parser stands, and that the names promoted since it was `w₀` are numbered in order -/
def numbered (src : Source) (w₀ : Parser) : Tracking src where
  At r mg d b w := (located src).At r mg d b w ∧ ∃ names, b.synthesized = w₀.synthesized ++ names ∧
    w.order = numberedFrom w₀.order w₀.nextOrder names ∧ w.nextOrder = w₀.nextOrder + names.length
  toBuild h := (located src).toBuild h.1
  resolving h := (located src).resolving h.1
  merging h := (located src).merging h.1
  depth h := (located src).depth h.1
  noticed := by
    rintro r mg d b w n ⟨hw, names, hb, h⟩ hn
    exact ⟨(located src).noticed hw hn, names, (Orderly.synthesized_noticed b hn).trans hb, h⟩
  noted := by
    rintro r mg d b w x ⟨hw, names, hb, h⟩
    exact ⟨(located src).noted hw, names, (Orderly.synthesized_noted b x).trans hb, h⟩
  promoted := by
    rintro r mg d _ w context m ⟨⟨rfl, hw⟩, names, hb, horder, hnext⟩
    refine ⟨(located src).promoted ⟨rfl, hw⟩, names ++ [w.nextName context], ?_, ?_, ?_⟩
    · rw [Orderly.synthesized_promoted, hb, List.append_assoc]
    · rw [numberedFrom, List.zipIdx_append, List.foldl_append]
      change Keyed.insert w.order (w.nextName context) w.nextOrder = _
      rw [horder, hnext]
      rfl
    · rw [List.length_append, ← Nat.add_assoc, ← hnext]
      rfl
  pushed := fun ⟨hw, h⟩ => ⟨(located src).pushed hw, h⟩
  popped := fun ⟨hw, h⟩ => ⟨(located src).popped hw, h⟩
  lowered := fun ⟨hw, h⟩ => ⟨(located src).lowered hw, h⟩
  raised := fun ⟨hw, h⟩ => ⟨(located src).raised hw, h⟩
  opened := fun ⟨hw, h⟩ hname hnew => ⟨(located src).opened hw hname hnew, h⟩
  closed := fun ⟨hw, h⟩ hr => ⟨(located src).closed hw hr, h⟩

/-- a place and its numbers say what is in a parser, but for the history of its table -/
theorem numbered_unique {src : Source} {w₀ w w' : Parser} {r mg : List String} {d : Nat} {b : Build}
    (h : (numbered src w₀).At r mg d b w) (h' : (numbered src w₀).At r mg d b w') :
    w' = { w with inserted := w'.inserted } := by
  obtain ⟨⟨hbuild, hr, hmg, hd⟩, names, hb, horder, hnext⟩ := h
  obtain ⟨⟨hbuild', hr', hmg', hd'⟩, names', hb', horder', hnext'⟩ := h'
  obtain rfl : names' = names := List.append_cancel_left (hb'.symm.trans hb)
  obtain ⟨_, _, _, _, _, _, _⟩ := w
  obtain ⟨_, _, _, _, _, _, _⟩ := w'
  simp_all

/-- while the node is parsed, the counter of depth stays below the limit: it counts on from where the parser stands -/
def StaysBelow (src : Source) (w : Parser) (n : SchemaNode) : Prop :=
  ∀ k, n.Deep src.components k → w.depth + 1 + k < src.limit

/-- it is enough that there are levels left below a choice between the schema and null -/
theorem staysBelow_nullably {src : Source} {s : Schema SchemaNode} {ts : TypeSet} (h : s.Typed ts) {w : Parser}
    (hdepth : ∀ k, (SchemaNode.schema s).Deep src.components k → w.depth + 2 + k < src.limit) {n : SchemaNode}
    (hn : s.Nullably n) : StaysBelow src w n := by
  intro k hdeep
  cases k with
  | zero => exact (Nat.lt_succ_self _).trans (hdepth 0 trivial)
  | succ k =>
    have hbelow := hdepth k (hn.deep h hdeep)
    omega

/-- **Dialects of nullability are interchangeable.** At whichever depth a parser stands, below whichever components, and
whatever is in its table, all ways to write that null is allowed beside what a schema allows give the same model and
leave the parser in the same state, as long as the counter of depth stays below the limit. Nothing is ever being merged
where a schema is parsed, and what was put into the table is a history that no step looks at. -/
theorem dialects_agree (src : Source) {s : Schema SchemaNode} {ts : TypeSet} (h : s.Typed ts) {w : Parser}
    (hmerging : w.merging = []) (context : String) (hdepth : ∀ n, s.Nullably n → StaysBelow src w n) :
    ∃ (m : Model) (w' : Parser), ∀ n, s.Nullably n →
      ∃ inserted, (parseNested src context n).run w = some (m, { w' with inserted := inserted }) := by
  -- a choice has one level more than the schema itself
  have hspare : ∀ k, (SchemaNode.schema s).Deep src.components k → w.depth + 1 + (k + 1) < src.limit := by
    intro k hdeep
    refine hdepth (.schema { oneOf := [.schema s, .null] }) (.oneOf (.refl _)) (k + 1) ⟨_, ?_, hdeep⟩
    have hinner := Reach.innerNodes_choice (Or.inl rfl) (.refl _) h src.components
    rw [SchemaNode.inner, hinner]
    exact List.mem_singleton_self _
  obtain ⟨budget, hbudget⟩ : ∃ budget, w.depth + (budget + 2) = src.limit :=
    ⟨src.limit - w.depth - 2, by have := hspare 0 trivial; omega⟩
  have hshallow : ¬ (SchemaNode.schema s).Deep src.components budget := fun hdeep => by
    have := hspare budget hdeep
    omega
  let T := numbered src w
  let c := (Model.orNull <$> src.descend w.resolving (src.entering w.resolving) (budget + 2) context (.schema s)) >>=
    ClientPlan.promote context
  have hstart : T.At w.resolving [] w.depth w.toBuild w :=
    ⟨⟨rfl, rfl, hmerging, rfl⟩, [], (List.append_nil _).symm, rfl, rfl⟩
  have hrun : ∀ n, s.Nullably n → ∃ w', (parseNested src context n).run w = some ((c.run w.toBuild).1, w') ∧
      T.At w.resolving [] w.depth (c.run w.toBuild).2 w' := by
    intro n hn
    have hsim := sim_parseNested_at T w.resolving hbudget context n
    rw [Source.descend_nullably h hshallow hn] at hsim
    exact hsim _ w hstart
  obtain ⟨w', -, hw'⟩ := hrun _ .flag
  refine ⟨(c.run w.toBuild).1, w', fun n hn => ?_⟩
  obtain ⟨w'', hparse, hw''⟩ := hrun n hn
  exact ⟨w''.inserted, numbered_unique hw' hw'' ▸ hparse⟩

/-! ### A nullable toy -/

/-- a toy of some kind, and the pet that it belongs to -/
def toySchema : Schema SchemaNode where
  types := some (.one .object)
  properties := [("kind", .schema { literals := [.string "ball", .null] }), ("pet", .ref "#/components/schemas/Pet")]

/-- a pet with a toy -/
def toySource : Source where
  components := [("Pet", .schema { properties := [("toy", .schema toySchema)] })]
  limit := 5

/-- a parser that is building the pet and has a model and a diagnostic already -/
def toyParser : Parser :=
  { new toySource with
    table := [("Bowl", .placeholder)], diagnostics := [⟨"Bowl", .malformed⟩], resolving := ["Pet"], depth := 1 }

theorem toySchema_typed : toySchema.Typed (.one .object) :=
  ⟨rfl, by decide⟩

theorem toySchema_shallow : ¬ (SchemaNode.schema toySchema).Deep toySource.components 2 := by
  have hinner : ∀ n ∈ (SchemaNode.schema toySchema).inner toySource.components, n.inner toySource.components = [] := by
    simp [SchemaNode.inner, toySchema, Schema.innerNodes, Schema.typedNodes, TypeSet.nonNull, TypeSet.names,
      Schema.singleNodes, Schema.objectNodes, Schema.valueNodes]
  rintro ⟨n, hn, n', hn', -⟩
  rw [hinner n hn] at hn'
  cases hn'

theorem dialects_agree_toy :
    toySchema.Typed (.one .object) ∧ toyParser.merging = [] ∧
      (∀ n, toySchema.Nullably n → StaysBelow toySource toyParser n) ∧
      ∃ (m : Model) (w' : Parser), ∀ n, toySchema.Nullably n →
        ∃ inserted, (parseNested toySource "PetToy" n).run toyParser = some (m, { w' with inserted := inserted }) := by
  have hdepth : ∀ k, (SchemaNode.schema toySchema).Deep toySource.components k →
      toyParser.depth + 2 + k < toySource.limit := by
    intro k hdeep
    have hk : k < 2 := Nat.lt_of_not_le fun hle => toySchema_shallow (hdeep.of_le hle)
    have hlimit : toySource.limit = 5 ∧ toyParser.depth = 1 := ⟨rfl, rfl⟩
    omega
  have hbelow : ∀ n, toySchema.Nullably n → StaysBelow toySource toyParser n := fun n hn =>
    staysBelow_nullably toySchema_typed hdepth hn
  exact ⟨toySchema_typed, rfl, hbelow, dialects_agree toySource toySchema_typed rfl "PetToy" hbelow⟩

end ClientPlan.Parser
