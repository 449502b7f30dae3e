/-
What mappings of discriminators lead to. Every discriminator in an API is that of a choice written in the document, and
each name in its mapping is that of the target written for the value; whether a model has that name is not asked. So the
names in mappings are keys of the table exactly if each is that of a component or of a promoted model
(`mappings_named_iff`), and a target that leads nowhere is kept as the name of a missing model (`hound_unnamed`).
-/
import ClientPlan.Proofs.Api.Forms
import ClientPlan.Proofs.Api.Placement
import ClientPlan.Proofs.Model.Choices

namespace ClientPlan

/-- models that are alike have the same discriminators at their roots -/
theorem Model.Alike.discriminator? {f : String → String} {m m' : Model} (h : m.Alike f m') :
    m.shape.discriminator? = m'.shape.discriminator? := by
  have hretarget : ∀ s : Shape Model, (retargetShape f s).discriminator? = s.discriminator? := fun s => by
    cases s <;> rfl
  rw [← hretarget m.shape, (alike_iff.1 h).2.1, hretarget]

namespace Api

/-- the discriminator stands in an entry of the table or in a model of an operation, at any depth -/
def Discriminates (api : Api) (δ : Discriminator) : Prop :=
  ∃ m ∈ api.models, m.Discriminates δ

variable (d : Document) (naming : Config.Naming) (limit : Nat)

/-- at the end, the entries of components are as drafted -/
theorem final_accounted (token : String) :
    Accounted (source d naming limit) (source d naming limit) token [] (final d naming limit)
      (source d naming limit).start := by
  let src := source d naming limit
  have hparsed := (ensureAll_accounted (G := tallyGauge src token) (.refl src) src.components.keys _ _
    (Accounted.start src src token)).1
  exact (@ApiLaw.operations_leads (setting d naming limit) (placementLaw src token) d.paths (fun _ _ => trivial)
    src.parsed hparsed).1

variable {d naming limit}

/-- the names of the finished table -/
theorem mem_keys_table {name : String} :
    name ∈ Keyed.keys (ofDocument d naming limit).1.table ↔
      name ∈ (source d naming limit).components.keys ∨ name ∈ promotedNames d naming limit := by
  obtain ⟨hsound, hcomponents, -⟩ := final_sound d naming limit
  have hentered : name ∈ (source d naming limit).components.keys →
      name ∈ Keyed.keys (ofDocument d naming limit).1.table := fun h => by
    rw [table_ofDocument, Source.mem_keys_finish hsound.orderly.distinct]
    exact hcomponents h
  rw [promotedNames, List.mem_filter, decide_eq_true_eq]
  by_cases h : name ∈ (source d naming limit).components.keys
  · simp [h, hentered h]
  · simp [h]

/-- the discriminator of a component that is a choice stands in its entry -/
theorem discriminates_component {name : String} {s : Schema SchemaNode} {δ : Discriminator}
    (hname : (source d naming limit).components.get? name = some (.schema s)) (hs : s.Discriminates δ) :
    (ofDocument d naming limit).1.Discriminates δ := by
  let src := source d naming limit
  have hkey := Keyed.mem_keys_of_get? hname
  obtain ⟨hsound, hcomponents, -⟩ := final_sound d naming limit
  obtain ⟨m, hm⟩ := Option.isSome_iff_exists.1 ((Keyed.isSome_get?_iff _ _).2 (hcomponents hkey))
  have halike := (final_accounted d naming limit "").entries name hkey m hm
  have hdraft : (src.draft name).shape.discriminator? = some δ := by
    rw [Source.draft, Source.drafting, hname]
    exact Reach.discriminator_node _ hs _ _
  have hentry : (name, m) ∈ (ofDocument d naming limit).1.table := by
    rw [table_ofDocument, Source.mem_finish hsound.orderly.distinct]
    exact Keyed.mem_of_get? hm
  exact ⟨m, List.mem_append_left _ (List.mem_map_of_mem hentry), m, .root m, halike.discriminator?.trans hdraft⟩

variable (d naming limit)

/-- **What mappings name.** Every discriminator in an API is that of a choice written in the document, with the names of
the targets that are written there, and that of a component which is a choice is always in the API. The names in
mappings are all keys of the table exactly if each choice of the document whose discriminator is in the API maps to
components and promoted models only. -/
theorem mappings_named_iff :
    let api := (ofDocument d naming limit).1
    let components := (source d naming limit).components
    (∀ δ, api.Discriminates δ → ∃ s, d.Describes (.schema s) ∧ s.Discriminates δ ∧
      ∀ e ∈ δ.mapping, ∃ target, s.Maps e.1 target ∧ e.2 = targetName target) ∧
    (∀ name s δ, components.get? name = some (.schema s) → s.Discriminates δ → api.Discriminates δ) ∧
    ((∀ δ, api.Discriminates δ → ∀ e ∈ δ.mapping, e.2 ∈ Keyed.keys api.table) ↔
      ∀ s δ, d.Describes (.schema s) → s.Discriminates δ → api.Discriminates δ →
        ∀ e ∈ δ.mapping, e.2 ∈ components.keys ∨ e.2 ∈ promotedNames d naming limit) := by
  intro api components
  have hwritten : ∀ δ, api.Discriminates δ → ∃ s, d.Describes (.schema s) ∧ s.Discriminates δ := by
    rintro δ ⟨m, hm, hδ⟩
    exact (choiceLaw d.Describes).kept_ofDocument naming limit m hm δ hδ
  refine ⟨fun δ hδ => ?_, fun name s δ hname hs => discriminates_component hname hs, ?_⟩
  · obtain ⟨s, hs, hchoice⟩ := hwritten δ hδ
    exact ⟨s, hs, hchoice, fun e he => hchoice.maps he⟩
  · constructor
    · exact fun hnamed s δ _ _ hδ e he => mem_keys_table.1 (hnamed δ hδ e he)
    · intro hleads δ hδ e he
      obtain ⟨s, hs, hchoice⟩ := hwritten δ hδ
      exact mem_keys_table.2 (hleads s δ hs hchoice hδ e he)

/-! ## A mapping to a missing model -/

/-- a choice among cats and dogs; `target` is what the mapping has for dogs -/
def petSchema (target : String) : Schema SchemaNode where
  oneOf := [.ref "#/components/schemas/Cat", .ref "#/components/schemas/Dog"]
  discriminator := some ⟨"kind", [("dog", target)]⟩

/-- a document with pets -/
def petDocument (target : String) : Document where
  components := some { schemas := [("Cat", anyObject), ("Dog", anyObject), ("Pet", .schema (petSchema target))] }
where
  anyObject : SchemaNode := .schema { types := some (.one .object) }

/-- the discriminator of pets -/
def petDiscriminator (target : String) : Discriminator :=
  ⟨"kind", [("dog", targetName target)]⟩

theorem petSchema_discriminates (target : String) : (petSchema target).Discriminates (petDiscriminator target) where
  constant := rfl
  literals := rfl
  allOf := rfl
  some := List.cons_ne_nil _ _
  several := by
    have hmembers : (petSchema target).nonNullAlternatives = (petSchema target).oneOf := rfl
    rw [hmembers]
    exact Nat.one_lt_two
  written := rfl

/-- pets are built without a change if cats and dogs are -/
theorem petSchema_built {r : Reach} {target : String} {b : Build}
    (hrefs : ∀ e ∈ [(SchemaNode.ref "#/components/schemas/Cat", "Cat"), (.ref "#/components/schemas/Dog", "Dog")],
      ∀ context, (r.below context e.1).run b = (.reference e.2, b)) (context : String) :
    (r.node context (.schema (petSchema target))).run b =
      (.of (.union [.reference "Cat", .reference "Dog"] [] (some (petDiscriminator target))), b) := by
  have hvariants := Reach.run_nestedVariants_refs hrefs context 0
  exact congrArg (fun p => (Model.of (.union p.1 [] (some (petDiscriminator target))), p.2)) hvariants

/-- they are if these are in the table -/
theorem petDocument_root {src : Source} {target : String} {b : Build} (hlimit : 2 ≤ src.limit)
    (hsrc : src.components.keys = ["Cat", "Dog", "Pet"]) (hcat : Keyed.has b.table "Cat" = true)
    (hdog : Keyed.has b.table "Dog" = true) (context : String) :
    (src.root ["Pet"] context (.schema (petSchema target))).run b =
      (.of (.union [.reference "Cat", .reference "Dog"] [] (some (petDiscriminator target))), b) := by
  obtain ⟨k, hk⟩ := Nat.exists_eq_add_of_le' hlimit
  have hcats : Keyed.has src.components "Cat" = true := (Keyed.has_iff_mem_keys _ _).2 (by simp [hsrc])
  have hdogs : Keyed.has src.components "Dog" = true := (Keyed.has_iff_mem_keys _ _).2 (by simp [hsrc])
  have hcatName : schemaName? "#/components/schemas/Cat" = some "Cat" := by decide
  have hdogName : schemaName? "#/components/schemas/Dog" = some "Dog" := by decide
  refine petSchema_built (List.forall_mem_cons.2 ⟨fun c => ?_, List.forall_mem_singleton.2 fun c => ?_⟩) context
  · change (src.descend ["Pet"] (src.entering ["Pet"]) src.limit c _).run b = _
    rw [hk]
    exact Source.run_descend_ref (by simp [hcatName, hcats]) (by decide) hcat k c
  · change (src.descend ["Pet"] (src.entering ["Pet"]) src.limit c _).run b = _
    rw [hk]
    exact Source.run_descend_ref (by simp [hdogName, hdogs]) (by decide) hdog k c

theorem petDocument_keys (target : String) :
    Keyed.keys (ofDocument (petDocument target) {} 100).1.table = ["Cat", "Dog", "Pet"] := by
  let src := source (petDocument target) {} 100
  let cats : Build := src.start.entered "Cat" (.of (.object [] [] none))
  let both : Build := cats.entered "Dog" (.of (.object [] [] none))
  let model : Model := .of (.union [.reference "Cat", .reference "Dog"] [] (some (petDiscriminator target)))
  have hcat : (src.component [] "Cat").run src.start = (true, cats) := by
    rw [Source.run_component_new List.not_mem_nil List.not_mem_nil rfl]
    rfl
  have hdog : (src.component [] "Dog").run cats = (true, both) := by
    have hnew : "Dog" ∉ ["Cat"] := by decide
    rw [Source.run_component_new List.not_mem_nil hnew rfl]
    rfl
  have hpet : (src.component [] "Pet").run both = (true, both.entered "Pet" model) := by
    have hnew : "Pet" ∉ ["Cat", "Dog"] := by decide
    have hlimit : 2 ≤ 100 := by decide
    rw [Source.run_component_new List.not_mem_nil hnew rfl, petDocument_root hlimit rfl rfl rfl]
  have hfinal : final (petDocument target) {} 100 = both.entered "Pet" model := by
    change ((src.component [] "Pet").run
      ((src.component [] "Dog").run ((src.component [] "Cat").run src.start).2).2).2 = _
    rw [hcat, hdog, hpet]
  rw [table_ofDocument, hfinal]
  rfl

/-- dogs are mapped to hounds, which are no component and get no model -/
theorem hound_unnamed :
    let api := (ofDocument (petDocument "#/components/schemas/Hound") {} 100).1
    api.Discriminates ⟨"kind", [("dog", "Hound")]⟩ ∧ Keyed.keys api.table = ["Cat", "Dog", "Pet"] ∧
      ¬ ∀ δ, api.Discriminates δ → ∀ e ∈ δ.mapping, e.2 ∈ Keyed.keys api.table := by
  intro api
  have hkeys : Keyed.keys api.table = ["Cat", "Dog", "Pet"] := petDocument_keys _
  have hpet : api.Discriminates ⟨"kind", [("dog", "Hound")]⟩ :=
    @discriminates_component _ _ _ "Pet" _ _ rfl (petSchema_discriminates "#/components/schemas/Hound")
  refine ⟨hpet, hkeys, fun hall => ?_⟩
  have hhound : "Hound" ∈ Keyed.keys api.table := hall _ hpet ("dog", "Hound") (List.mem_singleton_self _)
  rw [hkeys] at hhound
  exact absurd hhound (by decide)

end Api

end ClientPlan
