/-
What members of `allOf` are merged into. A merge goes from a schema to its members and from a reference to the component
that it leads to, but into no component that it is inside of already, so it may come to the same component by several
ways and gives up on each way that runs in a circle. Nothing is lost by that: whatever a circle leads to can be reached
from the component without going round (`Gathers.cut`). So the merge has the properties and the required names of all
that can be reached, and of nothing else (`mem_merge`), and an object takes over its own properties as they are written
in it (`merged_object`).
-/
import ClientPlan.Proofs.Model.Written
import ClientPlan.Proofs.Sequences

namespace ClientPlan

open Relation

/-! ## What is brought together -/

namespace SchemaNode

variable {components : Keyed SchemaNode} {avoid : List String} {n m : SchemaNode}

/-- `n` brings in `m`: a member of the schema, or what the reference leads to, if this is not to be avoided -/
inductive Brings (components : Keyed SchemaNode) (avoid : List String) : SchemaNode → SchemaNode → Prop
  | member {s : Schema SchemaNode} {m : SchemaNode} (hmember : m ∈ s.allOf) : Brings components avoid (.schema s) m
  | target {path name : String} {m : SchemaNode} (hpath : component? components path = some (name, m))
      (hname : name ∉ avoid) : Brings components avoid (.ref path) m

/-- `n` brings in `m`, over any number of members and references -/
def Gathers (components : Keyed SchemaNode) (avoid : List String) : SchemaNode → SchemaNode → Prop :=
  ReflTransGen (Brings components avoid)

theorem gathers_schema_iff {s : Schema SchemaNode} :
    (SchemaNode.schema s).Gathers components avoid m ↔
      m = .schema s ∨ ∃ n ∈ s.allOf, n.Gathers components avoid m := by
  constructor
  · intro h
    rcases ReflTransGen.cases_head h with rfl | ⟨n, ⟨hmember⟩, hn⟩
    · exact Or.inl rfl
    · exact Or.inr ⟨n, hmember, hn⟩
  · rintro (rfl | ⟨n, hmember, hn⟩)
    · exact .refl
    · exact .head (.member hmember) hn

/-- what holds of a schema that is gathered holds of the schema itself, or of one that a member gathers -/
theorem exists_gathers_schema_iff {s : Schema SchemaNode} {P : Schema SchemaNode → Prop} :
    (∃ s', (SchemaNode.schema s).Gathers components avoid (.schema s') ∧ P s') ↔
      (∃ n ∈ s.allOf, ∃ s', n.Gathers components avoid (.schema s') ∧ P s') ∨ P s := by
  constructor
  · rintro ⟨s', hs', hP⟩
    rcases gathers_schema_iff.1 hs' with heq | ⟨n, hn, hs'⟩
    · cases heq
      exact Or.inr hP
    · exact Or.inl ⟨n, hn, s', hs', hP⟩
  · rintro (⟨n, hn, s', hs', hP⟩ | hP)
    · exact ⟨s', gathers_schema_iff.2 (Or.inr ⟨n, hn, hs'⟩), hP⟩
    · exact ⟨s, .refl, hP⟩

/-- a reference brings in a schema by way of the component -/
theorem gathers_ref_iff {path : String} {s : Schema SchemaNode} :
    (SchemaNode.ref path).Gathers components avoid (.schema s) ↔
      ∃ name n, component? components path = some (name, n) ∧ name ∉ avoid ∧ n.Gathers components avoid (.schema s) := by
  constructor
  · intro h
    rcases ReflTransGen.cases_head h with h | ⟨n, hstep, hn⟩
    · cases h
    · cases hstep with
      | @target _ name _ hpath hname => exact ⟨name, n, hpath, hname, hn⟩
  · rintro ⟨name, n, hpath, hname, hn⟩
    exact .head (.target hpath hname) hn

theorem not_gathers_ref {path : String} {s : Schema SchemaNode}
    (h : ∀ name n, component? components path = some (name, n) → name ∈ avoid) :
    ¬ (SchemaNode.ref path).Gathers components avoid (.schema s) := by
  intro hs
  obtain ⟨name, n, hpath, hname, -⟩ := gathers_ref_iff.1 hs
  exact hname (h name n hpath)

theorem not_gathers_malformed {v : Json} {s : Schema SchemaNode} :
    ¬ (SchemaNode.malformed v).Gathers components avoid (.schema s) := by
  intro h
  rcases ReflTransGen.cases_head h with h | ⟨n, hn, -⟩
  · cases h
  · cases hn

theorem Brings.mono {avoid' : List String} (havoid : avoid' ⊆ avoid) (h : n.Brings components avoid m) :
    n.Brings components avoid' m := by
  cases h with
  | member hmember => exact .member hmember
  | target hpath hname => exact .target hpath fun hmem => hname (havoid hmem)

/-- **Circles may be cut.** What a component brings in, it brings in without coming back to itself: a way that comes back
to it can start from there. -/
theorem Gathers.cut {name : String} (hname : components.get? name = some n) (h : n.Gathers components avoid m) :
    n.Gathers components (name :: avoid) m := by
  induction h with
  | refl => exact .refl
  | tail _ hlast ih =>
    cases hlast with
    | member hmember => exact ih.tail (.member hmember)
    | @target path other m hpath hother =>
      by_cases heq : other = name
      · have hfound := (component?_eq_some.1 hpath).2
        rw [heq, hname] at hfound
        exact Option.some.inj hfound ▸ .refl
      · exact ih.tail (.target hpath (List.not_mem_cons_of_ne_of_not_mem heq hother))

/-- what a reference gathers is what the component gathers without itself -/
theorem gathers_target_iff {path name : String} {s : Schema SchemaNode}
    (hpath : component? components path = some (name, n)) (hname : name ∉ avoid) :
    (SchemaNode.ref path).Gathers components avoid (.schema s) ↔ n.Gathers components (name :: avoid) (.schema s) := by
  rw [gathers_ref_iff]
  constructor
  · rintro ⟨other, n', hpath', -, hn⟩
    rw [hpath] at hpath'
    cases hpath'
    exact Gathers.cut (component?_eq_some.1 hpath).2 hn
  · exact fun hn => ⟨name, n, hpath, hname,
      ReflTransGen.mono (fun _ _ => Brings.mono (List.subset_cons_self name avoid)) _ _ hn⟩

end SchemaNode

/-! ## What a merge has -/

section Merge

open SchemaNode

variable {components : Keyed SchemaNode} {f : Schema SchemaNode → List String}

/-- a list of names in schemas that members add theirs to -/
def Schema.Pooled (f : Schema SchemaNode → List String) : Prop :=
  ∀ target member name, name ∈ f (target.absorb member) ↔ name ∈ f target ∨ name ∈ f member

/-- a merge has the names of its target and those of all schemas that are gathered -/
theorem mem_merge (hf : Schema.Pooled f) (key : String) :
    (∀ merging target n, ∀ context b, key ∈ f ((mergeNode components context merging target n).run b).1 ↔
      key ∈ f target ∨ ∃ s, n.Gathers components merging (.schema s) ∧ key ∈ f s) ∧
    (∀ merging target ns, ∀ context b, key ∈ f ((mergeNodes components context merging target ns).run b).1 ↔
      key ∈ f target ∨ ∃ n ∈ ns, ∃ s, n.Gathers components merging (.schema s) ∧ key ∈ f s) := by
  -- where nothing is gathered, the target stays as it is
  have hnothing : ∀ {target n merging}, (∀ s, ¬ SchemaNode.Gathers components merging n (.schema s)) →
      (key ∈ f target ↔ key ∈ f target ∨ ∃ s, n.Gathers components merging (.schema s) ∧ key ∈ f s) :=
    fun h => (or_iff_left fun ⟨s, hs, _⟩ => h s hs).symm
  apply mergeNode.mutual_induct
  case case1 =>
    intro merging target v context b
    rw [mergeNode]
    exact hnothing fun _ => not_gathers_malformed
  case case2 =>
    intro merging target s ih context b
    rw [run_mergeNode_schema]
    dsimp only
    rw [hf, ih, or_assoc, exists_gathers_schema_iff]
  case case3 =>
    intro merging target path h context b
    rw [mergeNode_unresolved h]
    exact hnothing fun _ => not_gathers_ref (by simp [h])
  case case4 =>
    intro merging target path name n h hm context b
    rw [mergeNode_ref h, if_pos hm]
    exact hnothing fun _ => not_gathers_ref (by simp [h, hm])
  case case5 =>
    intro merging target path name n h hm ih context b
    rw [mergeNode_ref h, if_neg hm, ih]
    simp only [gathers_target_iff h hm]
  case case6 =>
    intro merging target context b
    rw [run_mergeNodes_nil]
    simp
  case case7 =>
    intro merging target n ns ih ihrest context b
    rw [run_mergeNodes_cons]
    dsimp only
    rw [ihrest, ih]
    simp only [List.mem_cons, exists_eq_or_imp, or_assoc]

/-- what the members of a schema and then the schema itself are merged into has the names of all that it gathers -/
theorem mem_merged (hf : Schema.Pooled f) (hempty : f {} = []) (components : Keyed SchemaNode) (s : Schema SchemaNode)
    (key : String) :
    key ∈ f ((Schema.ofMembers components s.allOf).absorb s) ↔
      ∃ s', (SchemaNode.schema s).Gathers components [] (.schema s') ∧ key ∈ f s' := by
  have hwhole := (@mem_merge components f hf key).1 [] {} (.schema s) "" {}
  rw [run_mergeNode_schema, hempty] at hwhole
  rw [Schema.ofMembers, hwhole]
  exact or_iff_right List.not_mem_nil

theorem pooled_properties : Schema.Pooled fun s => Keyed.keys s.properties :=
  fun _ _ _ => Keyed.mem_keys_foldl_insert

theorem pooled_required : Schema.Pooled (·.required) :=
  fun _ _ _ => mem_foldl_addNew

/-- no property stands twice in what members and a schema are merged into -/
theorem nodup_merged (components : Keyed SchemaNode) (s : Schema SchemaNode) :
    (Keyed.keys ((Schema.ofMembers components s.allOf).absorb s).properties).Nodup := by
  have habsorb : ∀ target member : Schema SchemaNode, (Keyed.keys target.properties).Nodup → True →
      (Keyed.keys (target.absorb member).properties).Nodup := fun _ _ h _ => Keyed.nodup_foldl_insert h
  have heverywhere : Region components fun _ => True := ⟨fun _ => trivial, fun _ _ => trivial⟩
  have hmembers := (heverywhere.merge_keeps habsorb).2 [] {} s.allOf List.nodup_nil (fun _ _ => trivial) "" {}
  exact habsorb _ s hmembers trivial

end Merge

/-! ## The object of a merge -/

namespace Reach

variable (r : Reach)

/-- entries keep their keys, and each is built from its own node -/
theorem nestedEntries_run (contextOf : String → String) (es : List (String × SchemaNode)) (b : Build) :
    Keyed.keys ((r.nestedEntries contextOf es).run b).1 = Keyed.keys es ∧
      ∀ key n, Keyed.get? es key = some n →
        ∃ b', Keyed.get? ((r.nestedEntries contextOf es).run b).1 key = some ((r.nested (contextOf key) n).run b').1 := by
  induction es generalizing b with
  | nil => exact ⟨rfl, fun key n h => by cases h⟩
  | cons e es ih =>
    obtain ⟨k, n'⟩ := e
    have hrun : ((r.nestedEntries contextOf ((k, n') :: es)).run b).1 =
        (k, ((r.nested (contextOf k) n').run b).1) ::
          ((r.nestedEntries contextOf es).run ((r.nested (contextOf k) n').run b).2).1 := rfl
    obtain ⟨hkeys, hentries⟩ := ih ((r.nested (contextOf k) n').run b).2
    rw [hrun]
    refine ⟨congrArg (k :: ·) hkeys, fun key n h => ?_⟩
    rw [Keyed.get?_cons] at h ⊢
    split_ifs at h ⊢ with heq
    · cases h
      exact ⟨b, by rw [heq]⟩
    · exact hentries key n h

theorem merged_of_merges {s : Schema SchemaNode} (h : s.Merges) (context : String) :
    r.merged context s = (do
      let target ← mergeNodes r.components context [] {} s.allOf
      r.object context (target.absorb s)) := by
  unfold merged
  split
  · rename_i only hone hnone
    exact absurd hnone (h.2 only hone)
  · rfl

/-- a schema whose members are merged is built as an object of all that they are merged into -/
theorem shape_of_merges {s : Schema SchemaNode} (hconstant : s.constant = none) (hliterals : s.literals = [])
    (h : s.Merges) (context : String) (b : Build) :
    ∃ b', ((r.node context (.schema s)).run b).1.shape =
      ((r.object context ((Schema.ofMembers r.components s.allOf).absorb s)).run b').1.shape := by
  have hall : s.allOf.isEmpty = false := by simpa using h.1
  have hshaped : r.shaped context s = r.merged context s := by
    unfold shaped
    rw [hconstant]
    simp [hliterals, hall]
  refine ⟨((mergeNodes r.components context [] {} s.allOf).run b).2, ?_⟩
  rw [← mergeNodes_value context s.allOf b]
  change ((r.shaped context s).run b).1.shape = _
  rw [hshaped, merged_of_merges r h]
  rfl

end Reach

/-- **All that can be reached is merged.** A schema with members to merge is built as an object with the properties and
the required names of all schemas that it gathers over members and references, itself included, each once and no others.
Its own properties are built from its own nodes. -/
theorem merged_object (r : Reach) (context : String) {s : Schema SchemaNode} (hconstant : s.constant = none)
    (hliterals : s.literals = []) (hmerges : s.Merges) (b : Build) :
    ∃ properties required additional,
      ((r.node context (.schema s)).run b).1.shape = .object properties required additional ∧
      (∀ key, key ∈ Keyed.keys properties ↔
        ∃ s', (SchemaNode.schema s).Gathers r.components [] (.schema s') ∧ key ∈ Keyed.keys s'.properties) ∧
      (∀ name, name ∈ required ↔
        ∃ s', (SchemaNode.schema s).Gathers r.components [] (.schema s') ∧ name ∈ s'.required) ∧
      (Keyed.keys properties).Nodup ∧ required.Nodup ∧
      ((Keyed.keys s.properties).Nodup → ∀ key n, (key, n) ∈ s.properties →
        ∃ b', Keyed.get? properties key = some ((r.nested (context ++ pascalCase key) n).run b').1) := by
  obtain ⟨b', hshape⟩ := r.shape_of_merges hconstant hliterals hmerges context b
  let whole := (Schema.ofMembers r.components s.allOf).absorb s
  let contextOf (key : String) : String := context ++ pascalCase key
  obtain ⟨hkeys, hentries⟩ := r.nestedEntries_run contextOf whole.properties b'
  refine ⟨((r.nestedEntries contextOf whole.properties).run b').1, whole.required.eraseDups, _, hshape.trans rfl, ?_, ?_,
    ?_, nodup_eraseDups _, ?_⟩
  · rw [hkeys]
    exact mem_merged pooled_properties rfl r.components s
  · intro name
    rw [List.mem_eraseDups]
    exact mem_merged pooled_required rfl r.components s name
  · rw [hkeys]
    exact nodup_merged r.components s
  · intro hown key n hmem
    refine hentries key n ?_
    have hwhole := Keyed.get?_foldl_insert (m := (Schema.ofMembers r.components s.allOf).properties) hown key
    exact hwhole.trans (by rw [Keyed.get?_of_mem hown hmem]; rfl)

/-! ### Pets in a circle -/

/-- a cat is a pet, a pet is an animal, and an animal is a cat by another name -/
def circleComponents : Keyed SchemaNode := [
  ("Cat", .schema { allOf := [.ref "#/components/schemas/Pet"], properties := [("mood", .schema {})] }),
  ("Pet", .schema {
    allOf := [.ref "#/components/schemas/Animal"], properties := [("name", .schema {})], required := ["name"] }),
  ("Animal", .ref "#/components/schemas/Cat")]

/-- an animal with a mood of its own -/
def kitten : Schema SchemaNode where
  allOf := [.ref "#/components/schemas/Animal"]
  properties := [("mood", .schema { literals := [.string "playful"] })]

/-- building with these components, and nothing below -/
def circleReach : Reach where
  components := circleComponents
  resolving := []
  below _ _ := pure .placeholder
  enter _ := pure ()

/-- a kitten gathers the pet, over the other name of the cat -/
theorem kitten_gathers_pet : (SchemaNode.schema kitten).Gathers circleComponents [] (.schema {
    allOf := [.ref "#/components/schemas/Animal"], properties := [("name", .schema {})], required := ["name"] }) := by
  refine .head (.member (List.mem_singleton_self _)) ?_
  have htarget : ∀ name n, component? circleComponents ("#/components/schemas/" ++ name) = some (name, n) →
      (SchemaNode.ref ("#/components/schemas/" ++ name)).Brings circleComponents [] n := fun _ _ hpath =>
    .target hpath List.not_mem_nil
  refine .head (htarget "Animal" _ rfl) (.head (htarget "Cat" _ rfl) ?_)
  exact .head (.member (List.mem_singleton_self _)) (.single (htarget "Pet" _ rfl))

theorem merged_object_kitten :
    kitten.constant = none ∧ kitten.literals = [] ∧ kitten.Merges ∧ (Keyed.keys kitten.properties).Nodup ∧
      ∃ properties required additional,
        ((circleReach.node "Kitten" (.schema kitten)).run {}).1.shape = .object properties required additional ∧
        "name" ∈ Keyed.keys properties ∧ "name" ∈ required ∧
        ∃ b', Keyed.get? properties "mood" =
          some ((circleReach.nested "KittenMood" (.schema { literals := [.string "playful"] })).run b').1 := by
  have hmerges : kitten.Merges := ⟨by simp [kitten], fun _ _ => by simp [kitten]⟩
  have hkeys : (Keyed.keys kitten.properties).Nodup := by decide
  obtain ⟨properties, required, additional, hshape, hproperties, hrequired, -, -, hown⟩ :=
    merged_object circleReach "Kitten" rfl rfl hmerges {}
  refine ⟨rfl, rfl, hmerges, hkeys, properties, required, additional, hshape, ?_, ?_, ?_⟩
  · exact (hproperties "name").2 ⟨_, kitten_gathers_pet, List.mem_singleton_self _⟩
  · exact (hrequired "name").2 ⟨_, kitten_gathers_pet, List.mem_singleton_self _⟩
  · exact hown hkeys "mood" _ (List.mem_singleton_self _)

end ClientPlan
