/-
Members of one scope. Methods of a file have names that were made distinct. Fields of a model and parameters of a method
are named one by one, so their names are apart exactly if the properties of every model, and the parameters of every
operation, have spellings of their own (`members_apart_iff`).
-/
import ClientPlan.Proofs.Api.Parameters
import ClientPlan.Proofs.Naming.Spelling
import ClientPlan.Proofs.Plan.OwnPaths
import ClientPlan.Proofs.Sequences

namespace ClientPlan

namespace Api

section OfDocument

variable (d : Document) (naming : Config.Naming) (limit : Nat)

theorem Setting.GivesParameter.isMade {st : Setting} {operation : String} {q : Document.Parameter} {p : Parameter}
    (h : st.GivesParameter operation q p) : p.name.IsMade := by
  obtain ⟨b, rfl⟩ := h
  exact Name.isMade_of _

/-- whatever takes whose place, a parameter of an operation is one of its path or an own one -/
theorem Setting.Builds.parameters_names {st : Setting} {e : Document.Endpoint} {op : Operation} (h : st.Builds e op) :
    ∀ p ∈ op.parameters, p.name.IsMade := by
  obtain ⟨inherited, own, hinherited, hown, hparameters⟩ := h.parameters
  intro p hp
  rw [hparameters, override_eq] at hp
  have hgiven : p ∈ inherited ++ own :=
    (displaced_perm Parameter.key inherited own).subset (List.mem_append_left _ hp)
  rcases List.mem_append.1 hgiven with hp | hp
  · obtain ⟨q, -, hgives⟩ := exists_left_of_forall₂ hinherited hp
    exact hgives.isMade
  · obtain ⟨q, -, hgives⟩ := exists_left_of_forall₂ hown hp
    exact hgives.isMade

/-- the parameters of operations have made names -/
theorem parameters_names : ∀ op ∈ (ofDocument d naming limit).1.operations, ∀ p ∈ op.parameters, p.name.IsMade := by
  intro op hop
  obtain ⟨e, -, hbuilds⟩ := exists_left_of_forall₂ (ofDocument_built d naming limit) hop
  exact hbuilds.parameters_names

/-- every operation lies in a group -/
theorem exists_group (split : Config.SplitBy) {i : Nat} (hi : i < (ofDocument d naming limit).1.operations.length) :
    ∃ g ∈ (ofDocument d naming limit).1.groups split, i ∈ g.operations := by
  have haround : around ((ofDocument d naming limit).1.groups split) i ≠ [] := by
    by_cases hsplit : split = .tag
    · subst hsplit
      have hperm := (grouped_tags d naming limit).names_around (List.getElem?_eq_getElem hi)
      have htags : ∀ op : Operation, tagsOf op ≠ [] := by
        intro op
        unfold tagsOf
        split_ifs with h
        · exact List.cons_ne_nil _ _
        · simpa using h
      intro hnil
      rw [hnil, List.map_nil, List.nil_perm, List.dedup_eq_nil] at hperm
      exact htags _ hperm
    · exact List.ne_nil_of_length_eq_add_one (length_around_groups d naming limit hsplit hi)
  obtain ⟨g, hg⟩ := List.exists_mem_of_ne_nil _ haround
  obtain ⟨hmem, hplace⟩ := List.mem_filter.1 hg
  exact ⟨g, hmem, of_decide_eq_true hplace⟩

end OfDocument

end Api

namespace Plan

/-! ## What is planned for whom -/

section OfApi

variable {api : Api} {config : Config}

/-- the fields of a model's file are the properties of the model -/
theorem fields_models {f : ModelFile} (hf : f ∈ (ofApi api config).1.models) :
    ∃ m, Keyed.get? api.table f.schema = some m ∧ f.fields = fieldsOf api.table m := by
  obtain ⟨g, hg, rfl⟩ := List.mem_map.1 hf
  obtain ⟨m, hm, hmade⟩ := linkModels_made g hg
  refine ⟨m, hm, ?_⟩
  rw [hmade]
  rfl

/-- a model of the table has a file -/
theorem exists_modelFile {name : String} {m : Model} (hm : Keyed.get? api.table name = some m) :
    ∃ f ∈ (ofApi api config).1.models, f.fields = fieldsOf api.table m := by
  have hkey : name ∈ (ofApi api config).1.models.map (·.schema) := by
    rw [schemas_ofApi, ← Keyed.isSome_get?_iff, hm]
    rfl
  obtain ⟨f, hf, rfl⟩ := List.mem_map.1 hkey
  obtain ⟨m', hm', hfields⟩ := fields_models hf
  obtain rfl : m = m' := Option.some.inj (hm.symm.trans hm')
  exact ⟨f, hf, hfields⟩

/-- the parameters of a method are those of its operation -/
theorem parameters_methods {f : EndpointFile} (hf : f ∈ (ofApi api config).1.endpoints) {m : Method}
    (hm : m ∈ f.methods) :
    ∃ op, api.operations[m.operation]? = some op ∧ m.parameters = parametersOf api.table op := by
  obtain ⟨e, -, hmethods⟩ := methods_endpoints api config hf
  rw [hmethods] at hm
  obtain ⟨⟨i, name⟩, -, hi⟩ := List.mem_filterMap.1 hm
  obtain ⟨op, hop, rfl⟩ := Option.map_eq_some_iff.1 hi
  exact ⟨op, hop, rfl⟩

end OfApi

/-! ## Names of members -/

/-- the names that are given to members of one scope are apart -/
structure MembersApart (plan : Plan) : Prop where
  fields : ∀ f ∈ plan.models, (f.fields.map (·.memberName)).Nodup
  parameters : ∀ f ∈ plan.endpoints, ∀ m ∈ f.methods, (m.parameters.map (·.memberName)).Nodup
  methods : ∀ f ∈ plan.endpoints, (f.methods.map (·.name)).Nodup

/-- the properties of each model, and the parameters of each operation, have spellings of their own -/
structure SpelledApart (api : Api) : Prop where
  properties : ∀ name m, Keyed.get? api.table name = some m → (m.properties.map fun e => spelling e.1).Nodup
  parameters : ∀ op ∈ api.operations, (op.parameters.map fun p => spelling p.written).Nodup

/-- the fields of a model have names of their own exactly if its properties have spellings of their own -/
theorem nodup_fieldsOf_iff (t : Table) (m : Model) :
    ((fieldsOf t m).map (·.memberName)).Nodup ↔ (m.properties.map fun e => spelling e.1).Nodup := by
  have hnames : (fieldsOf t m).map (·.memberName) = (m.properties.map (·.1)).map memberName := by
    simp [fieldsOf]
  rw [hnames, nodup_memberNames_iff, List.map_map]
  rfl

/-- the parameters of a method have names of their own exactly if those of its operation have spellings of their own -/
theorem nodup_parametersOf_iff (t : Table) {op : Api.Operation} (hop : ∀ p ∈ op.parameters, p.name.IsMade) :
    ((parametersOf t op).map (·.memberName)).Nodup ↔ (op.parameters.map fun p => spelling p.written).Nodup := by
  have hnames : (parametersOf t op).map (·.memberName) = (op.parameters.map (·.written)).map memberName := by
    rw [parametersOf, List.map_map, List.map_map]
    refine List.map_congr_left fun p hp => ?_
    exact congrArg Name.memberName (hop p hp)
  rw [hnames, nodup_memberNames_iff, List.map_map]
  rfl

section OfDocument

variable (d : Document) (naming : Config.Naming) (limit : Nat) (config : Config)

/-- methods of a file have names of their own -/
theorem methods_apart :
    ∀ f ∈ (ofApi (Api.ofDocument d naming limit).1 config).1.endpoints, (f.methods.map (·.name)).Nodup := by
  intro f hf
  obtain ⟨e, he, hmethods⟩ := methods_endpoints _ config hf
  obtain ⟨hgroup, hnames⟩ := names_groupsOf _ config he
  rw [hmethods, hnames, names_methodsOf (Api.groups_in_range d naming limit config.layout.splitBy e.1 hgroup)]
  exact nodup_distinctNames _

theorem exists_method {op : Api.Operation} (hop : op ∈ (Api.ofDocument d naming limit).1.operations) :
    let api := (Api.ofDocument d naming limit).1
    ∃ f ∈ (ofApi api config).1.endpoints, ∃ m ∈ f.methods, m.parameters = parametersOf api.table op := by
  intro api
  obtain ⟨i, hi⟩ := List.mem_iff_getElem?.1 hop
  obtain ⟨g, hg, hplace⟩ := Api.exists_group d naming limit config.layout.splitBy (List.getElem?_eq_some_iff.1 hi).1
  have hplanned : g.operations ∈ (ofApi api config).1.endpoints.map (fun f => f.methods.map (·.operation)) := by
    rw [operations_endpoints api config (Api.groups_in_range d naming limit config.layout.splitBy)]
    exact List.mem_map_of_mem hg
  obtain ⟨f, hf, hmethods⟩ := List.mem_map.1 hplanned
  rw [← hmethods] at hplace
  obtain ⟨m, hm, rfl⟩ := List.mem_map.1 hplace
  obtain ⟨op', hop', hparameters⟩ := parameters_methods hf hm
  obtain rfl : op = op' := Option.some.inj (hi.symm.trans hop')
  exact ⟨f, hf, m, hm, hparameters⟩

/-- **Names of members.** Methods of a file always have names of their own. All members do exactly if the properties of
every model, and the parameters of every operation, have spellings of their own. -/
theorem members_apart_iff :
    let api := (Api.ofDocument d naming limit).1
    let plan := (ofApi api config).1
    (∀ f ∈ plan.endpoints, (f.methods.map (·.name)).Nodup) ∧ (plan.MembersApart ↔ SpelledApart api) := by
  intro api plan
  refine ⟨methods_apart d naming limit config, ?_, ?_⟩
  · intro hapart
    refine ⟨fun name m hm => ?_, fun op hop => ?_⟩
    · obtain ⟨f, hf, hfields⟩ := @exists_modelFile api config name m hm
      rw [← nodup_fieldsOf_iff api.table, ← hfields]
      exact hapart.fields f hf
    · obtain ⟨f, hf, m, hm, hparameters⟩ := exists_method d naming limit config hop
      rw [← nodup_parametersOf_iff api.table (Api.parameters_names d naming limit op hop), ← hparameters]
      exact hapart.parameters f hf m hm
  · intro hspelled
    refine ⟨fun f hf => ?_, fun f hf m hm => ?_, methods_apart d naming limit config⟩
    · obtain ⟨m, hm, hfields⟩ := fields_models hf
      rw [hfields, nodup_fieldsOf_iff]
      exact hspelled.properties f.schema m hm
    · obtain ⟨op, hop, hparameters⟩ := parameters_methods hf hm
      have hmem := List.mem_of_getElem? hop
      rw [hparameters, nodup_parametersOf_iff _ (Api.parameters_names d naming limit op hmem)]
      exact hspelled.parameters op hmem

end OfDocument

/-! ## Names with one spelling -/

def idSchema : SchemaNode :=
  .schema { types := some (.one .string) }

/-- a parameter of the name `id` at a place -/
def idParameter (location : Location) : OrRef Document.Parameter :=
  .inline { name := "id", location := location, required := location == .path, schema := some idSchema }

def petIdSchema : SchemaNode :=
  .schema { types := some (.one .object), properties := [("petId", idSchema), ("pet_id", idSchema)] }

/-- a pet with two properties that are spelled alike, and an operation that takes `id` both in the path and in the
query -/
def petIdDocument : Document where
  paths := [("/pets/\x7bid\x7d", {
    get := some { operationId := some "getPet", parameters := [idParameter .path, idParameter .query] } })]
  components := some { schemas := [("Pet", petIdSchema)] }

def petIdModel : Model :=
  { Model.of (.object [("petId", .scalar .string), ("pet_id", .scalar .string)] [] none) with name := some "Pet" }

theorem petIdDocument_table : (Api.ofDocument petIdDocument {} 100).1.table = [("Pet", petIdModel)] := by
  let src := Api.source petIdDocument {} 100
  have hrun : (src.component [] "Pet").run src.start = (true, src.start.entered "Pet" petIdModel) := by
    rw [Source.run_component List.not_mem_nil]
    rfl
  have hfinal : Api.final petIdDocument {} 100 = ((src.component [] "Pet").run src.start).2 := rfl
  rw [Api.table_ofDocument, hfinal, hrun]
  rfl

theorem petIdDocument_parameters : (Api.ofDocument petIdDocument {} 100).1.operations.map (fun op =>
    op.parameters.map (·.name)) = [[Name.of "id", Name.of "id"]] :=
  rfl

theorem petIdDocument_groups :
    (Api.ofDocument petIdDocument {} 100).1.groups .tag = [⟨Name.of "default", [0]⟩] :=
  Api.groupsByTag_of_groupsBy rfl

/-- both properties become the same field, and both parameters the same parameter -/
theorem members_clash :
    let plan := (ofApi (Api.ofDocument petIdDocument {} 100).1 {}).1
    plan.models.map (fun f => f.fields.map (·.memberName)) = [["pet_id", "pet_id"]] ∧
      plan.endpoints.map (fun f => f.methods.map fun m => m.parameters.map (·.memberName)) = [[["id", "id"]]] ∧
      ¬ plan.MembersApart := by
  intro plan
  let api := (Api.ofDocument petIdDocument {} 100).1
  have hmodels : plan.models.map (fun f => f.fields.map (·.memberName)) = [["pet_id", "pet_id"]] := by
    have hschemas : plan.models.map (·.schema) = ["Pet"] := by
      rw [schemas_ofApi, petIdDocument_table]
      rfl
    obtain ⟨f, hfiles, hschema⟩ := List.map_eq_singleton_iff.1 hschemas
    obtain ⟨m, hm, hfields⟩ := fields_models (hfiles ▸ List.mem_singleton_self f : f ∈ plan.models)
    rw [hschema, petIdDocument_table] at hm
    obtain rfl : petIdModel = m := Option.some.inj hm
    rw [hfiles, List.map_singleton, hfields]
    decide
  have hendpoints : plan.endpoints.map (fun f => f.methods.map fun m => m.parameters.map (·.memberName)) =
      [[["id", "id"]]] := by
    have hplaces : plan.endpoints.map (fun f => f.methods.map (·.operation)) = [[0]] := by
      rw [operations_endpoints api {} (Api.groups_in_range petIdDocument {} 100 .tag)]
      exact congrArg (List.map Api.Group.operations) petIdDocument_groups
    obtain ⟨f, hfiles, hmethods⟩ := List.map_eq_singleton_iff.1 hplaces
    obtain ⟨m, hmethods, hplace⟩ := List.map_eq_singleton_iff.1 hmethods
    obtain ⟨op, hop, hparameters⟩ := parameters_methods (hfiles ▸ List.mem_singleton_self f : f ∈ plan.endpoints)
      (hmethods ▸ List.mem_singleton_self m)
    have hnames : op.parameters.map (·.name) = [Name.of "id", Name.of "id"] := by
      have hall := congrArg (·[0]?) petIdDocument_parameters
      rw [hplace] at hop
      simpa [hop] using hall
    have hmembers : (parametersOf api.table op).map (·.memberName) =
        (op.parameters.map (·.name)).map (·.memberName) := by
      simp [parametersOf]
    rw [hfiles, List.map_singleton, hmethods, List.map_singleton, hparameters, hmembers, hnames]
    decide
  refine ⟨hmodels, hendpoints, fun hapart => ?_⟩
  have hfields := List.forall_mem_map.2 hapart.fields
  rw [hmodels] at hfields
  exact absurd (hfields _ (List.mem_singleton_self _)) (by decide)

end Plan

end ClientPlan
