/-
Where the types in a plan come from. Every one is the type of a model of the API: an entry or a model of an operation,
or one that stands directly in it, a property or the payload of an envelope. Only the result of an operation without a
response body is none (`descriptors_ofApi`). So what holds of the types of all these models holds of all types in the
plan.
-/
import ClientPlan.Proofs.Api.Walk
import ClientPlan.Proofs.Model.Sound
import ClientPlan.Proofs.Plan.Files

namespace ClientPlan

namespace Model

/-- following references leads to the model itself or to an entry of the table -/
theorem derefPast_mem {t : Table} {seen : List String} {m body : Model} (h : m.derefPast t seen = some body) :
    body = m ∨ ∃ name, (name, body) ∈ t := by
  fun_induction derefPast t seen m with
  | case1 seen m hm => exact Or.inl (Option.some.inj h).symm
  | case2 => cases h
  | case3 seen m name hm hs target hget ih =>
    rcases ih h with rfl | hmem
    · exact Or.inr ⟨name, Keyed.mem_of_get? hget⟩
    · exact Or.inr hmem
  | case4 => cases h

theorem mem_children_of_properties {m : Model} {e : String × Model} (h : e ∈ m.properties) : e.2 ∈ m.children := by
  obtain ⟨name, shape, format, nullable, description⟩ := m
  cases shape <;> simp_all [properties, children]
  exact Or.inl ⟨e.1, h⟩

/-- the payload of an envelope is inside the body, or below an entry of the table -/
theorem payload?_mem {rule : Config.Envelope} {t : Table} {m payload : Model} (h : rule.payload? t m = some payload) :
    payload ∈ m.children ∨ ∃ name root, (name, root) ∈ t ∧ payload ∈ root.children := by
  unfold Config.Envelope.payload? at h
  split_ifs at h
  obtain ⟨body, hbody, hpayload⟩ := Option.bind_eq_some_iff.1 h
  have hchild : payload ∈ body.children := by
    unfold Config.Envelope.payloadOf at hpayload
    split at hpayload
    · next container p hfilter =>
      have hmem : (container, p) ∈ body.properties := (List.mem_filter.1 (hfilter ▸ List.mem_singleton_self _)).1
      split_ifs at hpayload
      cases hpayload
      exact mem_children_of_properties hmem
    · cases hpayload
  rcases derefPast_mem hbody with rfl | ⟨name, hmem⟩
  · exact Or.inl hchild
  · exact Or.inr ⟨name, body, hmem, hchild⟩

end Model

namespace Plan

/-- the types in a plan, in its files of models and then in those of endpoints -/
def descriptors (plan : Plan) : List Descriptor :=
  plan.models.flatMap ModelFile.descriptors ++ plan.endpoints.flatMap EndpointFile.descriptors

/-- a type in the files of an API: that of a model in it, or null where there is no model -/
def TypeOf (api : Api) (ty : Descriptor) : Prop :=
  ty = .leaf .null ∨ ∃ root ∈ api.models, ∃ m : Model, m.Inside root ∧ ∃ required, ty = m.descriptor api.table required

section TypeOf

variable {api : Api} {config : Config}

theorem typeOf_root {m : Model} (hm : m ∈ api.models) (required : Bool) : TypeOf api (m.descriptor api.table required) :=
  Or.inr ⟨m, hm, m, .root m, required, rfl⟩

theorem typeOf_child {root m : Model} (hroot : root ∈ api.models) (hm : m ∈ root.children) (required : Bool) :
    TypeOf api (m.descriptor api.table required) :=
  Or.inr ⟨root, hroot, m, .within (.root m) hm, required, rfl⟩

theorem entry_mem {name : String} {m : Model} (h : (name, m) ∈ api.table) : m ∈ api.models :=
  List.mem_append_left _ (List.mem_map.2 ⟨(name, m), h, rfl⟩)

theorem operation_models_mem {op : Api.Operation} (hop : op ∈ api.operations) : ∀ m ∈ op.models, m ∈ api.models :=
  fun _ hm => List.mem_append_right _ (List.mem_flatMap.2 ⟨op, hop, hm⟩)

/-! ## Files of models -/

theorem modelFile_types (name path : String) {m : Model} (hm : m ∈ api.models) :
    ∀ ty ∈ (modelFile api.table name path m).descriptors, TypeOf api ty := by
  intro ty hty
  rcases List.mem_cons.1 hty with rfl | hty
  · exact typeOf_root hm true
  · obtain ⟨field, hfield, rfl⟩ := List.mem_map.1 hty
    obtain ⟨e, he, rfl⟩ := List.mem_map.1 hfield
    exact typeOf_child hm (Model.mem_children_of_properties he) _

theorem linkModels_types {l : Linking} {rest : List (String × String)} :
    ∀ f ∈ (linkModels api.table l rest).1, ∀ ty ∈ f.descriptors, TypeOf api ty := by
  intro f hf
  obtain ⟨m, hm, hmade⟩ := linkModels_made f hf
  rw [hmade]
  exact modelFile_types f.schema f.path (entry_mem (Keyed.mem_of_get? hm))

/-! ## Files of endpoints -/

/-- the model of the successful response is one of the operation's -/
theorem success_model_mem {op : Api.Operation} {m : Model} (h : op.success?.bind (·.model) = some m) :
    m ∈ op.models := by
  obtain ⟨r, hr, hm⟩ := Option.bind_eq_some_iff.1 h
  obtain ⟨i, -, hi⟩ := Option.bind_eq_some_iff.1 hr
  exact List.mem_append_right _ (List.mem_filterMap.2 ⟨r, List.mem_of_getElem? hi, hm⟩)

theorem result_type {op : Api.Operation} (hop : ∀ m ∈ op.models, m ∈ api.models) (rule : Config.Envelope) :
    TypeOf api (op.result api.table rule).1 := by
  unfold Api.Operation.result
  split
  · exact Or.inl rfl
  · rename_i m hm
    have hmem := hop m (success_model_mem hm)
    split
    · rename_i payload hpayload
      rcases Model.payload?_mem hpayload with hchild | ⟨key, root, hroot, hchild⟩
      · exact typeOf_child hmem hchild true
      · exact typeOf_child (entry_mem hroot) hchild true
    · exact typeOf_root hmem true

theorem methodOf_types {op : Api.Operation} (hop : ∀ m ∈ op.models, m ∈ api.models) (rule : Config.Envelope) (i : Nat)
    (name : String) : ∀ ty ∈ (methodOf api.table rule i name op).descriptors, TypeOf api ty := by
  intro ty hty
  rcases List.mem_append.1 hty with hty | hty
  · rcases List.mem_append.1 hty with hty | hty
    · obtain ⟨q, hq, rfl⟩ := List.mem_map.1 hty
      obtain ⟨p, hp, rfl⟩ := List.mem_map.1 hq
      exact typeOf_root (hop _ (List.mem_append_left _ (List.mem_append_left _ (List.mem_map_of_mem hp)))) _
    · obtain ⟨body, hbody, rfl⟩ := Option.map_eq_some_iff.1 (Option.mem_toList.1 hty)
      refine typeOf_root (hop _ (List.mem_append_left _ (List.mem_append_right _ ?_))) _
      rw [hbody]
      exact List.mem_singleton_self _
  · exact List.mem_singleton.1 hty ▸ result_type hop rule

/-- the methods of a group are those of operations of the API -/
theorem methodsOf_types {rule : Config.Envelope} {group : Api.Group} {names : List String} :
    ∀ m ∈ methodsOf api rule group names, ∀ ty ∈ m.descriptors, TypeOf api ty := by
  intro m hm
  obtain ⟨⟨i, name⟩, -, hi⟩ := List.mem_filterMap.1 hm
  obtain ⟨op, hop, rfl⟩ := Option.map_eq_some_iff.1 hi
  exact methodOf_types (operation_models_mem (List.mem_of_getElem? hop)) rule i name

theorem linkEndpoints_types {rule : Config.Envelope} {l : Linking} {rest : List (Api.Group × List String × String)} :
    ∀ f ∈ (linkEndpoints api rule l rest).1, ∀ ty ∈ f.descriptors, TypeOf api ty := by
  intro f hf ty hty
  obtain ⟨m, hm, hty⟩ := List.mem_flatMap.1 hty
  obtain ⟨e, -, hmethods⟩ := linkEndpoints_methods f hf
  exact methodsOf_types m (hmethods ▸ hm) ty hty

/-- **The types in a plan** are those of models of the API, or null. -/
theorem descriptors_ofApi : ∀ ty ∈ (ofApi api config).1.descriptors, TypeOf api ty := by
  intro ty hty
  -- finishing the imports of a file does not change its types
  rcases List.mem_append.1 hty with hty | hty
  · obtain ⟨f', hf', hty⟩ := List.mem_flatMap.1 hty
    obtain ⟨f, hf, rfl⟩ := List.mem_map.1 hf'
    exact linkModels_types f hf ty hty
  · obtain ⟨f', hf', hty⟩ := List.mem_flatMap.1 hty
    obtain ⟨f, hf, rfl⟩ := List.mem_map.1 hf'
    exact linkEndpoints_types f hf ty hty

end TypeOf

end Plan

end ClientPlan
