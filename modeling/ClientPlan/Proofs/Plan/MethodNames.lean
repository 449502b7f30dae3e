/-
Names of methods. The methods of a file have the names of their operations, made distinct in order. A name that stands
somewhere for the first time can be renamed all the same, if a repeated one got it with its number; whether that happens
can be read off the names of the operations (`first_names_kept_iff`).
-/
import ClientPlan.Proofs.Naming.FirstNames
import ClientPlan.Proofs.Plan.Endpoints

namespace ClientPlan.Plan

/-- the operations of the methods, and their names made distinct -/
theorem methods_named {api : Api} {rule : Config.Envelope} {group : Api.Group}
    (hrange : ∀ i ∈ group.operations, i < api.operations.length) :
    let methods := methodsOf api rule group (distinctNames (methodStems api group))
    ∃ ops : List Api.Operation, methods.map (fun m => api.operations[m.operation]?) = ops.map some ∧
      methods.map (·.name) = distinctNames (ops.map (·.name.memberName)) := by
  intro methods
  let ops := group.operations.filterMap (api.operations[·]?)
  have hall : ∀ op ∈ group.operations.map (api.operations[·]?), op.isSome = true := by
    intro op hop
    obtain ⟨i, hi, rfl⟩ := List.mem_map.1 hop
    simpa using hrange i hi
  have hops : group.operations.map (api.operations[·]?) = ops.map some := by
    rw [List.map_filterMap_some_eq_filter_map_isSome, List.filter_eq_self.2 hall]
  have hstems : methodStems api group = ops.map (·.name.memberName) := by
    rw [List.map_filterMap]
    rfl
  refine ⟨ops, ?_, ?_⟩
  · have hoperations := @operations_methodsOf api rule group hrange
    rw [← hops, ← hoperations, List.map_map]
    rfl
  · rw [← hstems]
    exact names_methodsOf hrange

/-- **Names that are kept.** Of names that are made distinct, each one is kept where it stands for the first time,
unless it was given to an earlier name with its number; so all of them are kept exactly if no name that repeats an
earlier one became a name of the list. The list tells whether that is so: before each name of the list that is another
one with a number there may stand one of that other name, and as many repeats as there are smaller numbers from 2 on
with which it is not in the list. The methods of a file have the names of their operations, made distinct so. -/
theorem first_names_kept_iff (names : List String) (d : Document) (naming : Config.Naming) (limit : Nat)
    (config : Config) :
    let api := (Api.ofDocument d naming limit).1
    (∀ i name, names[i]? = some name →
      ((distinctNames names)[i]? = some name ↔ name ∉ (distinctNames names).take i)) ∧
      (FirstsKept names (distinctNames names) ↔ RepeatsApart names (distinctNames names)) ∧
      (FirstsKept names (distinctNames names) ↔ NumbersLeft names) ∧
      ∀ f ∈ (ofApi api config).1.endpoints, ∃ ops : List Api.Operation,
        f.methods.map (fun m => api.operations[m.operation]?) = ops.map some ∧
          f.methods.map (·.name) = distinctNames (ops.map (·.name.memberName)) := by
  intro api
  refine ⟨fun _ _ => kept_iff_notMem, ⟨(·.repeatsApart), (·.firstsKept)⟩, firstsKept_iff, fun f hf => ?_⟩
  obtain ⟨e, he, hmethods⟩ := methods_endpoints api config hf
  obtain ⟨hgroup, hnames⟩ := names_groupsOf api config he
  rw [hmethods, hnames]
  exact methods_named (Api.groups_in_range d naming limit config.layout.splitBy e.1 hgroup)

/-- an operation whose name no other one has is renamed, since a repeated name got its number -/
theorem second_pets_renamed :
    let names := ["list_pets", "list_pets", "list_pets_2"]
    distinctNames names = ["list_pets", "list_pets_2", "list_pets_2_2"] ∧ ¬ FirstsKept names (distinctNames names) := by
  intro names
  have hnames : distinctNames names = ["list_pets", "list_pets_2", "list_pets_2_2"] := by decide
  refine ⟨hnames, fun hkept => ?_⟩
  have hsecond := hkept 2 "list_pets_2" rfl (by decide)
  rw [hnames] at hsecond
  exact absurd hsecond (by decide)

end ClientPlan.Plan
