/-
The response to a successful call, which is chosen twice. While an operation is built, one status is chosen among all
that are declared, and the schemas of that response get names that do not carry the status. Of the finished operation,
one response is chosen among those that could be followed. Both choices go by rank, so they fall on the same response
if that could be followed. If it could not, then another one passes for the success later on, and no response was named
as such (`success_agrees_iff`).
-/
import ClientPlan.Proofs.Api.Endpoints
import ClientPlan.Proofs.Document.Choice

namespace ClientPlan

namespace Api

/-- a response that could be followed, with its number among those that are declared -/
structure Answer where
  number : Nat
  status : String
  response : Document.Response

/-- the context of the schemas of an answer, which carries its status unless the answer counts as the success -/
def Answer.context (a : Answer) (operation : String) (success : Option Nat) : String :=
  if success = some a.number then operation ++ "Response" else operation ++ pascalCase a.status ++ "Response"

namespace Setting

variable (st : Setting)

/-- the responses that can be followed, of those from number `i` on -/
def answers (i : Nat) (items : List (String × OrRef Document.Response)) : List Answer :=
  (items.zipIdx i).filterMap fun (item, i) => (st.components.response? item.2).map fun r => ⟨i, item.1, r⟩

/-- a response was built from an answer, in its context -/
def Gives (operation : String) (success : Option Nat) (a : Answer) (r : Response) : Prop :=
  ∃ b, ((st.response (a.context operation success) a.status a.response).run b).1 = r

/-- the response that is chosen in the end comes from the answer whose context was that of the success -/
def SuccessAgrees (e : Document.Endpoint) (op : Operation) : Prop :=
  ∃ k a, successIndex? (op.responses.map (·.status)) = some k ∧ (st.answers 0 e.operation.responses)[k]? = some a ∧
    successIndex? e.operation.responses.keys = some a.number

/-- the response that is chosen among all that are declared can be followed -/
def SuccessFollowed (e : Document.Endpoint) : Prop :=
  ∃ i status item r, successIndex? e.operation.responses.keys = some i ∧
    e.operation.responses[i]? = some (status, item) ∧ st.components.response? item = some r

variable {st} {items : List (String × OrRef Document.Response)} {operation : String} {success : Option Nat}

theorem mem_answers {a : Answer} : a ∈ st.answers 0 items ↔
    ∃ item, items[a.number]? = some (a.status, item) ∧ st.components.response? item = some a.response := by
  obtain ⟨number, status, response⟩ := a
  simp only [answers, List.mem_filterMap, Prod.exists, List.mk_mem_zipIdx_iff_getElem?, Option.map_eq_some_iff,
    Answer.mk.injEq]
  constructor
  · rintro ⟨status, item, number, hitem, r, hr, rfl, rfl, rfl⟩
    exact ⟨item, hitem, hr⟩
  · rintro ⟨item, hitem, hr⟩
    exact ⟨status, item, number, hitem, response, hr, rfl, rfl, rfl⟩

/-- the answers stand in the order of the responses that are declared -/
theorem answers_rise (i : Nat) : (st.answers i items).Pairwise (·.number < ·.number) := by
  have hrise : (items.zipIdx i).Pairwise (·.2 < ·.2) := by
    rw [← List.pairwise_map (f := Prod.snd) (R := (· < ·)), List.zipIdx_map_snd]
    exact List.pairwise_lt_range'
  refine hrise.filterMap _ fun x y hxy a ha b hb => ?_
  obtain ⟨r, -, rfl⟩ := Option.map_eq_some_iff.1 ha
  obtain ⟨r', -, rfl⟩ := Option.map_eq_some_iff.1 hb
  exact hxy

/-- the responses of an operation are built of its answers, one by one -/
theorem responses_given (i : Nat) (b : Build) : List.Forall₂ (st.Gives operation success) (st.answers i items)
    ((st.responses operation success i items).run b).1 := by
  induction items generalizing i b with
  | nil => exact .nil
  | cons item items ih =>
    obtain ⟨status, item⟩ := item
    unfold Setting.responses
    rw [answers, List.zipIdx_cons, List.filterMap_cons]
    cases hitem : st.components.response? item with
    | none =>
      simp only [hitem, Option.map_none]
      exact ih (i + 1) _
    | some r =>
      simp only [hitem, Option.map_some]
      exact .cons ⟨b, rfl⟩ (ih (i + 1) _)

theorem statuses_given {answers : List Answer} {rs : List Response}
    (h : List.Forall₂ (st.Gives operation success) answers rs) : rs.map (·.status) = answers.map (·.status) := by
  induction h with
  | nil => rfl
  | cons hgives _ ih =>
    obtain ⟨b, rfl⟩ := hgives
    exact congrArg₂ List.cons rfl ih

/-! ## Both choices -/

/-- the answers have the statuses that are declared at their numbers -/
theorem status_at {a : Answer} (h : a ∈ st.answers 0 items) : (Keyed.keys items)[a.number]? = some a.status := by
  obtain ⟨item, hitem, -⟩ := mem_answers.1 h
  rw [Keyed.keys, List.getElem?_map, hitem, Option.map_some]

/-- the number of the success that is declared, if it could be followed, is chosen again among the answers -/
theorem successIndex?_answers {k : Nat} {a : Answer} (hk : (st.answers 0 items)[k]? = some a)
    (h : successIndex? (Keyed.keys items) = some a.number) :
    successIndex? ((st.answers 0 items).map (·.status)) = some k := by
  let kept := (st.answers 0 items).map fun a => (a.number, a.status)
  have hfirst : kept[k]? = some (a.number, a.status) := by rw [List.getElem?_map, hk, Option.map_some]
  have hkept : IsFirstBest successRank (kept.map (·.2)) k :=
    (successIndex?_eq_some_iff.1 h).kept (List.pairwise_map.2 (answers_rise 0))
      (List.forall_mem_map.2 fun a ha => status_at ha) hfirst
  rw [List.map_map] at hkept
  exact successIndex?_eq_some_iff.2 hkept

variable {e : Document.Endpoint} {op : Operation}

theorem Builds.gives (h : st.Builds e op) :
    List.Forall₂ (st.Gives (st.context e.path e.method e.operation) (successIndex? e.operation.responses.keys))
      (st.answers 0 e.operation.responses) op.responses := by
  obtain ⟨b, rfl⟩ := h
  exact responses_given 0 _

/-- of an operation that has responses, one is chosen -/
theorem success?_chosen (h : op.responses ≠ []) : ∃ k r, successIndex? (op.responses.map (·.status)) = some k ∧
    op.responses[k]? = some r ∧ op.success? = some r := by
  cases hchoice : successIndex? (op.responses.map (·.status)) with
  | none => exact absurd (List.map_eq_nil_iff.1 (successIndex?_eq_none_iff.1 hchoice)) h
  | some k =>
    obtain ⟨status, hstatus, -⟩ := successIndex?_eq_some_iff.1 hchoice
    rw [List.getElem?_map, Option.map_eq_some_iff] at hstatus
    obtain ⟨r, hr, -⟩ := hstatus
    refine ⟨k, r, rfl, hr, ?_⟩
    rw [Operation.success?, hchoice]
    exact hr

theorem successFollowed_iff : st.SuccessFollowed e ↔
    ∃ a ∈ st.answers 0 e.operation.responses, successIndex? e.operation.responses.keys = some a.number := by
  constructor
  · rintro ⟨i, status, item, r, hi, hitem, hr⟩
    exact ⟨⟨i, status, r⟩, mem_answers.2 ⟨item, hitem, hr⟩, hi⟩
  · rintro ⟨a, ha, hdeclared⟩
    obtain ⟨item, hitem, hr⟩ := mem_answers.1 ha
    exact ⟨a.number, a.status, item, a.response, hdeclared, hitem, hr⟩

theorem Builds.agrees_iff (h : st.Builds e op) : st.SuccessAgrees e op ↔ st.SuccessFollowed e := by
  rw [successFollowed_iff]
  constructor
  · rintro ⟨k, a, -, hk, hdeclared⟩
    exact ⟨a, List.mem_of_getElem? hk, hdeclared⟩
  · rintro ⟨a, ha, hdeclared⟩
    obtain ⟨k, hk⟩ := List.getElem?_of_mem ha
    refine ⟨k, a, ?_, hk, hdeclared⟩
    rw [statuses_given h.gives]
    exact successIndex?_answers hk hdeclared

end Setting

/-- **The two choices of the success.** Every response of an operation is built in the context of its answer, which
leaves the status out for the one that is chosen among all declared responses. If there are any responses, then one of
them is the success of the finished operation. It is the one that was named so exactly if the response that was chosen
among all declared ones could be followed. -/
theorem success_agrees_iff (d : Document) (naming : Config.Naming) (limit : Nat) :
    let st := setting d naming limit
    List.Forall₂ (fun (e : Document.Endpoint) (op : Operation) =>
        List.Forall₂ (st.Gives (st.context e.path e.method e.operation) (successIndex? e.operation.responses.keys))
            (st.answers 0 e.operation.responses) op.responses ∧
          (op.responses ≠ [] → ∃ k r, successIndex? (op.responses.map (·.status)) = some k ∧
            op.responses[k]? = some r ∧ op.success? = some r) ∧
          (st.SuccessAgrees e op ↔ st.SuccessFollowed e))
      d.endpoints (ofDocument d naming limit).1.operations :=
  (ofDocument_built d naming limit).imp fun _ _ h => ⟨h.gives, Setting.success?_chosen, h.agrees_iff⟩

/-! ## A success that cannot be followed -/

/-- the kinds of pets -/
def kindSchema : SchemaNode :=
  .schema { types := some (.one .string), literals := [.string "cat"] }

def petResponse : Document.Response where
  content := [(jsonMediaType, { schema := some kindSchema })]

/-- an operation that declares a success which leads nowhere, and another response beside it -/
def addOperation : Document.Operation where
  operationId := some "addPet"
  responses := [("200", .ref "#/components/responses/Pet"), ("201", .inline petResponse)]

def addDocument : Document where
  paths := [("/pets", { post := some addOperation })]

/-- the response that is left is the success of the operation, but its schema is named by its status -/
theorem added_pet_named_by_status :
    let operations := (ofDocument addDocument {} 100).1.operations
    operations.map (fun op => op.success?.bind (·.model)) = [some (.reference "AddPet201Response")] ∧
      ¬ List.Forall₂ (fun e op => op.responses ≠ [] → (setting addDocument {} 100).SuccessAgrees e op)
        addDocument.endpoints operations := by
  intro operations
  have hmodels : operations.map (fun op => op.success?.bind (·.model)) = [some (.reference "AddPet201Response")] := rfl
  have hendpoints : addDocument.endpoints = [⟨"/pets", [], .post, addOperation⟩] := rfl
  have hanswers : (setting addDocument {} 100).answers 0 addOperation.responses = [⟨1, "201", petResponse⟩] := rfl
  have hdeclared : successIndex? addOperation.responses.keys = some 0 := rfl
  refine ⟨hmodels, fun h => ?_⟩
  obtain ⟨op, hop, hsuccess⟩ := List.map_eq_singleton_iff.1 hmodels
  rw [hendpoints, hop] at h
  have hresponses : op.responses ≠ [] := by
    intro hnil
    rw [Operation.success?, hnil] at hsuccess
    cases hsuccess
  obtain ⟨k, a, -, hk, ha⟩ := (List.forall₂_cons.1 h).1 hresponses
  have hmem := List.mem_of_getElem? hk
  rw [hanswers, List.mem_singleton] at hmem
  rw [hmem, hdeclared] at ha
  cases ha

end Api

end ClientPlan
