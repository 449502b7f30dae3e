/-
Envelopes, said without a search. A reference hops to the entry that it names, and a model leads to one that is no
reference if finitely many hops go there (`Leads`). The walk that follows references keeps the names that it has passed
and gives up where one comes again. It loses nothing by that: such a name stands on a circle, and from a circle nothing
is led to (`Leads.not_circle`). So the walk finds exactly what a model leads to (`deref_eq_some_iff`), in at most as
many hops as the table has entries (`Walks.length_le`), and the result of an operation is taken out of an envelope
exactly where the rule for envelopes says so (`result_opened`).
-/
import Mathlib.Data.List.Perm.Subperm
import ClientPlan.Descriptor.OfModel
import ClientPlan.Proofs.Sequences

namespace ClientPlan

namespace Model

open Relation

/-! ## Where references lead -/

/-- a reference goes to the entry that it names -/
def Hop (t : Table) (m target : Model) : Prop :=
  ∃ name, m.target? = some name ∧ Keyed.get? t name = some target

/-- finitely many hops go to a model that is no reference -/
def Leads (t : Table) (m body : Model) : Prop :=
  ReflTransGen (Hop t) m body ∧ body.target? = none

section Leads

variable {t : Table} {m target body : Model} {seen : List String}

theorem hop_unique : Relator.RightUnique (Hop t) := by
  rintro m target target' ⟨name, hname, hget⟩ ⟨name', hname', hget'⟩
  cases hname.symm.trans hname'
  exact Option.some.inj (hget.symm.trans hget')

theorem not_hop (hend : body.target? = none) : ¬ Hop t body target := by
  rintro ⟨name, hname, -⟩
  cases hend.symm.trans hname

/-- a model on a circle of references leads nowhere -/
theorem Leads.not_circle (h : m.Leads t body) : ¬ TransGen (Hop t) m m :=
  not_circle_of_end hop_unique h.1 fun _ => not_hop h.2

/-! ## The walk -/

theorem derefPast_end (hend : m.target? = none) : m.derefPast t seen = some m := by
  rw [derefPast]
  split
  · rfl
  · next name hname => cases hend.symm.trans hname

theorem derefPast_hop {name : String} (hname : m.target? = some name) (hnew : name ∉ seen)
    (hget : Keyed.get? t name = some target) : m.derefPast t seen = target.derefPast t (name :: seen) := by
  rw [derefPast]
  split
  · next hend => cases hend.symm.trans hname
  · next name' hname' =>
    cases hname.symm.trans hname'
    rw [dif_neg hnew]
    split
    · next target' hget' => cases hget.symm.trans hget'; rfl
    · next hnone => cases hnone.symm.trans hget

theorem leads_of_derefPast (h : m.derefPast t seen = some body) : m.Leads t body := by
  fun_induction derefPast t seen m with
  | case1 seen m hend =>
    obtain rfl := Option.some.inj h
    exact ⟨.refl, hend⟩
  | case2 => cases h
  | case3 seen m name hname _ target hget ih =>
    obtain ⟨hhops, hend⟩ := ih h
    exact ⟨.head ⟨name, hname, hget⟩ hhops, hend⟩
  | case4 => cases h

/-- the walk arrives, if the entries with the names that it has passed all led to where it is -/
theorem derefPast_of_leads (h : m.Leads t body)
    (hseen : ∀ name ∈ seen, ∀ target, Keyed.get? t name = some target → ReflTransGen (Hop t) target m) :
    m.derefPast t seen = some body := by
  obtain ⟨hhops, hend⟩ := h
  induction hhops using ReflTransGen.head_induction_on generalizing seen with
  | refl => exact derefPast_end hend
  | @head m target hhop hrest ih =>
    obtain ⟨name, hname, hget⟩ := id hhop
    -- a name that comes again would close a circle
    have hnew : name ∉ seen := fun hmem =>
      Leads.not_circle ⟨hrest, hend⟩ (TransGen.tail' (hseen name hmem target hget) hhop)
    rw [derefPast_hop hname hnew hget]
    refine ih fun key hkey entry hentry => ?_
    rcases List.mem_cons.1 hkey with rfl | hkey
    · cases hget.symm.trans hentry
      exact .refl
    · exact .tail (hseen key hkey entry hentry) hhop

/-- **The walk finds what a model leads to**, over chains of any length, and nothing else. -/
theorem deref_eq_some_iff : m.deref t = some body ↔ m.Leads t body :=
  ⟨leads_of_derefPast, fun h => derefPast_of_leads h fun name hname => by cases hname⟩

/-- the walk from a model has come to another one, past the names in `seen` -/
inductive Walks (t : Table) (m : Model) : List String → Model → Prop
  | start : Walks t m [] m
  | hop {seen : List String} {current target : Model} {name : String} (h : Walks t m seen current)
      (hname : current.target? = some name) (hnew : name ∉ seen) (hget : Keyed.get? t name = some target) :
      Walks t m (name :: seen) target

/-- what the walk finds does not change on the way -/
theorem Walks.deref_eq (h : m.Walks t seen target) : m.deref t = target.derefPast t seen := by
  induction h with
  | start => rfl
  | hop _ hname hnew hget ih => rw [ih, derefPast_hop hname hnew hget]

/-- the walk passes every entry at most once -/
theorem Walks.length_le (h : m.Walks t seen target) : seen.length ≤ t.length := by
  have hpassed : seen.Nodup ∧ seen ⊆ Keyed.keys t := by
    induction h with
    | start => exact ⟨.nil, List.nil_subset _⟩
    | hop _ _ hnew hget ih =>
      exact ⟨List.nodup_cons.2 ⟨hnew, ih.1⟩, List.cons_subset.2 ⟨Keyed.mem_keys_of_get? hget, ih.2⟩⟩
  calc seen.length
    _ ≤ (Keyed.keys t).length := (hpassed.1.subperm hpassed.2).length_le
    _ = t.length := List.length_map _

end Leads

end Model

/-! ## Envelopes -/

namespace Config.Envelope

/-- an object with one container property, whose model is the payload, and nothing but metadata beside it -/
def Wraps (rule : Envelope) (body payload : Model) : Prop :=
  ∃ before container after required additional,
    body.shape = .object (before ++ (container, payload) :: after) required additional ∧
      container ∈ rule.containers ∧ ∀ e ∈ before ++ after, e.1 ∉ rule.containers ∧ e.1 ∈ rule.metadata

/-- the rule takes the payload out of a body: the body leads to an object that wraps it -/
def Opens (rule : Envelope) (t : Table) (m payload : Model) : Prop :=
  rule.enabled = true ∧ ∃ body, m.Leads t body ∧ rule.Wraps body payload

variable {rule : Envelope} {t : Table} {m body payload : Model}

/-- exactly one property is a container -/
theorem containers_eq_singleton {properties : Keyed Model} {e : String × Model} :
    properties.filter (fun e => rule.containers.contains e.1) = [e] ↔
      ∃ before after, properties = before ++ e :: after ∧ e.1 ∈ rule.containers ∧
        ∀ o ∈ before ++ after, o.1 ∉ rule.containers := by
  simp only [List.filter_eq_cons_iff, List.filter_eq_nil_iff, List.contains_iff_mem, List.forall_mem_append]
  refine exists_congr fun before => exists_congr fun after => and_congr_right fun _ => ?_
  exact and_left_comm

/-- the search among the properties: the container comes first, and then everything beside it is looked at -/
theorem payloadOf_eq_some_iff {properties : Keyed Model} : rule.payloadOf properties = some payload ↔
    ∃ container, properties.filter (fun e => rule.containers.contains e.1) = [(container, payload)] ∧
      ∀ e ∈ properties, e.1 = container ∨ e.1 ∈ rule.metadata := by
  unfold payloadOf
  constructor
  · intro h
    split at h
    · next container found hfilter =>
      split_ifs at h with hall
      cases h
      exact ⟨container, hfilter, by simpa using hall⟩
    · cases h
  · rintro ⟨container, hfilter, hall⟩
    rw [hfilter]
    dsimp only
    rw [if_pos (by simpa using hall)]

theorem wraps_iff : rule.Wraps body payload ↔
    ∃ before container after, body.properties = before ++ (container, payload) :: after ∧
      container ∈ rule.containers ∧ ∀ e ∈ before ++ after, e.1 ∉ rule.containers ∧ e.1 ∈ rule.metadata := by
  obtain ⟨name, shape, format, nullable, description⟩ := body
  unfold Wraps
  cases shape <;> simp [Model.properties]

/-- looking for the container first and for metadata then comes to the same: a name in both lists is no metadata -/
theorem payloadOf_properties : rule.payloadOf body.properties = some payload ↔ rule.Wraps body payload := by
  rw [payloadOf_eq_some_iff, wraps_iff]
  constructor
  · rintro ⟨container, hfilter, hall⟩
    obtain ⟨before, after, hproperties, hcontainer, hothers⟩ := containers_eq_singleton.1 hfilter
    refine ⟨before, container, after, hproperties, hcontainer, fun e he => ⟨hothers e he, ?_⟩⟩
    have hmem : e ∈ body.properties := by
      rw [hproperties, List.mem_append, List.mem_cons]
      exact (List.mem_append.1 he).imp_right Or.inr
    exact (hall e hmem).resolve_left fun heq => hothers e he (heq ▸ hcontainer)
  · rintro ⟨before, container, after, hproperties, hcontainer, hothers⟩
    have hfilter := containers_eq_singleton.2 ⟨before, after, hproperties, hcontainer, fun e he => (hothers e he).1⟩
    refine ⟨container, hfilter, fun e he => ?_⟩
    rw [hproperties, List.mem_append, List.mem_cons] at he
    rcases he with he | rfl | he
    · exact Or.inr (hothers e (List.mem_append_left _ he)).2
    · exact Or.inl rfl
    · exact Or.inr (hothers e (List.mem_append_right _ he)).2

/-- **The payload of a body** is found exactly if the rule takes it out. -/
theorem payload?_eq_some_iff : rule.payload? t m = some payload ↔ rule.Opens t m payload := by
  unfold payload? Opens
  split_ifs with henabled
  · simp only [Option.bind_eq_some_iff, Model.deref_eq_some_iff, payloadOf_properties, henabled, true_and]
  · simp [henabled]

end Config.Envelope

namespace Api

/-- **Envelopes are opened as the rule says.** The result of an operation is the payload of its body, marked as such, if
references lead from the body to an object with one container property and otherwise only metadata, and the rule is
enabled; in every other case it is the type of the body itself. The walk along the references ends, as it makes at most
as many hops as the table has entries. -/
theorem result_opened (op : Operation) (t : Table) (rule : Config.Envelope) {m : Model}
    (hm : op.success?.bind (·.model) = some m) :
    (∀ payload, rule.Opens t m payload → op.result t rule = (payload.descriptor t true, true)) ∧
    ((∀ payload, ¬ rule.Opens t m payload) → op.result t rule = (m.descriptor t true, false)) ∧
    ∀ seen target, m.Walks t seen target → m.deref t = target.derefPast t seen ∧ seen.length ≤ t.length := by
  refine ⟨fun payload hopens => ?_, fun hnone => ?_, fun seen target hwalk => ⟨hwalk.deref_eq, hwalk.length_le⟩⟩
  · rw [Operation.result, hm]
    dsimp only
    rw [Config.Envelope.payload?_eq_some_iff.2 hopens]
  · have hpayload : rule.payload? t m = none :=
      Option.eq_none_iff_forall_ne_some.2 fun payload hsome =>
        hnone payload (Config.Envelope.payload?_eq_some_iff.1 hsome)
    rw [Operation.result, hm]
    dsimp only
    rw [hpayload]

/-! ## Pages of pets -/

/-- a page is a body with pets and a count, and two models stand for each other -/
def pageTable : Table :=
  [("Page", .reference "Body"),
    ("Body", .of (.object [("meta", .scalar .integer), ("data", .of (.array (some (.reference "Pet"))))] [] none)),
    ("Pet", .of (.object [] [] none)), ("Here", .reference "There"), ("There", .reference "Here")]

/-- an operation that answers with a model of the table -/
def answering (name : String) : Operation :=
  { (default : Operation) with responses := [⟨"200", none, some jsonMediaType, some (.reference name), false⟩] }

/-- a container that is listed as metadata too -/
def pageRule : Config.Envelope where
  containers := ["data", "items"]
  metadata := ["data", "meta"]

/-- pets are taken out of a page, and a circle of references is left as it is -/
theorem result_opened_page :
    (answering "Page").success?.bind (·.model) = some (.reference "Page") ∧
      (answering "Page").result pageTable pageRule = (.list (.named "Pet"), true) ∧
      (answering "Here").success?.bind (·.model) = some (.reference "Here") ∧
      (answering "Here").result pageTable pageRule = (.named "Here", false) := by
  have hopens : pageRule.Opens pageTable (.reference "Page") (.of (.array (some (.reference "Pet")))) :=
    ⟨rfl, _, ⟨.head ⟨"Page", rfl, rfl⟩ (.single ⟨"Body", rfl, rfl⟩), rfl⟩,
      [("meta", .scalar .integer)], "data", [], [], none, rfl, by decide, by decide⟩
  have hcircle : ∀ payload, ¬ pageRule.Opens pageTable (.reference "Here") payload := by
    rintro payload ⟨-, body, hleads, -⟩
    exact hleads.not_circle (.head ⟨"Here", rfl, rfl⟩ (.single ⟨"There", rfl, rfl⟩))
  exact ⟨rfl, (result_opened (answering "Page") pageTable pageRule rfl).1 _ hopens, rfl,
    (result_opened (answering "Here") pageTable pageRule rfl).2.1 hcircle⟩

end Api

end ClientPlan
