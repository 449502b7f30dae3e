/-
Envelopes. A response body is an envelope if it is an object with exactly one of the container properties and otherwise
only metadata; its payload is the model of the container property. References on the way to the object are followed,
and a circle of them leads nowhere.
-/
import ClientPlan.Config
import ClientPlan.Model.Basic

namespace ClientPlan

/-- the model that references lead to, if none of them names one that was `seen` on the way here -/
def Model.derefPast (t : Table) (seen : List String) (m : Model) : Option Model :=
  match m.target? with
  | none => some m
  | some name =>
    if _hs : name ∈ seen then none
    else match _ht : Keyed.get? t name with
      | some target => target.derefPast t (name :: seen)
      | none => none
termination_by Keyed.unseen t seen
decreasing_by exact Keyed.unseen_cons_lt (Keyed.mem_keys_of_get? _ht) _hs

/-- the model that references lead to; nothing if they dangle or run in a circle -/
def Model.deref (t : Table) (m : Model) : Option Model :=
  m.derefPast t []

namespace Config.Envelope

/-- the payload among the properties of an object -/
def payloadOf (rule : Envelope) (properties : Keyed Model) : Option Model :=
  match properties.filter (fun e => rule.containers.contains e.1) with
  | [(container, payload)] =>
    if properties.all fun e => e.1 == container || rule.metadata.contains e.1 then some payload else none
  | _ => none

/-- the payload of a body, if the body is an envelope -/
def payload? (rule : Envelope) (t : Table) (m : Model) : Option Model :=
  if rule.enabled then (m.deref t).bind fun body => rule.payloadOf body.properties else none

end Config.Envelope

end ClientPlan
