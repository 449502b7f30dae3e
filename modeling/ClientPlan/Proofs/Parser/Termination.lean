/-
Every walk ends. Nothing but its own state bounds the recursion of a parser, and neither the nodes that it walks over
nor its depth ever shrink for good: a reference jumps to another component with the depth counted from 0 again, members
of `allOf` merge into larger schemas, and components lead back to themselves. What does shrink is, in this order, the
components that are not on the stack, the levels that the depth leaves, the components that are not being merged, and
the node (`sim_component`, `sim_descend`, `sim_merge`).

Between public calls the stacks are empty and the depth is 0, and this is all that the parser needs: from every such
state, whatever its table, names, numbers and diagnostics are, each public call ends (`idle_calls_end`).
-/
import ClientPlan.Proofs.Parser.Simulation

namespace ClientPlan.Parser

open Input

/-- the parser stands between public calls -/
structure Idle (w : Parser) : Prop where
  resolving : w.resolving = []
  merging : w.merging = []
  depth : w.depth = 0

/-- where a parser stands, and nothing about what is in its state -/
def located (src : Source) : Tracking src where
  At r mg d b w := w.toBuild = b ∧ w.resolving = r ∧ w.merging = mg ∧ w.depth = d
  toBuild h := h.1
  resolving h := h.2.1
  merging h := h.2.2.1
  depth h := h.2.2.2
  noticed := by rintro r mg d _ w n ⟨rfl, h⟩ _; exact ⟨rfl, h⟩
  noted := by rintro r mg d _ w x ⟨rfl, h⟩; exact ⟨rfl, h⟩
  promoted := by rintro r mg d _ w context m ⟨rfl, h⟩; exact ⟨rfl, h⟩
  pushed := by rintro _ _ _ _ w name ⟨rfl, rfl, rfl, rfl⟩; exact ⟨rfl, rfl, rfl, rfl⟩
  popped := by rintro r mg d _ w name ⟨rfl, hr, hmg, hd⟩; exact ⟨rfl, hr, congrArg List.tail hmg, hd⟩
  lowered := by rintro _ _ _ _ w ⟨rfl, rfl, rfl, rfl⟩; exact ⟨rfl, rfl, rfl, rfl⟩
  raised := by rintro r mg d _ w ⟨rfl, hr, hmg, hd⟩; exact ⟨rfl, hr, hmg, congrArg (· - 1) hd⟩
  opened := by rintro _ _ _ _ w name ⟨rfl, rfl, rfl, rfl⟩ _ _; exact ⟨rfl, rfl, rfl, rfl⟩
  closed := by rintro r mg d _ w name m ⟨rfl, hr, hmg, -⟩ _; exact ⟨rfl, congrArg List.tail hr, hmg, rfl⟩

/-- from `w` the computation of the parser ends between public calls, with the result and in the state of the other
one, which is a total function of the state -/
def EndsAs {α : Type} (w : Parser) (f : Parsing α) (c : Building α) : Prop :=
  ∃ w', f.run w = some ((c.run w.toBuild).1, w') ∧ w'.toBuild = (c.run w.toBuild).2 ∧ w'.Idle

theorem Sim.endsAs {α : Type} {src : Source} {f : Parsing α} {c : Building α} (h : Sim (located src) [] [] 0 f c)
    {w : Parser} (hw : w.Idle) : EndsAs w f c := by
  obtain ⟨w', hrun, hbuild, hresolving, hmerging, hdepth⟩ := h w.toBuild w ⟨rfl, hw.resolving, hw.merging, hw.depth⟩
  exact ⟨w', hrun, hbuild, hresolving, hmerging, hdepth⟩

/-- **Walks end.** Whatever the components, the limit and the state between public calls are, parsing all components,
asking for any name and parsing any schema in any context end, again between public calls. -/
theorem idle_calls_end (src : Source) {w : Parser} (hw : w.Idle) :
    EndsAs w (parseComponents src) src.parseComponents ∧
      (∀ name, EndsAs w (ensureNamed src name) (src.ensure name)) ∧
      ∀ context n, EndsAs w (parseNested src context n) (src.nested context n) :=
  ⟨(sim_parseComponents _).endsAs hw, fun name => (sim_component _ [] name 0).endsAs hw,
    fun context n => (sim_parseNested _ context n).endsAs hw⟩

/-- a component that is made of itself, two that stand for each other, and a reference that leads nowhere -/
def tangledSource : Source where
  components := [
    ("List", .schema {
      allOf := [.ref "#/components/schemas/List", .ref "#/components/schemas/Gone"]
      properties := [("next", .schema { allOf := [.ref "#/components/schemas/List", .schema {}] })] }),
    ("Left", .ref "#/components/schemas/Right"),
    ("Right", .ref "#/components/schemas/Left")]
  limit := 3

/-- a parser that has an entry for one of these components already, and a diagnostic -/
def halfwayParser : Parser :=
  { new tangledSource with table := [("Left", .placeholder)], diagnostics := [⟨"List", .malformed⟩] }

theorem idle_calls_end_halfway :
    halfwayParser.Idle ∧ EndsAs halfwayParser (parseComponents tangledSource) tangledSource.parseComponents ∧
      (∀ name, EndsAs halfwayParser (ensureNamed tangledSource name) (tangledSource.ensure name)) ∧
      ∀ context n, EndsAs halfwayParser (parseNested tangledSource context n) (tangledSource.nested context n) :=
  ⟨⟨rfl, rfl, rfl⟩, idle_calls_end tangledSource ⟨rfl, rfl, rfl⟩⟩

end ClientPlan.Parser
