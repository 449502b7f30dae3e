/-
What a computation that builds models does to the state. `Leads P c Q` says that `c` keeps the invariant `P` and that
`Q` relates the state before it, its result and the state after it; the rules of `Leads` follow the ways in which such
computations are put together. Each of the four writes to the state (`noticed`, `noted`, `entered`, `promoted`) is a
function of its own, so that an invariant has to be checked for these four only.
-/
import Mathlib.Tactic.SplitIfs
import ClientPlan.Model.Build

namespace ClientPlan

namespace Build

/-! ## The writes -/

/-- the state with a notice added -/
def noticed (b : Build) (n : Notice) : Build :=
  { b with notices := b.notices ++ [n] }

/-- the state with a diagnostic added -/
def noted (b : Build) (d : Diagnostic) : Build :=
  { b with diagnostics := b.diagnostics ++ [d], notices := b.notices ++ [.problem d] }

/-- the state with a model entered into the table -/
def entered (b : Build) (name : String) (m : Model) : Build :=
  { b with table := Keyed.insert b.table name { m with name := some name } }

/-- the name that the next model promoted in `context` gets -/
def nextName (b : Build) (context : String) : String :=
  (b.names.claim context).1

/-- the state after an inline model got a name of its own -/
def promoted (b : Build) (context : String) (m : Model) : Build :=
  { b with
    names := (b.names.claim context).2
    notices := b.notices ++ [.promoted context (b.nextName context)]
    table := Keyed.insert b.table (b.nextName context) { m with name := some (b.nextName context) } }

/-- the reference that takes the place of a promoted model -/
def stub (b : Build) (context : String) (m : Model) : Model :=
  { Model.reference (b.nextName context) with nullable := m.nullable }

end Build

theorem run_promote {m : Model} (hm : m.isPromotable = true) (context : String) (b : Build) :
    (promote context m).run b = (b.stub context m, b.promoted context m) := by
  unfold promote
  rw [if_pos hm]
  rfl

theorem promote_of_not {m : Model} (hm : m.isPromotable = false) (context : String) : promote context m = pure m := by
  unfold promote
  rw [hm]
  rfl

/-! ## Computations and their effect -/

/-- the computation keeps `P`, and `Q` holds of the state before, the result and the state after -/
def Leads {α : Type} (P : Build → Prop) (c : Building α) (Q : Build → α → Build → Prop) : Prop :=
  ∀ b, P b → P (c.run b).2 ∧ Q b (c.run b).1 (c.run b).2

namespace Leads

variable {α : Type} {P : Build → Prop} {c : Building α} {Q Q' : Build → α → Build → Prop}

theorem mono (h : Leads P c Q) (hQ : ∀ b a b', Q b a b' → Q' b a b') : Leads P c Q' :=
  fun b hb => ⟨(h b hb).1, hQ _ _ _ (h b hb).2⟩

theorem pure {a : α} (h : ∀ b, P b → Q b a b) : Leads P (pure a) Q :=
  fun b hb => ⟨hb, h b hb⟩

theorem discard {R : Build → Unit → Build → Prop} (hc : Leads P c Q) (hR : ∀ b a b', Q b a b' → R b () b') :
    Leads P (discard c) R :=
  fun b hb => ⟨(hc b hb).1, hR _ _ _ (hc b hb).2⟩

end Leads

end ClientPlan
