/-
The state in which models are built: the table so far, the type names given away, and what has been noted.
-/
import ClientPlan.Model.Basic
import ClientPlan.Naming.Fresh
import ClientPlan.Notice

namespace ClientPlan

structure Build where
  /-- the named models, in the order in which they were finished -/
  table : Table := []
  names : ClaimedNames := .empty
  diagnostics : List Diagnostic := []
  notices : List Notice := []
  deriving Repr, Inhabited

/-- a computation that builds models -/
abbrev Building := StateM Build

/-- add a notice -/
def notice (n : Notice) : Building Unit :=
  modify fun b => { b with notices := b.notices ++ [n] }

/-- add a diagnostic, and the notice of it -/
def note (d : Diagnostic) : Building Unit :=
  modify fun b => { b with diagnostics := b.diagnostics ++ [d], notices := b.notices ++ [.problem d] }

/-- enter a model into the table under a name, which it takes on -/
def enter (name : String) (m : Model) : Building Unit :=
  modify fun b => { b with table := Keyed.insert b.table name { m with name := some name } }

/-- give away a type name made from `base` -/
def claimName (base : String) : Building String :=
  modifyGet fun b => ((b.names.claim base).1, { b with names := (b.names.claim base).2 })

/-- give an inline model a name of its own, if it is to have one, and refer to it -/
def promote (context : String) (m : Model) : Building Model := do
  if m.isPromotable then
    let name ← claimName context
    notice (.promoted context name)
    enter name m
    return { Model.reference name with nullable := m.nullable }
  else return m

end ClientPlan
