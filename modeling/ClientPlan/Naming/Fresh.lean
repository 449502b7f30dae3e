/-
Names that are not taken yet. A taken name gets a number from 2 on, the first one that gives a free name; among as many
numbers as there are taken names, and one more, one is always free.
-/
import ClientPlan.Keyed
import ClientPlan.Naming.Identifier

namespace ClientPlan

/-- the first free number from `k` on; after `tries` numbers that are not free, the next one -/
def firstFree (free : Nat → Bool) : (tries : Nat) → (k : Nat) → Nat
  | 0, k => k
  | tries + 1, k => if free k then k else firstFree free tries (k + 1)

/-- a free name: `base`, or else `base` with the first number from 2 on that is free -/
def freshName (taken : List String) (base : String) : String :=
  if taken.contains base then
    base ++ toString (firstFree (fun k => !taken.contains (base ++ toString k)) taken.length 2)
  else base

/-- type names that have been given away -/
structure ClaimedNames where
  names : List String
  deriving DecidableEq, Repr, Inhabited

namespace ClaimedNames

/-- no name given away -/
def empty : ClaimedNames :=
  ⟨[]⟩

/-- give away a component's name, as written and as a type name -/
def reserve (claimed : ClaimedNames) (name : String) : ClaimedNames :=
  ⟨typeName name :: name :: claimed.names⟩

/-- a free type name made from `base`, and the names with it -/
def claim (claimed : ClaimedNames) (base : String) : String × ClaimedNames :=
  let name := freshName claimed.names (typeName base)
  (name, ⟨name :: claimed.names⟩)

end ClaimedNames

/-- names taken while a list is made distinct, and for each repeated name the number to try next -/
structure Distinct where
  taken : List String := []
  next : Keyed Nat := []
  deriving DecidableEq, Repr, Inhabited

/-- a name as it stands in the list, or with a free number if it is taken -/
def Distinct.add (d : Distinct) (name : String) : String × Distinct :=
  if d.taken.contains name then
    let start := (Keyed.get? d.next name).getD 2
    let k := firstFree (fun i => !d.taken.contains s!"{name}_{i}") d.taken.length start
    let unique := s!"{name}_{k}"
    (unique, ⟨unique :: d.taken, Keyed.insert d.next name (k + 1)⟩)
  else (name, { d with taken := name :: d.taken })

/-- names made distinct from those in `d` and from each other -/
def Distinct.addAll (d : Distinct) : List String → List String
  | [] => []
  | name :: names => (d.add name).1 :: (d.add name).2.addAll names

/-- names made distinct in order: the first of a kind keeps its name -/
def distinctNames (names : List String) : List String :=
  Distinct.addAll {} names

end ClientPlan
