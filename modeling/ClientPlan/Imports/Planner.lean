/-
Which symbols a file imports and what they are called there. A symbol is imported once into a file; if its name is taken
there, by another import or by what the file declares itself, it gets an alias. Files know nothing of each other.
-/
import ClientPlan.Imports.ModulePath
import ClientPlan.Keyed
import ClientPlan.Naming.Fresh
import ClientPlan.Notice

namespace ClientPlan.Imports

/-- a symbol that a file needs from a module -/
structure Requirement where
  module : String
  symbol : String
  localName : Option String
  deriving DecidableEq, Repr, Inhabited

/-- the name by which the file knows the symbol -/
def Requirement.bound (r : Requirement) : String :=
  r.localName.getD r.symbol

/-- the top-level directories of the generated tree -/
structure Tree where
  roots : List String
  deriving DecidableEq, Repr, Inhabited

/-- the tree of the given files -/
def Tree.ofPaths (paths : List String) : Tree :=
  ⟨paths.filterMap fun p => (Text.pieces '/' p).head?⟩

/-- the path of a module inside the tree, if it lies there; `package` names the tree from outside -/
def Tree.inside? (tree : Tree) (package module : String) : Option String :=
  let packaged :=
    if package = "" then none
    else if module = package then some ""
    else Text.afterStart? (package ++ ".") module
  packaged <|>
    if (Text.pieces '.' module).head?.any tree.roots.contains then some module else none

/-- the imports of one file -/
structure File where
  /-- in the order in which they were asked for -/
  requirements : List Requirement := []
  /-- the names that are taken in the file -/
  bound : List String := []
  deriving DecidableEq, Repr, Inhabited

/-- the name for a symbol whose wanted name is taken: the module's last segment before it, and a number if need be -/
def File.aliasFor (f : File) (module symbol : String) : String :=
  let base := typeName (((Text.pieces '.' module).getLast?).getD module) ++ symbol
  freshName f.bound base

/-- the requirement for a symbol of a module -/
def File.find? (f : File) (module symbol : String) : Option Requirement :=
  f.requirements.find? fun r => r.module == module && r.symbol == symbol

/-- import a symbol into a file that has not imported it -/
def File.require (f : File) (module symbol : String) (bound : String) : File :=
  ⟨f.requirements ++ [⟨module, symbol, if bound = symbol then none else some bound⟩], bound :: f.bound⟩

structure Planner where
  tree : Tree
  package : String := ""
  files : Keyed File := []
  /-- the file that imports are for -/
  current : String := ""
  notices : List Notice := []
  deriving Repr, Inhabited

namespace Planner

/-- the imports of a file -/
def file (p : Planner) (path : String) : File :=
  (Keyed.get? p.files path).getD {}

/-- the imports asked for by a file, in order -/
def requirements (p : Planner) (path : String) : List Requirement :=
  (p.file path).requirements

/-- make a file the one that imports are for -/
def setCurrent (p : Planner) (path : String) : Planner :=
  { p with current := path, files := Keyed.insert p.files path (p.file path) }

/-- take a name in the current file for something that it declares itself -/
def declare (p : Planner) (name : String) : Planner :=
  let f := p.file p.current
  { p with files := Keyed.insert p.files p.current { f with bound := name :: f.bound } }

/-- the module is the current file itself -/
def isCurrent (p : Planner) (module : String) : Bool :=
  moduleToFile ((p.tree.inside? p.package module).getD module) == p.current

/-- import a symbol into the current file and tell its name there; a file imports nothing from itself -/
def add (p : Planner) (module symbol : String) (localName : Option String) : String × Planner :=
  if p.isCurrent module then (symbol, p) else
    let f := p.file p.current
    match f.find? module symbol with
    | some r => (r.bound, p)
    | none =>
      let wanted := localName.getD symbol
      let bound := if f.bound.contains wanted then f.aliasFor module symbol else wanted
      let notices := if bound = wanted then [] else [Notice.aliased p.current symbol module bound]
      (bound, { p with
        files := Keyed.insert p.files p.current (f.require module symbol bound)
        notices := p.notices ++ notices })

end Planner

end ClientPlan.Imports
