/-
Files do not leak into each other. However the calls for several files are interleaved, a file has in the end what it
has when the calls for it are all that is asked, and every import into it is answered the same (`files_independent`).
-/
import ClientPlan.Proofs.Imports.Runs

namespace ClientPlan.Imports.Planner

/-- the names that are told in answer to calls, each with the file it is told for -/
def answers (p : Planner) : List Call → List (String × String)
  | [] => []
  | .add module symbol localName :: calls =>
    (p.current, (p.add module symbol localName).1) :: answers (p.add module symbol localName).2 calls
  | c :: calls => answers (p.step c) calls

/-- a file is made current, and then the calls for it are made, but none for other files -/
def alone (path : String) (calls : List Call) : List Call :=
  .setCurrent path :: callsFor path "" calls

/-- the planner `q` only knows the file `path`, and knows of it what `p` does -/
structure Mirrors (path : String) (p q : Planner) : Prop where
  tree : q.tree = p.tree
  package : q.package = p.package
  current : q.current = path
  file : q.file path = p.file path

variable {path : String} {p q : Planner}

/-- what `p` does to other files is no matter -/
theorem Mirrors.elsewhere (h : Mirrors path p q) (c : Call) (hfile : (p.step c).file path = p.file path) :
    Mirrors path (p.step c) q := by
  obtain ⟨htree, hpackage⟩ := step_frame p c
  exact ⟨h.tree.trans htree.symm, h.package.trans hpackage.symm, h.current, h.file.trans hfile.symm⟩

/-- making a file current changes no file -/
theorem Mirrors.setCurrent (h : Mirrors path p q) (other : String) : Mirrors path (p.setCurrent other) q :=
  h.elsewhere (.setCurrent other) (file_setCurrent _ _ _)

/-- both declare the name -/
theorem Mirrors.declare (h : Mirrors path p q) (hp : p.current = path) (name : String) :
    Mirrors path (p.declare name) (q.declare name) := by
  refine ⟨h.tree, h.package, h.current, ?_⟩
  rw [file_declare, file_declare, if_pos h.current.symm, if_pos hp.symm, h.current, hp, h.file]

/-- both import the symbol, and are told the same name -/
theorem Mirrors.add (h : Mirrors path p q) (hp : p.current = path) (module symbol : String)
    (localName : Option String) :
    (q.add module symbol localName).1 = (p.add module symbol localName).1 ∧
      Mirrors path (p.add module symbol localName).2 (q.add module symbol localName).2 := by
  have hsame : q.isCurrent module = p.isCurrent module :=
    isCurrent_congr h.tree h.package (h.current.trans hp.symm) module
  obtain ⟨hptree, hppackage, -⟩ := @add_frame p module symbol localName
  obtain ⟨hqtree, hqpackage, hqcurrent⟩ := @add_frame q module symbol localName
  have htold : (q.add module symbol localName).1 = (p.add module symbol localName).1 := by
    rw [told_add, told_add, hsame, h.current, hp, h.file]
  have hfile : (q.add module symbol localName).2.file path = (p.add module symbol localName).2.file path := by
    rw [file_add, file_add, hsame, h.current, hp, h.file]
  refine ⟨htold, ?_, ?_, ?_, hfile⟩
  · rw [hqtree, hptree, h.tree]
  · rw [hqpackage, hppackage, h.package]
  · rw [hqcurrent, h.current]

/-- **A run and its part for one file.** A planner that is only asked what is asked for one file mirrors the planner
that is asked everything, and gives the answers that are given for that file. -/
theorem Mirrors.run (h : Mirrors path p q) (calls : List Call) :
    Mirrors path (p.run calls) (q.run (callsFor path p.current calls)) ∧
      answers q (callsFor path p.current calls) = (answers p calls).filter (·.1 == path) := by
  induction calls generalizing p q with
  | nil => exact ⟨h, rfl⟩
  | cons c calls ih =>
    cases c with
    | setCurrent other => exact ih (h.setCurrent other)
    | declare name =>
      rw [callsFor]
      split_ifs with hp
      · exact ih (h.declare hp name)
      · exact ih (h.elsewhere (.declare name) (step_elsewhere _ hp))
    | add module symbol localName =>
      obtain ⟨-, -, hcurrent⟩ := @add_frame p module symbol localName
      rw [callsFor, answers, List.filter_cons, run_cons, step]
      split_ifs with hp hkept hkept
      · obtain ⟨htold, hnext⟩ := h.add hp module symbol localName
        have hrest := ih hnext
        rw [hcurrent] at hrest
        refine ⟨hrest.1, ?_⟩
        rw [answers, hrest.2, htold, h.current, hp]
      · exact absurd (beq_iff_eq.2 hp) hkept
      · exact absurd (beq_iff_eq.1 hkept) hp
      · have hrest := ih (h.elsewhere (.add module symbol localName) (step_elsewhere _ hp))
        rw [step, hcurrent] at hrest
        exact hrest

/-- what a file requires decides what its block prints -/
theorem Mirrors.block (h : Mirrors path p q) (package : String) : q.block path package = p.block path package := by
  rw [Planner.block, Planner.block, requirements, requirements, h.file, h.tree]

/-- **No leak between files.** After any calls for whichever files, a file requires what it requires when only the
calls for it are made, its imports are answered the same, and its block is the same under every package. -/
theorem files_independent (tree : Tree) (package : String) (calls : List Call) (path : String) :
    let p := (new tree package).run calls
    let q := (new tree package).run (alone path calls)
    p.requirements path = q.requirements path ∧
      (answers (new tree package) calls).filter (·.1 == path) = answers (new tree package) (alone path calls) ∧
      ∀ root, p.block path root = q.block path root := by
  intro p q
  have hstart : Mirrors path (new tree package) ((new tree package).setCurrent path) :=
    ⟨rfl, rfl, rfl, file_setCurrent _ _ _⟩
  obtain ⟨hmirrors, hanswers⟩ := hstart.run calls
  refine ⟨?_, hanswers.symm, fun root => (hmirrors.block root).symm⟩
  exact (congrArg File.requirements hmirrors.file).symm

end ClientPlan.Imports.Planner
