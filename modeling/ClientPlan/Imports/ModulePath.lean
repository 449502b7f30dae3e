/-
Files and modules of the generated tree. The file `models/pet` is the module `models.pet`; seen from a file, a module
has a relative path, where one dot stands for the directory of the file and every further dot for the directory above.
-/
import ClientPlan.Text.Cut

namespace ClientPlan

/-- the module that a file is -/
def fileToModule (file : String) : String :=
  Text.join "." (Text.segments '/' file)

/-- the file that a module is -/
def moduleToFile (module : String) : String :=
  Text.join "/" (Text.segments '.' module)

/-- length of the common start of two lists -/
def sharedLength : List String → List String → Nat
  | a :: as, b :: bs => if a = b then sharedLength as bs + 1 else 0
  | _, _ => 0

/-- so many dots -/
def dots (n : Nat) : String :=
  String.ofList (List.replicate n '.')

/-- a module as seen from a file: how many dots it takes, and the segments after them -/
def relativeParts (file module : String) : Nat × List String :=
  let directory := (Text.segments '/' file).dropLast
  let target := Text.segments '.' module
  let shared := sharedLength directory target
  (1 + (directory.length - shared), target.drop shared)

/-- the relative path of a module as seen from a file -/
def relativeModule (file module : String) : String :=
  let (depth, suffix) := relativeParts file module
  dots depth ++ Text.join "." suffix

/-- the number of dots that a module path begins with -/
def relativeDepth (module : String) : Nat :=
  (module.toList.takeWhile (· == '.')).length

end ClientPlan
