/-
Words of a name and the two ways of writing them. A name is cut at every character that is not alphanumeric, before a
capital that follows a small letter, and before the last capital of a run that a small letter follows, so that
`HTTPServer_v2` has the words `HTTP`, `Server` and `v2`. A character without case takes the case of the one before it.
-/
import ClientPlan.Text.Alphanumeric
import ClientPlan.Text.LetterCase
import ClientPlan.Text.CaseMap
import ClientPlan.Text.Cut

namespace ClientPlan.Text

/-- case of the word so far -/
inductive Mode where
  | fresh
  | lower
  | upper
  deriving DecidableEq, Repr

/-- case of the word once `c` has joined it -/
def Mode.after (mode : Mode) (c : Char) : Mode :=
  if isLower c then .lower else if isUpper c then .upper else mode

/-- words of a piece without separators; `word` is the present word so far, last character first -/
def humps (mode : Mode) (word : List Char) : List Char → List (List Char)
  | [] => []
  | [c] => [(c :: word).reverse]
  | c :: next :: rest =>
    if mode.after c = .lower && isUpper next then
      (c :: word).reverse :: humps .fresh [] (next :: rest)
    else if mode = .upper && isUpper c && isLower next then
      word.reverse :: humps .fresh [c] (next :: rest)
    else
      humps (mode.after c) (c :: word) (next :: rest)

/-- words of a name -/
def words (name : List Char) : List (List Char) :=
  (cut (fun c => !isAlphanumeric c) name).flatMap (humps .fresh [])

/-- a word in lower case; a capital sigma at its end becomes the final sigma -/
def lowerWord : List Char → List Char
  | [] => []
  | ['Σ'] => ['ς']
  | c :: rest => lower c ++ lowerWord rest

/-- a word with its first letter in upper case and the others in lower case -/
def capitalWord : List Char → List Char
  | [] => []
  | c :: rest => upper c ++ lowerWord rest

/-- `list_all_pets`: lower-case words joined by underscores -/
def snake (name : List Char) : List Char :=
  ['_'].intercalate ((words name).map lowerWord)

/-- `ListAllPets`: capitalised words without anything between them -/
def pascal (name : List Char) : List Char :=
  (words name).flatMap capitalWord

end ClientPlan.Text
