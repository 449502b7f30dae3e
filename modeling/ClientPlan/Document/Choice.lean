/-
Choices among the alternatives that a document offers: the media type of a body and the status of a successful call.
Each ranks the alternatives and takes the first one of the best rank.
-/
import ClientPlan.Document.Basic

namespace ClientPlan

/-- `part` occurs in the text -/
def occursIn (part : List Char) : List Char → Bool
  | [] => part.isEmpty
  | c :: cs => part.isPrefixOf (c :: cs) || occursIn part cs

/-- the JSON media type -/
def jsonMediaType : String := "application/json"

/-- the media type of an event stream -/
def eventStreamMediaType : String := "text/event-stream"

/-- the media type to read: JSON, else one that mentions JSON, else an event stream, else the first -/
def selectMediaType {α : Type} (content : Keyed α) : Option (String × α) :=
  content.find? (·.1 == jsonMediaType)
    <|> content.find? (fun e => occursIn "json".toList e.1.toList)
    <|> content.find? (·.1 == eventStreamMediaType)
    <|> content.head?

/-- the media type to send: JSON, else the first -/
def selectBodyType {α : Type} (content : Keyed α) : Option (String × α) :=
  content.find? (·.1 == jsonMediaType) <|> content.head?

/-- three digits, the first of which is 2 -/
def isSuccessCode (code : String) : Bool :=
  match code.toList with
  | ['2', b, c] => b.isDigit && c.isDigit
  | _ => false

/-- the class of all successful codes, in any case -/
def isSuccessClass (code : String) : Bool :=
  code.toList.map Char.toLower == ['2', 'x', 'x']

/-- the position of the status of a successful call: 200, else another code from 200 to 299, else their class, else the
default, else the first -/
def successIndex? (codes : List String) : Option Nat :=
  codes.findIdx? (· == "200")
    <|> codes.findIdx? isSuccessCode
    <|> codes.findIdx? isSuccessClass
    <|> codes.findIdx? (· == "default")
    <|> (if codes.isEmpty then none else some 0)

end ClientPlan
