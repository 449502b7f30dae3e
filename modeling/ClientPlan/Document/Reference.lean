/-
References. A schema reference names a component schema, with slashes and tildes of the name escaped; a reference to
another section names its entry as written. Following a reference goes from entry to entry until something that is
not a reference, and gives up where a reference comes again.
-/
import ClientPlan.Document.Basic

namespace ClientPlan

/-- a name with its escapes resolved: `~1` is a slash and `~0` a tilde -/
def unescape : List Char → List Char
  | '~' :: '1' :: rest => '/' :: unescape rest
  | '~' :: '0' :: rest => '~' :: unescape rest
  | c :: rest => c :: unescape rest
  | [] => []

/-- a name with its tildes and slashes escaped -/
def escape : List Char → List Char
  | [] => []
  | c :: rest => (if c = '~' then ['~', '0'] else if c = '/' then ['~', '1'] else [c]) ++ escape rest

/-- the places where a schema reference may point -/
def schemaSections : List String :=
  ["#/components/schemas/", "#/definitions/"]

/-- the component that a schema reference names -/
def schemaName? (path : String) : Option String := do
  let raw ← schemaSections.findSome? (Text.afterStart? · path)
  if raw.isEmpty || raw.toList.contains '/' then none
  else some (String.ofList (unescape raw.toList))

/-- the component of a kind that a reference names -/
def sectionKey? (kind path : String) : Option String := do
  let rest ← Text.afterStart? "#/components/" path
  let rest ← Text.afterStart? kind rest
  Text.afterStart? "/" rest

/-- the reference to a component of a kind, with its key as written -/
def sectionPath (kind key : String) : String :=
  "#/components/" ++ (kind ++ ("/" ++ key))

theorem sectionKey?_eq_some_iff {kind path key : String} :
    sectionKey? kind path = some key ↔ path = sectionPath kind key := by
  simp only [sectionKey?, sectionPath, Option.bind_eq_bind, Option.bind_eq_some_iff, Text.afterStart?_eq_some_iff]
  constructor
  · rintro ⟨_, rfl, _, rfl, rfl⟩
    rfl
  · rintro rfl
    exact ⟨_, rfl, _, rfl, rfl⟩

namespace OrRef

variable {α : Type}

/-- the entry that a reference leads to -/
def next? (kind : String) (entries : Keyed (OrRef α)) (path : String) : Option (OrRef α) := do
  entries.get? (← sectionKey? kind path)

theorem next?_eq_some_iff {kind : String} {entries : Keyed (OrRef α)} {path : String} {item : OrRef α} :
    next? kind entries path = some item ↔ ∃ key, path = sectionPath kind key ∧ entries.get? key = some item := by
  simp only [next?, Option.bind_eq_bind, Option.bind_eq_some_iff, sectionKey?_eq_some_iff]

/-- the thing that an item stands for, if none of the references on the way to it was `seen` before -/
@[semireducible]
def followPast (kind : String) (entries : Keyed (OrRef α)) (seen : List String) (item : OrRef α) : Option α :=
  match item with
  | inline a => some a
  | ref path =>
    if _hs : path ∈ seen then none
    else match _hn : next? kind entries path with
      | some item => item.followPast kind entries (path :: seen)
      | none => none
termination_by entries.unseen (seen.filterMap (sectionKey? kind))
decreasing_by
  -- a new reference that leads on names an entry that none of the references before it names
  obtain ⟨key, rfl, hget⟩ := next?_eq_some_iff.1 _hn
  rw [List.filterMap_cons_some (sectionKey?_eq_some_iff.2 rfl)]
  refine Keyed.unseen_cons_lt (Keyed.mem_keys_of_get? hget) fun hmem => ?_
  obtain ⟨path, hpath, hkey⟩ := List.mem_filterMap.1 hmem
  exact _hs (sectionKey?_eq_some_iff.1 hkey ▸ hpath)

/-- the thing that an item stands for; nothing if its references dangle, leave the section or run in a circle -/
def follow (kind : String) (entries : Keyed (OrRef α)) (item : OrRef α) : Option α :=
  item.followPast kind entries []

end OrRef

namespace Document

/-- components of a document that may have none -/
def Components.orEmpty (c : Option Components) : Components :=
  c.getD {}

/-- the parameter that an item stands for -/
def Components.parameter? (c : Components) (item : OrRef Parameter) : Option Parameter :=
  item.follow "parameters" c.parameters

/-- the request body that an item stands for -/
def Components.requestBody? (c : Components) (item : OrRef RequestBody) : Option RequestBody :=
  item.follow "requestBodies" c.requestBodies

/-- the response that an item stands for -/
def Components.response? (c : Components) (item : OrRef Response) : Option Response :=
  item.follow "responses" c.responses

end Document

end ClientPlan
