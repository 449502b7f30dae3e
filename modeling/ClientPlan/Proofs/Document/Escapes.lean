/-
Escapes in references. In a reference a tilde of a name is written `~0` and a slash `~1`. A reader that resolves `~1`
first and then `~0` undoes this for every name, also for one that looks like an escape itself (`unescape_escape`), and
it may as well resolve both in one pass (`unescape_eq_replacePair`). References to schemas are read in this way
(`schema_names_restored`). References to the other components are not: the key in them is taken as it is written, so
that a key is found under its escaped spelling only as long as there is nothing to escape (`escaped_keys_found_iff`).
-/
import ClientPlan.Proofs.Document.Following

namespace ClientPlan

namespace Text

/-- the text with `new` in the place of every `c` -/
def replaceChar (c : Char) (new cs : List Char) : List Char :=
  cs.flatMap fun d => if d = c then new else [d]

/-- the text with `new` in the place of every `a` that a `b` follows, from the left -/
def replacePair (a b new : Char) : List Char → List Char
  | x :: y :: rest => if x = a ∧ y = b then new :: replacePair a b new rest else x :: replacePair a b new (y :: rest)
  | cs => cs

variable {a b new c x y : Char} {cs rest : List Char}

theorem replaceChar_cons : replaceChar c cs (x :: rest) = (if x = c then cs else [x]) ++ replaceChar c cs rest :=
  List.flatMap_cons

theorem replacePair_pair : replacePair a b new (a :: b :: rest) = new :: replacePair a b new rest := by
  rw [replacePair, if_pos ⟨rfl, rfl⟩]

/-- a character that no pair begins with stays -/
theorem replacePair_cons (h : x = a → rest.head? ≠ some b) :
    replacePair a b new (x :: rest) = x :: replacePair a b new rest := by
  cases rest with
  | nil => rfl
  | cons y rest =>
    rw [replacePair, if_neg]
    rintro ⟨hx, rfl⟩
    exact h hx rfl

/-- a text begins with what it began with, or else with what was put in -/
theorem head?_replacePair (a b new : Char) (cs : List Char) :
    (replacePair a b new cs).head? = cs.head? ∨ (replacePair a b new cs).head? = some new := by
  fun_cases replacePair a b new cs with
  | case1 x y rest h => exact Or.inr rfl
  | case2 x y rest h => exact Or.inl rfl
  | case3 => exact Or.inl rfl

end Text

/-! ## Escaping and resolving -/

/-- a name with its tildes escaped first, and then its slashes -/
def escaped (name : String) : String :=
  String.ofList (Text.replaceChar '/' ['~', '1'] (Text.replaceChar '~' ['~', '0'] name.toList))

section Escape

variable {c : Char} {cs : List Char}

theorem escape_cons_other (htilde : c ≠ '~') (hslash : c ≠ '/') : escape (c :: cs) = c :: escape cs := by
  rw [escape, if_neg htilde, if_neg hslash]
  rfl

theorem unescape_cons (h : c ≠ '~') : unescape (c :: cs) = c :: unescape cs := by
  rw [unescape] <;> simp [h]

/-- what is escaped character by character is escaped in two passes -/
theorem escape_eq_replaceChar (cs : List Char) :
    escape cs = Text.replaceChar '/' ['~', '1'] (Text.replaceChar '~' ['~', '0'] cs) := by
  induction cs with
  | nil => rfl
  | cons c cs ih =>
    rw [escape, ih, Text.replaceChar_cons]
    by_cases htilde : c = '~'
    · rw [if_pos htilde, if_pos htilde]
      rfl
    · rw [if_neg htilde, if_neg htilde]
      exact Text.replaceChar_cons.symm

@[simp] theorem toList_escaped (name : String) : (escaped name).toList = escape name.toList := by
  rw [escaped, String.toList_ofList, escape_eq_replaceChar]

/-- **Two passes are one.** Resolving the escaped slashes first makes no new escape of a tilde. -/
theorem unescape_eq_replacePair (cs : List Char) :
    unescape cs = Text.replacePair '~' '0' '~' (Text.replacePair '~' '1' '/' cs) := by
  fun_induction unescape cs with
  | case1 rest ih => rw [ih, Text.replacePair_pair, Text.replacePair_cons fun h => absurd h (by decide)]
  | case2 rest ih =>
    have hslashes : Text.replacePair '~' '1' '/' ('~' :: '0' :: rest) =
        '~' :: '0' :: Text.replacePair '~' '1' '/' rest := by
      rw [Text.replacePair_cons fun _ => by simp, Text.replacePair_cons fun h => absurd h (by decide)]
    rw [ih, hslashes, Text.replacePair_pair]
  | case3 c rest hslash htilde ih =>
    have hone : c = '~' → rest.head? ≠ some '1' := by
      rintro rfl hhead
      obtain ⟨rest', rfl⟩ := List.head?_eq_some_iff.1 hhead
      exact hslash rest' rfl rfl
    have hzero : c = '~' → (Text.replacePair '~' '1' '/' rest).head? ≠ some '0' := by
      rintro rfl hhead
      rcases Text.head?_replacePair '~' '1' '/' rest with hsame | hnew
      · obtain ⟨rest', rfl⟩ := List.head?_eq_some_iff.1 (hsame.symm.trans hhead)
        exact htilde rest' rfl rfl
      · rw [hhead] at hnew
        exact absurd hnew (by decide)
    rw [ih, Text.replacePair_cons hone, Text.replacePair_cons hzero]
  | case4 => rfl

/-- **Resolving undoes escaping.** -/
@[simp] theorem unescape_escape (cs : List Char) : unescape (escape cs) = cs := by
  induction cs with
  | nil => rfl
  | cons c cs ih =>
    by_cases htilde : c = '~'
    · subst htilde
      exact congrArg ('~' :: ·) ih
    · by_cases hslash : c = '/'
      · subst hslash
        exact congrArg ('/' :: ·) ih
      · rw [escape_cons_other htilde hslash, unescape_cons htilde, ih]

theorem escaped_ne_empty {name : String} (h : name ≠ "") : escaped name ≠ "" := by
  intro hempty
  have hescape : escape name.toList = [] := by rw [← toList_escaped, hempty, String.toList_empty]
  have hnil : name.toList = [] := by rw [← unescape_escape name.toList, hescape, unescape]
  exact h (String.toList_eq_nil_iff.1 hnil)

theorem slash_notMem_escape (cs : List Char) : '/' ∉ escape cs := by
  induction cs with
  | nil => exact List.not_mem_nil
  | cons c cs ih =>
    rw [escape, List.mem_append, not_or]
    refine ⟨?_, ih⟩
    split_ifs with htilde hslash
    · decide
    · decide
    · simpa using fun h => hslash h.symm

theorem length_le_escape (cs : List Char) : cs.length ≤ (escape cs).length := by
  induction cs with
  | nil => exact Nat.le_refl _
  | cons c cs ih =>
    rw [escape, List.length_append, List.length_cons]
    split_ifs <;> simp <;> omega

/-- there is nothing to escape exactly in names without tildes and slashes -/
theorem escape_eq_self_iff : escape cs = cs ↔ '~' ∉ cs ∧ '/' ∉ cs := by
  induction cs with
  | nil => simp [escape]
  | cons c cs ih =>
    have hle := length_le_escape cs
    by_cases htilde : c = '~'
    · subst htilde
      refine iff_of_false (fun h => ?_) (by simp)
      have hlength := congrArg List.length h
      simp [escape] at hlength
      omega
    · by_cases hslash : c = '/'
      · subst hslash
        exact iff_of_false (by simp [escape]) (by simp)
      · rw [escape_cons_other htilde hslash, List.cons_inj_right, ih]
        simp [Ne.symm htilde, Ne.symm hslash]

theorem escaped_eq_self_iff {name : String} : escaped name = name ↔ '~' ∉ name.toList ∧ '/' ∉ name.toList := by
  rw [← String.toList_inj, toList_escaped, escape_eq_self_iff]

end Escape

/-! ## References to schemas -/

theorem findSome?_schemaSections {path raw : String} :
    schemaSections.findSome? (Text.afterStart? · path) = some raw ↔ ∃ start ∈ schemaSections, path = start ++ raw := by
  constructor
  · intro h
    obtain ⟨start, hstart, hraw⟩ := List.exists_of_findSome?_eq_some h
    exact ⟨start, hstart, Text.afterStart?_eq_some_iff.1 hraw⟩
  · rintro ⟨start, hstart, rfl⟩
    -- no reference begins with both
    have hother : Text.afterStart? "#/components/schemas/" ("#/definitions/" ++ raw) = none := by
      rw [Text.afterStart?, String.toList_append]
      rfl
    rcases List.mem_pair.1 hstart with rfl | rfl
    · rw [schemaSections, List.findSome?_cons, Text.afterStart?_eq_some_iff.2 rfl]
    · rw [schemaSections, List.findSome?_cons, hother, List.findSome?_cons, Text.afterStart?_eq_some_iff.2 rfl]

/-- a reference names a schema exactly if a text without slashes follows the beginning, and this is resolved -/
theorem schemaName?_eq_some_iff {path name : String} : schemaName? path = some name ↔
    ∃ start ∈ schemaSections, ∃ raw : String, path = start ++ raw ∧ raw ≠ "" ∧ '/' ∉ raw.toList ∧
      name = String.ofList (unescape raw.toList) := by
  have hkept : ∀ raw : String, ((if (raw.isEmpty || raw.toList.contains '/') = true then none
      else some (String.ofList (unescape raw.toList))) = some name ↔
        raw ≠ "" ∧ '/' ∉ raw.toList ∧ name = String.ofList (unescape raw.toList)) := by
    intro raw
    rw [Option.ite_none_left_eq_some, Bool.or_eq_true, not_or, String.isEmpty_iff, List.contains_iff_mem, and_assoc,
      Option.some.injEq, eq_comm (b := name)]
  simp only [schemaName?, Option.bind_eq_bind, Option.bind_eq_some_iff, findSome?_schemaSections, hkept]
  constructor
  · rintro ⟨raw, ⟨start, hstart, hpath⟩, hraw⟩
    exact ⟨start, hstart, raw, hpath, hraw⟩
  · rintro ⟨start, hstart, raw, hpath, hraw⟩
    exact ⟨raw, ⟨start, hstart, hpath⟩, hraw⟩

/-- **Names of schemas come back from references.** After either beginning, every name is read back from its escaped
form, and every other text without slashes is read by resolving the slashes in it and then the tildes. A reference names
no schema exactly if nothing or something with a slash follows, or if it begins with neither. -/
theorem schema_names_restored :
    (∀ start ∈ ["#/components/schemas/", "#/definitions/"],
      (∀ name : String, name ≠ "" → schemaName? (start ++ escaped name) = some name) ∧
      ∀ raw : String, raw ≠ "" → '/' ∉ raw.toList → schemaName? (start ++ raw) =
        some (String.ofList (Text.replacePair '~' '0' '~' (Text.replacePair '~' '1' '/' raw.toList)))) ∧
    ∀ path, schemaName? path = none ↔
      ∀ start ∈ ["#/components/schemas/", "#/definitions/"], ∀ raw : String, path = start ++ raw →
        raw = "" ∨ '/' ∈ raw.toList := by
  refine ⟨fun start hstart => ⟨fun name hname => ?_, fun raw hraw hfree => ?_⟩,
    fun path => ⟨fun hnone => ?_, fun h => ?_⟩⟩
  · refine schemaName?_eq_some_iff.2 ⟨start, hstart, escaped name, rfl, escaped_ne_empty hname, ?_, ?_⟩
    · rw [toList_escaped]
      exact slash_notMem_escape _
    · rw [toList_escaped, unescape_escape, String.ofList_toList]
  · rw [← unescape_eq_replacePair]
    exact schemaName?_eq_some_iff.2 ⟨start, hstart, raw, rfl, hraw, hfree, rfl⟩
  · intro start hstart raw hpath
    by_contra hnot
    rw [not_or] at hnot
    cases hnone.symm.trans (schemaName?_eq_some_iff.2 ⟨start, hstart, raw, hpath, hnot.1, hnot.2, rfl⟩)
  · refine Option.eq_none_iff_forall_ne_some.2 fun name hname => ?_
    obtain ⟨start, hstart, raw, hpath, hempty, hfree, -⟩ := schemaName?_eq_some_iff.1 hname
    exact (h start hstart raw hpath).elim hempty hfree

/-- a name that looks like an escape comes back, and is not taken for a path of two names -/
theorem schema_names_restored_lookalike :
    "a~1/~01" ≠ "" ∧ escaped "a~1/~01" = "a~01~1~001" ∧
      schemaName? ("#/definitions/" ++ escaped "a~1/~01") = some "a~1/~01" ∧
      schemaName? "#/definitions/a~1/~01" = none := by
  obtain ⟨hread, hnone⟩ := schema_names_restored
  refine ⟨by decide, by decide, (hread "#/definitions/" (by simp)).1 _ (by decide), (hnone _).2 ?_⟩
  intro start hstart raw hpath
  rw [← Text.afterStart?_eq_some_iff] at hpath
  rcases List.mem_pair.1 hstart with rfl | rfl
  · cases hpath
  · cases hpath
    exact Or.inr (by decide)

/-! ## References to other components -/

namespace OrRef

variable {α : Type} {kind : String} {entries : Keyed (OrRef α)} {key : String}

/-- a reference to an entry stands for what the entry stands for -/
theorem follow_sectionPath (kind : String) (entries : Keyed (OrRef α)) (key : String) :
    (OrRef.ref (sectionPath kind key)).follow kind entries = (entries.get? key).bind (follow kind entries) := by
  ext a
  rw [Option.bind_eq_some_iff]
  simp only [follow_eq_some_iff]
  constructor
  · intro hleads
    rcases Relation.ReflTransGen.cases_head hleads with heq | ⟨target, ⟨key', hkey, hget⟩, hrest⟩
    · cases heq
    · obtain rfl := sectionPath_injective kind (OrRef.ref.inj hkey)
      exact ⟨target, hget, hrest⟩
  · rintro ⟨target, hget, hrest⟩
    exact .head ⟨key, rfl, hget⟩ hrest

/-- a reference with the escaped key of an entry stands for what the entry stands for -/
def FindsEscaped (kind : String) (entries : Keyed (OrRef α)) (lookUp : OrRef α → Option α) (key : String) : Prop :=
  ∀ item, entries.get? key = some item → lookUp (.ref (sectionPath kind (escaped key))) = lookUp item

/-- an entry stands for the same thing as the one whose key is its own key in escaped form, as if it had two keys -/
def Doubled (entries : Keyed (OrRef α)) (lookUp : OrRef α → Option α) (key : String) : Prop :=
  ∀ item, entries.get? key = some item → (entries.get? (escaped key)).bind lookUp = lookUp item

theorem findsEscaped_iff : FindsEscaped kind entries (follow kind entries) key ↔
    ('~' ∈ key.toList ∨ '/' ∈ key.toList → Doubled entries (follow kind entries) key) := by
  have hdoubled : FindsEscaped kind entries (follow kind entries) key ↔ Doubled entries (follow kind entries) key := by
    simp only [FindsEscaped, Doubled, follow_sectionPath]
  rw [hdoubled]
  refine ⟨fun h _ => h, fun h => ?_⟩
  by_cases hspecial : '~' ∈ key.toList ∨ '/' ∈ key.toList
  · exact h hspecial
  · intro item hitem
    rw [escaped_eq_self_iff.2 (not_or.1 hspecial), hitem, Option.bind_some]

end OrRef

namespace Document

/-- in all sections, the entry of a key is found under the escaped form of the key -/
def Components.FindsEscaped (c : Components) (key : String) : Prop :=
  OrRef.FindsEscaped "parameters" c.parameters c.parameter? key ∧
    OrRef.FindsEscaped "requestBodies" c.requestBodies c.requestBody? key ∧
    OrRef.FindsEscaped "responses" c.responses c.response? key

/-- in all sections, the entry of a key stands for the same thing as the one under the escaped form of the key -/
def Components.Doubled (c : Components) (key : String) : Prop :=
  OrRef.Doubled c.parameters c.parameter? key ∧ OrRef.Doubled c.requestBodies c.requestBody? key ∧
    OrRef.Doubled c.responses c.response? key

/-- **Escaped keys are taken as they are written.** The entry of a key is found under the escaped form of the key if
there is nothing to escape in it, or if the components happen to have the same thing under that form as well. So a key
is found in all components exactly if there are no tildes and no slashes in it. -/
theorem escaped_keys_found_iff (key : String) :
    (∀ c : Components, c.FindsEscaped key ↔ ('~' ∈ key.toList ∨ '/' ∈ key.toList → c.Doubled key)) ∧
      ((∀ c : Components, c.FindsEscaped key) ↔ '~' ∉ key.toList ∧ '/' ∉ key.toList) := by
  have hiff : ∀ c : Components, c.FindsEscaped key ↔ ('~' ∈ key.toList ∨ '/' ∈ key.toList → c.Doubled key) := by
    intro c
    simp only [Components.Doubled, imp_and]
    exact and_congr OrRef.findsEscaped_iff (and_congr OrRef.findsEscaped_iff OrRef.findsEscaped_iff)
  refine ⟨hiff, fun h => ?_, fun h c => (hiff c).2 fun hspecial => absurd hspecial (not_or.2 h)⟩
  rw [← escaped_eq_self_iff]
  by_contra hne
  -- a single entry has no second key
  let c : Components := { responses := [(key, .inline {})] }
  have hmissed := (h c).2.2 (.inline {}) (by rw [Keyed.get?_cons, if_pos rfl])
  have hnone : c.response? (.ref (sectionPath "responses" (escaped key))) = none := by
    rw [Components.response?, OrRef.follow_sectionPath, Keyed.get?_cons, if_neg hne]
    rfl
  rw [hnone] at hmissed
  cases hmissed

/-- a limit for lists of pets, under a key that has a slash in it -/
def limitComponents : Components where
  parameters := [("pets/limit", .inline { name := "limit", location := .query })]

/-- a parameter is not found under the escaped form of its key, in which a schema of the same name is found -/
theorem escaped_slash_missed :
    ¬ limitComponents.FindsEscaped "pets/limit" ∧
      (limitComponents.parameter? (.ref "#/components/parameters/pets~1limit")).isNone = true ∧
      (limitComponents.parameter? (.inline { name := "limit", location := .query })).isSome = true ∧
      schemaName? "#/components/schemas/pets~1limit" = some "pets/limit" := by
  have hmissed : (limitComponents.parameter? (.ref "#/components/parameters/pets~1limit")).isNone = true := by decide
  refine ⟨fun h => ?_, hmissed, rfl, by decide⟩
  have hsame := h.1 (.inline { name := "limit", location := .query }) rfl
  have hpath : sectionPath "parameters" (escaped "pets/limit") = "#/components/parameters/pets~1limit" := by decide
  rw [hpath] at hsame
  rw [hsame] at hmissed
  cases hmissed

end Document

end ClientPlan
