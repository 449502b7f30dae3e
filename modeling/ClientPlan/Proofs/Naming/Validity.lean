/-
Identifiers can stand as they are. Whatever a name consists of, what is made from it is not empty, begins with no digit
and is no reserved word, which a type name is not in any case either; and of an ASCII name, it is of ASCII letters,
digits and underscores (`identifiers_valid`).
-/
import ClientPlan.Proofs.Naming.Ascii
import ClientPlan.Proofs.Naming.Pascal

namespace ClientPlan

/-- a text that can stand as an identifier, where `reserved` tells the words that cannot -/
structure IsIdentifier (reserved : String → Bool) (s : String) : Prop where
  ne_empty : s ≠ ""
  noDigit : ∀ c ∈ s.toList.head?, c.isDigit = false
  free : reserved s = false

/-! ## Mending -/

theorem noDigit_mended (cased : List Char) : ∀ c ∈ (mended cased).head?, c.isDigit = false := by
  fun_cases mended cased with
  | case1 c cs hdigit => simp
  | case2 c cs hdigit => simpa using hdigit
  | case3 => simp

theorem noDigit_finished (reserved : String → Bool) {cased : List Char} (h : cased ≠ []) :
    ∀ c ∈ (finished reserved cased).head?, c.isDigit = false := by
  obtain ⟨d, ds, hds⟩ := List.exists_cons_of_ne_nil (mended_ne_nil h)
  have hhead := noDigit_mended cased
  rw [finished, hds]
  rw [hds] at hhead
  exact hhead

/-- **Mending a name makes an identifier of it**, if no word is reserved that ends with an underscore, and not the one
that stands for nothing. -/
theorem isIdentifier_asIdentifier {reserved : String → Bool} (hunnamed : reserved "unnamed" = false)
    (hscore : ∀ cs, reserved (String.ofList (cs ++ ['_'])) = false) (cased : List Char) :
    IsIdentifier reserved (asIdentifier reserved cased) := by
  by_cases hnil : cased = []
  · have heq : asIdentifier reserved cased = "unnamed" := by rw [hnil]; rfl
    exact heq ▸ ⟨by decide, by simp, hunnamed⟩
  · refine ⟨asIdentifier_ne_empty reserved cased, ?_, ?_⟩
    · rw [asIdentifier_of_ne_nil reserved hnil, String.toList_ofList]
      exact noDigit_finished reserved hnil
    · rw [asIdentifier_of_ne_nil reserved hnil, finished]
      cases hreserved : reserved (String.ofList (mended cased)) with
      | true => exact hscore (mended cased)
      | false => simpa using hreserved

theorem underscore_notMem_reservedWords : ∀ w ∈ reservedWords, '_' ∉ w.toList := by
  decide

theorem not_reserved_of_underscore {s : String} (h : '_' ∈ s.toList) : reservedWords.contains s = false := by
  by_contra hreserved
  rw [Bool.not_eq_false, List.contains_iff_mem] at hreserved
  exact underscore_notMem_reservedWords s hreserved h

/-- an underscore is one in lower case, too -/
theorem not_isReservedType_of_underscore {cs : List Char} (h : '_' ∈ cs) :
    isReservedType (String.ofList cs) = false := by
  refine not_reserved_of_underscore ?_
  rw [Text.lowerText, String.toList_ofList, String.toList_ofList]
  exact Text.mem_lowerAfter h (by decide) (by decide)

theorem isIdentifier_typeName (name : String) : IsIdentifier isReservedType (typeName name) :=
  isIdentifier_asIdentifier (by decide) (fun _ => not_isReservedType_of_underscore (by simp)) _

theorem isIdentifier_memberName (name : String) : IsIdentifier reservedWords.contains (memberName name) :=
  isIdentifier_asIdentifier (by decide) (fun _ => not_reserved_of_underscore (by simp)) _

/-! ## Characters of ASCII names -/

theorem mem_finished {reserved : String → Bool} {cased : List Char} {c : Char} (h : c ∈ finished reserved cased) :
    c = '_' ∨ c ∈ cased := by
  rcases List.mem_append.1 h with h | h
  · exact mem_mended h
  · split_ifs at h
    · exact Or.inl (List.mem_singleton.1 h)
    · cases h

theorem mem_memberName_ascii {name : String} (hname : Text.Ascii name.toList) {c : Char}
    (h : c ∈ (memberName name).toList) : c.isLower = true ∨ c.isDigit = true ∨ c = '_' := by
  rw [memberName_eq, String.toList_ofList] at h
  rcases mem_finished h with hscore | h
  · exact Or.inr (Or.inr hscore)
  · rcases Text.mem_intercalate h with hscore | ⟨w, hw, hc⟩
    · exact Or.inr (Or.inr hscore)
    · obtain ⟨⟨-, halpha⟩, hupper⟩ := isLow_of_mem_spelling hname w hw c hc
      change ((c.isUpper || c.isLower) || c.isDigit) = true at halpha
      rw [hupper, Bool.false_or, Bool.or_eq_true] at halpha
      exact halpha.imp_right Or.inl

theorem mem_typeName_ascii {name : String} (hname : Text.Ascii name.toList) {c : Char}
    (h : c ∈ (typeName name).toList) : c.isAlphanum = true ∨ c = '_' := by
  have hunnamed : ∀ c ∈ "unnamed".toList, c.isAlphanum = true := by simp
  rcases mem_asIdentifier h with hscore | h | h
  · exact Or.inr hscore
  · exact Or.inl (hunnamed c h)
  · exact Or.inl (Text.isSimple_of_mem_pascal hname c h).2

/-- **Identifiers are identifiers**, whatever they are made from; and what is made from ASCII is of ASCII letters,
digits and underscores. -/
theorem identifiers_valid (name : String) :
    IsIdentifier isReservedType (typeName name) ∧ IsIdentifier reservedWords.contains (memberName name) ∧
      IsIdentifier reservedWords.contains (moduleName name) ∧
      (Text.Ascii name.toList →
        (∀ c ∈ (typeName name).toList, c.isAlphanum = true ∨ c = '_') ∧
          ∀ c ∈ (memberName name).toList, c.isLower = true ∨ c.isDigit = true ∨ c = '_') :=
  ⟨isIdentifier_typeName name, isIdentifier_memberName name, isIdentifier_memberName name,
    fun hname => ⟨fun _ => mem_typeName_ascii hname, fun _ => mem_memberName_ascii hname⟩⟩

/-- a digit that comes first when the dash is gone, and a word that is reserved when it is in lower case -/
theorem identifiers_valid_mended :
    typeName "-3D-" = "_3d" ∧ memberName "IMPORT!" = "import_" ∧
      ∀ name ∈ ["-3D-", "IMPORT!"], IsIdentifier isReservedType (typeName name) ∧
        IsIdentifier reservedWords.contains (memberName name) ∧
          ∀ c ∈ (memberName name).toList, c.isLower = true ∨ c.isDigit = true ∨ c = '_' := by
  refine ⟨by decide, by decide, fun name hname => ?_⟩
  have hascii : ∀ name ∈ ["-3D-", "IMPORT!"], Text.Ascii name.toList := by decide
  obtain ⟨htype, hmember, -, hchars⟩ := identifiers_valid name
  exact ⟨htype, hmember, (hchars (hascii name hname)).2⟩

end ClientPlan
