/-
Listed literals. A literal fits a kind, and an integer fits the numbers as well (`Json.Fits`). The kinds of some
literals sort them: every literal fits one of them, none is there in vain, and the integers have no kind of their own
beside other numbers (`literalKinds_sort`). So the model of a schema that lists literals is an enumeration if these are
of one kind, be it only because some of them are integers among numbers, and otherwise a union of the kinds. In both it
has kept all literals but null, in their order, and null has made it nullable (`listed_literals_kept`).
-/
import ClientPlan.Proofs.Model.Forms
import ClientPlan.Proofs.Sequences

namespace ClientPlan

/-- a literal is of a kind; an integer is also a number -/
inductive Json.Fits : Json → Scalar → Prop
  | string (s : String) : Fits (.string s) .string
  | boolean (b : Bool) : Fits (.bool b) .boolean
  | integer (n : Int) : Fits (.number (.integer n)) .integer
  | number (n : Number) : Fits (.number n) .number
  | array (items : List Json) : Fits (.array items) .any
  | object (entries : List (String × Json)) : Fits (.object entries) .any

/-- the kinds of some literals -/
structure Sorts (kinds : List Scalar) (literals : List Json) : Prop where
  nodup : kinds.Nodup
  fitted : ∀ v ∈ literals, ∃ kind ∈ kinds, v.Fits kind
  used : ∀ kind ∈ kinds, ∃ v ∈ literals, v.Fits kind
  /-- numbers are a kind because of a number that is no integer -/
  number : .number ∈ kinds → ∃ bits, .number (.double bits) ∈ literals
  apart : ¬ (.integer ∈ kinds ∧ .number ∈ kinds)

/-- a shape for literals: those of one kind are enumerated, and several kinds make a union -/
inductive Shape.Keeps (literals : List Json) : Shape Model → Prop
  | enumeration {kind : Scalar} (h : Sorts [kind] literals) : Keeps literals (.enumeration kind literals)
  | union {kinds : List Scalar} (hmany : 2 ≤ kinds.length) (h : Sorts kinds literals) :
      Keeps literals (.union (kinds.map Model.scalar) literals none)

variable {v : Json} {values : List Json} {kind : Scalar}

/-! ## Kinds -/

theorem literalKind_eq_null : literalKind v = .null ↔ v.isNull = true := by
  cases v with
  | number n => cases n <;> simp [literalKind, Json.isNull]
  | _ => simp [literalKind, Json.isNull]

theorem literalKind_eq_number : literalKind v = .number ↔ ∃ bits, v = .number (.double bits) := by
  cases v with
  | number n => cases n <;> simp [literalKind]
  | _ => simp [literalKind]

/-- a literal fits its own kind -/
theorem fits_literalKind (h : v.isNull = false) : v.Fits (literalKind v) := by
  cases v with
  | null => cases h
  | bool b => exact .boolean b
  | number n =>
    cases n with
    | integer n => exact .integer n
    | double bits => exact .number _
  | string s => exact .string s
  | array items => exact .array items
  | object entries => exact .object entries

theorem fits_number_of_integer (h : literalKind v = .integer) : v.Fits .number := by
  cases v with
  | number n => exact .number n
  | _ => cases h

/-- the kinds are those of the literals, less the integers if there are other numbers -/
theorem mem_literalKinds : kind ∈ literalKinds values ↔ (∃ v ∈ values, literalKind v = kind) ∧
    ¬ (kind = .integer ∧ ∃ v ∈ values, literalKind v = .number) := by
  have hkinds : ∀ k, k ∈ (values.map literalKind).eraseDups ↔ ∃ v ∈ values, literalKind v = k := fun k => by
    rw [List.mem_eraseDups, List.mem_map]
  unfold literalKinds
  dsimp only
  split_ifs with hboth
  · rw [Bool.and_eq_true, List.contains_iff_mem, List.contains_iff_mem, hkinds, hkinds] at hboth
    rw [List.mem_filter, hkinds, decide_eq_true_iff]
    exact and_congr_right fun _ => (not_congr (and_iff_left hboth.2)).symm
  · rw [Bool.and_eq_true, List.contains_iff_mem, List.contains_iff_mem, hkinds, hkinds] at hboth
    rw [hkinds]
    refine (and_iff_left_of_imp ?_).symm
    rintro hkind ⟨rfl, hnumber⟩
    exact hboth ⟨hkind, hnumber⟩

theorem nodup_literalKinds (values : List Json) : (literalKinds values).Nodup := by
  unfold literalKinds
  dsimp only
  split_ifs
  · exact (nodup_eraseDups _).filter _
  · exact nodup_eraseDups _

/-- there is a kind for every literal: its own, or that of the numbers -/
theorem exists_kind (hv : v ∈ values) : literalKind v ∈ literalKinds values ∨
    literalKind v = .integer ∧ .number ∈ literalKinds values := by
  by_cases hwide : literalKind v = .integer ∧ ∃ v ∈ values, literalKind v = .number
  · exact Or.inr ⟨hwide.1, mem_literalKinds.2 ⟨hwide.2, fun h => by cases h.1⟩⟩
  · exact Or.inl (mem_literalKinds.2 ⟨⟨v, hv, rfl⟩, hwide⟩)

theorem literalKinds_eq_nil (h : literalKinds values = []) : values = [] := by
  refine List.eq_nil_iff_forall_not_mem.2 fun v hv => ?_
  have hkind := exists_kind hv
  rw [h] at hkind
  rcases hkind with hkind | ⟨-, hkind⟩ <;> cases hkind

/-- null among literals is no kind of its own -/
theorem null_notMem_literalKinds (values : List Json) : .null ∉ literalKinds (values.filter fun v => !v.isNull) := by
  intro h
  obtain ⟨⟨v, hv, hkind⟩, -⟩ := mem_literalKinds.1 h
  have hnot : v.isNull = false := by simpa using (List.mem_filter.1 hv).2
  rw [literalKind_eq_null, hnot] at hkind
  cases hkind

/-- **The kinds of literals sort them.** -/
theorem literalKinds_sort (h : ∀ v ∈ values, v.isNull = false) : Sorts (literalKinds values) values where
  nodup := nodup_literalKinds values
  fitted v hv := by
    rcases exists_kind hv with hkind | ⟨hinteger, hnumber⟩
    · exact ⟨literalKind v, hkind, fits_literalKind (h v hv)⟩
    · exact ⟨.number, hnumber, fits_number_of_integer hinteger⟩
  used kind hkind := by
    obtain ⟨⟨v, hv, rfl⟩, -⟩ := mem_literalKinds.1 hkind
    exact ⟨v, hv, fits_literalKind (h v hv)⟩
  number hnumber := by
    obtain ⟨⟨v, hv, hkind⟩, -⟩ := mem_literalKinds.1 hnumber
    obtain ⟨bits, rfl⟩ := literalKind_eq_number.1 hkind
    exact ⟨bits, hv⟩
  apart := by
    rintro ⟨hinteger, hnumber⟩
    exact (mem_literalKinds.1 hinteger).2 ⟨rfl, (mem_literalKinds.1 hnumber).1⟩

/-! ## The model -/

theorem Model.ofLiterals_keeps (h : ∃ v ∈ values, v.isNull = false) :
    (Model.ofLiterals values).shape.Keeps (values.filter fun v => !v.isNull) := by
  have hnonNull : ∀ v ∈ values.filter fun v => !v.isNull, v.isNull = false := fun v hv => by
    simpa using (List.mem_filter.1 hv).2
  have hsorts := literalKinds_sort hnonNull
  have hsome : literalKinds (values.filter fun v => !v.isNull) ≠ [] := by
    intro hnone
    obtain ⟨v, hv, hnot⟩ := h
    simpa [hnot] using List.filter_eq_nil_iff.1 (literalKinds_eq_nil hnone) v hv
  unfold Model.ofLiterals
  dsimp only
  generalize literalKinds (values.filter fun v => !v.isNull) = kinds at hsorts hsome
  match kinds with
  | [] => exact absurd rfl hsome
  | [kind] => exact .enumeration hsorts
  | kind :: kind' :: kinds => exact .union (Nat.le_add_left 2 kinds.length) hsorts

/-- the model of a schema that lists literals is the model of these, built without a step -/
theorem Reach.run_of_lists (r : Reach) (context : String) {s : Schema SchemaNode} (h : s.Lists values) (b : Build) :
    (r.node context (.schema s)).run b = (annotate s (.ofLiterals values), b) := by
  have hshaped : r.shaped context s = pure (.ofLiterals values) := by
    cases h with
    | constant hconstant =>
      unfold shaped
      rw [hconstant]
    | literals hnone hsome =>
      unfold shaped
      simp [hnone, hsome]
  change (r.schema context s).run b = _
  rw [schema, hshaped]
  rfl

/-- **Listed literals are kept.** A schema that lists literals, not all of them null, is built as a model with just the
others in their order: enumerated as one kind that they all fit, or else as a union of several kinds, each once, of
which every literal fits one. Null is allowed if it is among the literals or the schema says so. -/
theorem listed_literals_kept (r : Reach) (context : String) {s : Schema SchemaNode} (hlists : s.Lists values)
    (hsome : ∃ v ∈ values, v.isNull = false) (b : Build) :
    ∃ m, (r.node context (.schema s)).run b = (m, b) ∧ m.shape.Keeps (values.filter fun v => !v.isNull) ∧
      (m.nullable = true ↔ (∃ v ∈ values, v.isNull = true) ∨ s.declaresNullable = true) := by
  refine ⟨_, r.run_of_lists context hlists b, Model.ofLiterals_keeps hsome, ?_⟩
  have hnullable : (Reach.annotate s (.ofLiterals values)).nullable =
      (values.any Json.isNull || s.declaresNullable) := rfl
  rw [hnullable, Bool.or_eq_true, List.any_eq_true]

/-! ### Sizes of pets -/

/-- a size is 1, unknown or 2.5 -/
def petSize : Schema SchemaNode where
  literals := [.number (.integer 1), .null, .number (.double 0x4004000000000000)]

/-- building without components, and nothing below -/
def lonelyReach : Reach where
  components := []
  resolving := []
  below _ _ := pure .placeholder
  enter _ := pure ()

/-- an integer among other numbers is one of them -/
theorem listed_literals_kept_sizes :
    petSize.Lists petSize.literals ∧ (∃ v ∈ petSize.literals, v.isNull = false) ∧
      ∃ m, (lonelyReach.node "PetSize" (.schema petSize)).run {} = (m, {}) ∧
        m.shape = .enumeration .number [.number (.integer 1), .number (.double 0x4004000000000000)] ∧
        Sorts [.number] [.number (.integer 1), .number (.double 0x4004000000000000)] ∧ m.nullable = true := by
  have hlists : petSize.Lists petSize.literals := .literals rfl (by simp [petSize])
  have hsome : ∃ v ∈ petSize.literals, v.isNull = false := ⟨.number (.integer 1), List.mem_cons_self, rfl⟩
  obtain ⟨m, hrun, hkeeps, hnullable⟩ := listed_literals_kept lonelyReach "PetSize" hlists hsome {}
  have hshape : m.shape = .enumeration .number [.number (.integer 1), .number (.double 0x4004000000000000)] := by
    have hm : ((lonelyReach.node "PetSize" (.schema petSize)).run {}).1 = m := congrArg Prod.fst hrun
    rw [← hm]
    rfl
  have hnull : Json.null ∈ petSize.literals := List.mem_cons_of_mem _ List.mem_cons_self
  refine ⟨hlists, hsome, m, hrun, hshape, ?_, hnullable.2 (Or.inl ⟨.null, hnull, rfl⟩)⟩
  rw [hshape] at hkeeps
  cases hkeeps with
  | enumeration h => exact h

/-- literals of several kinds make a union of these, which allows null if the schema says so -/
example :
    let s : Schema SchemaNode := { petSize with literals := .string "any" :: petSize.literals, nullable := some true }
    ((lonelyReach.node "PetSize" (.schema s)).run {}).1.shape =
      .union [.scalar .string, .scalar .number]
        [.string "any", .number (.integer 1), .number (.double 0x4004000000000000)] none :=
  rfl

end ClientPlan
