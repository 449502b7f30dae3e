/-
Types by name. A reference is typed by the name of the entry that it leads to, and looks at nothing in that entry but
its kind and whether it allows null. For an object, an enumeration or an untyped entry this is all that the entry's own
type says (`reference_transparent`). An alias or a union can also take null from what it stands for or consists of; a
reference to it does not look that far, and is optional exactly if the entry itself allows null
(`reference_optional_iff`).
-/
import ClientPlan.Proofs.Api.Integrity
import ClientPlan.Proofs.Descriptor.Normal

namespace ClientPlan

namespace Model

open Descriptor

variable {t : Table} {m : Model} {name : String}

/-- the type of a model is optional if the model allows null, or takes it from elsewhere -/
theorem isOptional_descriptor (h : m.descriptor t true ≠ leaf .null) :
    (m.descriptor t true).isOptional = true ↔ m.nullable = true ∨ m.TakesNull t := by
  obtain ⟨base, o, hnot, ho, hbase⟩ := exists_base t m
  rw [hbase] at h ⊢
  rw [isOptional_withOptionality hnot h, Bool.not_true, Bool.false_or, ho]

/-- what a reference to an entry says about it -/
theorem descriptor_reference (h : Keyed.get? t name = some m) (required : Bool) :
    (Model.reference name).descriptor t required =
      (if m.isPlaceholder then leaf .any else if m.isEnumeration then enumeration name else named name).withOptionality
        (!required || m.nullable) := by
  change (ofReference t name).1.withOptionality (!required || false || (ofReference t name).2) = _
  rw [ofReference, h, Bool.or_false]

/-- a reference to an entry is optional if the entry allows null -/
theorem isOptional_reference (h : Keyed.get? t name = some m) :
    ((Model.reference name).descriptor t true).isOptional = m.nullable := by
  rw [descriptor_reference h, Bool.not_true, Bool.false_or]
  refine isOptional_withOptionality ?_ ?_
  · split_ifs <;> rfl
  · rw [Ne, withOptionality_eq_null]
    split_ifs <;> simp

end Model

namespace Api

open Descriptor

variable (d : Document) (naming : Config.Naming) (limit : Nat)

/-- **References stand for their entries.** Where an entry of an API is an object, an enumeration or untyped, a
reference to it has the type of the entry itself, required or not. -/
theorem reference_transparent {name : String} {m : Model}
    (hm : Keyed.get? (ofDocument d naming limit).1.table name = some m)
    (hkind : (∃ properties required additional, m.shape = .object properties required additional) ∨
      m.isEnumeration = true ∨ m.isPlaceholder = true) (required : Bool) :
    (Model.reference name).descriptor (ofDocument d naming limit).1.table required =
      m.descriptor (ofDocument d naming limit).1.table required := by
  have hname : m.name = some name := (entry_rooted (Keyed.mem_of_get? hm)).name
  rw [Model.descriptor_reference hm]
  obtain ⟨key, shape, format, nullable, description⟩ := m
  -- a definition is typed by the name in the entry, a reference by its key: entries are named by their keys
  cases hname
  rcases hkind with ⟨properties, requires, additional, rfl⟩ | hkind | hkind
  · rw [Model.descriptor]
    rfl
  · cases shape with
    | enumeration kind literals => rw [Model.descriptor]; rfl
    | _ => cases hkind
  · cases shape with
    | scalar s =>
      cases s with
      | any => rw [Model.descriptor]; rfl
      | _ => cases hkind
    | _ => cases hkind

/-- **References and optionality.** A reference to an entry that is not null is optional exactly if the entry itself
allows null. Its definition is optional then too, so the two agree, except for an alias of an entry that allows null
and a union with an optional member, where these do not allow null themselves. -/
theorem reference_optional_iff {name : String} {m : Model}
    (hm : Keyed.get? (ofDocument d naming limit).1.table name = some m)
    (hnull : (ofDocument d naming limit).1.table.definition? name ≠ some (leaf .null)) :
    let t := (ofDocument d naming limit).1.table
    (((Model.reference name).descriptor t true).isOptional = true ↔ m.nullable = true) ∧
    ((((Model.reference name).descriptor t true).isOptional = true ↔
        ∃ ty, t.definition? name = some ty ∧ ty.isOptional = true) ↔ (m.TakesNull t → m.nullable = true)) := by
  intro t
  have hdefinition : t.definition? name = some (m.descriptor t true) := by rw [Table.definition?, hm, Option.map_some]
  have hne : m.descriptor t true ≠ leaf .null := fun h => hnull (hdefinition.trans (congrArg some h))
  rw [Model.isOptional_reference hm, hdefinition]
  refine ⟨Iff.rfl, ?_⟩
  simp only [Option.some.injEq, exists_eq_left', Model.isOptional_descriptor hne]
  tauto

/-! ## Nicknames and labels -/

/-- names to call a pet by, which it may lack -/
def nicknameSchema : SchemaNode :=
  .schema { types := some (.one .string), literals := [.string "Rex"], nullable := some true }

/-- a document in which labels stand for nicknames and badges for labels -/
def nicknameDocument : Document where
  components := some { schemas := [("Nickname", nicknameSchema), ("Label", .ref "#/components/schemas/Nickname"),
    ("Badge", .ref "#/components/schemas/Label")] }

def nicknameModel : Model :=
  { Model.of (.enumeration .string [.string "Rex"]) with name := some "Nickname", nullable := true }

/-- the entry of a component that stands for another one -/
def standIn (name target : String) : Model :=
  { Model.reference target with name := some name }

/-- the table of that document -/
def nicknameTable : Table :=
  [("Nickname", nicknameModel), ("Label", standIn "Label" "Nickname"), ("Badge", standIn "Badge" "Label")]

/-- a component that stands for one in the table is entered as a reference to that one -/
theorem run_component_standIn {src : Source} {name target path : String} {b : Build} (hlimit : src.limit ≠ 0)
    (hnew : name ∉ b.keys) (hnode : src.components.get? name = some (.ref path))
    (hpath : (schemaName? path).filter (Keyed.has src.components) = some target) (hother : target ≠ name)
    (htarget : target ∈ b.keys) : (src.component [] name).run b = (true, b.entered name (.reference target)) := by
  have hknown : (src.component [name] target).run b = (true, b) :=
    Source.run_component_known ((Keyed.has_iff_mem_keys _ _).2 htarget)
  have hroot : (src.root [name] (typeName name) (.ref path)).run b = (.reference target, b) := by
    rw [Source.run_root_ref hpath, if_neg (by simpa using hother), if_neg hlimit, hknown]
  rw [Source.run_component_new List.not_mem_nil hnew hnode, hroot]

theorem nicknameDocument_table : (ofDocument nicknameDocument {} 100).1.table = nicknameTable := by
  let src := source nicknameDocument {} 100
  let named : Build := src.start.entered "Nickname" nicknameModel
  let labelled : Build := named.entered "Label" (.reference "Nickname")
  have hnickname : (src.component [] "Nickname").run src.start = (true, named) := by
    rw [Source.run_component List.not_mem_nil]
    rfl
  have hlabel : (src.component [] "Label").run named = (true, labelled) :=
    run_component_standIn (by decide) (by decide) rfl rfl (by decide) (by decide)
  have hbadge : (src.component [] "Badge").run labelled = (true, labelled.entered "Badge" (.reference "Label")) :=
    run_component_standIn (by decide) (by decide) rfl rfl (by decide) (by decide)
  have hfinal : final nicknameDocument {} 100 = labelled.entered "Badge" (.reference "Label") := by
    change ((src.component [] "Badge").run ((src.component [] "Label").run
      ((src.component [] "Nickname").run src.start).2).2).2 = _
    rw [hnickname, hlabel, hbadge]
  rw [table_ofDocument, hfinal]
  rfl

theorem nicknameDocument_get? {name : String} {m : Model} (h : Keyed.get? nicknameTable name = some m) :
    Keyed.get? (ofDocument nicknameDocument {} 100).1.table name = some m := by
  rw [nicknameDocument_table, h]

/-- the definition of a component that stands for another one is the type of a reference to that one -/
theorem definition_standIn {t : Table} {name target : String}
    (h : Keyed.get? t name = some (standIn name target)) :
    t.definition? name = some ((Model.reference target).descriptor t true) := by
  rw [Table.definition?, h, Option.map_some]
  rfl

/-- a reference to a nickname has the type of the nickname, which is optional -/
theorem reference_transparent_nickname :
    let t := (ofDocument nicknameDocument {} 100).1.table
    Keyed.get? t "Nickname" = some nicknameModel ∧ nicknameModel.isEnumeration = true ∧
      (Model.reference "Nickname").descriptor t true = nicknameModel.descriptor t true ∧
      (Model.reference "Nickname").descriptor t true = .optional (.enumeration "Nickname") := by
  intro t
  have hget : Keyed.get? t "Nickname" = some nicknameModel := nicknameDocument_get? rfl
  refine ⟨hget, rfl, reference_transparent nicknameDocument {} 100 hget (Or.inr (Or.inl rfl)) true, ?_⟩
  rw [Model.descriptor_reference hget]
  rfl

/-- a badge is not optional, as the label that it stands for does not allow null itself -/
theorem reference_optional_iff_badge :
    let t := (ofDocument nicknameDocument {} 100).1.table
    let badge := standIn "Badge" "Label"
    Keyed.get? t "Badge" = some badge ∧ t.definition? "Badge" ≠ some (leaf .null) ∧
      (((Model.reference "Badge").descriptor t true).isOptional = true ↔ badge.nullable = true) ∧
      ((((Model.reference "Badge").descriptor t true).isOptional = true ↔
          ∃ ty, t.definition? "Badge" = some ty ∧ ty.isOptional = true) ↔
        (badge.TakesNull t → badge.nullable = true)) := by
  intro t badge
  have hget : Keyed.get? t "Badge" = some (standIn "Badge" "Label") := nicknameDocument_get? rfl
  have hlabel : Keyed.get? t "Label" = some (standIn "Label" "Nickname") := nicknameDocument_get? rfl
  have hnull : t.definition? "Badge" ≠ some (leaf .null) := by
    rw [definition_standIn hget, Model.descriptor_reference hlabel]
    decide
  exact ⟨hget, hnull, reference_optional_iff nicknameDocument {} 100 hget hnull⟩

/-- a label is optional by what it stands for, and a reference to it is not -/
theorem reference_label_not_optional :
    let t := (ofDocument nicknameDocument {} 100).1.table
    Keyed.get? t "Label" = some (standIn "Label" "Nickname") ∧
      t.definition? "Label" = some (.optional (.enumeration "Nickname")) ∧
      (Model.reference "Label").descriptor t true = .named "Label" ∧
      ¬ (((Model.reference "Label").descriptor t true).isOptional = true ↔
          ∃ ty, t.definition? "Label" = some ty ∧ ty.isOptional = true) := by
  intro t
  have hnickname : Keyed.get? t "Nickname" = some nicknameModel := nicknameDocument_get? rfl
  have hlabel : Keyed.get? t "Label" = some (standIn "Label" "Nickname") := nicknameDocument_get? rfl
  have hdefinition : t.definition? "Label" = some (.optional (.enumeration "Nickname")) := by
    rw [definition_standIn hlabel, Model.descriptor_reference hnickname]
    rfl
  have hreference : (Model.reference "Label").descriptor t true = .named "Label" := by
    rw [Model.descriptor_reference hlabel]
    rfl
  refine ⟨hlabel, hdefinition, hreference, ?_⟩
  rw [hdefinition, hreference]
  rintro ⟨-, hboth⟩
  cases hboth ⟨_, rfl, rfl⟩

end Api

end ClientPlan
