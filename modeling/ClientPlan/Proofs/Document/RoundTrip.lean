/-
An API description that was read is read again from what is written of it. Each of its records is restoring: every field
is kept, and no two fields touch each other. The choices between a reference and the thing itself are told apart by the
key of the reference, which no record has.
-/
import ClientPlan.Document.Basic
import ClientPlan.Proofs.Document.Node

namespace ClientPlan

open Codec

namespace OrRef

variable {α : Type} {name : String} {c : Codec α}

theorem codec_read_ok_iff {v : Json} {item : OrRef α} :
    (codec name c).read v = .ok item ↔
      (∃ path, referencePath? v = some path ∧ item = .ref path) ∨
        referencePath? v = none ∧ ∃ a, c.read v = .ok a ∧ item = .inline a := by
  simp only [codec]
  cases referencePath? v with
  | some path => simp [eq_comm]
  | none => cases c.read v <;> simp [eq_comm]

theorem codec_faithful (hc : c.Faithful) (href : ∀ a, referencePath? (c.write a) = none) : (codec name c).Faithful where
  keeps h := by
    rcases codec_read_ok_iff.1 h with ⟨path, -, rfl⟩ | ⟨-, a, ha, rfl⟩
    · rfl
    · exact codec_read_ok_iff.2 (.inr ⟨href a, a, hc.keeps ha, rfl⟩)
  present h hv := by
    rcases codec_read_ok_iff.1 h with ⟨path, -, rfl⟩ | ⟨-, a, ha, rfl⟩
    · exact Json.noConfusion
    · exact hc.present ha hv

end OrRef

namespace Document

theorem Location.codec_faithful : (choice Location.table Location.name).Faithful :=
  .of_keeps (fun l => choice_keeps (by cases l <;> decide)) fun _ => Json.noConfusion

/-! ## Every record -/

instance Info.record_restoring : record.Restoring where
  kept := by
    simp only [record, List.forall_mem_cons]
    exact ⟨.filled text_faithful, .optional text_faithful, .filled text_faithful, List.forall_mem_nil _⟩

instance Server.record_restoring : record.Restoring where
  kept := by
    simp only [record, List.forall_mem_cons]
    exact ⟨.needed text_faithful, .optional text_faithful, List.forall_mem_nil _⟩

instance Parameter.record_restoring : record.Restoring where
  kept := by
    simp only [record, List.forall_mem_cons]
    exact ⟨.needed text_faithful, .needed Location.codec_faithful, .optional text_faithful, .filled flag_faithful,
      .optional flag_faithful, .optional SchemaNode.codec_faithful, List.forall_mem_nil _⟩

instance Encoding.record_restoring : record.Restoring where
  kept := by
    simp only [record, List.forall_mem_cons]
    exact ⟨.optional text_faithful, List.forall_mem_nil _⟩

instance MediaType.record_restoring : record.Restoring where
  kept := by
    simp only [record, List.forall_mem_cons]
    exact ⟨.optional SchemaNode.codec_faithful, .optional SchemaNode.codec_faithful,
      .keyed Encoding.record.faithful, List.forall_mem_nil _⟩

instance RequestBody.record_restoring : record.Restoring where
  kept := by
    simp only [record, List.forall_mem_cons]
    exact ⟨.optional text_faithful, .filled (keyed_faithful MediaType.record.faithful),
      .filled flag_faithful, List.forall_mem_nil _⟩

instance Response.record_restoring : record.Restoring where
  kept := by
    simp only [record, List.forall_mem_cons]
    exact ⟨.filled text_faithful, .keyed MediaType.record.faithful, List.forall_mem_nil _⟩

theorem parameterCodec_faithful : parameterCodec.Faithful :=
  OrRef.codec_faithful Parameter.record.faithful (Record.referencePath?_write (by decide))

theorem requestBodyCodec_faithful : requestBodyCodec.Faithful :=
  OrRef.codec_faithful RequestBody.record.faithful (Record.referencePath?_write (by decide))

theorem responseCodec_faithful : responseCodec.Faithful :=
  OrRef.codec_faithful Response.record.faithful (Record.referencePath?_write (by decide))

instance Operation.record_restoring : record.Restoring where
  kept := by
    simp only [record, List.forall_mem_cons]
    exact ⟨.optional text_faithful, .optional text_faithful, .optional text_faithful, .list text_faithful,
      .list parameterCodec_faithful, .optional requestBodyCodec_faithful, .keyed responseCodec_faithful,
      .optional flag_faithful, List.forall_mem_nil _⟩

instance PathItem.record_restoring : record.Restoring where
  kept := by
    have hoperation := Operation.record.faithful
    simp only [record, List.forall_mem_cons]
    exact ⟨.optional text_faithful, .optional text_faithful, .list parameterCodec_faithful, .optional hoperation,
      .optional hoperation, .optional hoperation, .optional hoperation, .optional hoperation, .optional hoperation,
      .optional hoperation, .optional hoperation, List.forall_mem_nil _⟩

instance Components.record_restoring : record.Restoring where
  kept := by
    simp only [record, List.forall_mem_cons]
    exact ⟨.keyed SchemaNode.codec_faithful, .keyed responseCodec_faithful, .keyed parameterCodec_faithful,
      .keyed requestBodyCodec_faithful, List.forall_mem_nil _⟩

instance record_restoring : record.Restoring where
  kept := by
    simp only [record, List.forall_mem_cons]
    exact ⟨.filled text_faithful, .filled Info.record.faithful,
      .list Server.record.faithful, .keyed PathItem.record.faithful,
      .optional Components.record.faithful, List.forall_mem_nil _⟩

/-! ## The whole document -/

theorem read_eq_ok_iff {v : Json} {d : Document} : read v = .ok d ↔ record.read v = .ok d := by
  rw [read]
  cases record.read v <;> simp [Except.mapError]

/-- **A document that was read is read again** from what is written of it. -/
theorem read_write {v : Json} {d : Document} (h : read v = .ok d) : read d.write = .ok d :=
  read_eq_ok_iff.2 (record.faithful.keeps (read_eq_ok_iff.1 h))

/-- information as a list, a schema with a property that is none, a reference with something beside it, and nulls -/
def petsSource : Json :=
  .object [("openapi", .string "3.0.3"), ("info", .array [.string "Pets", .null, .string "1"]),
    ("components", .object [("schemas", .object [("Pet", .object [("description", .null), ("properties", .object [
      ("name", .object [("type", .string "text")]),
      ("owner", .object [("$ref", .string "#/components/schemas/Owner"), ("title", .string "owner")])])])])])]

/-- what is read from it -/
def pets : Document where
  openapi := "3.0.3"
  info := { title := "Pets", version := "1" }
  components := some { schemas := [("Pet", .schema { properties := [
    ("name", .malformed (.object [("type", .string "text")])), ("owner", .ref "#/components/schemas/Owner")] })] }

theorem read_write_pets : read petsSource = .ok pets ∧ read pets.write = .ok pets :=
  have hread : read petsSource = .ok pets := by rfl
  ⟨hread, read_write hread⟩

end Document

end ClientPlan
