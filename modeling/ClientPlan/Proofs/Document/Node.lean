/-
Schema nodes as a codec. A node is read by its height, one layer at a time; `SchemaNode.read_eq` is the equation without
heights: a node is a reference, or the schema whose subschemas are read by the same codec, or else malformed. From it,
every node is read again from what is written of it (`SchemaNode.codec_faithful`).
-/
import ClientPlan.Document.Schema
import ClientPlan.Proofs.Json.Follow
import ClientPlan.Proofs.Json.Restoring

namespace ClientPlan

/-! ## References -/

/-- what is written of a record is no reference, unless a field says so -/
theorem Record.referencePath?_write {ρ : Type} {r : Record ρ} (hr : "$ref" ∉ r.fields.map (·.key)) (x : ρ) :
    referencePath? (r.write x) = none := by
  have hlookup : List.lookup "$ref" (r.fields.filterMap fun f => (f.write x).map (Prod.mk f.key)) = none := by
    refine List.lookup_eq_none_iff.2 fun e he => ?_
    obtain ⟨f, hf, he⟩ := List.mem_filterMap.1 he
    obtain ⟨w, -, rfl⟩ := Option.map_eq_some_iff.1 he
    exact bne_iff_ne.2 fun heq => hr (heq ▸ List.mem_map_of_mem hf)
  rw [referencePath?, write, Json.field?, hlookup]

/-! ## The parts of a schema -/

theorem TypeName.codec_keeps (t : TypeName) : codec.Keeps t :=
  Codec.choice_keeps (by cases t <;> decide)

theorem TypeSet.codec_faithful : codec.Faithful := by
  refine .of_keeps (fun ts => ?_) fun ts => ?_
  · cases ts with
    | one t =>
      change read (TypeName.codec.write t) = .ok (.one t)
      rw [read, TypeName.codec_keeps t]
    | several ts =>
      have hlist : TypeName.codec.list.Keeps ts := Codec.list_keeps fun t _ => t.codec_keeps
      change read (TypeName.codec.list.write ts) = .ok (.several ts)
      rw [read, hlist]
      rfl
  · cases ts <;> exact Json.noConfusion

instance Discriminator.record_restoring : record.Restoring where
  kept := by
    simp only [record, List.forall_mem_cons]
    exact ⟨.needed Codec.text_faithful, .keyed Codec.text_faithful, List.forall_mem_nil _⟩

namespace Extra

variable {ν : Type} {node : Codec ν} {f : Json → ν} {h : Nat}

theorem codec_read {v : Json} (hv : ∀ b, v ≠ .bool b) : (codec node).read v = (node.read v).map .shaped := by
  cases v <;> first | rfl | exact absurd rfl (hv _)

theorem codec_read_ok_iff {v : Json} {e : Extra ν} :
    (codec node).read v = .ok e ↔
      (∃ b, v = .bool b ∧ e = .allowed b) ∨ (∀ b, v ≠ .bool b) ∧ ∃ n, node.read v = .ok n ∧ e = .shaped n := by
  by_cases hv : ∀ b, v ≠ .bool b
  · rw [codec_read hv]
    cases node.read v with
    | error err => simp [Except.map, hv]
    | ok n => simp [Except.map, hv, eq_comm]
  · obtain ⟨b, hb⟩ := not_forall.1 hv
    rw [not_not.1 hb]
    simp [codec, eq_comm]

/-- a faithful codec for subschemas that takes nothing else for a boolean gives one for additional properties -/
theorem codec_faithful (hnode : node.Faithful)
    (hbool : ∀ {v n b}, node.read v = .ok n → node.write n = .bool b → v = .bool b) : (codec node).Faithful where
  keeps h := by
    rcases codec_read_ok_iff.1 h with ⟨b, -, rfl⟩ | ⟨hv, n, hn, rfl⟩
    · rfl
    · exact codec_read_ok_iff.2 (.inr ⟨fun b hb => hv b (hbool hn hb), n, hnode.keeps hn, rfl⟩)
  present h hnull := by
    rcases codec_read_ok_iff.1 h with ⟨b, -, rfl⟩ | ⟨-, n, hn, rfl⟩
    · exact Json.noConfusion
    · exact hnode.present hn hnull

theorem codec_follows (hnode : Codec.any.Follows f node.write h node) :
    (codec .any).Follows (map f) (map node.write) h (codec node) where
  read v hv := by
    by_cases hbool : ∀ b, v ≠ .bool b
    · rw [codec_read hbool, codec_read hbool, hnode.read v hv]
      rfl
    · obtain ⟨b, hb⟩ := not_forall.1 hbool
      rw [not_not.1 hb]
      rfl
  write e := by cases e <;> rfl

end Extra

namespace Schema

variable {ν : Type} {node : Codec ν} {f : Json → ν} {h : Nat}

/-- a whole schema with its subschemas -/
def record (node : Codec ν) : Record (Schema ν) where
  name := "Schema"
  fields := fields node
  start := {}

theorem fields_follow (hnode : Codec.any.Follows f node.write h node) :
    List.Forall₂ (Field.Follows (map f) (map node.write) h) layer.fields (record node).fields := by
  have hextra := Extra.codec_follows hnode
  simp only [layer, record, fields, List.forall₂_cons]
  exact ⟨.same, .same, .same, .same, .same, .same, .same, .keyed hnode, .same, .optional hextra, .optional hnode,
    .list hnode, .list hnode, .list hnode, .same, .same, .same, .same, .same, .same, .same, .nil⟩

theorem record_restoring (hnode : node.Faithful) (hextra : (Extra.codec node).Faithful) :
    (record node).Restoring where
  keys := by simp [record, fields, Field.optional, Field.keyed, Field.list, Field.defaulted]
  kept := by
    simp only [record, fields, List.forall_mem_cons]
    exact ⟨.optional TypeSet.codec_faithful, .optional Codec.text_faithful, .optional Codec.text_faithful,
      .optional Codec.text_faithful, .optional Codec.any_faithful, .optional Codec.flag_faithful,
      .optional Codec.flag_faithful, .keyed hnode, .list Codec.text_faithful, .optional hextra, .optional hnode,
      .list hnode, .list hnode, .list hnode, .optional Discriminator.record.faithful, .list Codec.any_faithful,
      .optional Codec.any_faithful, .optional Codec.flag_faithful, .optional Codec.flag_faithful,
      .optional Codec.flag_faithful, .optional Codec.any_faithful, List.forall_mem_nil _⟩

/-- no schema is written as a reference -/
theorem referencePath?_write (s : Schema ν) : referencePath? ((record node).write s) = none :=
  Record.referencePath?_write
    (by simp [record, fields, Field.optional, Field.keyed, Field.list, Field.defaulted]) s

theorem record_read (hnode : Codec.any.Follows f node.write h node) {v : Json} (hv : v.height ≤ h + 1) :
    (record node).read v = (layer.read v).map (map f) :=
  Record.read_follow (r := layer) (s := record node) rfl rfl (fields_follow hnode) hv

theorem record_write (hnode : Codec.any.Follows f node.write h node) (s : Schema ν) :
    (record node).write s = layer.write (s.map node.write) :=
  Record.write_follow (r := layer) (s := record node) (fields_follow hnode) s

end Schema

/-! ## Nodes -/

namespace SchemaNode

/-- the codec that reads at most `h` levels -/
def within (h : Nat) : Codec SchemaNode where
  read v := .ok (readWithin h v)
  write := write

/-- read the outermost layer of a node, with `node` for its subschemas -/
def readLayer (node : Codec SchemaNode) (v : Json) : SchemaNode :=
  match referencePath? v with
  | some path => .ref path
  | none =>
    match (Schema.record node).read v with
    | .ok s => .schema s
    | .error _ => .malformed v

theorem readLayer_schema {node : Codec SchemaNode} {v : Json} {s : Schema SchemaNode} (href : referencePath? v = none)
    (hs : (Schema.record node).read v = .ok s) : readLayer node v = .schema s := by
  rw [readLayer, href, hs]

theorem readLayer_cases (node : Codec SchemaNode) (v : Json) :
    (∃ path, referencePath? v = some path ∧ readLayer node v = .ref path) ∨
      (∃ s, referencePath? v = none ∧ (Schema.record node).read v = .ok s ∧ readLayer node v = .schema s) ∨
        readLayer node v = .malformed v := by
  rw [readLayer]
  cases referencePath? v with
  | some path => exact .inl ⟨path, rfl, rfl⟩
  | none =>
    cases (Schema.record node).read v with
    | ok s => exact .inr (.inl ⟨s, rfl, rfl, rfl⟩)
    | error err => exact .inr (.inr rfl)

theorem write_schema (s : Schema SchemaNode) : write (.schema s) = Schema.layer.write (s.map write) := by
  have hnodes : ∀ ns, writeNodes ns = ns.map write := fun ns => by
    induction ns with
    | nil => rfl
    | cons n ns ih => rw [writeNodes, ih, List.map_cons]
  have hentries : ∀ es, writeEntries es = Keyed.mapValues write es := fun es => by
    induction es with
    | nil => rfl
    | cons e es ih => rw [writeEntries, ih]; rfl
  have hnode : ∀ n, writeNode? n = n.map write := fun n => by cases n <;> rfl
  have hextra : ∀ e, writeExtra? e = e.map (Extra.map write) := fun e => by
    cases e with
    | none => rfl
    | some e => cases e <;> rfl
  rw [write, Schema.map, hnodes, hnodes, hnodes, hentries, hnode, hextra]

/-- one more level is one more layer -/
theorem readWithin_succ {node : Codec SchemaNode} {h k : Nat} {v : Json}
    (hnode : Codec.any.Follows (readWithin h) node.write k node) (hv : v.height ≤ k + 1) :
    readWithin (h + 1) v = readLayer node v := by
  rw [readWithin, readLayer, Schema.record_read hnode hv]
  cases referencePath? v with
  | some path => rfl
  | none => cases Schema.layer.read v <;> rfl

/-- more levels than a value has read nothing else -/
theorem readWithin_of_le {h : Nat} {v : Json} (hv : v.height ≤ h) : readWithin h v = read v := by
  induction h using Nat.strongRecOn generalizing v with
  | ind h ih =>
    have hpos := v.height_pos
    obtain ⟨k, hk⟩ : ∃ k, v.height = k + 1 := ⟨v.height - 1, by omega⟩
    obtain ⟨j, rfl⟩ : ∃ j, h = j + 1 := ⟨h - 1, by omega⟩
    have hlayer : ∀ i, k ≤ i → i ≤ j → readWithin (i + 1) v = readLayer codec v := fun i hki hij => by
      refine readWithin_succ (k := k) ⟨fun u hu => ?_, fun _ => rfl⟩ (Nat.le_of_eq hk)
      exact congrArg Except.ok (ih i (by omega) (Nat.le_trans hu hki)).symm
    rw [hlayer j (by omega) (Nat.le_refl j), read, hk, hlayer k (Nat.le_refl k) (by omega)]

/-- **A node is read layer by layer.** -/
theorem read_eq (v : Json) : read v = readLayer codec v := by
  rw [← readWithin_of_le (Nat.le_succ v.height)]
  exact readWithin_succ ⟨fun u hu => congrArg Except.ok (readWithin_of_le hu).symm, fun _ => rfl⟩ (Nat.le_succ _)

theorem codec_read_schema_iff {v : Json} {s : Schema SchemaNode} :
    codec.read v = .ok (.schema s) ↔ referencePath? v = none ∧ (Schema.record codec).read v = .ok s := by
  have hread : codec.read v = .ok (readLayer codec v) := congrArg Except.ok (read_eq v)
  rw [hread, Except.ok.injEq]
  constructor
  · intro h
    rcases readLayer_cases codec v with ⟨path, -, hn⟩ | ⟨s', href, hs', hn⟩ | hn
    · cases hn.symm.trans h
    · cases hn.symm.trans h
      exact ⟨href, hs'⟩
    · cases hn.symm.trans h
  · exact fun ⟨href, hs⟩ => readLayer_schema href hs

/-! ## Nodes that are read again -/

theorem within_succ_read (h : Nat) (v : Json) : (within (h + 1)).read v = .ok (readLayer (within h) v) :=
  congrArg Except.ok (readWithin_succ (h := h) ⟨fun _ _ => rfl, fun _ => rfl⟩ (Nat.le_succ _))

theorem within_write_schema (h : Nat) (s : Schema SchemaNode) :
    (within h).write (.schema s) = (Schema.record (within h)).write s := by
  rw [Schema.record_write (f := readWithin h) (h := h) ⟨fun _ _ => rfl, fun _ => rfl⟩]
  exact write_schema s

/-- a node is written as a boolean only if it was one -/
theorem bool_of_write {h : Nat} {v : Json} {n : SchemaNode} {b : Bool} (hread : (within h).read v = .ok n)
    (hwrite : (within h).write n = .bool b) : v = .bool b := by
  obtain rfl := Except.ok.inj hread
  cases h with
  | zero => exact hwrite
  | succ h =>
    rw [Except.ok.inj (within_succ_read h v)] at hwrite
    rcases readLayer_cases (within h) v with ⟨path, -, hn⟩ | ⟨s, -, -, hn⟩ | hn <;> rw [hn] at hwrite
    · cases hwrite
    · cases (write_schema s).symm.trans hwrite
    · exact hwrite

theorem within_faithful (h : Nat) : (within h).Faithful := by
  induction h with
  | zero =>
    constructor <;> intro v n hread <;> obtain rfl := Except.ok.inj hread
    · rfl
    · exact id
  | succ h ih =>
    have hrecord := Schema.record_restoring ih (Extra.codec_faithful ih bool_of_write)
    constructor <;> intro v n hread <;> obtain rfl := Except.ok.inj ((within_succ_read h v).symm.trans hread)
    · refine (within_succ_read h _).trans (congrArg Except.ok ?_)
      rcases readLayer_cases (within h) v with ⟨path, -, hn⟩ | ⟨s, -, hs, hn⟩ | hn <;> rw [hn]
      · rfl
      · refine readLayer_schema ?_ ?_
        · exact within_write_schema h s ▸ Schema.referencePath?_write s
        · exact within_write_schema h s ▸ (Record.faithful _).keeps hs
      · exact hn
    · intro hv
      rcases readLayer_cases (within h) v with ⟨path, -, hn⟩ | ⟨s, -, -, hn⟩ | hn <;> rw [hn]
      · exact Json.noConfusion
      · exact fun hnull => Json.noConfusion ((write_schema s).symm.trans hnull)
      · exact hv

/-- **Every node is read again** from what is written of it. -/
theorem codec_faithful : codec.Faithful where
  keeps {v n} hread := by
    obtain rfl := Except.ok.inj hread
    -- a level that suffices for the value and for what is written of its node
    have hle := readWithin_of_le (Nat.le_max_left v.height (write (read v)).height)
    have hle' := readWithin_of_le (Nat.le_max_right v.height (write (read v)).height)
    have hkeeps := (within_faithful (max v.height (write (read v)).height)).keeps (congrArg Except.ok hle)
    exact (congrArg Except.ok hle'.symm).trans hkeeps
  present {v n} hread := by
    obtain rfl := Except.ok.inj hread
    exact (within_faithful v.height).present rfl

/-- whole schemas, with their subschemas read as nodes -/
instance record_restoring : (Schema.record codec).Restoring :=
  Schema.record_restoring codec_faithful (Extra.codec_faithful codec_faithful fun {v} => bool_of_write (h := v.height))

end SchemaNode

end ClientPlan
