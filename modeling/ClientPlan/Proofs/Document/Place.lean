/-
Places in an API description, down to its schemas. A place is a chain of hops from the document: into a field, to an item
or an entry of it, and through what stands where a reference could; schemas are entered through nodes that are schemas.
`Place.replace_schema`: whatever is put in the place of a schema spoils nothing else.
-/
import ClientPlan.Api.Basic
import ClientPlan.Proofs.Document.RoundTrip
import ClientPlan.Proofs.Json.Spot

namespace ClientPlan

/-! ## Spots of what may be something else -/

namespace Spot

variable {α β ρ σ τ : Type} {whole : Reader α} {part : Reader τ}

/-- a change at the spot makes no reference, and no boolean -/
structure Framed (s : Spot whole part) : Prop where
  reference : ∀ g v, referencePath? (s.alter g v) = referencePath? v
  flag : ∀ {g v b}, s.alter g v = .bool b → v = .bool b

/-- a change of what a record says of a field makes no reference, and no boolean -/
theorem framed_of {s : Spot whole part} {r : Record ρ} {key : String} {inner : (Json → Json) → Json → Json}
    (hs : s.alter = fun g => r.alter key (inner g) := by rfl) (hkey : key ≠ "$ref" := by decide) : s.Framed where
  reference g v := by
    rw [hs]
    cases v with
    | object entries => simp only [referencePath?, Record.alter, Json.field?, lookup_changeLast hkey.symm]
    | _ => rfl
  flag {g v b} h := by
    rw [hs] at h
    cases v with
    | object entries => cases h
    | array items => cases h
    | _ => exact h

/-- the thing itself, where a reference could stand -/
def inlineForm (name : String) (c : Codec α) : Form (OrRef.codec name c).read c.read where
  make := .inline
  get?
    | .inline a => some a
    | .ref _ => none
  Reads v := referencePath? v = none
  get?_iff {item a} := by cases item <;> simp
  read_iff := by simp [OrRef.codec_read_ok_iff]

/-- a schema, where a reference or anything else could stand -/
def schemaForm : Form SchemaNode.codec.read (Schema.record SchemaNode.codec).read where
  make := .schema
  get?
    | .schema a => some a
    | _ => none
  Reads v := referencePath? v = none
  get?_iff {n a} := by cases n <;> simp
  read_iff := SchemaNode.codec_read_schema_iff

/-- a node, where a boolean could stand -/
def shapedForm (node : Codec β) : Form (Extra.codec node).read node.read where
  make := .shaped
  get?
    | .shaped n => some n
    | .allowed _ => none
  Reads v := ∀ b, v ≠ .bool b
  get?_iff {e n} := by cases e <;> simp
  read_iff := by simp [Extra.codec_read_ok_iff]

def inline (name : String) {c : Codec α} (s : Spot c.read part) (hs : s.Framed) : Spot (OrRef.codec name c).read part :=
  .within (inlineForm name c) s fun g v => (hs.reference g v).trans

def schema (s : Spot (Schema.record SchemaNode.codec).read part) (hs : s.Framed) : Spot SchemaNode.codec.read part :=
  .within schemaForm s fun g v => (hs.reference g v).trans

def shaped {node : Codec β} (s : Spot node.read part) (hs : s.Framed) : Spot (Extra.codec node).read part :=
  .within (shapedForm node) s fun _ _ hv b hb => hv b (hs.flag hb)

end Spot

/-! ## Places -/

namespace Document

/-- kinds of parts that a place may lead to -/
inductive Part where
  | document
  | components
  | pathItem
  | operation
  | parameter
  | requestBody
  | response
  | mediaType
  | node
  | extra
  deriving DecidableEq, Repr

/-- the parts of that kind -/
abbrev Part.type : Part → Type
  | document => Document
  | components => Components
  | pathItem => PathItem
  | operation => Operation
  | parameter => OrRef Parameter
  | requestBody => OrRef RequestBody
  | response => OrRef Response
  | mediaType => MediaType
  | node => SchemaNode
  | extra => Extra SchemaNode

/-- how the parts of that kind are read and written -/
def Part.codec : (k : Part) → Codec k.type
  | document => Document.record.codec
  | components => Components.record.codec
  | pathItem => PathItem.record.codec
  | operation => Operation.record.codec
  | parameter => parameterCodec
  | requestBody => requestBodyCodec
  | response => responseCodec
  | mediaType => MediaType.record.codec
  | node => SchemaNode.codec
  | extra => Extra.codec SchemaNode.codec

/-- the part is a schema, or what may stand in place of one -/
def Part.isSchema : Part → Bool
  | node => true
  | extra => true
  | _ => false

/-- from a schema to one of its subschemas -/
inductive Inward : Part → Type where
  | property (name : String) : Inward .node
  | additional : Inward .extra
  | items : Inward .node
  | allOf (i : Nat) : Inward .node
  | oneOf (i : Nat) : Inward .node
  | anyOf (i : Nat) : Inward .node

/-- from a part to one that it holds -/
inductive Hop : Part → Part → Type where
  | path (route : String) : Hop .document .pathItem
  | components : Hop .document .components
  | namedSchema (name : String) : Hop .components .node
  | namedResponse (name : String) : Hop .components .response
  | namedParameter (name : String) : Hop .components .parameter
  | namedRequestBody (name : String) : Hop .components .requestBody
  | sharedParameter (i : Nat) : Hop .pathItem .parameter
  | operation (method : Method) : Hop .pathItem .operation
  | parameter (i : Nat) : Hop .operation .parameter
  | requestBody : Hop .operation .requestBody
  | response (status : String) : Hop .operation .response
  | parameterSchema : Hop .parameter .node
  | bodyContent (mediaType : String) : Hop .requestBody .mediaType
  | responseContent (mediaType : String) : Hop .response .mediaType
  | schema : Hop .mediaType .node
  | itemSchema : Hop .mediaType .node
  | inNode {k : Part} (hop : Inward k) : Hop .node k
  | inExtra {k : Part} (hop : Inward k) : Hop .extra k

/-- a place in a document -/
inductive Place : Part → Type where
  | document : Place .document
  | hop {k l : Part} (p : Place k) (hop : Hop k l) : Place l

namespace Inward

variable {k : Part}

/-- where a subschema stands in a schema -/
def spot : {k : Part} → Inward k → Spot (Schema.record SchemaNode.codec).read k.codec.read
  | _, property name => .keyed (Schema.record SchemaNode.codec) "properties" name
  | _, additional => .optional (Schema.record SchemaNode.codec) "additionalProperties"
  | _, items => .optional (Schema.record SchemaNode.codec) "items"
  | _, allOf i => .listed (Schema.record SchemaNode.codec) "allOf" i
  | _, oneOf i => .listed (Schema.record SchemaNode.codec) "oneOf" i
  | _, anyOf i => .listed (Schema.record SchemaNode.codec) "anyOf" i

theorem spot_framed (hop : Inward k) : hop.spot.Framed := by
  cases hop <;> exact Spot.framed_of

/-- the same, from a node that is a schema -/
def fromNode (hop : Inward k) : Spot SchemaNode.codec.read k.codec.read :=
  .schema hop.spot hop.spot_framed

theorem fromNode_framed (hop : Inward k) : hop.fromNode.Framed :=
  ⟨hop.spot_framed.reference, hop.spot_framed.flag⟩

end Inward

/-- where the operation of a method stands in a path -/
def operationSpot : Method → Spot PathItem.record.read Operation.record.read
  | .get => .optional PathItem.record "get"
  | .post => .optional PathItem.record "post"
  | .put => .optional PathItem.record "put"
  | .delete => .optional PathItem.record "delete"
  | .patch => .optional PathItem.record "patch"
  | .options => .optional PathItem.record "options"
  | .head => .optional PathItem.record "head"
  | .trace => .optional PathItem.record "trace"

/-- where a media type stands in a request body, whose content is written even if there is none -/
def bodyContentSpot (mediaType : String) : Spot RequestBody.record.read MediaType.record.read :=
  .field RequestBody.record (f := .filled "content" _ _) (.tail _ (.head _)) {}
    (.entry MediaType.record.codec mediaType) (w := .object []) rfl rfl

def Hop.spot : {k l : Part} → Hop k l → Spot k.codec.read l.codec.read
  | _, _, path route => .keyed record "paths" route
  | _, _, components => .optional record "components"
  | _, _, namedSchema name => .keyed Components.record "schemas" name
  | _, _, namedResponse name => .keyed Components.record "responses" name
  | _, _, namedParameter name => .keyed Components.record "parameters" name
  | _, _, namedRequestBody name => .keyed Components.record "requestBodies" name
  | _, _, sharedParameter i => .listed PathItem.record "parameters" i
  | _, _, operation method => operationSpot method
  | _, _, parameter i => .listed Operation.record "parameters" i
  | _, _, requestBody => .optional Operation.record "requestBody"
  | _, _, response status => .keyed Operation.record "responses" status
  | _, _, parameterSchema =>
    .inline "ParameterOrRef" (c := Parameter.record.codec) (.optional Parameter.record "schema")
      Spot.framed_of
  | _, _, bodyContent mediaType =>
    .inline "RequestBodyOrRef" (c := RequestBody.record.codec) (bodyContentSpot mediaType) Spot.framed_of
  | _, _, responseContent mediaType =>
    .inline "ResponseOrRef" (c := Response.record.codec) (.keyed Response.record "content" mediaType)
      Spot.framed_of
  | _, _, schema => .optional MediaType.record "schema"
  | _, _, itemSchema => .optional MediaType.record "itemSchema"
  | _, _, inNode hop => hop.fromNode
  | _, _, inExtra hop => .shaped hop.fromNode hop.fromNode_framed

namespace Place

variable {k : Part}

/-- where the place is in a document -/
def spot : {k : Part} → Place k → Spot Document.record.read k.codec.read
  | _, document => .here Document.record.read
  | _, hop p h => p.spot.comp h.spot

/-- the part at the place, if the document has it and no reference or malformed node stands before it -/
def get? (p : Place k) (d : Document) : Option k.type :=
  p.spot.get? d

/-- the document with another part at the place -/
def set (p : Place k) (a : k.type) (d : Document) : Document :=
  p.spot.set a d

/-- the JSON value of a document with another value at the place -/
def replace (p : Place k) (w v : Json) : Json :=
  p.spot.alter (fun _ => w) v

/-- whatever stands in the place of a schema, it can be read -/
theorem exists_read (hk : k.isSchema = true) (w : Json) : ∃ a, k.codec.read w = .ok a := by
  cases k with
  | node => exact ⟨_, rfl⟩
  | extra => cases w <;> exact ⟨_, rfl⟩
  | _ => cases hk

/-- **A bad schema spoils only itself.** Every value is read as a node: a reference, a schema, or malformed. And whatever
but null replaces the value in the place of a schema, it is read as some `b`, and the document is read as before, except
that `b` is in that place. -/
theorem replace_schema :
    (∀ w, SchemaNode.codec.read w = .ok (SchemaNode.readLayer SchemaNode.codec w)) ∧
      ∀ {k : Part} (p : Place k), k.isSchema = true → ∀ {v : Json} {d : Document} {a : k.type},
        read v = .ok d → p.get? d = some a → ∀ {w : Json}, w ≠ .null →
          ∃ b, k.codec.read w = .ok b ∧ read (p.replace w v) = .ok (p.set b d) ∧
            p.get? (p.set b d) = some b ∧ p.set a (p.set b d) = d := by
  refine ⟨fun w => congrArg Except.ok (SchemaNode.read_eq w), ?_⟩
  intro k p hk v d a hread hp w hw
  obtain ⟨b, hb⟩ := exists_read hk w
  obtain ⟨u, -, hexchange⟩ := p.spot.exchange (read_eq_ok_iff.1 hread) hp
  exact ⟨b, hb, read_eq_ok_iff.2 (hexchange hw hb).2, p.spot.get_set b hp, p.spot.set_back b hp⟩

/-- the property `name` of the schema `Pet` -/
def petName : Place .node :=
  .hop (.hop (.hop .document .components) (.namedSchema "Pet")) (.inNode (.property "name"))

theorem replace_schema_petName :
    petName.replace (.array []) petsSource =
        .object [("openapi", .string "3.0.3"), ("info", .array [.string "Pets", .null, .string "1"]),
          ("components", .object [("schemas", .object [("Pet", .object [("description", .null), ("properties", .object [
            ("name", .array []),
            ("owner", .object [("$ref", .string "#/components/schemas/Owner"), ("title", .string "owner")])])])])])] ∧
      ∃ b, SchemaNode.codec.read (.array []) = .ok b ∧
        read (petName.replace (.array []) petsSource) = .ok (petName.set b pets) := by
  refine ⟨by rfl, ?_⟩
  have hsource : read petsSource = .ok pets := by rfl
  have hplace : petName.get? pets = some (.malformed (.object [("type", .string "text")])) := by rfl
  obtain ⟨b, hb, hread, -⟩ := replace_schema.2 petName rfl hsource hplace (w := .array []) Json.noConfusion
  exact ⟨b, hb, hread⟩

end Place

end Document

end ClientPlan
