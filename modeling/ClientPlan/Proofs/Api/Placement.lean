/-
Where promoted models are referred to. Every promoted entry of an API has at most one reference to it, and it has none
exactly if the schema that it comes from belongs to a parameter whose place another one takes: such a parameter is built
before it is replaced. `promoted_once_iff` says so with sketches of these schemas, each built alone.
-/
import ClientPlan.Proofs.Api.Integrity
import ClientPlan.Proofs.Model.Accounts
import ClientPlan.Proofs.Model.References

namespace ClientPlan

namespace Source

variable (src : Source)

/-- the model of a schema that may be left out, built alone, without entering any component -/
def sketch (context : String) : Option SchemaNode → Model
  | some n => ((src.descend [] (fun _ => pure ()) src.limit context n >>= promote context).run src.start).1
  | none => .placeholder

variable {src} {token : String} {b : Build}

/-- a schema outside the components is built as it is sketched, up to the names of promoted models -/
theorem nested_sketched (context : String) (n : SchemaNode) :
    Leads (fun b => Accounted src src token [] b src.start) (src.nested context n)
      fun _ m _ => m.Alike (src.mask token) (src.sketch context (some n)) := by
  intro b hb
  have htwin : (ledger (tallyGauge src token) (Agrees.refl src) []).Twin (src.nested context n)
      (src.descend [] (fun _ => pure ()) src.limit context n >>= promote context) (Model.Alike (src.mask token)) :=
    (descend_twin (Agrees.refl src) (entering_twin (Agrees.refl src) []) src.limit context n).bind
      fun _ _ h => .promote h context
  obtain ⟨hend, -, hm⟩ := htwin b src.start hb
  exact ⟨{ hend with drafted := hb.drafted }, hm⟩

/-- masks show which references lead to components -/
theorem refers_iff (htoken : token ∉ src.components.keys) {m m' : Model} (h : m.Alike (src.mask token) m') :
    (∀ t ∈ m.references, t ∈ src.components.keys) ↔ ∀ t ∈ m'.references, t ∈ src.components.keys := by
  have hmask : ∀ t, src.mask token t ∈ src.components.keys ↔ t ∈ src.components.keys := by
    intro t
    unfold mask
    split_ifs with ht <;> simp [ht, htoken]
  have hmasked : ∀ ts : List String,
      (∀ t ∈ ts, t ∈ src.components.keys) ↔ ∀ t ∈ ts.map (src.mask token), t ∈ src.components.keys := by
    intro ts
    simp only [List.forall_mem_map, hmask]
  rw [hmasked, h.references, ← hmasked]

/-- lists of models that agree so refer to components alike -/
theorem refer_iff (htoken : token ∉ src.components.keys) {ms ms' : List Model}
    (h : List.Forall₂ (fun m m' => m'.Alike (src.mask token) m) ms ms') :
    (∀ m ∈ ms, ∀ t ∈ m.references, t ∈ src.components.keys) ↔
      ∀ m ∈ ms', ∀ t ∈ m.references, t ∈ src.components.keys := by
  induction h with
  | nil => simp
  | cons hm _ ih => rw [List.forall_mem_cons, List.forall_mem_cons, ih, refers_iff htoken hm]

/-- the finished table is the table that was built, in another order -/
theorem finish_perm_table (hkeys : src.components.keys.Nodup) (hb : Orderly src [] b) :
    (src.finish b).Perm b.table := by
  have hfinish : (Keyed.keys (src.finish b)).Nodup := by
    rw [keys_finish hb]
    exact (names_nodup hkeys hb).sublist ((List.filter_sublist).append_right _)
  refine (List.perm_ext_iff_of_nodup hfinish.of_map hb.distinct.of_map).2 fun e => ?_
  exact mem_finish hb.distinct

end Source

/-- building operations conserves references, and gives each schema a model like its sketch -/
def placementLaw (src : Source) (token : String) : ApiLaw src where
  Inv b := Accounted src src token [] b src.start
  Built := Conserved src
  Sketch context n m := m.Alike (src.mask token) (src.sketch context n)
  Asked _ := True
  idle := .idle
  append := .append
  noted h _ := ⟨{ h with orderly := h.orderly.noted _ }, .of_same rfl (Orderly.synthesized_noted _ _)⟩
  nested context n _ b hb := by
    obtain ⟨hend, hm⟩ := Source.nested_sketched context n b hb
    exact ⟨hend, ((conservedLaw src).nested_leads context n b hb.orderly).2, hm⟩
  absent _ _ := ⟨.formed .idle (fun t ht => by cases ht), .refl _⟩

namespace Api

/-- every reference of an API, at any depth of the entries of its table and of the models of its operations -/
def references (api : Api) : List String :=
  api.models.flatMap Model.references

variable (d : Document) (naming : Config.Naming) (limit : Nat)

/-- the models, built alone, of the parameters whose places others take -/
def overriddenModels : List Model :=
  ((setting d naming limit).allOverriddenSchemas d.paths).map fun e => (source d naming limit).sketch e.1 e.2

/-- the names of promoted models in the finished table -/
def promotedNames : List String :=
  (Keyed.keys (ofDocument d naming limit).1.table).filter (· ∉ (source d naming limit).components.keys)

variable {d naming limit}

/-- the references of an API and those of the parameters that were replaced are, together, the promoted names -/
theorem references_conserved (hkeys : (source d naming limit).components.keys.Nodup) (token : String) :
    ∃ lost : List Model,
      List.Forall₂ (fun s m => m.Alike ((source d naming limit).mask token) s) (overriddenModels d naming limit) lost ∧
        ∀ k ∉ (source d naming limit).components.keys,
          (references (ofDocument d naming limit).1).count k + (lost.flatMap Model.references).count k =
            (final d naming limit).synthesized.count k := by
  let src := source d naming limit
  have hstart := Accounted.start src src token
  have hparsed := (ensureAll_accounted (G := tallyGauge src token) (.refl src) src.components.keys _ _ hstart).1
  have hcomponents : Conserved src src.start [] src.parsed :=
    ((conservedLaw src).parseComponents_leads src.start hstart.orderly).2
  obtain ⟨hend, all, lost, hall, hperm, hlost⟩ :=
    @ApiLaw.operations_leads (setting d naming limit) (placementLaw src token) d.paths (fun _ _ => trivial) src.parsed
      hparsed
  refine ⟨lost, List.forall₂_map_left_iff.2 hlost, fun k hk => ?_⟩
  have htotal := (hcomponents.append hall) k hk
  have htable : (references (ofDocument d naming limit).1).count k =
      (final d naming limit).references.count k +
        (((ofDocument d naming limit).1.operations.flatMap Operation.models).flatMap Model.references).count k := by
    rw [references, models, List.flatMap_append, List.count_append, table_ofDocument]
    exact congrArg (· + _)
      ((((Source.finish_perm_table hkeys hend.orderly).map (·.2)).flatMap_right Model.references).count_eq k)
  have hbuilt : (all.flatMap Model.references).count k =
      (((ofDocument d naming limit).1.operations.flatMap Operation.models).flatMap Model.references).count k +
        (lost.flatMap Model.references).count k := by
    rw [← List.count_append, ← List.flatMap_append]
    exact (hperm.symm.flatMap_right Model.references).count_eq k
  have hempty : src.start.references.count k = 0 ∧ src.start.synthesized.count k = 0 := ⟨rfl, rfl⟩
  rw [List.nil_append, hbuilt, hempty.1, hempty.2] at htotal
  rw [htable, Nat.add_assoc]
  exact (htotal.trans (Nat.zero_add _))

theorem mem_promotedNames {name : String} :
    name ∈ promotedNames d naming limit ↔ name ∈ (final d naming limit).synthesized := by
  have hsound := (final_sound d naming limit).1
  rw [promotedNames, List.mem_filter, decide_eq_true_eq, table_ofDocument,
    Source.mem_keys_finish hsound.orderly.distinct, ← hsound.orderly.synthesized, List.mem_filter, decide_eq_true_eq]

theorem promotedNames_notMem {name : String} (h : name ∈ promotedNames d naming limit) :
    name ∉ (source d naming limit).components.keys :=
  of_decide_eq_true (List.mem_filter.1 h).2

/-- no name is promoted twice -/
theorem count_synthesized {name : String} (h : name ∈ promotedNames d naming limit) :
    (final d naming limit).synthesized.count name = 1 := by
  have horderly := (final_sound d naming limit).1.orderly
  have hnodup : (final d naming limit).synthesized.Nodup := horderly.synthesized ▸ horderly.distinct.filter _
  exact List.count_eq_one_of_mem hnodup (mem_promotedNames.1 h)

/-- **Promoted models are referred to once**, and never more than once. The exceptions are those of parameters whose
places others take: there are none exactly if such parameters refer to components only. -/
theorem promoted_once_iff (hkeys : (source d naming limit).components.keys.Nodup) :
    (∀ name ∈ promotedNames d naming limit, (references (ofDocument d naming limit).1).count name ≤ 1) ∧
      ((∀ name ∈ promotedNames d naming limit, (references (ofDocument d naming limit).1).count name = 1) ↔
        ∀ m ∈ overriddenModels d naming limit, ∀ t ∈ m.references, t ∈ (source d naming limit).components.keys) := by
  have htoken := freshName_notMem (source d naming limit).components.keys ""
  obtain ⟨lost, halike, hcount⟩ := references_conserved hkeys (freshName (source d naming limit).components.keys "")
  have honce : ∀ name ∈ promotedNames d naming limit,
      (references (ofDocument d naming limit).1).count name + (lost.flatMap Model.references).count name = 1 :=
    fun name hname => (hcount name (promotedNames_notMem hname)).trans (count_synthesized hname)
  refine ⟨fun name hname => (honce name hname).le.trans' (Nat.le_add_right _ _), ?_⟩
  calc (∀ name ∈ promotedNames d naming limit, (references (ofDocument d naming limit).1).count name = 1)
    -- a promoted name that nothing refers to is one that a lost model refers to
    _ ↔ ∀ k ∉ (source d naming limit).components.keys, (lost.flatMap Model.references).count k = 0 := by
      constructor
      · intro hone k hk
        by_cases hpromoted : k ∈ promotedNames d naming limit
        · have := honce k hpromoted
          rw [hone k hpromoted] at this
          omega
        · have := hcount k hk
          rw [List.count_eq_zero.2 fun h => hpromoted (mem_promotedNames.2 h)] at this
          omega
      · intro hzero name hname
        have := honce name hname
        rwa [hzero name (promotedNames_notMem hname)] at this
    _ ↔ ∀ m ∈ lost, ∀ t ∈ m.references, t ∈ (source d naming limit).components.keys := by
      simp only [List.count_eq_zero, List.mem_flatMap, not_exists, not_and]
      exact ⟨fun h m hm t ht => not_imp_not.1 (fun hnot => h t hnot m hm) ht, fun h k hk m hm ht => hk (h m hm k ht)⟩
    _ ↔ ∀ m ∈ overriddenModels d naming limit, ∀ t ∈ m.references, t ∈ (source d naming limit).components.keys :=
      (Source.refer_iff htoken halike).symm

/-! ## A parameter in the place of another -/

/-- a document whose operation has a parameter in the place of one of its path -/
def kindDocument (shared own : Schema SchemaNode) : Document where
  paths := [("/pets", {
    parameters := [.inline { name := "kind", location := .query, schema := some (.schema shared) }]
    get := some {
      operationId := some "listPets"
      parameters := [.inline { name := "kind", location := .query, schema := some (.schema own) }] } })]

def plainText : Schema SchemaNode :=
  { types := some (.one .string) }

def choice : Schema SchemaNode :=
  { types := some (.one .string), literals := [.string "cat"] }

/-- nothing is promoted for the parameter of the path: the choice, promoted for the other one, is referred to once -/
theorem promoted_once_iff_kind :
    (source (kindDocument plainText choice) {} 100).components.keys.Nodup ∧
      promotedNames (kindDocument plainText choice) {} 100 = ["ListPetsKind"] ∧
      (references (ofDocument (kindDocument plainText choice) {} 100).1).count "ListPetsKind" = 1 := by
  have hkeys : (source (kindDocument plainText choice) {} 100).components.keys.Nodup := .nil
  have hnames : promotedNames (kindDocument plainText choice) {} 100 = ["ListPetsKind"] := rfl
  have hoverridden : overriddenModels (kindDocument plainText choice) {} 100 = [.scalar .string] := rfl
  refine ⟨hkeys, hnames, (promoted_once_iff hkeys).2.2 ?_ _ (by rw [hnames]; exact List.mem_singleton_self _)⟩
  intro m hm t ht
  rw [hoverridden, List.mem_singleton] at hm
  rw [hm] at ht
  cases ht

/-- the choice is promoted for the parameter of the path, which then loses its place: nothing refers to the choice -/
theorem choice_unreferenced :
    references (ofDocument (kindDocument choice plainText) {} 100).1 = [] ∧
      ¬ ∀ name ∈ promotedNames (kindDocument choice plainText) {} 100,
        (references (ofDocument (kindDocument choice plainText) {} 100).1).count name = 1 := by
  have hreferences : references (ofDocument (kindDocument choice plainText) {} 100).1 = [] := rfl
  have hname : "ListPetsKind" ∈ promotedNames (kindDocument choice plainText) {} 100 := .head _
  refine ⟨hreferences, fun h => ?_⟩
  have hone := h _ hname
  rw [hreferences] at hone
  cases hone

end Api

end ClientPlan
