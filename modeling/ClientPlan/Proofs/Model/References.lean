/-
How often entries are referred to. Building moves references around but neither makes nor loses any: whenever a model is
promoted, its name is added once to the promoted names, and once to the references, in the model that takes its place.
So the references in the table and in the models in flight are, together, the names that were promoted (`conserved`).
-/
import ClientPlan.Proofs.Model.Orderly
import ClientPlan.Proofs.Model.Twins
import ClientPlan.Proofs.Model.Walk

namespace ClientPlan

namespace Model

/-! ## References at any depth -/

mutual

/-- the targets of the references in a model, at any depth, each as often as it is referred to -/
def references : Model → List String
  | ⟨_, shape, _, _, _⟩ => shapeReferences shape

/-- the targets of the references in a shape -/
def shapeReferences : Shape Model → List String
  | .scalar _ => []
  | .object properties _ additional => entryReferences properties ++ optionReferences additional
  | .array items => optionReferences items
  | .enumeration _ _ => []
  | .union variants _ _ => listReferences variants
  | .reference target => [target]

/-- the targets of the references in named models -/
def entryReferences : List (String × Model) → List String
  | [] => []
  | (_, m) :: es => m.references ++ entryReferences es

/-- the targets of the references in models -/
def listReferences : List Model → List String
  | [] => []
  | m :: ms => m.references ++ listReferences ms

/-- the targets of the references in a model that may be left out -/
def optionReferences : Option Model → List String
  | none => []
  | some m => m.references

end

/-- a model refers to what it is a reference to, and to what the models inside it refer to -/
theorem references_eq (m : Model) : m.references = m.target?.toList ++ m.children.flatMap references := by
  have hlist : ∀ ms, listReferences ms = ms.flatMap references := fun ms => by
    induction ms with
    | nil => rfl
    | cons m ms ih => rw [listReferences, ih, List.flatMap_cons]
  have hentries : ∀ es, entryReferences es = (es.map (·.2)).flatMap references := fun es => by
    induction es with
    | nil => rfl
    | cons e es ih => rw [entryReferences, ih, List.map_cons, List.flatMap_cons]
  have hoption : ∀ o, optionReferences o = o.toList.flatMap references := fun o => by
    cases o with
    | none => rfl
    | some m => exact (List.flatMap_singleton _ _).symm
  obtain ⟨name, shape, format, nullable, description⟩ := m
  rw [references]
  cases shape with
  | object properties required additional =>
    rw [shapeReferences, hentries, hoption, ← List.flatMap_append]
    rfl
  | array items => rw [shapeReferences, hoption]; rfl
  | union variants literals discriminator => rw [shapeReferences, hlist]; rfl
  | _ => rfl

theorem references_of_shape {m m' : Model} (h : m'.shape = m.shape) : m'.references = m.references := by
  cases m
  cases m'
  cases h
  rfl

/-! ## References of retargeted models -/

mutual

theorem references_retarget (f : String → String) : ∀ m : Model, (m.retarget f).references = m.references.map f
  | ⟨_, shape, _, _, _⟩ => shapeReferences_retarget f shape

theorem shapeReferences_retarget (f : String → String) :
    ∀ s : Shape Model, shapeReferences (retargetShape f s) = (shapeReferences s).map f
  | .scalar _ => rfl
  | .object properties _ additional => by
    rw [retargetShape, shapeReferences, shapeReferences, entryReferences_retarget, optionReferences_retarget,
      List.map_append]
  | .array items => optionReferences_retarget f items
  | .enumeration _ _ => rfl
  | .union variants _ _ => listReferences_retarget f variants
  | .reference _ => rfl

theorem entryReferences_retarget (f : String → String) :
    ∀ es : List (String × Model), entryReferences (retargetEntries f es) = (entryReferences es).map f
  | [] => rfl
  | (_, m) :: es => by
    rw [retargetEntries, entryReferences, entryReferences, references_retarget, entryReferences_retarget,
      List.map_append]

theorem listReferences_retarget (f : String → String) :
    ∀ ms : List Model, listReferences (retargetAll f ms) = (listReferences ms).map f
  | [] => rfl
  | m :: ms => by
    rw [retargetAll, listReferences, listReferences, references_retarget, listReferences_retarget, List.map_append]

theorem optionReferences_retarget (f : String → String) :
    ∀ o : Option Model, optionReferences (retarget? f o) = (optionReferences o).map f
  | none => rfl
  | some m => references_retarget f m

end

/-- models that differ only in what `f` makes of targets refer, up to `f`, to the same -/
theorem Alike.references {f : String → String} {m m' : Model} (h : m.Alike f m') :
    m.references.map f = m'.references.map f := by
  rw [← references_retarget, ← references_retarget, h]

end Model

/-! ## References are conserved -/

/-- the references in the table -/
def Build.references (b : Build) : List String :=
  (b.table.map (·.2)).flatMap Model.references

/-- from `b` to `b'`, the references in the table and in the models `ms` became as many more as names were promoted -/
def Conserved (src : Source) (b : Build) (ms : List Model) (b' : Build) : Prop :=
  ∀ k ∉ src.components.keys,
    b'.references.count k + (ms.flatMap Model.references).count k + b.synthesized.count k =
      b.references.count k + b'.synthesized.count k

namespace Conserved

variable {src : Source} {r : List String} {b b' b'' : Build} {m m' : Model} {ms ms' : List Model}

theorem idle : Conserved src b [] b := by
  intro k _
  simp

theorem append (h : Conserved src b ms b') (h' : Conserved src b' ms' b'') : Conserved src b (ms ++ ms') b'' := by
  intro k hk
  have hk₁ := h k hk
  have hk₂ := h' k hk
  rw [List.flatMap_append, List.count_append]
  omega

/-- steps that leave the table and the promoted names as they are -/
theorem of_same (htable : b'.table = b.table) (hsynthesized : b'.synthesized = b.synthesized) :
    Conserved src b [] b' := by
  intro k _
  rw [Build.references, htable, hsynthesized]
  simp [Build.references]

theorem formed (h : Conserved src b m.children b') (htarget : ∀ t, m.target? = some t → t ∈ src.components.keys) :
    Conserved src b [m] b' := by
  intro k hk
  have hnone : m.target?.toList.count k = 0 := by
    cases ht : m.target? with
    | none => rfl
    | some t => exact List.count_eq_zero.2 fun hmem => hk (List.mem_singleton.1 hmem ▸ htarget t ht)
  have hk' := h k hk
  rw [List.flatMap_singleton, Model.references_eq, List.count_append, hnone, Nat.zero_add]
  exact hk'

theorem restyled (h : Conserved src b [m] b') (hshape : m'.shape = m.shape) : Conserved src b [m'] b' := by
  intro k hk
  rw [List.flatMap_singleton, Model.references_of_shape hshape, ← List.flatMap_singleton Model.references m]
  exact h k hk

/-- a model that is entered is in flight no more -/
theorem references_append {name : String} (htable : b'.table = b.table ++ [(name, { m with name := some name })]) :
    b'.references = b.references ++ m.references := by
  rw [Build.references, htable, List.map_append, List.flatMap_append, List.map_singleton, List.flatMap_singleton]
  exact congrArg (b.references ++ ·) (Model.references_of_shape rfl)

theorem promoted (hb : Orderly src r b') (h : Conserved src b [m] b') (context : String) :
    Conserved src b [b'.stub context m] (b'.promoted context m) := by
  intro k hk
  have hk' := h k hk
  rw [List.flatMap_singleton] at hk' ⊢
  rw [references_append (hb.table_promoted context m), Orderly.synthesized_promoted, List.count_append,
    List.count_append]
  change _ + [b'.nextName context].count k + _ = _
  omega

theorem closed {name : String} (hnew : name ∉ b'.keys) (h : Conserved src b [m] b') :
    Conserved src b [] (b'.entered name m) := by
  intro k hk
  have hk' := h k hk
  rw [List.flatMap_singleton] at hk'
  have hsynthesized : (b'.entered name m).synthesized = b'.synthesized := rfl
  rw [references_append (Build.table_entered hnew m), hsynthesized, List.count_append, List.flatMap_nil, List.count_nil]
  omega

end Conserved

/-- every step of a walk conserves references -/
def conservedLaw (src : Source) : WalkLaw src where
  Inv := Orderly src
  law resolving _ :=
    { Node := fun b _ m b' => Conserved src b [m] b'
      Nodes := fun b _ ms b' => Conserved src b ms b'
      idle := .idle
      append := .append
      after := fun h h' => h.append h'
      noticed := fun h hn => ⟨h.noticed hn, .of_same rfl (Orderly.synthesized_noticed _ hn)⟩
      noted := fun h _ => ⟨h.noted _, .of_same rfl (Orderly.synthesized_noted _ _)⟩
      formed := fun h _ htarget => h.formed htarget
      restyled := fun h _ hshape => h.restyled hshape
      kept := fun h _ => h
      promoted := fun hb' h _ context => ⟨hb'.promoted context _, h.promoted hb' context⟩ }
  level := fun h => h
  risen := fun h => h
  overflowed := fun h => ⟨h.noted _, .formed (.of_same rfl (Orderly.synthesized_noted _ _)) fun t ht => by cases ht⟩
  opened := fun h hname _ hnew => h.opened hname hnew
  closed := fun hb' hm _ hr => ⟨hb'.closed hr _, hm.closed (hb'.resolving _ List.mem_cons_self).2⟩

end ClientPlan
