/-
What each component contributes. A component can be drafted alone: no other component is entered on the way. However a
walk comes upon it, it contributes its draft up to the names of promoted models, the diagnostics of its draft, and as
many promoted models as its draft has. So the order of the components decides nothing but the order of diagnostics and
the numbers in promoted names (`parse_perm`).

The proof runs each component side by side with its draft. The ledger of the two runs says that the walk has noted and
promoted what the draft has, and in addition what the components contribute that were entered meanwhile.
-/
import Mathlib.Algebra.BigOperators.Group.Multiset.Basic
import Mathlib.Algebra.GroupWithZero.Nat
import ClientPlan.Proofs.Model.Overflow
import ClientPlan.Proofs.Model.Twins

namespace ClientPlan

/-- where each key has one entry, the order of entries does not matter for look-up -/
theorem Keyed.get?_of_perm {α : Type} {m m' : Keyed α} (hkeys : m.keys.Nodup) (hperm : m'.Perm m) {key : String} :
    m'.get? key = m.get? key := by
  have hkeys' : m'.keys.Nodup := (hperm.map _).nodup_iff.2 hkeys
  refine Option.ext fun value => ⟨fun h => ?_, fun h => ?_⟩
  · exact get?_of_mem hkeys (hperm.mem_iff.1 (mem_of_get? h))
  · exact get?_of_mem hkeys' (hperm.mem_iff.2 (mem_of_get? h))

/-- the diagnostics in any order, and the number of promoted models -/
def Build.tally (b : Build) : Multiset Diagnostic × ℕ :=
  (b.diagnostics, b.synthesized.length)

namespace Source

variable (src : Source)

/-- build the root of a component without entering any other component -/
def alone (name : String) (node : SchemaNode) : Building Model :=
  (src.reach [] (fun _ => pure ()) src.limit (src.descend [] (fun _ => pure ()) src.limit)).node (typeName name) node

/-- a component built alone, from the start -/
def drafting (name : String) : Model × Build :=
  match src.components.get? name with
  | some node => (src.alone name node).run src.start
  | none => (.placeholder, src.start)

/-- the model of a component that is built alone -/
def draft (name : String) : Model :=
  { (src.drafting name).1 with name := some name }

/-- the names of promoted models replaced by one token -/
def mask (token target : String) : String :=
  if target ∈ src.components.keys then target else token

/-- the finished table after all components were built -/
def parsedTable : Table :=
  src.finish src.parsed

/-- the keys of the finished table that are components -/
def parsedKeys : List String :=
  (Keyed.keys src.parsedTable).filter (· ∈ src.components.keys)

/-- the other keys of the finished table -/
def promotedKeys : List String :=
  (Keyed.keys src.parsedTable).filter (· ∉ src.components.keys)

variable {src}

/-- the same components are found, whatever their order, and the limit is the same -/
structure Agrees (src canon : Source) : Prop where
  lookup : ∀ name, src.components.get? name = canon.components.get? name
  limit : src.limit = canon.limit

theorem Agrees.mem_keys {canon : Source} (h : src.Agrees canon) (name : String) :
    name ∈ src.components.keys ↔ name ∈ canon.components.keys := by
  rw [← Keyed.isSome_get?_iff, ← Keyed.isSome_get?_iff, h.lookup]

theorem mask_of_promoted {token target : String} (h : target ∉ src.components.keys) : src.mask token target = token :=
  if_neg h

end Source

/-! ## Gauges -/

/-- something that diagnostics and promoted models add to, and nothing else -/
structure Gauge (canon : Source) (token : String) (M : Type) [AddCommMonoid M] where
  of : Build → M
  diagnostic : Diagnostic → M
  model : Model → M
  alike : ∀ {m m'}, m.Alike (canon.mask token) m' → model m = model m'
  start : ∀ src : Source, of src.start = 0
  noticed : ∀ b {n}, (∀ context name, n ≠ .promoted context name) → of (b.noticed n) = of b
  noted : ∀ b d, of (b.noted d) = of b + diagnostic d
  promoted : ∀ {b context}, b.nextName context ∉ b.keys → b.nextName context ∉ canon.components.keys →
    ∀ m, of (b.promoted context m) = of b + model m
  entered : ∀ {b name}, name ∉ b.keys → name ∈ canon.components.keys → ∀ m, of (b.entered name m) = of b

namespace Gauge

variable {src canon : Source} {token : String} {M : Type} [AddCommMonoid M] (G : Gauge canon token M) {r : List String}
  {b : Build}

/-- what a component contributes when it is built alone -/
def cost (name : String) : M :=
  G.of (canon.drafting name).2

/-- what the components in the table contribute -/
def due (b : Build) : M :=
  ((b.keys.filter (· ∈ canon.components.keys)).map G.cost).sum

theorem due_promoted (hagrees : src.Agrees canon) (hb : Orderly src r b) (context : String) (m : Model) :
    G.due (b.promoted context m) = G.due b := by
  have hnew : b.nextName context ∉ canon.components.keys := fun h =>
    hb.nextName_ne_component context ((hagrees.mem_keys _).2 h)
  rw [due, hb.keys_promoted, List.filter_append]
  simp [hnew, due]

/-- a component that is entered is due from then on -/
theorem due_entered {name : String} (hname : name ∈ canon.components.keys) (hnew : name ∉ b.keys) (m : Model) :
    G.due (b.entered name m) = G.due b + G.cost name := by
  rw [due, Orderly.keys_entered b hnew, List.filter_append]
  simp [hname, due]

end Gauge

/-- tallies are gauges: they count models, whatever these are -/
def tallyGauge (canon : Source) (token : String) : Gauge canon token (Multiset Diagnostic × ℕ) where
  of := Build.tally
  diagnostic d := ({d}, 0)
  model _ := (0, 1)
  alike _ := rfl
  start _ := rfl
  noticed b _ hn := by
    rw [Build.tally, Orderly.synthesized_noticed b hn]
    rfl
  noted b d := by
    rw [Build.tally, Orderly.synthesized_noted]
    exact Prod.ext (Multiset.coe_add _ _).symm rfl
  promoted _ _ m := by
    rw [Build.tally, Orderly.synthesized_promoted, List.length_append]
    exact Prod.ext (add_zero _).symm rfl
  entered _ _ _ := rfl

/-! ## The ledger -/

/-- a walk in the state `b` beside a draft in the state `q`: what the table holds is as drafted -/
structure Accounted (src canon : Source) (token : String) (r : List String) (b q : Build) : Prop where
  orderly : Orderly src r b
  drafted : Orderly canon [] q
  entries : ∀ name ∈ src.components.keys, ∀ m, Keyed.get? b.table name = some m →
    m.Alike (canon.mask token) (canon.draft name)

section Ledger

variable {src canon : Source} {token : String} {M : Type} [AddCommMonoid M] {G : Gauge canon token M} {r : List String}
  {b q b' q' : Build}

variable (G) in
/-- the walk did what the draft did, and in addition what is due for the components that it entered -/
def Balanced (b q b' q' : Build) : Prop :=
  ∃ own extra, G.of q' = G.of q + own ∧ G.of b' = G.of b + own + extra ∧ G.due b' = G.due b + extra

/-- steps that enter no component -/
theorem Balanced.of_own {own : M} (hq : G.of q' = G.of q + own) (hb : G.of b' = G.of b + own)
    (hdue : G.due b' = G.due b) : Balanced G b q b' q' :=
  ⟨own, 0, hq, by rw [hb, add_zero], by rw [hdue, add_zero]⟩

/-- steps that add nothing -/
theorem Balanced.of_same (hq : G.of q' = G.of q) (hb : G.of b' = G.of b) (hdue : G.due b' = G.due b) :
    Balanced G b q b' q' :=
  .of_own (hq.trans (add_zero _).symm) (hb.trans (add_zero _).symm) hdue

theorem Balanced.refl (b q : Build) : Balanced G b q b q :=
  .of_same rfl rfl rfl

theorem Balanced.trans {b'' q'' : Build} (h : Balanced G b q b' q') (h' : Balanced G b' q' b'' q'') :
    Balanced G b q b'' q'' := by
  obtain ⟨own, extra, hq, hb, hdue⟩ := h
  obtain ⟨own', extra', hq', hb', hdue'⟩ := h'
  refine ⟨own + own', extra + extra', ?_, ?_, ?_⟩
  · rw [hq', hq, add_assoc]
  · rw [hb', hb, add_right_comm (G.of b + own) extra own', add_assoc (G.of b) own own', add_assoc]
  · rw [hdue', hdue, add_assoc]

theorem Accounted.noticed (h : Accounted src canon token r b q) {n : Notice}
    (hn : ∀ context name, n ≠ .promoted context name) : Accounted src canon token r (b.noticed n) q :=
  { h with orderly := h.orderly.noticed hn }

theorem Accounted.promoted (h : Accounted src canon token r b q) (context : String) (m m' : Model) :
    Accounted src canon token r (b.promoted context m) (q.promoted context m') := by
  refine ⟨h.orderly.promoted context m, h.drafted.promoted context m', ?_⟩
  intro name hname x hx
  have hne : name ≠ b.nextName context := fun heq => h.orderly.nextName_ne_component context (heq ▸ hname)
  have hget : Keyed.get? (b.promoted context m).table name = Keyed.get? b.table name := by
    rw [Build.promoted, Keyed.get?_insert, if_neg hne]
  exact h.entries name hname x (hget ▸ hx)

variable (G) in
/-- a walk beside a draft keeps the ledger balanced -/
def ledger (hagrees : src.Agrees canon) (r : List String) : TwinLaw (canon.mask token) where
  Inv := Accounted src canon token r
  Step := Balanced G
  idle := .refl _ _
  trans := .trans
  noticed h hn :=
    ⟨{ h.noticed hn with drafted := h.drafted.noticed hn }, .of_same (G.noticed _ hn) (G.noticed _ hn) rfl⟩
  noted {_ _ d} h :=
    ⟨{ h with orderly := h.orderly.noted d, drafted := h.drafted.noted d },
      .of_own (G.noted _ _) (G.noted _ _) rfl⟩
  promoted {b q m m'} h hm context := by
    have hb : b.nextName context ∉ canon.components.keys := fun hmem =>
      h.orderly.nextName_ne_component context ((hagrees.mem_keys _).2 hmem)
    have hq := h.drafted.nextName_ne_component context
    have hown : G.of (q.promoted context m') = G.of q + G.model m' :=
      G.promoted (h.drafted.nextName_notMem_keys context) hq m'
    have hwalk : G.of (b.promoted context m) = G.of b + G.model m' := by
      rw [← G.alike hm]
      exact G.promoted (h.orderly.nextName_notMem_keys context) hb m
    refine ⟨h.promoted context m m', .of_own hown hwalk (G.due_promoted hagrees h.orderly _ _), ?_⟩
    rw [Source.mask_of_promoted hb, Source.mask_of_promoted hq]

/-! ## Walking beside drafts -/

variable (hagrees : src.Agrees canon)

theorem ledger_paired {budget : Nat} {below below' : String → SchemaNode → Building Model} {S : List SchemaNode}
    {T : List String}
    (henter : ∀ name, (ledger G hagrees r).Twin (src.entering r name) (pure ()) fun _ _ => True)
    (hbelow : ∀ context n, (ledger G hagrees r).Twin (below context n) (below' context n)
      (Model.Alike (canon.mask token))) :
    (ledger G hagrees r).Paired (src.reach r (src.entering r) budget below)
      (canon.reach [] (fun _ => pure ()) budget below') S T := by
  refine ⟨hagrees.lookup, fun context n _ => hbelow context n, fun context name _ => ?_⟩
  -- a draft resolves nothing and enters nothing, so that on its side a reference does nothing
  let use := canon.reach [] (fun _ => pure ()) budget below'
  have hdraft : (if use.resolving.contains name then notice (.forwardReference context name) else use.enter name) =
      pure () := by
    simp only [use, Source.reach, List.contains_nil, Bool.false_eq_true, if_false]
    split_ifs <;> rfl
  rw [hdraft]
  split_ifs with hr
  · intro b q h
    have hnotice : ∀ c n, Notice.forwardReference context name ≠ .promoted c n := by simp
    exact ⟨h.noticed hnotice, .of_same rfl (G.noticed _ hnotice) rfl, trivial⟩
  · unfold Source.reach
    dsimp only
    split_ifs
    · exact .pure trivial
    · exact henter name

theorem descend_twin
    (henter : ∀ name, (ledger G hagrees r).Twin (src.entering r name) (pure ()) fun _ _ => True)
    (budget : Nat) (context : String) (n : SchemaNode) :
    (ledger G hagrees r).Twin (src.descend r (src.entering r) budget context n)
      (canon.descend [] (fun _ => pure ()) budget context n) (Model.Alike (canon.mask token)) := by
  induction budget generalizing context n with
  | zero =>
    rw [Source.descend, Source.descend, hagrees.limit]
    exact (TwinLaw.Twin.note _).bind fun _ _ _ => .pure (.refl _)
  | succ budget ih =>
    exact TwinLaw.node_twin (ledger_paired hagrees henter ih) context

/-- a component that is built costs what its draft costs, and what is due for the components entered on the way -/
theorem root_accounted {name : String} {node : SchemaNode} (hnode : src.components.get? name = some node)
    (henter : ∀ other,
      (ledger G hagrees (name :: r)).Twin (src.entering (name :: r) other) (pure ()) fun _ _ => True)
    (h : Accounted src canon token (name :: r) b q) {m : Model}
    (hrun : (src.root (name :: r) (typeName name) node).run b = (m, b')) :
    Accounted src canon token (name :: r) b' q ∧
      Model.Alike (canon.mask token) { m with name := some name } (canon.draft name) ∧
      ∃ extra, G.of b' = G.of b + G.cost name + extra ∧ G.due b' = G.due b + extra := by
  have hdrafting : canon.drafting name = (canon.alone name node).run canon.start := by
    rw [Source.drafting, ← hagrees.lookup, hnode]
  -- the draft begins anew, wherever the walk is: nothing but its own order is asked of its state
  have hstart : Accounted src canon token (name :: r) b canon.start := { h with drafted := Orderly.start canon }
  have htwin : (ledger G hagrees (name :: r)).Twin (src.root (name :: r) (typeName name) node)
      (canon.alone name node) (Model.Alike (canon.mask token)) := by
    unfold Source.alone
    rw [← hagrees.limit]
    exact TwinLaw.node_twin (ledger_paired hagrees henter (descend_twin hagrees henter src.limit)) _
  obtain ⟨hend, ⟨own, extra, hown, htotal, hdue⟩, hm⟩ := htwin b canon.start hstart
  rw [← hdrafting] at hown hm
  rw [hrun] at hend htotal hdue hm
  have hcost : G.cost name = own := by rw [Gauge.cost, hown, G.start, zero_add]
  exact ⟨{ hend with drafted := h.drafted }, hm.named _, extra, hcost ▸ htotal, hdue⟩

/-- a finished component is in the table as drafted -/
theorem Accounted.closed {name : String} (h : Accounted src canon token (name :: r) b q) (hr : name ∉ r) {m : Model}
    (hm : Model.Alike (canon.mask token) { m with name := some name } (canon.draft name)) :
    Accounted src canon token r (b.entered name m) q := by
  refine ⟨h.orderly.closed hr m, h.drafted, fun other hother x hx => ?_⟩
  rw [Build.entered, Keyed.get?_insert] at hx
  split_ifs at hx with heq
  · cases hx
    exact heq ▸ hm
  · exact h.entries other hother x hx

/-- **Entering a component** does what is due for it and for the components that are entered on the way. -/
theorem entering_twin (r : List String) (name : String) :
    (ledger G hagrees r).Twin (src.entering r name) (pure ()) fun _ _ => True := by
  induction r, name using Source.component.induct src with
  | case1 r name hr =>
    rw [Source.entering, Source.component_resolving hr]
    exact .pure trivial
  | case2 r name hr ih =>
    intro b q h
    change Accounted _ _ _ _ ((src.component r name).run b).2 q ∧ Balanced G b q ((src.component r name).run b).2 q ∧ _
    rw [Source.run_component hr]
    split_ifs with ht
    · exact ⟨h, .refl b q, trivial⟩
    · cases hc : src.components.get? name with
      | none => exact ⟨h, .refl b q, trivial⟩
      | some node =>
        have hmem := Keyed.mem_keys_of_get? hc
        have hnew : name ∉ b.keys := fun hk => ht ((Keyed.has_iff_mem_keys _ _).2 hk)
        have hopen : Accounted src canon token (name :: r) b q := { h with orderly := h.orderly.opened hmem hnew }
        dsimp only
        cases hrun : (src.root (name :: r) (typeName name) node).run b with
        | mk m b' =>
        obtain ⟨hend, hm, extra, htotal, hdue⟩ := root_accounted hagrees hc (ih node hc) hopen hrun
        have hlast := (hend.orderly.resolving name List.mem_cons_self).2
        -- the other side has done nothing, so that all the component has cost is extra, and becomes due
        refine ⟨hend.closed hr hm, ⟨0, G.cost name + extra, (add_zero _).symm, ?_, ?_⟩, trivial⟩
        · rw [G.entered hlast ((hagrees.mem_keys _).1 hmem), add_zero, ← add_assoc]
          exact htotal
        · rw [G.due_entered ((hagrees.mem_keys _).1 hmem) hlast, hdue, add_assoc, add_comm extra]

end Ledger

/-! ## All components -/

section Parsed

variable {src canon : Source} {token : String} {M : Type} [AddCommMonoid M] {G : Gauge canon token M}

theorem ensureAll_accounted (hagrees : src.Agrees canon) (names : List String) :
    (ledger G hagrees []).Twin (src.ensureAll names) (pure ()) fun _ _ => True := by
  induction names with
  | nil => exact .pure trivial
  | cons name names ih => exact (entering_twin hagrees [] name).bind fun _ _ _ => ih

/-- before anything is built, nothing is due -/
theorem Accounted.start (src canon : Source) (token : String) : Accounted src canon token [] src.start canon.start :=
  ⟨Orderly.start src, Orderly.start canon, fun _ _ _ h => by cases h⟩

variable (G) in
/-- **All components together** are as drafted, and contribute what their drafts contribute. -/
theorem parsed_gauged (hagrees : src.Agrees canon) (hkeys : src.components.keys.Nodup)
    (hperm : src.components.keys.Perm canon.components.keys) :
    Accounted src canon token [] src.parsed canon.start ∧
      G.of src.parsed = (canon.components.keys.map G.cost).sum := by
  obtain ⟨hend, ⟨own, extra, hown, htotal, hdue⟩, -⟩ :=
    ensureAll_accounted (G := G) hagrees src.components.keys src.start canon.start (.start src canon token)
  refine ⟨hend, ?_⟩
  have hall : src.components.keys ⊆ src.parsed.keys := Source.parseComponents_enters (Sound.start src)
  have hsame : (src.parsed.keys.filter (· ∈ canon.components.keys)).Perm canon.components.keys := by
    refine (List.perm_ext_iff_of_nodup (hend.orderly.distinct.filter _) (hperm.nodup_iff.1 hkeys)).2 fun name => ?_
    rw [List.mem_filter, decide_eq_true_eq]
    exact and_iff_right_of_imp fun h => hall (hperm.mem_iff.2 h)
  have hcosts : G.due src.parsed = (canon.components.keys.map G.cost).sum := (hsame.map G.cost).sum_eq
  -- the draft side is idle
  have hidle : G.of canon.start = G.of canon.start + own := hown
  have hzero : own = 0 := by rw [← zero_add own, ← G.start canon, ← hidle, G.start]
  have hextra : G.due src.parsed = extra := hdue.trans (zero_add extra)
  calc G.of src.parsed = G.of src.start + own + extra := htotal
    _ = extra := by rw [hzero, add_zero, G.start, zero_add]
    _ = _ := hextra.symm.trans hcosts

/-- with tallies for a gauge -/
theorem parsed_accounted (hagrees : src.Agrees canon) (hkeys : src.components.keys.Nodup)
    (hperm : src.components.keys.Perm canon.components.keys) (token : String) :
    Accounted src canon token [] src.parsed canon.start ∧
      src.parsed.tally = (canon.components.keys.map (tallyGauge canon token).cost).sum :=
  parsed_gauged (tallyGauge canon token) hagrees hkeys hperm

/-! ### The finished table -/

theorem Source.parsed_sound (src : Source) : Sound src [] src.parsed :=
  ((soundLaw src).parseComponents_leads src.start (Sound.start src)).1

theorem Source.keys_parsedTable (src : Source) :
    Keyed.keys src.parsedTable = src.components.keys ++ src.parsed.synthesized := by
  have hall : src.components.keys ⊆ src.parsed.keys := parseComponents_enters (Sound.start src)
  rw [parsedTable, keys_finish src.parsed_sound.orderly, List.filter_eq_self.2 fun n hn => decide_eq_true (hall hn)]

theorem Source.parsedKeys_eq (src : Source) : src.parsedKeys = src.components.keys := by
  have hpromoted : src.parsed.synthesized.filter (· ∈ src.components.keys) = [] := by
    rw [← src.parsed_sound.orderly.synthesized]
    simp
  rw [parsedKeys, keys_parsedTable, List.filter_append, hpromoted]
  simp

theorem Source.promotedKeys_eq (src : Source) : src.promotedKeys = src.parsed.synthesized := by
  rw [promotedKeys, keys_parsedTable, List.filter_append, ← src.parsed_sound.orderly.synthesized]
  simp

/-- every component has an entry in the finished table, as drafted -/
theorem parsedTable_drafted (hagrees : src.Agrees canon) (hkeys : src.components.keys.Nodup)
    (hperm : src.components.keys.Perm canon.components.keys) (token : String) {name : String}
    (hname : name ∈ src.components.keys) :
    ∃ m, Keyed.get? src.parsedTable name = some m ∧ m.Alike (canon.mask token) (canon.draft name) := by
  have hkey : name ∈ Keyed.keys src.parsedTable := by
    rw [Source.keys_parsedTable]
    exact List.mem_append_left _ hname
  obtain ⟨m, hm⟩ := Option.isSome_iff_exists.1 ((Keyed.isSome_get?_iff _ _).2 hkey)
  refine ⟨m, hm, (parsed_accounted hagrees hkeys hperm token).1.entries name hname m ?_⟩
  rwa [Source.parsedTable, Source.get?_finish src.parsed_sound.orderly.distinct] at hm

theorem Source.Agrees.refl (src : Source) : src.Agrees src :=
  ⟨fun _ => rfl, rfl⟩

theorem Source.Agrees.of_perm {src' : Source} (hkeys : src.components.keys.Nodup)
    (hperm : src'.components.Perm src.components) (hlimit : src'.limit = src.limit) : src'.Agrees src :=
  ⟨fun _ => Keyed.get?_of_perm hkeys hperm, hlimit⟩

/-- **The order of the components** decides nothing but the order of diagnostics and the names of promoted models. -/
theorem parse_perm {src src' : Source} (hkeys : src.components.keys.Nodup)
    (hperm : src'.components.Perm src.components) (hlimit : src'.limit = src.limit) :
    src'.parsedKeys.Perm src.parsedKeys ∧
      (∀ token, ∀ name ∈ src.components.keys, ∃ m m', Keyed.get? src.parsedTable name = some m ∧
        Keyed.get? src'.parsedTable name = some m' ∧ m'.retarget (src.mask token) = m.retarget (src.mask token)) ∧
      src'.promotedKeys.length = src.promotedKeys.length ∧
      src'.parsed.diagnostics.Perm src.parsed.diagnostics := by
  have hnames : src'.components.keys.Perm src.components.keys := hperm.map _
  have hagrees := Source.Agrees.of_perm hkeys hperm hlimit
  have hkeys' := hnames.nodup_iff.2 hkeys
  have htally : src'.parsed.tally = src.parsed.tally :=
    (parsed_accounted hagrees hkeys' hnames "").2.trans (parsed_accounted (.refl src) hkeys (.refl _) "").2.symm
  obtain ⟨hdiagnostics, hpromoted⟩ := Prod.ext_iff.1 htally
  refine ⟨?_, fun token name hname => ?_, ?_, Multiset.coe_eq_coe.1 hdiagnostics⟩
  · rw [Source.parsedKeys_eq, Source.parsedKeys_eq]
    exact hnames
  · obtain ⟨m, hm, halike⟩ := parsedTable_drafted (.refl src) hkeys (.refl _) token hname
    obtain ⟨m', hm', halike'⟩ := parsedTable_drafted hagrees hkeys' hnames token (hnames.mem_iff.2 hname)
    exact ⟨m, m', hm, hm', halike'.trans halike.symm⟩
  · rw [Source.promotedKeys_eq, Source.promotedKeys_eq]
    exact hpromoted

/-- a team and its members, each with an inline part -/
def teamSource : Source where
  components := [
    ("Team", .schema { properties := [("lead", .ref "#/components/schemas/Member"),
      ("site", .schema { properties := [("city", .schema { types := some (.one .string) })] })] }),
    ("Member", .schema { properties := [("team", .ref "#/components/schemas/Team"),
      ("role", .schema { literals := [.string "lead", .string "guest"] })] })]
  limit := 100

/-- the members come first -/
def teamReversed : Source :=
  ⟨teamSource.components.reverse, teamSource.limit⟩

theorem parse_perm_team :
    teamSource.components.keys.Nodup ∧ teamReversed.components.Perm teamSource.components ∧
      teamReversed.promotedKeys.length = teamSource.promotedKeys.length :=
  have hkeys : teamSource.components.keys.Nodup := by decide
  have hperm : teamReversed.components.Perm teamSource.components := List.reverse_perm _
  ⟨hkeys, hperm, (parse_perm hkeys hperm rfl).2.2.1⟩

end Parsed

end ClientPlan
