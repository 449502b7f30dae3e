/-
What a parser keeps over a whole run. After any public calls the parser stands at depth 0 with empty stacks, its table
consists of the entries that were put into it, none of which was put over another one, and `finish` sorts the table
into components in document order and then promoted models in the order of their promotion (`calls_disciplined`).
-/
import Mathlib.Data.List.Nodup
import ClientPlan.Proofs.Model.Sound
import ClientPlan.Proofs.Parser.Simulation

namespace ClientPlan

namespace Parser

open Input

variable {src : Source} {r mg : List String} {d : Nat} {b : Build}

/-! ## The place of a parser -/

/-- a parser in the state of a walk, with these stacks and at this depth; components are numbered first, then the names
that promoted models got -/
def place (src : Source) (resolving merging : List String) (depth : Nat) (b : Build) : Parser :=
  { b with
    order := (src.components.keys ++ b.synthesized).zipIdx
    nextOrder := (src.components.keys ++ b.synthesized).length
    resolving := resolving
    merging := merging
    depth := depth
    inserted := b.table }

/-- the names in use stand in the order -/
theorem nextName_notMem_order {b : Build} (h : Orderly src r b) (context : String) :
    b.nextName context ∉ src.components.keys ++ b.synthesized := by
  intro hmem
  rcases List.mem_append.1 hmem with hmem | hmem
  · exact h.nextName_ne_component context hmem
  · rw [← h.synthesized] at hmem
    exact h.nextName_notMem_keys context (List.mem_of_mem_filter hmem)

theorem insert_zipIdx {names : List String} {name : String} (h : name ∉ names) :
    Keyed.insert names.zipIdx name names.length = (names ++ [name]).zipIdx := by
  have hkeys : Keyed.keys names.zipIdx = names := List.zipIdx_map_fst 0 names
  rw [Keyed.insert_of_new (by rwa [hkeys]), List.zipIdx_append]
  simp

/-- a promotion adds the new name at the end of the order, the table and the insertions -/
theorem place_promoted (h : Orderly src r b) (context : String) (m : Model) :
    (place src r mg d b).withPromoted context m = place src r mg d (b.promoted context m) := by
  have hnew := nextName_notMem_order h context
  have hnames : src.components.keys ++ (b.promoted context m).synthesized =
      src.components.keys ++ b.synthesized ++ [b.nextName context] := by
    rw [Orderly.synthesized_promoted, List.append_assoc]
  have hlength : (src.components.keys ++ b.synthesized ++ [b.nextName context]).length =
      (src.components.keys ++ b.synthesized).length + 1 := List.length_append
  simp only [place, withPromoted]
  rw [insert_zipIdx hnew, h.table_promoted, hnames, hlength]

/-- a finished component stands at the end of the table and of the insertions -/
theorem place_entered {name : String} (hnew : name ∉ b.keys) (m : Model) :
    (place src (name :: r) mg 0 b).withFinished d name m = place src r mg d (b.entered name m) := by
  simp only [place, withFinished, Build.table_entered hnew]
  rfl

/-- an orderly state that was put into a parser stays there -/
def placed (src : Source) : Tracking src where
  At r mg d b w := Orderly src r b ∧ w = place src r mg d b
  toBuild := by rintro _ _ _ _ _ ⟨-, rfl⟩; rfl
  resolving := by rintro _ _ _ _ _ ⟨-, rfl⟩; rfl
  merging := by rintro _ _ _ _ _ ⟨-, rfl⟩; rfl
  depth := by rintro _ _ _ _ _ ⟨-, rfl⟩; rfl
  noticed := by
    rintro r mg d b _ n ⟨hb, rfl⟩ hn
    refine ⟨hb.noticed hn, ?_⟩
    simp only [place, Orderly.synthesized_noticed b hn]
    rfl
  noted := by
    rintro r mg d b _ x ⟨hb, rfl⟩
    refine ⟨hb.noted x, ?_⟩
    simp only [place, Orderly.synthesized_noted b x]
    rfl
  promoted := by rintro r mg d b _ context m ⟨hb, rfl⟩; exact ⟨hb.promoted context m, place_promoted hb context m⟩
  pushed := by rintro _ _ _ _ _ _ ⟨hb, rfl⟩; exact ⟨hb, rfl⟩
  popped := by rintro _ _ _ _ _ _ ⟨hb, rfl⟩; exact ⟨hb, rfl⟩
  lowered := by rintro _ _ _ _ _ ⟨hb, rfl⟩; exact ⟨hb, rfl⟩
  raised := by rintro _ _ _ _ _ ⟨hb, rfl⟩; exact ⟨hb, rfl⟩
  opened := by rintro _ _ _ _ _ _ ⟨hb, rfl⟩ hname hnew; exact ⟨hb.opened hname hnew, rfl⟩
  closed := by
    rintro r mg d b _ name m ⟨hb, rfl⟩ hr
    exact ⟨hb.closed hr m, place_entered (hb.resolving name List.mem_cons_self).2 m⟩

/-! ## Calls -/

namespace Call

/-- calls one after the other -/
def runAll (src : Source) (calls : List Call) : Parsing Unit :=
  calls.forM (run src)

/-- the same calls of the functions of a source -/
def buildAll (src : Source) (calls : List Call) : Building Unit :=
  calls.forM (build src)

end Call

/-- **Runs are simulated.** Calls of a parser do what the functions of its source do. -/
theorem sim_runAll (T : Tracking src) (calls : List Call) :
    Sim T [] [] 0 (Call.runAll src calls) (Call.buildAll src calls) := by
  induction calls with
  | nil => exact .pure ()
  | cons c calls ih => exact (sim_call T c).bind fun _ => ih

/-- from an orderly state that was put into a parser, calls end in the orderly state that the source ends in -/
theorem sim_calls (calls : List Call) (b : Build) (hb : Orderly src [] b) :
    Orderly src [] ((Call.buildAll src calls).run b).2 ∧ (Call.runAll src calls).run (place src [] [] 0 b) =
      some ((), place src [] [] 0 ((Call.buildAll src calls).run b).2) := by
  obtain ⟨w', hrun, hend, rfl⟩ := sim_runAll (placed src) calls b _ ⟨hb, rfl⟩
  exact ⟨hend, hrun⟩

/-- calls only add to the state -/
theorem calls_grow (calls : List Call) :
    Leads (Sound src []) (Call.buildAll src calls) fun b _ b' => b.Grows b' := by
  induction calls with
  | nil => exact Leads.pure fun b _ => .refl b
  | cons c calls ih =>
    have hone : Leads (Sound src []) (c.build src) fun b _ b' => b.Grows b' := by
      cases c with
      | parseComponents => exact (soundLaw src).parseComponents_leads.mono fun _ _ _ h => h.1
      | ensureNamed name => exact ((soundLaw src).component_leads [] name 0).discard fun _ _ _ h => h.1
      | parseNested context n => exact ((soundLaw src).nested_leads context n).discard fun _ _ _ h => h.1
      | record x => exact fun b hb => ⟨hb.noted x, Build.grows_noted b x⟩
    intro b hb
    obtain ⟨hmid, hgrow⟩ := hone b hb
    obtain ⟨hend, hgrow'⟩ := ih _ hmid
    exact ⟨hend, hgrow.trans hgrow'⟩

/-! ## The finished table -/

section Finish

theorem keys_subset_names (hb : Orderly src r b) : b.keys ⊆ src.components.keys ++ b.synthesized := by
  intro n hn
  rw [List.mem_append, ← hb.synthesized, List.mem_filter]
  by_cases hc : n ∈ src.components.keys
  · exact Or.inl hc
  · exact Or.inr ⟨hn, by simpa using hc⟩

/-- the place of the `i`-th name is `i` -/
theorem rank_place (hkeys : src.components.keys.Nodup) (hb : Orderly src r b) {i : Nat} {n : String}
    (hi : (src.components.keys ++ b.synthesized)[i]? = some n) : (place src r mg d b).rank n = i := by
  have hnames := Source.names_nodup hkeys hb
  have hzip : Keyed.keys (src.components.keys ++ b.synthesized).zipIdx = src.components.keys ++ b.synthesized :=
    List.zipIdx_map_fst 0 _
  have hfound : Keyed.get? (place src r mg d b).order n = some i :=
    Keyed.get?_of_mem (by rw [place, hzip]; exact hnames) (List.mk_mem_zipIdx_iff_getElem?.2 hi)
  rw [rank, hfound]
  rfl

/-- names come in the order of their places -/
theorem names_pairwise (hkeys : src.components.keys.Nodup) (hb : Orderly src r b) :
    (src.components.keys ++ b.synthesized).Pairwise
      fun n n' => (place src r mg d b).rank n < (place src r mg d b).rank n' := by
  refine List.pairwise_iff_getElem.2 fun i j hi hj hij => ?_
  rw [rank_place hkeys hb (List.getElem?_eq_getElem hi), rank_place hkeys hb (List.getElem?_eq_getElem hj)]
  exact hij

/-- two names with one place are one name -/
theorem rank_injective (hkeys : src.components.keys.Nodup) (hb : Orderly src r b) {n n' : String} (hn : n ∈ b.keys)
    (hn' : n' ∈ b.keys) (heq : (place src r mg d b).rank n = (place src r mg d b).rank n') : n = n' := by
  obtain ⟨i, hi⟩ := List.mem_iff_getElem?.1 (keys_subset_names hb hn)
  obtain ⟨j, hj⟩ := List.mem_iff_getElem?.1 (keys_subset_names hb hn')
  rw [rank_place hkeys hb hi, rank_place hkeys hb hj] at heq
  subst heq
  exact Option.some.inj (hi.symm.trans hj)

theorem finish_perm (hkeys : src.components.keys.Nodup) (hb : Orderly src r b) : (src.finish b).Perm b.table := by
  have hnodup : (Keyed.keys (src.finish b)).Nodup := by
    rw [Source.keys_finish hb]
    exact (Source.names_nodup hkeys hb).sublist (List.filter_sublist.append_right _)
  exact (List.perm_ext_iff_of_nodup (.of_map _ hnodup) (.of_map _ hb.distinct)).2 fun e => Source.mem_finish hb.distinct

/-- **Sorting the table.** What the parser hands over is the finished table of its source. -/
theorem finish_place (hkeys : src.components.keys.Nodup) (hb : Orderly src r b) :
    (place src r mg d b).finish = (src.finish b, b.diagnostics) := by
  let w := place src r mg d b
  have hperm : (w.finish.1).Perm b.table := List.mergeSort_perm _ _
  have hsorted : w.finish.1.Pairwise fun e e' => w.rank e.1 ≤ w.rank e'.1 := by
    let le (e e' : String × Model) : Bool := decide (w.rank e.1 ≤ w.rank e'.1)
    have htrans : ∀ e e' e'', le e e' → le e' e'' → le e e'' := fun e e' e'' h h' =>
      decide_eq_true (Nat.le_trans (of_decide_eq_true h) (of_decide_eq_true h'))
    have htotal : ∀ e e', le e e' || le e' e := fun e e' => by
      rw [Bool.or_eq_true, decide_eq_true_eq, decide_eq_true_eq]
      exact Nat.le_total _ _
    exact (List.pairwise_mergeSort htrans htotal b.table).imp fun h => of_decide_eq_true h
  have hfinish : (src.finish b).Pairwise fun e e' => w.rank e.1 ≤ w.rank e'.1 := by
    have hkeysorted : (Keyed.keys (src.finish b)).Pairwise fun n n' => w.rank n ≤ w.rank n' := by
      rw [Source.keys_finish hb]
      refine ((names_pairwise hkeys hb).imp Nat.le_of_lt).sublist ?_
      exact List.filter_sublist.append_right _
    rw [Keyed.keys, List.pairwise_map] at hkeysorted
    exact hkeysorted
  -- both lists have the entries of the table, sorted by places that no two names share
  have hsame : w.finish.1 = src.finish b := by
    refine List.Perm.eq_of_pairwise (fun e e' he he' hle hge => ?_) hsorted hfinish
      (hperm.trans (finish_perm hkeys hb).symm)
    have hmem : e ∈ b.table := hperm.mem_iff.1 he
    have hmem' : e' ∈ b.table := (Source.mem_finish hb.distinct).1 he'
    have hname : e.1 = e'.1 := rank_injective hkeys hb (List.mem_map_of_mem hmem) (List.mem_map_of_mem hmem')
      (Nat.le_antisymm hle hge)
    have hfound := Keyed.get?_of_mem hb.distinct hmem
    rw [hname, Keyed.get?_of_mem hb.distinct hmem'] at hfound
    exact Prod.ext hname (Option.some.inj hfound).symm
  exact Prod.ext hsame rfl

end Finish

/-! ## Runs -/

theorem new_eq_place (hkeys : src.components.keys.Nodup) : new src = place src [] [] 0 src.start := by
  have hzip : Keyed.keys src.components.keys.zipIdx = src.components.keys := List.zipIdx_map_fst 0 _
  have horder : Keyed.ofList src.components.keys.zipIdx = src.components.keys.zipIdx :=
    Keyed.ofList_of_nodup (by rwa [hzip])
  have hnone : src.components.keys ++ src.start.synthesized = src.components.keys := List.append_nil _
  rw [new, place, horder, hnone, List.length_zipIdx]
  rfl

/-- what holds of a parser after each public call -/
structure Disciplined (src : Source) (w : Parser) : Prop where
  depth : w.depth = 0
  resolving : w.resolving = []
  merging : w.merging = []
  /-- the table consists of the entries that were put into it, as they were put there -/
  inserted : w.table = w.inserted
  /-- no entry was put over another one -/
  distinct : (Keyed.keys w.inserted).Nodup
  unique : w.synthesized.Nodup
  apart : ∀ n ∈ w.synthesized, ∀ c ∈ src.components.keys, n ≠ c ∧ n ≠ typeName c
  /-- the finished table has the same entries, components in document order before promoted models in order -/
  finished : w.finish.1.Perm w.table ∧
    Keyed.keys w.finish.1 = src.components.keys.filter (· ∈ w.keys) ++ w.synthesized
  diagnostics : w.finish.2 = w.diagnostics

theorem disciplined_place (hkeys : src.components.keys.Nodup) (hb : Orderly src [] b) :
    Disciplined src (place src [] [] 0 b) where
  depth := rfl
  resolving := rfl
  merging := rfl
  inserted := rfl
  distinct := hb.distinct
  unique := (List.nodup_append.1 (Source.names_nodup hkeys hb)).2.1
  apart n hn c hc := by
    refine ⟨?_, hb.apart n hn c hc⟩
    rintro rfl
    exact (List.nodup_append.1 (Source.names_nodup hkeys hb)).2.2 n hc n hn rfl
  finished := by
    rw [finish_place hkeys hb]
    exact ⟨finish_perm hkeys hb, Source.keys_finish hb⟩
  diagnostics := by rw [finish_place hkeys hb]; rfl

/-- **State discipline.** Whatever the calls of a parser, it ends, in a disciplined state, whose table and diagnostics
are only added to by the calls that follow, and has done what the functions of its source do. -/
theorem calls_disciplined (hkeys : src.components.keys.Nodup) (calls more : List Call) :
    ∃ w w' : Parser, (Call.runAll src calls).run (new src) = some ((), w) ∧
      (Call.runAll src more).run w = some ((), w') ∧
      Disciplined src w ∧ w.table <+: w'.table ∧ w.diagnostics <+: w'.diagnostics ∧
      w.toBuild = ((Call.buildAll src calls).run src.start).2 := by
  obtain ⟨hmid, hrun⟩ := sim_calls calls _ (Orderly.start src)
  obtain ⟨-, hrun'⟩ := sim_calls more _ hmid
  obtain ⟨hsound, -⟩ := calls_grow calls _ (Sound.start src)
  obtain ⟨-, hgrow⟩ := calls_grow more _ hsound
  rw [← new_eq_place hkeys] at hrun
  exact ⟨_, _, hrun, hrun', disciplined_place hkeys hmid, hgrow.table, hgrow.diagnostics, rfl⟩

/-- a pet with an inline tag, and its owner -/
def petSource : Source where
  components := [
    ("Pet", .schema { properties := [("owner", .ref "#/components/schemas/Owner"),
      ("tag", .schema { properties := [("label", .schema { types := some (.one .string) })] })] }),
    ("Owner", .schema { properties := [("pet", .ref "#/components/schemas/Pet")] })]
  limit := 100

theorem calls_disciplined_pet :
    petSource.components.keys.Nodup ∧ ∃ w w' : Parser,
      (Call.runAll petSource [.ensureNamed "Owner", .record ⟨"Pet", .malformed⟩]).run (new petSource) = some ((), w) ∧
      (Call.runAll petSource [.parseComponents]).run w = some ((), w') ∧
      Disciplined petSource w ∧ w.table <+: w'.table ∧ w.diagnostics <+: w'.diagnostics ∧
      w.toBuild =
        ((Call.buildAll petSource [.ensureNamed "Owner", .record ⟨"Pet", .malformed⟩]).run petSource.start).2 :=
  ⟨by decide, calls_disciplined (by decide) _ _⟩

end Parser

end ClientPlan
