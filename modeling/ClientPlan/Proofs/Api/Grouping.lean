/-
Which operations a group consists of. Operations are taken one after the other, and each is put into the group of every
key that it has, as often as it has the key. So the positions in a group never fall, they rise exactly if no operation
has a key twice (`Grouped.rising_iff`), and an operation lies in the groups of its keys and in no others
(`Grouped.names_around`).
-/
import Mathlib.Data.List.Dedup
import Mathlib.Data.List.Perm.Lattice
import ClientPlan.Proofs.Api.Groups

namespace ClientPlan.Api

/-- the positions, from `i` on, of the operations that have a key, each as often as the operation has the key -/
def places (keysOf : Operation → List String) (key : String) (i : Nat) : List Operation → List Nat
  | [] => []
  | op :: ops => List.replicate ((keysOf op).count key) i ++ places keysOf key (i + 1) ops

/-- the positions that were put into a group, of which there may be none yet -/
def placed (groups : Keyed (List Nat)) (key : String) : List Nat :=
  (Keyed.get? groups key).getD []

/-- put the operation at position `i` into the groups of its keys -/
def enter (groups : Keyed (List Nat)) (i : Nat) (keys : List String) : Keyed (List Nat) :=
  keys.foldl (fun gs key => Keyed.alter gs key [] (· ++ [i])) groups

section Enter

variable (groups : Keyed (List Nat)) (i : Nat) (keys : List String)

theorem placed_alter (key other : String) :
    placed (Keyed.alter groups key [] (· ++ [i])) other =
      if other = key then placed groups key ++ [i] else placed groups other := by
  unfold placed Keyed.alter
  rw [Keyed.get?_insert]
  split_ifs <;> rfl

/-- an operation is put into a group as often as it has the key -/
theorem placed_enter (key : String) :
    placed (enter groups i keys) key = placed groups key ++ List.replicate (keys.count key) i := by
  induction keys generalizing groups with
  | nil => simp [enter]
  | cons k keys ih =>
    have hrest := ih (Keyed.alter groups k [] (· ++ [i]))
    rw [placed_alter] at hrest
    change placed (enter (Keyed.alter groups k [] (· ++ [i])) i keys) key = _
    rw [hrest]
    by_cases hk : key = k
    · subst hk
      simp [List.replicate_succ]
    · rw [if_neg hk, List.count_cons_of_ne (Ne.symm hk)]

theorem mem_keys_enter (key : String) :
    key ∈ Keyed.keys (enter groups i keys) ↔ key ∈ Keyed.keys groups ∨ key ∈ keys := by
  induction keys generalizing groups with
  | nil => simp [enter]
  | cons k keys ih =>
    have hrest := ih (Keyed.alter groups k [] (· ++ [i]))
    change key ∈ Keyed.keys (enter (Keyed.alter groups k [] (· ++ [i])) i keys) ↔ _
    rw [hrest, Keyed.alter, Keyed.keys_insert]
    by_cases hk : k ∈ Keyed.keys groups
    · grind
    · grind

theorem nodup_enter (h : (Keyed.keys groups).Nodup) : (Keyed.keys (enter groups i keys)).Nodup := by
  induction keys generalizing groups with
  | nil => exact h
  | cons k keys ih =>
    have halter : (Keyed.keys (Keyed.alter groups k [] (· ++ [i]))).Nodup := by
      rw [Keyed.alter, Keyed.keys_insert]
      split_ifs with hk
      · exact h
      · exact h.append (List.nodup_singleton k) (by simpa using hk)
    exact ih _ halter

end Enter

section Collect

variable (keysOf : Operation → List String) (groups : Keyed (List Nat)) (i : Nat) (ops : List Operation)

theorem collect_cons (op : Operation) :
    collect keysOf groups i (op :: ops) = collect keysOf (enter groups i (keysOf op)) (i + 1) ops :=
  rfl

/-- **Collecting** puts the positions of the operations with a key into its group, in order. -/
theorem placed_collect (key : String) :
    placed (collect keysOf groups i ops) key = placed groups key ++ places keysOf key i ops := by
  induction ops generalizing groups i with
  | nil => exact (List.append_nil _).symm
  | cons op ops ih => rw [collect_cons, ih, placed_enter, places, List.append_assoc]

theorem mem_keys_collect (key : String) :
    key ∈ Keyed.keys (collect keysOf groups i ops) ↔ key ∈ Keyed.keys groups ∨ ∃ op ∈ ops, key ∈ keysOf op := by
  induction ops generalizing groups i with
  | nil => simp [collect]
  | cons op ops ih =>
    rw [collect_cons, ih, mem_keys_enter]
    simp [or_assoc]

theorem nodup_collect (h : (Keyed.keys groups).Nodup) : (Keyed.keys (collect keysOf groups i ops)).Nodup := by
  induction ops generalizing groups i with
  | nil => exact h
  | cons op ops ih =>
    rw [collect_cons]
    exact ih _ _ (nodup_enter _ _ _ h)

end Collect

/-! ## Positions -/

section Places

variable {keysOf : Operation → List String} {key : String} {i n : Nat} {ops : List Operation}

theorem mem_places : n ∈ places keysOf key i ops ↔ ∃ j op, ops[j]? = some op ∧ key ∈ keysOf op ∧ n = i + j := by
  induction ops generalizing i with
  | nil => simp [places]
  | cons op ops ih =>
    rw [places, List.mem_append, List.mem_replicate, ih]
    constructor
    · rintro (⟨hcount, rfl⟩ | ⟨j, o, ho, hkey, rfl⟩)
      · exact ⟨0, op, rfl, List.count_pos_iff.1 (Nat.pos_of_ne_zero hcount), rfl⟩
      · exact ⟨j + 1, o, ho, hkey, by omega⟩
    · rintro ⟨j, o, ho, hkey, rfl⟩
      cases j with
      | zero =>
        cases ho
        exact Or.inl ⟨Nat.ne_of_gt (List.count_pos_iff.2 hkey), rfl⟩
      | succ j => exact Or.inr ⟨j, o, ho, hkey, by omega⟩

/-- the positions never fall -/
theorem places_sorted (keysOf : Operation → List String) (key : String) (i : Nat) (ops : List Operation) :
    (places keysOf key i ops).Pairwise (· ≤ ·) := by
  induction ops generalizing i with
  | nil => exact List.Pairwise.nil
  | cons op ops ih =>
    refine List.pairwise_append.2 ⟨?_, ih (i + 1), fun a ha b hb => ?_⟩
    · exact List.pairwise_replicate.2 (Or.inr (Nat.le_refl i))
    · obtain ⟨j, -, -, -, rfl⟩ := mem_places.1 hb
      have hi : a = i := (List.mem_replicate.1 ha).2
      omega

theorem replicate_rising_iff {k : Nat} : (List.replicate k i).Pairwise (· < ·) ↔ k ≤ 1 := by
  rw [List.pairwise_replicate]
  omega

/-- the positions rise exactly if no operation has the key twice -/
theorem places_rising_iff :
    (places keysOf key i ops).Pairwise (· < ·) ↔ ∀ op ∈ ops, (keysOf op).count key ≤ 1 := by
  induction ops generalizing i with
  | nil => simp [places]
  | cons op ops ih =>
    -- what comes from later operations lies behind `i`
    have hbehind : ∀ a ∈ List.replicate ((keysOf op).count key) i, ∀ b ∈ places keysOf key (i + 1) ops, a < b := by
      intro a ha b hb
      obtain ⟨j, -, -, -, rfl⟩ := mem_places.1 hb
      have hi : a = i := (List.mem_replicate.1 ha).2
      omega
    rw [places, List.pairwise_append, replicate_rising_iff, ih]
    simp only [List.forall_mem_cons]
    exact and_congr_right fun _ => and_iff_left hbehind

end Places

/-! ## Groups -/

/-- groups of operations by their keys: one for each key, with the positions of the operations that have it -/
structure Grouped (keysOf : Operation → List String) (ops : List Operation) (groups : List Group) : Prop where
  distinct : (groups.map (·.name.written)).Nodup
  named : ∀ key, key ∈ groups.map (·.name.written) ↔ ∃ op ∈ ops, key ∈ keysOf op
  operations : ∀ g ∈ groups, g.operations = places keysOf g.name.written 0 ops

/-- the groups that the operation at a position lies in -/
def around (groups : List Group) (i : Nat) : List Group :=
  groups.filter fun g => i ∈ g.operations

variable {keysOf : Operation → List String} {ops : List Operation} {groups groups' : List Group}

theorem grouped_groupsBy (keysOf : Operation → List String) (ops : List Operation) :
    Grouped keysOf ops (groupsBy keysOf ops) := by
  let m := collect keysOf [] 0 ops
  have hnodup : (Keyed.keys m).Nodup := nodup_collect _ _ _ _ List.nodup_nil
  have hnames : (groupsBy keysOf ops).map (·.name.written) = Keyed.keys m := by
    rw [groupsBy, List.map_map]
    rfl
  refine ⟨hnames ▸ hnodup, fun key => ?_, fun g hg => ?_⟩
  · rw [hnames, mem_keys_collect]
    simp [Keyed.keys]
  · obtain ⟨e, he, rfl⟩ := List.mem_map.1 hg
    have hfound : placed m e.1 = e.2 := by rw [placed, Keyed.get?_of_mem hnodup he, Option.getD_some]
    calc e.2
      _ = placed m e.1 := hfound.symm
      _ = placed [] e.1 ++ places keysOf e.1 0 ops := placed_collect _ _ _ _ _
      _ = places keysOf e.1 0 ops := List.nil_append _

/-- the order of groups is no matter -/
theorem Grouped.perm (h : Grouped keysOf ops groups) (hperm : groups'.Perm groups) : Grouped keysOf ops groups' where
  distinct := (hperm.map _).nodup_iff.2 h.distinct
  named key := (hperm.map _).mem_iff.trans (h.named key)
  operations g hg := h.operations g (hperm.mem_iff.1 hg)

theorem Grouped.mem_operations (h : Grouped keysOf ops groups) {g : Group} (hg : g ∈ groups) {i : Nat} :
    i ∈ g.operations ↔ ∃ op, ops[i]? = some op ∧ g.name.written ∈ keysOf op := by
  rw [h.operations g hg, mem_places]
  simp

theorem Grouped.in_range (h : Grouped keysOf ops groups) : ∀ g ∈ groups, ∀ i ∈ g.operations, i < ops.length := by
  intro g hg i hi
  obtain ⟨op, hop, -⟩ := (h.mem_operations hg).1 hi
  exact (List.getElem?_eq_some_iff.1 hop).1

/-- **The positions in all groups rise** exactly if no operation has a key twice. -/
theorem Grouped.rising_iff (h : Grouped keysOf ops groups) :
    (∀ g ∈ groups, g.operations.Pairwise (· < ·)) ↔ ∀ op ∈ ops, (keysOf op).Nodup := by
  constructor
  · intro hrising op hop
    refine List.nodup_iff_count_le_one.2 fun key => ?_
    by_cases hkey : key ∈ keysOf op
    · obtain ⟨g, hg, rfl⟩ := List.mem_map.1 ((h.named key).2 ⟨op, hop, hkey⟩)
      have hplaces := hrising g hg
      rw [h.operations g hg] at hplaces
      exact places_rising_iff.1 hplaces op hop
    · rw [List.count_eq_zero_of_not_mem hkey]
      exact Nat.zero_le 1
  · intro hnodup g hg
    rw [h.operations g hg]
    exact places_rising_iff.2 fun op hop => List.nodup_iff_count_le_one.1 (hnodup op hop) _

/-- **An operation lies in the groups of its keys**, in each once, and in no others. -/
theorem Grouped.names_around (h : Grouped keysOf ops groups) {i : Nat} {op : Operation} (hop : ops[i]? = some op) :
    ((around groups i).map (·.name.written)).Perm (keysOf op).dedup := by
  have hnodup : ((around groups i).map (·.name.written)).Nodup :=
    h.distinct.sublist (List.filter_sublist.map _)
  refine (List.perm_ext_iff_of_nodup hnodup (List.nodup_dedup _)).2 fun key => ?_
  rw [List.mem_dedup]
  constructor
  · intro hkey
    obtain ⟨g, hg, rfl⟩ := List.mem_map.1 hkey
    obtain ⟨hmem, hi⟩ := List.mem_filter.1 hg
    obtain ⟨op', hop', hname⟩ := (h.mem_operations hmem).1 (of_decide_eq_true hi)
    rwa [Option.some.inj (hop.symm.trans hop')]
  · intro hkey
    obtain ⟨g, hg, rfl⟩ := List.mem_map.1 ((h.named key).2 ⟨op, List.mem_of_getElem? hop, hkey⟩)
    have hi : i ∈ g.operations := (h.mem_operations hg).2 ⟨op, hop, hkey⟩
    exact List.mem_map_of_mem (List.mem_filter.2 ⟨hg, decide_eq_true hi⟩)

/-- an operation with one key lies in one group -/
theorem Grouped.length_around (h : Grouped keysOf ops groups) {i : Nat} {op : Operation} (hop : ops[i]? = some op)
    {key : String} (hkey : keysOf op = [key]) : (around groups i).length = 1 := by
  have hperm := (h.names_around hop).length_eq
  rw [hkey, List.length_map] at hperm
  exact hperm

/-! ## Groups of one operation -/

theorem operations_groupsBySelf (ops : List Operation) (i : Nat) :
    (groupsBySelf i ops).map (·.operations) = (List.range' i ops.length).map ([·]) := by
  induction ops generalizing i with
  | nil => rfl
  | cons op ops ih => rw [groupsBySelf, List.map_cons, ih, List.length_cons, List.range'_succ, List.map_cons]

theorem mem_groupsBySelf {g : Group} {i : Nat} (hg : g ∈ groupsBySelf i ops) :
    ∃ n, g.operations = [n] ∧ n < i + ops.length := by
  have hmem : g.operations ∈ (groupsBySelf i ops).map (·.operations) := List.mem_map_of_mem hg
  rw [operations_groupsBySelf] at hmem
  obtain ⟨n, hn, heq⟩ := List.mem_map.1 hmem
  exact ⟨n, heq.symm, (List.mem_range'_1.1 hn).2⟩

theorem length_around_groupsBySelf {i : Nat} (hi : i < ops.length) : (around (groupsBySelf 0 ops) i).length = 1 := by
  have hcount : ((groupsBySelf 0 ops).map (·.operations)).countP (fun is => decide (i ∈ is)) = 1 := by
    rw [operations_groupsBySelf, List.countP_map]
    have hmem : i ∈ List.range' 0 ops.length := List.mem_range'_1.2 ⟨Nat.zero_le _, by omega⟩
    calc (List.range' 0 ops.length).countP _
      _ = (List.range' 0 ops.length).count i := by
        refine List.countP_congr fun n _ => ?_
        simp only [Function.comp_apply, List.mem_singleton, decide_eq_true_eq, beq_iff_eq]
        exact eq_comm
      _ = 1 := List.count_eq_one_of_mem List.nodup_range' hmem
  rw [List.countP_map, List.countP_eq_length_filter] at hcount
  exact hcount

/-! ## The groups of an API -/

/-- operations are not grouped by their tags, or none has a tag twice -/
def TagsOnce (api : Api) (split : Config.SplitBy) : Prop :=
  split = .tag → ∀ op ∈ api.operations, op.tags.Nodup

theorem nodup_tagsOf (op : Operation) : (tagsOf op).Nodup ↔ op.tags.Nodup := by
  unfold tagsOf
  split_ifs with h
  · rw [List.isEmpty_iff.1 h]
    simp
  · rfl

/-- a lone group is sorted -/
theorem groupsByTag_of_groupsBy {ops : List Operation} {group : Group} (h : groupsBy tagsOf ops = [group]) :
    groupsByTag ops = [group] := by
  rw [groupsByTag, h]
  exact List.mergeSort_singleton _

section OfDocument

variable (d : Document) (naming : Config.Naming) (limit : Nat)

/-- the groups of tags are sorted, but they are those in which the operations were collected -/
theorem grouped_tags : Grouped tagsOf (ofDocument d naming limit).1.operations
    ((ofDocument d naming limit).1.groups .tag) :=
  (grouped_groupsBy tagsOf _).perm (List.mergeSort_perm _ _)

theorem grouped_routes : Grouped (fun op => [routeGroup op.path]) (ofDocument d naming limit).1.operations
    ((ofDocument d naming limit).1.groups .route) :=
  grouped_groupsBy _ _

/-- groups have positions of operations only -/
theorem groups_in_range (split : Config.SplitBy) :
    ∀ g ∈ (ofDocument d naming limit).1.groups split, ∀ i ∈ g.operations,
      i < (ofDocument d naming limit).1.operations.length := by
  cases split with
  | tag => exact (grouped_tags d naming limit).in_range
  | route => exact (grouped_routes d naming limit).in_range
  | operation =>
    intro g hg i hi
    obtain ⟨n, hn, hlt⟩ := mem_groupsBySelf hg
    rw [hn, List.mem_singleton] at hi
    omega

/-- the positions in a group never fall -/
theorem groups_sorted (split : Config.SplitBy) :
    ∀ g ∈ (ofDocument d naming limit).1.groups split, g.operations.Pairwise (· ≤ ·) := by
  intro g hg
  cases split with
  | tag =>
    rw [(grouped_tags d naming limit).operations g hg]
    exact places_sorted _ _ _ _
  | route =>
    rw [(grouped_routes d naming limit).operations g hg]
    exact places_sorted _ _ _ _
  | operation =>
    obtain ⟨n, hn, -⟩ := mem_groupsBySelf hg
    rw [hn]
    exact List.pairwise_singleton _ _

/-- **Rising positions.** In all groups the positions rise, unless by a tag that some operation has twice. -/
theorem groups_rising_iff (split : Config.SplitBy) :
    (∀ g ∈ (ofDocument d naming limit).1.groups split, g.operations.Pairwise (· < ·)) ↔
      TagsOnce (ofDocument d naming limit).1 split := by
  cases split with
  | tag =>
    rw [(grouped_tags d naming limit).rising_iff]
    simp [TagsOnce, nodup_tagsOf]
  | route =>
    rw [(grouped_routes d naming limit).rising_iff]
    simp [TagsOnce]
  | operation =>
    refine iff_of_true (fun g hg => ?_) (by simp [TagsOnce])
    obtain ⟨n, hn, -⟩ := mem_groupsBySelf hg
    rw [hn]
    exact List.pairwise_singleton _ _

/-- grouped otherwise than by tags, an operation lies in one group -/
theorem length_around_groups {split : Config.SplitBy} (hsplit : split ≠ .tag) {i : Nat}
    (hi : i < (ofDocument d naming limit).1.operations.length) :
    (around ((ofDocument d naming limit).1.groups split) i).length = 1 := by
  cases split with
  | tag => exact absurd rfl hsplit
  | route => exact (grouped_routes d naming limit).length_around (List.getElem?_eq_getElem hi) rfl
  | operation => exact length_around_groupsBySelf hi

end OfDocument

end ClientPlan.Api
