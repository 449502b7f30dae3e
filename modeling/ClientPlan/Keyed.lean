/-
Maps that keep the order in which keys were entered, as lists of entries. A key has one place: entering it again
replaces its value there.
-/
namespace ClientPlan

/-- entries of an ordered map -/
abbrev Keyed (α : Type) := List (String × α)

namespace Keyed

variable {α : Type}

/-- the value under `key` -/
def get? (m : Keyed α) (key : String) : Option α :=
  m.lookup key

/-- some entry has `key` -/
def has (m : Keyed α) (key : String) : Bool :=
  m.any (·.1 == key)

/-- the keys in order -/
def keys (m : Keyed α) : List String :=
  m.map (·.1)

/-- enter `value` under `key`: at the key's place if it has one, else at the end -/
def insert (m : Keyed α) (key : String) (value : α) : Keyed α :=
  match m with
  | [] => [(key, value)]
  | (k, v) :: rest => if k = key then (key, value) :: rest else (k, v) :: insert rest key value

/-- change the value under `key`, starting from `start` if there is none -/
def alter (m : Keyed α) (key : String) (start : α) (f : α → α) : Keyed α :=
  m.insert key (f ((m.get? key).getD start))

/-- the map with these entries entered one after the other -/
def ofList (entries : List (String × α)) : Keyed α :=
  entries.foldl (fun m e => m.insert e.1 e.2) []

/-- the same keys with their values changed -/
def mapValues {β : Type} (f : α → β) (m : Keyed α) : Keyed β :=
  List.map (fun e => (e.1, f e.2)) m

/-- number of keys that are not among `seen` -/
def unseen (m : Keyed α) (seen : List String) : Nat :=
  (m.keys.filter fun k => !seen.contains k).length

@[simp] theorem get?_nil (key : String) : get? ([] : Keyed α) key = none :=
  rfl

theorem get?_cons (k : String) (v : α) (m : Keyed α) (key : String) :
    get? ((k, v) :: m) key = if key = k then some v else m.get? key := by
  by_cases h : key = k
  · simp [get?, h]
  · have hb : (key == k) = false := by simp [h]
    simp [get?, List.lookup_cons, h, hb]

/-- what is entered under a key is found there, and nothing else changes -/
theorem get?_insert (m : Keyed α) (key : String) (value : α) (other : String) :
    (m.insert key value).get? other = if other = key then some value else m.get? other := by
  induction m with
  | nil => rw [insert, get?_cons, get?_nil]
  | cons e m ih =>
    obtain ⟨k, v⟩ := e
    by_cases hk : k = key
    · subst hk
      simp only [insert, if_true, get?_cons]
      split <;> rfl
    · simp only [insert, if_neg hk, get?_cons, ih]
      by_cases ho : other = k
      · simp [ho, hk]
      · simp [ho]

/-- a new key comes last, and a known one keeps its place -/
theorem keys_insert (m : Keyed α) (key : String) (value : α) :
    (m.insert key value).keys = if key ∈ m.keys then m.keys else m.keys ++ [key] := by
  induction m with
  | nil => simp [insert, keys]
  | cons e m ih =>
    obtain ⟨k, v⟩ := e
    by_cases hk : k = key
    · simp [insert, keys, hk]
    · have hk' : key ≠ k := fun h => hk h.symm
      simp only [keys] at ih
      simp only [insert, if_neg hk, keys, List.map_cons, ih, List.mem_cons, hk', false_or]
      by_cases hm : key ∈ List.map (·.1) m <;> simp [hm]

theorem has_iff_mem_keys (m : Keyed α) (key : String) : m.has key = true ↔ key ∈ m.keys := by
  simp [has, keys]

theorem isSome_get?_iff (m : Keyed α) (key : String) : (m.get? key).isSome = true ↔ key ∈ m.keys := by
  induction m with
  | nil => simp [keys]
  | cons e m ih =>
    obtain ⟨k, v⟩ := e
    rw [get?_cons]
    by_cases h : key = k
    · simp [h, keys]
    · simpa [h, keys] using ih

theorem mem_keys_of_get? {m : Keyed α} {key : String} {value : α} (h : m.get? key = some value) : key ∈ m.keys :=
  (isSome_get?_iff m key).1 (by simp [h])

theorem mem_of_get? {m : Keyed α} {key : String} {value : α} (h : m.get? key = some value) : (key, value) ∈ m := by
  induction m with
  | nil => cases h
  | cons e m ih =>
    obtain ⟨k, v⟩ := e
    rw [get?_cons] at h
    by_cases hk : key = k
    · rw [if_pos hk] at h
      cases h
      exact hk ▸ List.mem_cons_self
    · rw [if_neg hk] at h
      exact List.mem_cons_of_mem _ (ih h)

/-- where each key has one entry, look-up finds every entry -/
theorem get?_of_mem {m : Keyed α} (hm : m.keys.Nodup) {key : String} {value : α} (h : (key, value) ∈ m) :
    m.get? key = some value := by
  induction m with
  | nil => cases h
  | cons e m ih =>
    obtain ⟨k, v⟩ := e
    have hk : k ∉ keys m := (List.nodup_cons.1 hm).1
    rw [get?_cons]
    cases List.mem_cons.1 h with
    | inl he => cases he; exact if_pos rfl
    | inr he =>
      have hne : key ≠ k := fun hkey => hk (hkey ▸ List.mem_map_of_mem he)
      rw [if_neg hne]
      exact ih (List.nodup_cons.1 hm).2 he

/-- an entry of a map after something was entered was there before, or is what was entered -/
theorem mem_insert {m : Keyed α} {key : String} {value : α} {e : String × α} (h : e ∈ m.insert key value) :
    e ∈ m ∨ e = (key, value) := by
  induction m with
  | nil => exact Or.inr (List.mem_singleton.1 h)
  | cons o m ih =>
    obtain ⟨k, v⟩ := o
    by_cases hk : k = key
    · rw [insert, if_pos hk] at h
      rcases List.mem_cons.1 h with h | h
      · exact Or.inr h
      · exact Or.inl (List.mem_cons_of_mem _ h)
    · rw [insert, if_neg hk] at h
      rcases List.mem_cons.1 h with h | h
      · exact Or.inl (h ▸ List.mem_cons_self)
      · exact (ih h).imp_left (List.mem_cons_of_mem _)

theorem mem_foldl_insert {es m : Keyed α} {e : String × α} (h : e ∈ es.foldl (fun m e => m.insert e.1 e.2) m) :
    e ∈ m ∨ e ∈ es := by
  induction es generalizing m with
  | nil => exact Or.inl h
  | cons o es ih =>
    rcases ih h with h | h
    · rcases mem_insert h with h | h
      · exact Or.inl h
      · exact Or.inr (h ▸ List.mem_cons_self)
    · exact Or.inr (List.mem_cons_of_mem _ h)

/-- entering a value adds just its key -/
theorem mem_keys_insert {m : Keyed α} {key other : String} {value : α} :
    other ∈ (m.insert key value).keys ↔ other ∈ m.keys ∨ other = key := by
  rw [keys_insert]
  by_cases hmem : key ∈ m.keys
  · rw [if_pos hmem]
    exact (or_iff_left_of_imp fun h => h ▸ hmem).symm
  · rw [if_neg hmem, List.mem_append, List.mem_singleton]

theorem nodup_insert {m : Keyed α} (h : m.keys.Nodup) (key : String) (value : α) : (m.insert key value).keys.Nodup := by
  rw [keys_insert]
  by_cases hmem : key ∈ m.keys
  · rwa [if_pos hmem]
  · rw [if_neg hmem, List.nodup_append]
    refine ⟨h, by simp, fun k hk k' hk' => ?_⟩
    rw [List.mem_singleton.1 hk']
    exact fun heq => hmem (heq ▸ hk)

/-- entering entries adds just their keys -/
theorem mem_keys_foldl_insert {es m : Keyed α} {key : String} :
    key ∈ keys (es.foldl (fun m e => m.insert e.1 e.2) m) ↔ key ∈ m.keys ∨ key ∈ es.keys := by
  induction es generalizing m with
  | nil => simp [keys]
  | cons e es ih =>
    have hcons : key ∈ keys (e :: es) ↔ key = e.1 ∨ key ∈ keys es := List.mem_cons
    rw [List.foldl_cons, ih, mem_keys_insert, hcons, or_assoc]

theorem nodup_foldl_insert {es m : Keyed α} (h : m.keys.Nodup) :
    (keys (es.foldl (fun m e => m.insert e.1 e.2) m)).Nodup := by
  induction es generalizing m with
  | nil => exact h
  | cons e es ih => exact ih (nodup_insert h e.1 e.2)

/-- a key that is entered once has the value that was entered, whatever it had before -/
theorem get?_foldl_insert {es m : Keyed α} (hes : es.keys.Nodup) (key : String) :
    get? (es.foldl (fun m e => m.insert e.1 e.2) m) key = (es.get? key).or (m.get? key) := by
  induction es generalizing m with
  | nil => rfl
  | cons e es ih =>
    obtain ⟨k, v⟩ := e
    obtain ⟨hk, hes⟩ := List.nodup_cons.1 hes
    rw [List.foldl_cons, ih hes, get?_insert, get?_cons]
    by_cases heq : key = k
    · have hnone : get? es key = none := by
        rw [← Option.not_isSome_iff_eq_none, isSome_get?_iff, heq]
        exact hk
      rw [hnone, if_pos heq, if_pos heq]
      rfl
    · rw [if_neg heq, if_neg heq]

/-- a new key gets its entry at the end -/
theorem insert_of_new {m : Keyed α} {key : String} (h : key ∉ m.keys) (value : α) :
    m.insert key value = m ++ [(key, value)] := by
  induction m with
  | nil => rfl
  | cons e m ih =>
    obtain ⟨k, v⟩ := e
    have hk : k ≠ key := fun hkey => h (hkey ▸ List.mem_cons_self)
    rw [insert, if_neg hk, ih fun hm => h (List.mem_cons_of_mem _ hm)]
    rfl

/-- a map that is entered again comes out the same -/
theorem ofList_of_nodup {m : Keyed α} (h : m.keys.Nodup) : ofList m = m := by
  have hadded : ∀ (es acc : Keyed α), (acc ++ es).keys.Nodup →
      es.foldl (fun m e => m.insert e.1 e.2) acc = acc ++ es := by
    intro es
    induction es with
    | nil => exact fun acc _ => (List.append_nil acc).symm
    | cons e es ih =>
      intro acc hacc
      have hnew : e.1 ∉ acc.keys := fun hmem => by
        have hapart := (List.nodup_append.1 (by simpa [keys] using hacc)).2.2
        exact hapart e.1 (by simpa [keys] using hmem) e.1 (by simp) rfl
      rw [List.foldl_cons, insert_of_new hnew, ih _ (by simpa using hacc), List.append_assoc]
      rfl
  exact hadded m [] h

/-- entries added at the end do not change what is found -/
theorem get?_of_prefix {m m' : Keyed α} (h : m <+: m') {key : String} {value : α} (hm : m.get? key = some value) :
    m'.get? key = some value := by
  obtain ⟨rest, rfl⟩ := h
  rw [get?] at hm ⊢
  rw [List.lookup_append, hm]
  rfl

theorem keys_prefix {m m' : Keyed α} (h : m <+: m') : m.keys <+: m'.keys :=
  h.map _

/-- a key that is seen for the first time leaves fewer unseen ones -/
theorem unseen_cons_lt {m : Keyed α} {seen : List String} {key : String} (hm : key ∈ m.keys) (hs : key ∉ seen) :
    m.unseen (key :: seen) < m.unseen seen := by
  have hsub : (m.keys.filter fun k => !(key :: seen).contains k)
      = (m.keys.filter fun k => !seen.contains k).filter (· ≠ key) := by
    rw [List.filter_filter]
    congr 1
    funext k
    by_cases hk : k = key <;> simp [hk]
  unfold unseen
  rw [hsub]
  refine Nat.lt_of_le_of_ne (List.length_filter_le _ _) fun h => ?_
  have hall := List.length_filter_eq_length_iff.1 h
  exact absurd (hall key (by simp [hm, hs])) (by simp)

end Keyed

end ClientPlan
