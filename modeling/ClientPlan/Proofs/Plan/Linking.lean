/-
Linking one file. A file that was asked for the imports of some names and scalar types has exactly these: every name is
bound, the file's own model to the name that the file declares and every other to the requirement that stands for it,
and nothing else is required but the library symbols of the scalar types (`Linked`). Each request keeps this, in a file
that tells its own module from all others (`Within`).
-/
import ClientPlan.Plan.OfDocument
import ClientPlan.Proofs.Imports.Planner

namespace ClientPlan.Plan

open Imports

/-- what stands for a model in the requirements of files -/
def originIn (paths : Keyed String) (name : String) : Option (String × String) :=
  (Keyed.get? paths name).map fun path => (fileToModule path, ClientPlan.typeName name)

/-- the imports of a file with the model `own`, if it is the file of one, after requests for names and scalar types -/
structure Linked (paths : Keyed String) (own : Option String) (names : List String) (leaves : List Leaf)
    (bindings : Keyed String) (f : File) : Prop where
  proper : f.Proper (own.map ClientPlan.typeName).toList
  unique : (Keyed.keys bindings).Nodup
  keys : ∀ n, n ∈ Keyed.keys bindings ↔ n ∈ names
  owned : ∀ n s, Keyed.get? bindings n = some s → own = some n → s = ClientPlan.typeName n
  others : ∀ n s, Keyed.get? bindings n = some s → own ≠ some n →
    ∃ r ∈ f.requirements, originIn paths n = some r.origin ∧ r.bound = s
  origins : ∀ key, key ∈ f.origins ↔
    (∃ n ∈ names, own ≠ some n ∧ originIn paths n = some key) ∨ ∃ l ∈ leaves, leafImport? l = some key

/-- the bindings with a name bound, if it was not bound before -/
def bindNew (bindings : Keyed String) (name bound : String) : Keyed String :=
  if Keyed.has bindings name then bindings else bindings ++ [(name, bound)]

section Bind

variable {bindings : Keyed String} {name bound : String}

theorem bindNew_of_bound (h : name ∈ Keyed.keys bindings) : bindNew bindings name bound = bindings :=
  if_pos ((Keyed.has_iff_mem_keys _ _).2 h)

theorem bindNew_of_new (h : name ∉ Keyed.keys bindings) :
    bindNew bindings name bound = Keyed.insert bindings name bound := by
  have hnot : ¬ Keyed.has bindings name = true := fun hhas => h ((Keyed.has_iff_mem_keys _ _).1 hhas)
  rw [bindNew, if_neg hnot, Keyed.insert_of_new h]

theorem mem_keys_bindNew {n : String} :
    n ∈ Keyed.keys (bindNew bindings name bound) ↔ n ∈ Keyed.keys bindings ∨ n = name := by
  by_cases h : name ∈ Keyed.keys bindings
  · rw [bindNew_of_bound h]
    grind
  · rw [bindNew_of_new h, Keyed.keys_insert, if_neg h]
    simp

theorem nodup_bindNew (h : (Keyed.keys bindings).Nodup) : (Keyed.keys (bindNew bindings name bound)).Nodup := by
  by_cases hname : name ∈ Keyed.keys bindings
  · rwa [bindNew_of_bound hname]
  · rw [bindNew_of_new hname, Keyed.keys_insert, if_neg hname]
    exact h.append (List.nodup_singleton _) (by simpa using hname)

theorem get?_bindNew {n s : String} (h : Keyed.get? (bindNew bindings name bound) n = some s) :
    Keyed.get? bindings n = some s ∨ n = name ∧ s = bound := by
  by_cases hname : name ∈ Keyed.keys bindings
  · rw [bindNew_of_bound hname] at h
    exact Or.inl h
  · rw [bindNew_of_new hname, Keyed.get?_insert] at h
    split_ifs at h with heq
    · exact Or.inr ⟨heq, (Option.some.inj h).symm⟩
    · exact Or.inl h

end Bind

namespace Linked

variable {paths : Keyed String} {own : Option String} {names : List String} {leaves : List Leaf}
  {bindings : Keyed String} {f : File} {name module symbol : String} {leaf : Leaf}

/-- a model is bound, to the type that the file declares or to a requirement that stands for it -/
theorem bind (h : Linked paths own names leaves bindings f) {f' : File} {bound : String}
    (hproper : f'.Proper (own.map ClientPlan.typeName).toList) (hkept : f.requirements ⊆ f'.requirements)
    (howned : own = some name → bound = ClientPlan.typeName name)
    (hother : own ≠ some name → ∃ r ∈ f'.requirements, originIn paths name = some r.origin ∧ r.bound = bound)
    (horigins : ∀ key, key ∈ f'.origins ↔ key ∈ f.origins ∨ own ≠ some name ∧ originIn paths name = some key) :
    Linked paths own (names ++ [name]) leaves (bindNew bindings name bound) f' where
  proper := hproper
  unique := nodup_bindNew h.unique
  keys n := by simp [mem_keys_bindNew, h.keys]
  owned n s hn hs := by
    rcases get?_bindNew hn with hn | ⟨rfl, rfl⟩
    · exact h.owned n s hn hs
    · exact howned hs
  others n s hn hs := by
    rcases get?_bindNew hn with hn | ⟨rfl, rfl⟩
    · obtain ⟨r, hr, hrest⟩ := h.others n s hn hs
      exact ⟨r, hkept hr, hrest⟩
    · exact hother hs
  origins key := by
    rw [horigins, h.origins]
    grind

/-- the file's own model is bound to the name that the file declares, and requires nothing -/
theorem bindOwn (h : Linked paths own names leaves bindings f) (hown : own = some name) :
    Linked paths own (names ++ [name]) leaves (bindNew bindings name (ClientPlan.typeName name)) f :=
  h.bind h.proper (List.Subset.refl _) (fun _ => rfl) (fun hother => absurd hown hother)
    fun _ => (or_iff_left fun hboth => hboth.1 hown).symm

/-- another model is bound to the name under which its symbol is required -/
theorem bindOther (h : Linked paths own names leaves bindings f) (hown : own ≠ some name)
    (horigin : originIn paths name = some (module, symbol)) :
    Linked paths own (names ++ [name]) leaves (bindNew bindings name (f.add module symbol none).1)
      (f.add module symbol none).2 := by
  refine h.bind (h.proper.add _ _ _) (File.requirements_add _ _ _).subset (fun hsame => absurd hsame hown)
    (fun _ => ?_) fun key => ?_
  · obtain ⟨r, hr, hkey, hbound⟩ := @File.add_bound f module symbol none
    exact ⟨r, hr, hkey ▸ horigin, hbound⟩
  · rw [File.mem_origins_add, horigin]
    grind

/-- a scalar type requires its library symbol -/
theorem requireLeaf (h : Linked paths own names leaves bindings f) (hleaf : leafImport? leaf = some (module, symbol)) :
    Linked paths own names (leaves ++ [leaf]) bindings (f.add module symbol none).2 where
  proper := h.proper.add _ _ _
  unique := h.unique
  keys := h.keys
  owned := h.owned
  others n s hn hs := by
    obtain ⟨r, hr, hrest⟩ := h.others n s hn hs
    exact ⟨r, (File.requirements_add _ _ _).subset hr, hrest⟩
  origins key := by
    rw [File.mem_origins_add, h.origins]
    grind

theorem skipLeaf (h : Linked paths own names leaves bindings f) (hleaf : leafImport? leaf = none) :
    Linked paths own names (leaves ++ [leaf]) bindings f :=
  { h with
    origins := fun key => by
      rw [h.origins]
      grind }

end Linked

namespace Linking

variable {l l' l'' : Linking} {own : Option String} {names names' : List String} {leaves leaves' : List Leaf}

/-- the present file -/
def file (l : Linking) : File :=
  l.planner.file l.planner.current

/-- the present file takes for itself its own model, and no library -/
structure Within (own : Option String) (l : Linking) : Prop where
  models : ∀ n path, Keyed.get? l.paths n = some path →
    (l.planner.isCurrent (fileToModule path) = true ↔ own = some n)
  libraries : ∀ leaf module symbol, leafImport? leaf = some (module, symbol) → l.planner.isCurrent module = false

/-- the same paths, the same tree and the same present file; and no other file has changed -/
structure Stays (l l' : Linking) : Prop where
  paths : l'.paths = l.paths
  tree : l'.planner.tree = l.planner.tree
  package : l'.planner.package = l.planner.package
  current : l'.planner.current = l.planner.current
  files : ∀ path, path ≠ l.planner.current → l'.planner.file path = l.planner.file path

theorem Stays.refl (l : Linking) : l.Stays l :=
  ⟨rfl, rfl, rfl, rfl, fun _ _ => rfl⟩

theorem Stays.trans (h : l.Stays l') (h' : l'.Stays l'') : l.Stays l'' :=
  ⟨h'.paths.trans h.paths, h'.tree.trans h.tree, h'.package.trans h.package, h'.current.trans h.current,
    fun path hpath => (h'.files path (h.current ▸ hpath)).trans (h.files path hpath)⟩

theorem Stays.within (h : l.Stays l') (hl : l.Within own) : l'.Within own := by
  have hcurrent := Planner.isCurrent_congr h.tree h.package h.current
  refine ⟨fun n path hn => ?_, fun leaf module symbol hleaf => ?_⟩
  · rw [hcurrent]
    exact hl.models n path (h.paths ▸ hn)
  · rw [hcurrent]
    exact hl.libraries leaf module symbol hleaf

variable (own) in
/-- the present file went on from what it had, by requests for these names and scalar types -/
def Asks (l l' : Linking) (names : List String) (leaves : List Leaf) : Prop :=
  l.Stays l' ∧ ∀ ns ls, Linked l.paths own ns ls l.bindings l.file →
    Linked l'.paths own (ns ++ names) (ls ++ leaves) l'.bindings l'.file

theorem Asks.refl (l : Linking) : Asks own l l [] [] :=
  ⟨.refl l, fun ns ls h => by simpa using h⟩

theorem Asks.trans (h : Asks own l l' names leaves) (h' : Asks own l' l'' names' leaves') :
    Asks own l l'' (names ++ names') (leaves ++ leaves') := by
  refine ⟨h.1.trans h'.1, fun ns ls hl => ?_⟩
  rw [← List.append_assoc, ← List.append_assoc]
  exact h'.2 _ _ (h.2 ns ls hl)

/-! ## Single requests -/

/-- a notice asks for nothing -/
theorem notice_asks (l : Linking) (n : Notice) : Asks own l (l.notice n) [] [] := by
  refine ⟨⟨rfl, rfl, rfl, rfl, fun _ _ => rfl⟩, fun ns ls h => ?_⟩
  rw [List.append_nil, List.append_nil]
  exact h

/-- a planner that imported a symbol into the present file -/
theorem stays_add (module symbol : String) (bindings : Keyed String) :
    l.Stays { l with planner := (l.planner.add module symbol none).2, bindings := bindings } := by
  obtain ⟨htree, hpackage, hcurrent⟩ := @Planner.add_frame l.planner module symbol none
  refine ⟨rfl, htree, hpackage, hcurrent, fun path hpath => ?_⟩
  cases h : l.planner.isCurrent module with
  | true => rw [Planner.add_current _ _ h]
  | false =>
    rw [(Planner.add_other symbol none h).2 path, if_neg hpath]

theorem file_add {module symbol : String} (h : l.planner.isCurrent module = false) (bindings : Keyed String) :
    file { l with planner := (l.planner.add module symbol none).2, bindings := bindings } =
      (l.file.add module symbol none).2 := by
  have hcurrent := (@Planner.add_frame l.planner module symbol none).2.2
  unfold file
  dsimp only
  rw [hcurrent, (Planner.add_other symbol none h).2, if_pos rfl]

/-- a model is imported from its file, and bound if it was not bound before -/
theorem linkName_of_path {name path : String} (hpath : Keyed.get? l.paths name = some path) :
    l.linkName name =
      { l with
        planner := (l.planner.add (fileToModule path) (ClientPlan.typeName name) none).2
        bindings := bindNew l.bindings name
          (l.planner.add (fileToModule path) (ClientPlan.typeName name) none).1 } := by
  rw [linkName, hpath]
  rfl

/-- a library symbol is imported, and binds nothing -/
theorem linkLeaf_of_import {leaf : Leaf} {key : String × String} (hleaf : leafImport? leaf = some key) :
    l.linkLeaf leaf = { l with planner := (l.planner.add key.1 key.2 none).2, bindings := l.bindings } := by
  rw [linkLeaf, hleaf]

theorem linkName_of_none {name : String} (hpath : Keyed.get? l.paths name = none) : l.linkName name = l := by
  rw [linkName, hpath]

theorem linkLeaf_of_none {leaf : Leaf} (hleaf : leafImport? leaf = none) : l.linkLeaf leaf = l := by
  rw [linkLeaf, hleaf]

/-- **A request for a model** binds its name, and requires what stands for it if it is not the file's own. -/
theorem linkName_asks (hl : l.Within own) {name : String} (hname : name ∈ Keyed.keys l.paths) :
    Asks own l (l.linkName name) [name] [] := by
  obtain ⟨path, hpath⟩ := Option.isSome_iff_exists.1 ((Keyed.isSome_get?_iff _ _).2 hname)
  have hself := hl.models name path hpath
  rw [linkName_of_path hpath]
  refine ⟨stays_add _ _ _, fun ns ls h => ?_⟩
  rw [List.append_nil]
  -- the model of the present file is known by the type that it declares, and any other is required
  cases hcurrent : l.planner.isCurrent (fileToModule path) with
  | true =>
    rw [Planner.add_current _ _ hcurrent]
    exact h.bindOwn (hself.1 hcurrent)
  | false =>
    have hown : own ≠ some name := fun hown => by
      rw [hself.2 hown] at hcurrent
      cases hcurrent
    have horigin : originIn l.paths name = some (fileToModule path, ClientPlan.typeName name) := by
      rw [originIn, hpath]
      rfl
    rw [file_add hcurrent, (Planner.add_other _ none hcurrent).1]
    exact h.bindOther hown horigin

/-- **A request for a scalar type** requires its library symbol, if it has one. -/
theorem linkLeaf_asks (hl : l.Within own) (leaf : Leaf) : Asks own l (l.linkLeaf leaf) [] [leaf] := by
  cases hleaf : leafImport? leaf with
  | none =>
    rw [linkLeaf_of_none hleaf]
    refine ⟨.refl l, fun ns ls h => ?_⟩
    rw [List.append_nil]
    exact h.skipLeaf hleaf
  | some key =>
    rw [linkLeaf_of_import hleaf]
    refine ⟨stays_add _ _ _, fun ns ls h => ?_⟩
    rw [List.append_nil, file_add (hl.libraries leaf key.1 key.2 hleaf)]
    exact h.requireLeaf hleaf

/-! ## Requests in a row -/

/-- things that are linked in a row ask for what each of them asks for -/
theorem foldl_asks {α : Type} {use : Linking → α → Linking} {names : α → List String} {leaves : α → List Leaf}
    (huse : ∀ {l : Linking} a, l.Within own → (∀ n ∈ names a, n ∈ Keyed.keys l.paths) →
      Asks own l (use l a) (names a) (leaves a))
    (hl : l.Within own) {as : List α} (has : ∀ a ∈ as, ∀ n ∈ names a, n ∈ Keyed.keys l.paths) :
    Asks own l (as.foldl use l) (as.flatMap names) (as.flatMap leaves) := by
  induction as generalizing l with
  | nil => exact .refl l
  | cons a as ih =>
    have hone := huse a hl (has a List.mem_cons_self)
    refine hone.trans (ih (hone.1.within hl) fun b hb => ?_)
    rw [hone.1.paths]
    exact has b (List.mem_cons_of_mem _ hb)

theorem linkNames_asks (hl : l.Within own) {names : List String} (hnames : ∀ n ∈ names, n ∈ Keyed.keys l.paths) :
    Asks own l (names.foldl linkName l) names [] := by
  have hasks := @foldl_asks l own String linkName (fun n => [n]) (fun _ => [])
    (fun n hl hn => linkName_asks hl (hn n (List.mem_singleton_self n))) hl names
    fun n hn _ hn' => List.mem_singleton.1 hn' ▸ hnames n hn
  rwa [List.flatMap_singleton', List.flatMap_eq_nil_iff.2 fun _ _ => rfl] at hasks

theorem linkLeaves_asks (hl : l.Within own) (leaves : List Leaf) : Asks own l (leaves.foldl linkLeaf l) [] leaves := by
  have hasks := @foldl_asks l own Leaf linkLeaf (fun _ => []) (fun leaf => [leaf])
    (fun leaf hl _ => linkLeaf_asks hl leaf) hl leaves fun _ _ _ hn => by cases hn
  rwa [List.flatMap_singleton', List.flatMap_eq_nil_iff.2 fun _ _ => rfl] at hasks

/-- a type asks for its names and then for its scalar types -/
theorem link_asks (hl : l.Within own) {d : Descriptor} (hd : ∀ n ∈ d.names, n ∈ Keyed.keys l.paths) :
    Asks own l (l.link d) d.names d.leaves := by
  have hnames := linkNames_asks hl hd
  have hboth := hnames.trans (linkLeaves_asks (hnames.1.within hl) d.leaves)
  rwa [List.append_nil] at hboth

theorem linkAll_asks (hl : l.Within own) {ds : List Descriptor}
    (hds : ∀ d ∈ ds, ∀ n ∈ d.names, n ∈ Keyed.keys l.paths) :
    Asks own l (l.linkAll ds) (ds.flatMap (·.names)) (ds.flatMap (·.leaves)) :=
  foldl_asks (fun d hl hd => @link_asks _ _ hl d hd) hl hds

end Linking

end ClientPlan.Plan
