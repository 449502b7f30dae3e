/-
Canonical layouts. Modules outside the tree stand in lines of their own, which rise; below them stand the modules of
the tree by their relative paths, which rise by the number of dots and then by what follows; and the symbols of a line
rise. So a list of requirements has one layout, in whatever order they were made, and the block of a file is its text
(`block_canonical`). It takes a planner for that: its requirements have names of their own, so no two symbols of a line
are in each other's place.

Each group has one line for a module. The groups do not look at each other: a module outside the tree may be spelled,
with its dots, like the relative path of another, and then both have a line for it (`pet_in_two_lines`).
-/
import ClientPlan.Proofs.Imports.Layout
import ClientPlan.Proofs.Imports.Runs

namespace ClientPlan.Imports

/-! ## How modules are written -/

theorem dots_append_rest (s : String) :
    dots (relativeDepth s) ++ String.ofList (s.toList.drop (relativeDepth s)) = s := by
  let leading := s.toList.takeWhile (· == '.')
  have hdots : leading = List.replicate leading.length '.' :=
    List.eq_replicate_of_mem fun c hc => by simpa using List.all_eq_true.1 List.all_takeWhile c hc
  have htake : leading = s.toList.take leading.length := List.prefix_iff_eq_take.1 (List.takeWhile_prefix _)
  apply String.toList_inj.1
  calc (dots (relativeDepth s) ++ String.ofList (s.toList.drop (relativeDepth s))).toList
    _ = List.replicate leading.length '.' ++ s.toList.drop leading.length := by simp [dots, relativeDepth, leading]
    _ = s.toList.take leading.length ++ s.toList.drop leading.length := by rw [← hdots, ← htake]
    _ = s.toList := List.take_append_drop _ _

theorem Printed.text_relative (module : String) : (Printed.relative module).text = module :=
  dots_append_rest module

namespace Tree

variable (tree : Tree) (package path : String) {module : String}

/-- a module outside the tree, as it is written -/
def outside? (module : String) : Option String :=
  if tree.inside? package module = none then some module else none

/-- a module of the tree, as it is written in a file, where the file itself is not -/
def relative? (module : String) : Option String :=
  (tree.inside? package module).bind fun inner =>
    if moduleToFile inner = path then none else some (relativeModule path inner)

/-- the module is the file itself: it lies in the tree, and is the file at the path -/
def IsOwn (module : String) : Prop :=
  (tree.inside? package module).map moduleToFile = some path

instance (module : String) : Decidable (tree.IsOwn package path module) :=
  inferInstanceAs (Decidable (_ = _))

variable {tree package path}

/-- a module is the file itself, or lies outside the tree, or is written as a relative path -/
theorem written_cases (tree : Tree) (package path module : String) :
    (tree.IsOwn package path module ∧ tree.printed? package path module = none ∧
        tree.outside? package module = none ∧ tree.relative? package path module = none) ∨
      (¬ tree.IsOwn package path module ∧ tree.printed? package path module = some (.outside module) ∧
        tree.outside? package module = some module ∧ tree.relative? package path module = none) ∨
      ∃ relative, ¬ tree.IsOwn package path module ∧
        tree.printed? package path module = some (.relative relative) ∧
        tree.outside? package module = none ∧ tree.relative? package path module = some relative := by
  unfold IsOwn printed? outside? relative?
  cases hinside : tree.inside? package module with
  | none => simp
  | some inner =>
    by_cases hown : moduleToFile inner = path
    · simp [hown]
    · simp [hown, Printed.relative]

theorem printed?_eq_none_iff : tree.printed? package path module = none ↔ tree.IsOwn package path module := by
  rcases written_cases tree package path module with ⟨hown, hprinted, -⟩ | ⟨hown, hprinted, -⟩ | ⟨_, hown, hprinted, -⟩
  · simp [hown, hprinted]
  · simp [hown, hprinted]
  · simp [hown, hprinted]

/-- only a module outside the tree is printed as it is -/
theorem outside?_of_printed {m : Printed} (h : tree.printed? package path module = some m)
    (houtside : m.isOutside = true) : m = .outside m.text ∧ tree.outside? package module = some m.text := by
  rcases written_cases tree package path module with ⟨-, hprinted, -⟩ | ⟨-, hprinted, hwritten, -⟩ | ⟨_, -, hprinted, -⟩
  · cases hprinted.symm.trans h
  · cases hprinted.symm.trans h
    exact ⟨rfl, hwritten⟩
  · cases hprinted.symm.trans h
    cases houtside

/-- any other module is printed as a relative path -/
theorem relative?_of_printed {m : Printed} (h : tree.printed? package path module = some m)
    (hinside : m.isOutside = false) : m = .relative m.text ∧ tree.relative? package path module = some m.text := by
  rcases written_cases tree package path module with ⟨-, hprinted, -⟩ | ⟨-, hprinted, -⟩ | ⟨_, -, hprinted, -, hwritten⟩
  · cases hprinted.symm.trans h
  · cases hprinted.symm.trans h
    cases hinside
  · cases hprinted.symm.trans h
    rw [Printed.text_relative]
    exact ⟨rfl, hwritten⟩

/-- it takes a directory of the file, so a relative path begins with a dot -/
theorem head?_of_relative? {relative : String} (h : tree.relative? package path module = some relative) :
    relative.toList.head? = some '.' := by
  obtain ⟨inner, -, hrelative⟩ := Option.bind_eq_some_iff.1 h
  split_ifs at hrelative
  obtain rfl := Option.some.inj hrelative
  show (dots (1 + _) ++ _).toList.head? = some '.'
  rw [Nat.add_comm, dots, List.replicate_succ, String.toList_append, String.toList_ofList]
  rfl

/-- a tree is the set of its directories -/
theorem inside?_congr {tree tree' : Tree} (h : ∀ root, root ∈ tree.roots ↔ root ∈ tree'.roots) :
    tree.inside? = tree'.inside? := by
  have hcontains : tree.roots.contains = tree'.roots.contains := by
    funext root
    rw [Bool.eq_iff_iff, List.contains_iff_mem, List.contains_iff_mem, h]
  funext package module
  rw [inside?, inside?, hcontains]

end Tree

/-! ## Canonical layouts -/

/-- lines in order: their modules rise, each has symbols, which rise, and these are from what is written as its module -/
structure Ordered {α : Type} [LinearOrder α] (key : String → α) (written? : String → Option String)
    (rows : List Row) : Prop where
  rising : rows.Pairwise fun a b => key a.module < key b.module
  filled : ∀ row ∈ rows, row.symbols ≠ []
  sorted : ∀ row ∈ rows, row.symbols.Pairwise fun a b => a.key < b.key
  written : ∀ row ∈ rows, ∀ r ∈ row.symbols, written? r.module = some row.module

/-- a layout for requirements: both groups are in order, and all requirements are in them but those from the file
itself -/
structure Layout.Canonical (tree : Tree) (package path : String) (rs : List Requirement) (l : Layout) : Prop where
  outside : Ordered id (tree.outside? package) l.outside
  inside : Ordered climbKey (tree.relative? package path) l.inside
  complete : ((l.outside ++ l.inside).flatMap Row.symbols).Perm
    (rs.filter fun r => ¬ tree.IsOwn package path r.module)

section Ordered

variable {α : Type} [LinearOrder α] {key : String → α} {written? : String → Option String} {rows rows' : List Row}

/-- a module has one line -/
theorem Ordered.modules_nodup (h : Ordered key written? rows) : (rows.map Row.module).Nodup :=
  List.pairwise_map.2 (h.rising.imp fun hlt heq => hlt.ne (congrArg key heq))

theorem Ordered.eq_of_module (h : Ordered key written? rows) {row row' : Row} (hrow : row ∈ rows) (hrow' : row' ∈ rows)
    (hmodule : row.module = row'.module) : row = row' :=
  List.inj_on_of_nodup_map h.modules_nodup hrow hrow' hmodule

/-- modules with a line are those that the symbols of lines are written as -/
theorem Ordered.mem_modules (h : Ordered key written? rows) {module : String} :
    module ∈ rows.map Row.module ↔ ∃ r, (∃ row ∈ rows, r ∈ row.symbols) ∧ written? r.module = some module := by
  rw [List.mem_map]
  constructor
  · rintro ⟨row, hrow, rfl⟩
    obtain ⟨r, hr⟩ := List.exists_mem_of_ne_nil _ (h.filled row hrow)
    exact ⟨r, ⟨row, hrow, hr⟩, h.written row hrow r hr⟩
  · rintro ⟨r, ⟨row, hrow, hr⟩, hwritten⟩
    exact ⟨row, hrow, Option.some.inj ((h.written row hrow r hr).symm.trans hwritten)⟩

/-- where the symbols of lines stand in other lines too, they stand there under the same module -/
theorem Ordered.subset_of_module (h : Ordered key written? rows) (h' : Ordered key written? rows')
    (hsub : ∀ r, (∃ row ∈ rows, r ∈ row.symbols) → ∃ row ∈ rows', r ∈ row.symbols) {row row' : Row} (hrow : row ∈ rows)
    (hrow' : row' ∈ rows') (hmodule : row.module = row'.module) : row.symbols ⊆ row'.symbols := by
  intro r hr
  obtain ⟨other, hother, hmem⟩ := hsub r ⟨row, hrow, hr⟩
  have hwritten := (h.written row hrow r hr).symm.trans (h'.written other hother r hmem)
  rwa [h'.eq_of_module hrow' hother (hmodule.symm.trans (Option.some.inj hwritten))]

theorem Ordered.mem_of_mem (h : Ordered key written? rows) (h' : Ordered key written? rows')
    (hsame : ∀ r, (∃ row ∈ rows, r ∈ row.symbols) ↔ ∃ row ∈ rows', r ∈ row.symbols) {row : Row} (hrow : row ∈ rows) :
    row ∈ rows' := by
  obtain ⟨r, hr⟩ := List.exists_mem_of_ne_nil _ (h.filled row hrow)
  obtain ⟨row', hrow', hr'⟩ := (hsame r).1 ⟨row, hrow, hr⟩
  have hmodule : row.module = row'.module :=
    Option.some.inj ((h.written row hrow r hr).symm.trans (h'.written row' hrow' r hr'))
  have hsub := h.subset_of_module h' (fun r => (hsame r).1) hrow hrow' hmodule
  have hsub' := h'.subset_of_module h (fun r => (hsame r).2) hrow' hrow hmodule.symm
  have hsymbols : row.symbols = row'.symbols :=
    (h.sorted row hrow).eq_of_mem_iff (h'.sorted row' hrow') fun _ => ⟨@hsub _, @hsub' _⟩
  have heq : row = row' := by
    cases row
    cases row'
    simp_all
  exact heq ▸ hrow'

/-- **Symbols decide the lines in order.** -/
theorem Ordered.unique (h : Ordered key written? rows) (h' : Ordered key written? rows')
    (hsame : ∀ r, (∃ row ∈ rows, r ∈ row.symbols) ↔ ∃ row ∈ rows', r ∈ row.symbols) : rows = rows' :=
  h.rising.eq_of_mem_iff h'.rising fun _ =>
    ⟨h.mem_of_mem h' hsame, h'.mem_of_mem h fun r => (hsame r).symm⟩

end Ordered

namespace Layout.Canonical

variable {tree : Tree} {package path : String} {rs rs' : List Requirement} {l l' : Layout}

theorem perm (h : l.Canonical tree package path rs) (hrs : rs.Perm rs') : l.Canonical tree package path rs' :=
  ⟨h.outside, h.inside, h.complete.trans (hrs.filter _)⟩

/-- it is the set of the directories of the tree that matters -/
theorem of_roots {tree' : Tree} (h : l.Canonical tree package path rs)
    (hroots : ∀ directory, directory ∈ tree.roots ↔ directory ∈ tree'.roots) :
    l.Canonical tree' package path rs := by
  have hinside := Tree.inside?_congr hroots
  have houtside : tree'.outside? package = tree.outside? package := by
    funext module
    rw [Tree.outside?, Tree.outside?, hinside]
  have hrelative : tree'.relative? package path = tree.relative? package path := by
    funext module
    rw [Tree.relative?, Tree.relative?, hinside]
  have hown : ∀ module, tree'.IsOwn package path module ↔ tree.IsOwn package path module := by
    intro module
    rw [Tree.IsOwn, Tree.IsOwn, hinside]
  refine ⟨houtside ▸ h.outside, hrelative ▸ h.inside, ?_⟩
  simpa only [hown] using h.complete

theorem mem_symbols (h : l.Canonical tree package path rs) {r : Requirement} :
    (∃ row ∈ l.outside ++ l.inside, r ∈ row.symbols) ↔ r ∈ rs ∧ ¬ tree.IsOwn package path r.module := by
  rw [← List.mem_flatMap, h.complete.mem_iff, List.mem_filter, decide_eq_true_iff]

/-- the lines for modules outside the tree have the requirements from there -/
theorem mem_outside (h : l.Canonical tree package path rs) {r : Requirement} :
    (∃ row ∈ l.outside, r ∈ row.symbols) ↔ r ∈ rs ∧ (tree.outside? package r.module).isSome = true := by
  constructor
  · rintro ⟨row, hrow, hr⟩
    refine ⟨(h.mem_symbols.1 ⟨row, List.mem_append_left _ hrow, hr⟩).1, ?_⟩
    rw [h.outside.written row hrow r hr]
    rfl
  · rintro ⟨hr, hwritten⟩
    rcases tree.written_cases package path r.module with ⟨-, -, hnone, -⟩ | ⟨hown, -, -, hnone⟩ | ⟨_, -, -, hnone, -⟩
    · simp [hnone] at hwritten
    · obtain ⟨row, hrow, hmem⟩ := h.mem_symbols.2 ⟨hr, hown⟩
      rcases List.mem_append.1 hrow with hrow | hrow
      · exact ⟨row, hrow, hmem⟩
      · cases hnone.symm.trans (h.inside.written row hrow r hmem)
    · simp [hnone] at hwritten

/-- the lines for modules of the tree have the requirements from other files of the tree -/
theorem mem_inside (h : l.Canonical tree package path rs) {r : Requirement} :
    (∃ row ∈ l.inside, r ∈ row.symbols) ↔ r ∈ rs ∧ (tree.relative? package path r.module).isSome = true := by
  constructor
  · rintro ⟨row, hrow, hr⟩
    refine ⟨(h.mem_symbols.1 ⟨row, List.mem_append_right _ hrow, hr⟩).1, ?_⟩
    rw [h.inside.written row hrow r hr]
    rfl
  · rintro ⟨hr, hwritten⟩
    rcases tree.written_cases package path r.module with ⟨-, -, -, hnone⟩ | ⟨-, -, -, hnone⟩ | ⟨_, hown, -, hnone, -⟩
    · simp [hnone] at hwritten
    · simp [hnone] at hwritten
    · obtain ⟨row, hrow, hmem⟩ := h.mem_symbols.2 ⟨hr, hown⟩
      rcases List.mem_append.1 hrow with hrow | hrow
      · cases hnone.symm.trans (h.outside.written row hrow r hmem)
      · exact ⟨row, hrow, hmem⟩

/-- both groups together have one line for a module if no module outside the tree is spelled like a relative path -/
theorem modules_nodup_iff (h : l.Canonical tree package path rs) :
    ((l.outside ++ l.inside).map Row.module).Nodup ↔ ∀ r ∈ rs, ∀ r' ∈ rs, ∀ module,
      tree.outside? package r.module = some module → tree.relative? package path r'.module ≠ some module := by
  rw [List.map_append, List.nodup_append']
  constructor
  · rintro ⟨-, -, hdisjoint⟩ r hr r' hr' module houtside hrelative
    have hout : module ∈ l.outside.map Row.module :=
      h.outside.mem_modules.2 ⟨r, h.mem_outside.2 ⟨hr, Option.isSome_of_eq_some houtside⟩, houtside⟩
    have hin : module ∈ l.inside.map Row.module :=
      h.inside.mem_modules.2 ⟨r', h.mem_inside.2 ⟨hr', Option.isSome_of_eq_some hrelative⟩, hrelative⟩
    exact hdisjoint hout hin
  · intro hapart
    refine ⟨h.outside.modules_nodup, h.inside.modules_nodup, fun module hout hin => ?_⟩
    obtain ⟨r, hr, houtside⟩ := h.outside.mem_modules.1 hout
    obtain ⟨r', hr', hrelative⟩ := h.inside.mem_modules.1 hin
    exact hapart r (h.mem_outside.1 hr).1 r' (h.mem_inside.1 hr').1 module houtside hrelative

/-- **Requirements have one canonical layout.** -/
theorem unique (h : l.Canonical tree package path rs) (h' : l'.Canonical tree package path rs) : l = l' := by
  have houtside := h.outside.unique h'.outside fun r => h.mem_outside.trans h'.mem_outside.symm
  have hinside := h.inside.unique h'.inside fun r => h.mem_inside.trans h'.mem_inside.symm
  cases l
  cases l'
  simp_all

end Layout.Canonical

/-! ## Layouts of blocks -/

section Block

variable (tree : Tree) (package path : String) (rs : List Requirement)

/-- what the block of a file prints: its requirements, each with its printed module -/
def entriesOf : List (Printed × Requirement) :=
  rs.filterMap fun r => (tree.printed? package path r.module).map (·, r)

variable {tree package path rs}

theorem mem_entriesOf {m : Printed} {r : Requirement} :
    (m, r) ∈ entriesOf tree package path rs ↔ r ∈ rs ∧ tree.printed? package path r.module = some m := by
  simp only [entriesOf, List.mem_filterMap, Option.map_eq_some_iff]
  constructor
  · rintro ⟨s, hs, other, hprinted, heq⟩
    obtain ⟨rfl, rfl⟩ := Prod.mk.inj heq
    exact ⟨hs, hprinted⟩
  · rintro ⟨hr, hprinted⟩
    exact ⟨r, hr, m, hprinted, rfl⟩

theorem requirements_entriesOf :
    (entriesOf tree package path rs).map (·.2) = rs.filter fun r => ¬ tree.IsOwn package path r.module := by
  induction rs with
  | nil => rfl
  | cons r rs ih =>
    rw [entriesOf] at ih ⊢
    rw [List.filterMap_cons, List.filter_cons]
    cases hprinted : tree.printed? package path r.module with
    | none => simpa [Tree.printed?_eq_none_iff.1 hprinted] using ih
    | some m =>
      have hother : ¬ tree.IsOwn package path r.module := fun hown =>
        Option.some_ne_none m (hprinted.symm.trans (Tree.printed?_eq_none_iff.2 hown))
      simpa [hother] using ih

/-- symbols of a line have names of their own, so they rise -/
theorem symbolsOf_rising (hapart : (rs.map Requirement.bound).Nodup) (m : Printed) :
    (symbolsOf (entriesOf tree package path rs) m).Pairwise fun a b => a.key < b.key := by
  let own := ((entriesOf tree package path rs).filter (·.1 == m)).map (·.2)
  have hsub : own.Sublist rs := by
    have hall : own.Sublist ((entriesOf tree package path rs).map (·.2)) := List.filter_sublist.map _
    rw [requirements_entriesOf] at hall
    exact hall.trans List.filter_sublist
  have hnames : own.Pairwise fun a b => a.bound ≠ b.bound := List.pairwise_map.1 (hapart.sublist (hsub.map _))
  refine rising_mergeSort Requirement.le_iff (List.pairwise_map.2 ?_)
  exact hnames.imp fun hne heq => hne (Requirement.bound_of_key heq)

/-- the lines for printed modules of one kind are in order, if their texts are ordered as they are -/
theorem ordered_rows {α : Type} [LinearOrder α] {key : String → α} {written? : String → Option String}
    {kind : Printed → Bool} (hapart : (rs.map Requirement.bound).Nodup)
    (hwritten : ∀ module m, tree.printed? package path module = some m → kind m = true → written? module = some m.text)
    (hkey : ∀ a b, (∃ module, tree.printed? package path module = some a) →
      (∃ module, tree.printed? package path module = some b) → kind a = true → kind b = true → a.key < b.key →
        key a.text < key b.text) :
    let entries := entriesOf tree package path rs
    Ordered key written? (((modulesOf entries).filter kind).map (rowOf entries)) := by
  intro entries
  have hprinted : ∀ m ∈ modulesOf entries, ∃ module, tree.printed? package path module = some m := by
    intro m hm
    obtain ⟨r, hr⟩ := (mem_modulesOf entries).1 hm
    exact ⟨r.module, (mem_entriesOf.1 hr).2⟩
  refine ⟨?_, ?_, ?_, ?_⟩
  · refine List.pairwise_map.2 (((modulesOf_rising entries).filter kind).imp_of_mem ?_)
    intro a b ha hb hlt
    obtain ⟨ha, hakind⟩ := List.mem_filter.1 ha
    obtain ⟨hb, hbkind⟩ := List.mem_filter.1 hb
    exact hkey a b (hprinted a ha) (hprinted b hb) hakind hbkind hlt
  · intro row hrow
    obtain ⟨m, hm, rfl⟩ := List.mem_map.1 hrow
    obtain ⟨r, hr⟩ := (mem_modulesOf entries).1 (List.mem_filter.1 hm).1
    exact List.ne_nil_of_mem ((mem_symbolsOf entries).2 hr)
  · intro row hrow
    obtain ⟨m, -, rfl⟩ := List.mem_map.1 hrow
    exact symbolsOf_rising hapart m
  · intro row hrow r hr
    obtain ⟨m, hm, rfl⟩ := List.mem_map.1 hrow
    exact hwritten r.module m (mem_entriesOf.1 ((mem_symbolsOf entries).1 hr)).2 (List.mem_filter.1 hm).2

/-- **The layout of a block is canonical**, if the requirements have names of their own. -/
theorem layoutOf_canonical (hapart : (rs.map Requirement.bound).Nodup) :
    (layoutOf (entriesOf tree package path rs)).Canonical tree package path rs where
  outside := by
    refine ordered_rows hapart (fun module m hm houtside => (Tree.outside?_of_printed hm houtside).2) ?_
    rintro a b ⟨_, ha⟩ ⟨_, hb⟩ haout hbout hlt
    rw [(Tree.outside?_of_printed ha haout).1, (Tree.outside?_of_printed hb hbout).1] at hlt
    exact Sum.Lex.inl_lt_inl_iff.1 hlt
  inside := by
    refine ordered_rows hapart (fun module m hm hinside => (Tree.relative?_of_printed hm (by simpa using hinside)).2) ?_
    rintro a b ⟨_, ha⟩ ⟨_, hb⟩ hain hbin hlt
    rw [(Tree.relative?_of_printed ha (by simpa using hain)).1,
      (Tree.relative?_of_printed hb (by simpa using hbin)).1] at hlt
    exact Sum.Lex.inr_lt_inr_iff.1 hlt
  complete := requirements_entriesOf ▸ symbols_layoutOf _

/-- the layout of a block is canonical for the tree that the planner began with, whatever it was asked for -/
theorem Planner.layout_run (tree : Tree) (package : String) (calls : List Call) (path root : String) :
    let p := (new tree package).run calls
    let layout := layoutOf (entriesOf tree root path (p.requirements path))
    layout.Canonical tree root path (p.requirements path) ∧ p.block path root = layout.text := by
  intro p layout
  have hsound : p.Sound := (Sound.new tree package).run calls
  have htree : p.tree = tree := (run_frame (new tree package) calls).1
  refine ⟨layoutOf_canonical (hsound.proper path).apart, ?_⟩
  rw [← blockOf_eq, ← htree]
  rfl

/-- **One block for requirements in any order.** In every run of a planner, and for every file, the requirements have
one canonical layout, and the block is its text. Each group has one line for a module. Both groups together have, just
if no module outside the tree is spelled like the relative path of a module of the tree, where both are asked for; it
takes a module that begins with a dot not to be. A run of another planner of the same tree that has the same
requirements for the file, in whatever order, prints the same block. -/
theorem Planner.block_canonical (tree : Tree) (package : String) (calls : List Call) (path root : String) :
    let p := (new tree package).run calls
    (∃! l : Layout, l.Canonical tree root path (p.requirements path)) ∧
      (∀ l : Layout, l.Canonical tree root path (p.requirements path) → p.block path root = l.text ∧
        (l.outside.map Row.module).Nodup ∧ (l.inside.map Row.module).Nodup ∧
        (((l.outside ++ l.inside).map Row.module).Nodup ↔
          ∀ r ∈ p.requirements path, ∀ r' ∈ p.requirements path, ∀ module,
            tree.outside? root r.module = some module → tree.relative? root path r'.module ≠ some module) ∧
        ∀ a ∈ l.outside, ∀ b ∈ l.inside, a.module = b.module → a.module.toList.head? = some '.') ∧
      ∀ (tree' : Tree) (package' : String) (calls' : List Call),
        let q := (new tree' package').run calls'
        (∀ directory, directory ∈ tree'.roots ↔ directory ∈ tree.roots) →
          (q.requirements path).Perm (p.requirements path) → q.block path root = p.block path root := by
  intro p
  obtain ⟨hcanonical, hblock⟩ := layout_run tree package calls path root
  refine ⟨⟨_, hcanonical, fun l hl => hl.unique hcanonical⟩, fun l hl => ⟨?_, ?_⟩, ?_⟩
  · rw [hl.unique hcanonical]
    exact hblock
  · refine ⟨hl.outside.modules_nodup, hl.inside.modules_nodup, hl.modules_nodup_iff, fun a _ b hb hmodule => ?_⟩
    obtain ⟨r, hr⟩ := List.exists_mem_of_ne_nil _ (hl.inside.filled b hb)
    exact hmodule ▸ Tree.head?_of_relative? (hl.inside.written b hb r hr)
  · intro tree' package' calls' q hroots hperm
    obtain ⟨hcanonical', hblock'⟩ := layout_run tree' package' calls' path root
    have hsame : (layoutOf (entriesOf tree' root path (q.requirements path))).Canonical tree root path
        (p.requirements path) := (hcanonical'.of_roots hroots).perm hperm
    calc q.block path root
      _ = (layoutOf (entriesOf tree' root path (q.requirements path))).text := hblock'
      _ = (layoutOf (entriesOf tree root path (p.requirements path))).text := by rw [hsame.unique hcanonical]
      _ = p.block path root := hblock.symm

end Block

/-- a file of the tree asks for an identifier type and for a model, in both orders -/
theorem Planner.block_canonical_swapped :
    let tree : Tree := ⟨["endpoints", "models"]⟩
    let pet : Requirement := ⟨"models.pet", "Pet", none⟩
    let uuid : Requirement := ⟨"uuid", "UUID", none⟩
    let p := (new tree "client").run [.setCurrent "endpoints/pets", .add "uuid" "UUID" none, .add "models.pet" "Pet" none]
    let q := (new tree "").run [.setCurrent "endpoints/pets", .add "models.pet" "Pet" none, .add "uuid" "UUID" none]
    let l : Layout := ⟨[⟨"uuid", [uuid]⟩], [⟨"..models.pet", [pet]⟩]⟩
    l.Canonical tree "client" "endpoints/pets" (p.requirements "endpoints/pets") ∧
      p.block "endpoints/pets" "client" = "from uuid import UUID\n\nfrom ..models.pet import Pet" ∧
      (q.requirements "endpoints/pets").Perm (p.requirements "endpoints/pets") ∧
      q.block "endpoints/pets" "client" = p.block "endpoints/pets" "client" := by
  intro tree pet uuid p q l
  have hcanonical : l.Canonical tree "client" "endpoints/pets" (p.requirements "endpoints/pets") :=
    ⟨⟨by simp [l], by simp [l], by simp [l], by decide⟩, ⟨by simp [l], by simp [l], by simp [l], by decide⟩, by decide⟩
  have hperm : (q.requirements "endpoints/pets").Perm (p.requirements "endpoints/pets") := by decide
  obtain ⟨-, hblock, hsame⟩ := block_canonical tree "client"
    [.setCurrent "endpoints/pets", .add "uuid" "UUID" none, .add "models.pet" "Pet" none] "endpoints/pets" "client"
  exact ⟨hcanonical, (hblock l hcanonical).1, hperm, hsame tree "" _ (fun _ => Iff.rfl) hperm⟩

/-- a model is asked for by its relative path and then as a module of the tree: the spelling with dots is outside the
tree, so each group has a line for it -/
theorem Planner.pet_in_two_lines :
    let tree : Tree := ⟨["endpoints", "models"]⟩
    let p := (new tree "client").run
      [.setCurrent "endpoints/pets", .add "..models.pet" "Pet" none, .add "models.pet" "Owner" none]
    let pet : Requirement := ⟨"..models.pet", "Pet", none⟩
    let owner : Requirement := ⟨"models.pet", "Owner", none⟩
    let l : Layout := ⟨[⟨"..models.pet", [pet]⟩], [⟨"..models.pet", [owner]⟩]⟩
    l.Canonical tree "client" "endpoints/pets" (p.requirements "endpoints/pets") ∧
      p.block "endpoints/pets" "client" = "from ..models.pet import Pet\n\nfrom ..models.pet import Owner" ∧
      ¬ ((l.outside ++ l.inside).map Row.module).Nodup := by
  intro tree p pet owner l
  have hrequired : p.requirements "endpoints/pets" = [pet, owner] := by decide +kernel
  have hcanonical : l.Canonical tree "client" "endpoints/pets" (p.requirements "endpoints/pets") := by
    rw [hrequired]
    exact ⟨⟨by simp [l], by simp [l], by simp [l], by decide⟩, ⟨by simp [l], by simp [l], by simp [l], by decide⟩,
      by decide⟩
  obtain ⟨hlayout, hblock⟩ := layout_run tree "client"
    [.setCurrent "endpoints/pets", .add "..models.pet" "Pet" none, .add "models.pet" "Owner" none] "endpoints/pets"
    "client"
  refine ⟨hcanonical, hblock.trans ?_, by decide⟩
  rw [← hcanonical.unique hlayout]
  decide

end ClientPlan.Imports
