/-
Following references to components. A reference hops to the entry of its section that it names, and an item leads to a
value if finitely many hops go there (`Leads`). The walk that follows references keeps those that it has passed and
gives up where one comes again. It loses nothing by that: such a reference stands on a circle, and from a circle no
value is reached. So the walk finds exactly what an item leads to (`follow_eq_some_iff`), over chains of any length and
in at most as many hops as the section has entries (`Walks.length_le`). It finds nothing exactly where an item is lost:
on the way there is a reference without a target or one that leaves the section, or else the way runs into a circle
(`follow_eq_none_iff`).
-/
import Mathlib.Data.List.Perm.Subperm
import ClientPlan.Document.Reference
import ClientPlan.Proofs.Sequences

namespace ClientPlan

theorem sectionPath_injective (kind : String) : Function.Injective (sectionPath kind) := by
  intro key key' h
  have hkey : sectionKey? kind (sectionPath kind key) = some key := sectionKey?_eq_some_iff.2 rfl
  rw [sectionKey?_eq_some_iff.2 h] at hkey
  exact (Option.some.inj hkey).symm

namespace OrRef

open Relation

section

variable {α : Type} (kind : String) (entries : Keyed (OrRef α))

/-- a reference goes to the entry of its section that it names -/
def Hop (item target : OrRef α) : Prop :=
  ∃ key, item = .ref (sectionPath kind key) ∧ entries.get? key = some target

/-- finitely many hops go to a value -/
def Leads (item : OrRef α) (a : α) : Prop :=
  ReflTransGen (Hop kind entries) item (.inline a)

/-- the ways in which an item fails to lead to a value -/
inductive Lost (item : OrRef α) : Prop
  /-- a reference names no entry of its section -/
  | missing {key : String} (h : ReflTransGen (Hop kind entries) item (.ref (sectionPath kind key)))
      (hnone : entries.get? key = none)
  /-- a reference goes to another section or out of the document -/
  | outside {path : String} (h : ReflTransGen (Hop kind entries) item (.ref path))
      (hout : ∀ key, path ≠ sectionPath kind key)
  /-- references run in a circle, which need not go through the item itself -/
  | circle {other : OrRef α} (h : ReflTransGen (Hop kind entries) item other)
      (hcircle : TransGen (Hop kind entries) other other)

/-- the walk from an item has come to another one, past the references in `seen` -/
inductive Walks (item : OrRef α) : List String → OrRef α → Prop
  | start : Walks item [] item
  | hop {seen : List String} {path : String} {target : OrRef α} (h : Walks item seen (.ref path)) (hnew : path ∉ seen)
      (hhop : Hop kind entries (.ref path) target) : Walks item (path :: seen) target

end

variable {α : Type} {kind : String} {entries : Keyed (OrRef α)} {item target : OrRef α} {path : String}
  {seen : List String} {a : α}

/-! ## Hops -/

theorem hop_ref_iff : Hop kind entries (.ref path) target ↔ next? kind entries path = some target := by
  rw [next?_eq_some_iff]
  constructor
  · rintro ⟨key, hpath, hget⟩
    cases hpath
    exact ⟨key, rfl, hget⟩
  · rintro ⟨key, rfl, hget⟩
    exact ⟨key, rfl, hget⟩

theorem hop_unique : Relator.RightUnique (Hop kind entries) := by
  rintro _ target target' ⟨key, rfl, hget⟩ ⟨key', hkey, hget'⟩
  obtain rfl := sectionPath_injective kind (OrRef.ref.inj hkey)
  exact Option.some.inj (hget.symm.trans hget')

theorem not_hop_inline (a : α) (target : OrRef α) : ¬ Hop kind entries (.inline a) target := by
  rintro ⟨_, hinline, -⟩
  cases hinline

/-- a reference goes nowhere if it has no target or leaves its section -/
theorem next?_eq_none_iff : next? kind entries path = none ↔
    (∃ key, path = sectionPath kind key ∧ entries.get? key = none) ∨ ∀ key, path ≠ sectionPath kind key := by
  constructor
  · intro hnone
    by_cases hkey : ∃ key, path = sectionPath kind key
    · obtain ⟨key, rfl⟩ := hkey
      refine Or.inl ⟨key, rfl, Option.eq_none_iff_forall_ne_some.2 fun target hget => ?_⟩
      cases hnone.symm.trans (next?_eq_some_iff.2 ⟨key, rfl, hget⟩)
    · exact Or.inr fun key heq => hkey ⟨key, heq⟩
  · intro h
    refine Option.eq_none_iff_forall_ne_some.2 fun target hnext => ?_
    obtain ⟨key, rfl, hget⟩ := next?_eq_some_iff.1 hnext
    rcases h with ⟨key', hkey, hnone⟩ | hout
    · obtain rfl := sectionPath_injective kind hkey
      cases hnone.symm.trans hget
    · exact hout key rfl

/-- an item is lost where the references from it come to an end, or to no end at all -/
theorem lost_iff : item.Lost kind entries ↔
    (∃ path, ReflTransGen (Hop kind entries) item (.ref path) ∧ next? kind entries path = none) ∨
      ∃ other, ReflTransGen (Hop kind entries) item other ∧ TransGen (Hop kind entries) other other := by
  constructor
  · intro h
    cases h with
    | missing h hnone => exact Or.inl ⟨_, h, next?_eq_none_iff.2 (Or.inl ⟨_, rfl, hnone⟩)⟩
    | outside h hout => exact Or.inl ⟨_, h, next?_eq_none_iff.2 (Or.inr hout)⟩
    | circle h hcircle => exact Or.inr ⟨_, h, hcircle⟩
  · rintro (⟨path, h, hstuck⟩ | ⟨other, h, hcircle⟩)
    · rcases next?_eq_none_iff.1 hstuck with ⟨key, rfl, hnone⟩ | hout
      · exact .missing h hnone
      · exact .outside h hout
    · exact .circle h hcircle

/-- what goes to a lost item is lost -/
theorem Lost.head (hhop : Hop kind entries item target) (h : target.Lost kind entries) : item.Lost kind entries := by
  cases h with
  | missing h hnone => exact .missing (.head hhop h) hnone
  | outside h hout => exact .outside (.head hhop h) hout
  | circle h hcircle => exact .circle (.head hhop h) hcircle

/-- what is lost leads to no value -/
theorem Lost.not_leads (h : item.Lost kind entries) : ¬ item.Leads kind entries a := by
  intro hleads
  have hrest : ∀ {other}, ReflTransGen (Hop kind entries) item other → other.Leads kind entries a :=
    end_of_reached hop_unique hleads (not_hop_inline a)
  rcases lost_iff.1 h with ⟨path, hreach, hstuck⟩ | ⟨other, hreach, hcircle⟩
  · rcases ReflTransGen.cases_head (hrest hreach) with heq | ⟨_, hhop, -⟩
    · cases heq
    · cases hstuck.symm.trans (hop_ref_iff.1 hhop)
  · exact not_circle_of_end hop_unique (hrest hreach) (not_hop_inline a) hcircle

/-! ## The walk -/

theorem followPast_hop (hnew : path ∉ seen) (hhop : Hop kind entries (.ref path) target) :
    (OrRef.ref path).followPast kind entries seen = target.followPast kind entries (path :: seen) := by
  rw [followPast, dif_neg hnew]
  split
  · next target' hnext => rw [Option.some.inj (hnext.symm.trans (hop_ref_iff.1 hhop))]
  · next hnone => cases hnone.symm.trans (hop_ref_iff.1 hhop)

/-- the walk ends at what the item leads to, or else the item is lost, where every reference that was passed leads
to the item -/
theorem followPast_spec (hseen : ∀ path ∈ seen, TransGen (Hop kind entries) (.ref path) item) :
    match item.followPast kind entries seen with
    | some a => item.Leads kind entries a
    | none => item.Lost kind entries := by
  fun_induction followPast kind entries seen item with
  | case1 => exact .refl
  | case2 seen path hmem => exact .circle .refl (hseen path hmem)
  | case3 seen path _ target hnext ih =>
    have hhop := hop_ref_iff.2 hnext
    have hpassed : ∀ other ∈ path :: seen, TransGen (Hop kind entries) (.ref other) target := by
      intro other hother
      rcases List.mem_cons.1 hother with rfl | hother
      · exact .single hhop
      · exact (hseen other hother).tail hhop
    have hrest := ih hpassed
    split at hrest
    · exact .head hhop hrest
    · exact hrest.head hhop
  | case4 seen path _ hnone => exact lost_iff.2 (Or.inl ⟨path, .refl, hnone⟩)

theorem follow_spec (kind : String) (entries : Keyed (OrRef α)) (item : OrRef α) :
    match item.follow kind entries with
    | some a => item.Leads kind entries a
    | none => item.Lost kind entries :=
  followPast_spec fun path hpath => by cases hpath

/-- **The walk finds what an item leads to**, over chains of any length, and nothing else. -/
theorem follow_eq_some_iff : item.follow kind entries = some a ↔ item.Leads kind entries a := by
  have hspec := follow_spec kind entries item
  cases hfollow : item.follow kind entries with
  | some b =>
    rw [hfollow] at hspec
    constructor
    · rintro ⟨rfl⟩
      exact hspec
    · intro hleads
      have hend := end_of_reached hop_unique hspec (not_hop_inline b) hleads
      rcases ReflTransGen.cases_head hend with heq | ⟨_, hhop, -⟩
      · rw [OrRef.inline.inj heq]
      · exact absurd hhop (not_hop_inline a _)
  | none =>
    rw [hfollow] at hspec
    exact iff_of_false nofun hspec.not_leads

/-- **The walk finds nothing exactly where an item is lost.** -/
theorem follow_eq_none_iff : item.follow kind entries = none ↔ item.Lost kind entries := by
  constructor
  · intro hnone
    have hspec := follow_spec kind entries item
    rwa [hnone] at hspec
  · intro hlost
    exact Option.eq_none_iff_forall_ne_some.2 fun a hsome => hlost.not_leads (follow_eq_some_iff.1 hsome)

/-- what the walk finds does not change on the way -/
theorem Walks.follow_eq (h : item.Walks kind entries seen target) :
    item.follow kind entries = target.followPast kind entries seen := by
  induction h with
  | start => rfl
  | hop _ hnew hhop ih => rw [ih, followPast_hop hnew hhop]

/-- the walk passes every entry at most once -/
theorem Walks.length_le (h : item.Walks kind entries seen target) : seen.length ≤ entries.length := by
  have hpassed : seen.Nodup ∧ seen ⊆ entries.keys.map (sectionPath kind) := by
    induction h with
    | start => exact ⟨.nil, List.nil_subset _⟩
    | hop _ hnew hhop ih =>
      obtain ⟨key, hkey, hget⟩ := hhop
      refine ⟨List.nodup_cons.2 ⟨hnew, ih.1⟩, List.cons_subset.2 ⟨?_, ih.2⟩⟩
      exact OrRef.ref.inj hkey ▸ List.mem_map_of_mem (Keyed.mem_keys_of_get? hget)
  calc seen.length
    _ ≤ (entries.keys.map (sectionPath kind)).length := (hpassed.1.subperm hpassed.2).length_le
    _ = entries.length := by rw [List.length_map, Keyed.keys, List.length_map]

/-- looking up the items of a section: it finds what an item leads to and nothing where the item is lost, and the walk
ends, as it never makes more hops than the section has entries -/
structure Exact (kind : String) (entries : Keyed (OrRef α)) (lookUp : OrRef α → Option α) : Prop where
  found : ∀ item a, lookUp item = some a ↔ item.Leads kind entries a
  lost : ∀ item, lookUp item = none ↔ item.Lost kind entries
  ends : ∀ item seen target, item.Walks kind entries seen target →
    lookUp item = target.followPast kind entries seen ∧ seen.length ≤ entries.length

theorem follow_exact (kind : String) (entries : Keyed (OrRef α)) : Exact kind entries (follow kind entries) where
  found _ _ := follow_eq_some_iff
  lost _ := follow_eq_none_iff
  ends _ _ _ h := ⟨h.follow_eq, h.length_le⟩

end OrRef

namespace Document

/-- **Components are looked up along their references.** In each section of the components, if a document has any, an
item is found to be the value that finitely many references lead to. Nothing is found exactly for an item from which the
references come to a missing entry, leave the section or run in a circle. -/
theorem components_followed (declared : Option Components) :
    let c := Components.orEmpty declared
    OrRef.Exact "parameters" c.parameters c.parameter? ∧
      OrRef.Exact "requestBodies" c.requestBodies c.requestBody? ∧
      OrRef.Exact "responses" c.responses c.response? :=
  ⟨OrRef.follow_exact _ _, OrRef.follow_exact _ _, OrRef.follow_exact _ _⟩

/-- a response behind two references, and two references that stand for each other -/
def linkedResponses : Keyed (OrRef Response) := [
  ("Here", .ref "#/components/responses/There"), ("There", .ref "#/components/responses/Here"),
  ("Alias", .ref "#/components/responses/Known"), ("Known", .inline { description := "found" })]

/-- the circle is left although it does not go through the reference from which it is reached -/
example :
    let c : Components := { responses := ("Start", .ref "#/components/responses/Here") :: linkedResponses }
    (c.response? (.ref "#/components/responses/Start")).isNone = true ∧
      (c.response? (.ref "#/components/responses/Alias")).map (·.description) = some "found" := by
  decide

end Document

end ClientPlan
