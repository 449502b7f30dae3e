/-
Relative paths of modules. So many dots and the segments after them lead from a file to another one: the first dot is
the directory of the file, and every further dot the directory above. The relative path of a module leads to its file,
and no path with fewer dots does: it leaves only the directories that are not shared (`relativeModule_climbs_least`).
-/
import Mathlib.Data.List.DropRight
import Mathlib.Order.Bounds.Defs
import ClientPlan.Imports.ModulePath
import ClientPlan.Proofs.Text.Segments

namespace ClientPlan

/-- the directory of a file -/
def directoryOf (file : String) : List String :=
  (Text.segments '/' file).dropLast

/-- the file that so many dots and the segments after them lead to from a file, if there are that many directories -/
def relativeFile? (file : String) (depth : Nat) (suffix : String) : Option String :=
  let directory := directoryOf file
  if 1 ≤ depth ∧ depth ≤ directory.length + 1 then
    some (Text.join "/" (directory.take (directory.length - (depth - 1)) ++ Text.segments '.' suffix))
  else none

/-! ## Shared segments -/

theorem sharedLength_le (as bs : List String) : sharedLength as bs ≤ as.length := by
  fun_induction sharedLength as bs with
  | case1 as b bs ih => simpa using ih
  | case2 => exact Nat.zero_le _
  | case3 => exact Nat.zero_le _

theorem take_sharedLength (as bs : List String) : as.take (sharedLength as bs) = bs.take (sharedLength as bs) := by
  fun_induction sharedLength as bs with
  | case1 as b bs ih => rw [List.take_succ_cons, List.take_succ_cons, ih]
  | case2 => rfl
  | case3 => rfl

/-- no common start is longer than what is shared -/
theorem le_sharedLength {as bs : List String} {n : Nat} (hn : n ≤ as.length) (h : as.take n <+: bs) :
    n ≤ sharedLength as bs := by
  induction n generalizing as bs with
  | zero => exact Nat.zero_le _
  | succ n ih =>
    obtain ⟨a, as, rfl⟩ := List.exists_cons_of_length_pos (Nat.zero_lt_of_lt hn)
    obtain ⟨rest, rfl⟩ := h
    have hrest := ih (Nat.le_of_succ_le_succ hn) (List.prefix_append (as.take n) rest)
    rw [List.take_succ_cons, List.cons_append, sharedLength, if_pos rfl]
    exact Nat.succ_le_succ hrest

/-- climbing out of what is not shared, and then going down, leads to the target -/
theorem take_append_drop_sharedLength (directory target : List String) :
    directory.take (directory.length - (1 + (directory.length - sharedLength directory target) - 1)) ++
      target.drop (sharedLength directory target) = target := by
  have hle := sharedLength_le directory target
  have hclimb : directory.length - (1 + (directory.length - sharedLength directory target) - 1) =
      sharedLength directory target := by omega
  rw [hclimb, take_sharedLength, List.take_append_drop]

/-! ## Dots -/

section Dots

variable {depth : Nat} {suffix : List String}

theorem mem_segments {sep : Char} {s p : String} (h : p ∈ Text.segments sep s) : p ≠ "" ∧ sep ∉ p.toList := by
  obtain ⟨hmem, hne⟩ := List.mem_filter.1 h
  exact ⟨by simpa using hne, Text.notMem_of_mem_pieces hmem⟩

/-- segments with dots between them do not begin with a dot -/
theorem head?_join_ne_dot (h : ∀ s ∈ suffix, s ≠ "" ∧ '.' ∉ s.toList) :
    (Text.join "." suffix).toList.head? ≠ some '.' := by
  by_cases hne : suffix = []
  · subst hne
    decide
  · have hjoinable : Text.Joinable '.' (suffix.map String.toList) := by
      refine ⟨by simpa using hne, fun w hw => ?_⟩
      obtain ⟨s, hs, rfl⟩ := List.mem_map.1 hw
      exact ⟨fun hnil => (h s hs).1 (String.toList_inj.1 hnil), (h s hs).2⟩
    obtain ⟨c, cs, hcs, hc⟩ := hjoinable.exists_cons
    have hlist : (Text.join "." suffix).toList = c :: cs := by
      rw [Text.join, String.toList_intercalate]
      exact hcs
    simpa [hlist] using hc

theorem takeWhile_dots {cs : List Char} (h : cs.head? ≠ some '.') :
    (List.replicate depth '.' ++ cs).takeWhile (· == '.') = List.replicate depth '.' := by
  induction depth with
  | zero => cases cs <;> simp_all
  | succ depth ih => simpa [List.replicate_succ] using ih

theorem relativeDepth_dots {s : String} (h : s.toList.head? ≠ some '.') : relativeDepth (dots depth ++ s) = depth := by
  unfold relativeDepth dots
  rw [String.toList_append, String.toList_ofList, takeWhile_dots h, List.length_replicate]

theorem drop_dots (s : String) : String.ofList ((dots depth ++ s).toList.drop depth) = s := by
  simp [dots]

end Dots

theorem segments_join_drop (module : String) (n : Nat) :
    Text.segments '.' (Text.join "." ((Text.segments '.' module).drop n)) = (Text.segments '.' module).drop n :=
  Text.segments_join fun _ hs => mem_segments (List.mem_of_mem_drop hs)

/-- a relative path has a dot for each directory that is not shared, and one more -/
theorem relativeDepth_relativeModule (file module : String) :
    relativeDepth (relativeModule file module) =
      1 + ((directoryOf file).length - sharedLength (directoryOf file) (Text.segments '.' module)) :=
  relativeDepth_dots (head?_join_ne_dot fun _ hs => mem_segments (List.mem_of_mem_drop hs))

/-- the dots of a relative path lead out of the file's directory, and what follows them down to the module -/
theorem segments_relativeModule (file module : String) :
    let relative := relativeModule file module
    let depth := relativeDepth relative
    (directoryOf file).take ((directoryOf file).length - (depth - 1)) ++
      Text.segments '.' (String.ofList (relative.toList.drop depth)) = Text.segments '.' module := by
  intro relative depth
  let target := Text.segments '.' module
  let shared := sharedLength (directoryOf file) target
  have hrelative : relative = dots (1 + ((directoryOf file).length - shared)) ++ Text.join "." (target.drop shared) :=
    rfl
  have hdepth : depth = 1 + ((directoryOf file).length - shared) := relativeDepth_relativeModule file module
  rw [hdepth, hrelative, drop_dots, segments_join_drop]
  exact take_append_drop_sharedLength (directoryOf file) target

/-- **A relative path leads to its module.** It has a dot for each directory to leave and one more, no more than there
are directories and one, and the dots and segments lead from the file to the file of the module. -/
theorem relativeFile?_relativeModule (file module : String) :
    let relative := relativeModule file module
    relativeFile? file (relativeDepth relative) (String.ofList (relative.toList.drop (relativeDepth relative))) =
      some (moduleToFile module) := by
  intro relative
  have hbounds : 1 ≤ relativeDepth relative ∧ relativeDepth relative ≤ (directoryOf file).length + 1 := by
    rw [relativeDepth_relativeModule]
    omega
  rw [relativeFile?, if_pos hbounds]
  exact congrArg (fun target => some (Text.join "/" target)) (segments_relativeModule file module)

/-- **A relative path tells its module**, up to the spelling of the separators. -/
theorem relativeModule_eq_iff {file module module' : String} :
    relativeModule file module = relativeModule file module' ↔
      Text.segments '.' module = Text.segments '.' module' := by
  constructor
  · intro h
    rw [← segments_relativeModule file module, ← segments_relativeModule file module', h]
  · intro h
    rw [relativeModule, relativeModule, relativeParts, relativeParts, h]

/-! ## Fewest dots -/

/-- so many dots and the segments `down` lead from a file in a directory to a target: every dot but the first leaves a
directory -/
def Climbs (directory : List String) (depth : Nat) (down target : List String) : Prop :=
  1 ≤ depth ∧ depth ≤ directory.length + 1 ∧ directory.rdrop (depth - 1) ++ down = target

/-- whatever leads to a target leaves all directories that are not shared -/
theorem Climbs.le_depth {directory down target : List String} {depth : Nat} (h : Climbs directory depth down target) :
    1 + (directory.length - sharedLength directory target) ≤ depth := by
  obtain ⟨hone, hle, htarget⟩ := h
  have hstart : directory.take (directory.length - (depth - 1)) <+: target := ⟨down, htarget⟩
  have hshared := le_sharedLength (Nat.sub_le _ _) hstart
  omega

/-- **A relative path climbs no more than it must.** It consists of dots and of segments with dots between them, and
these lead from the directory of the file to the target; no smaller number of dots does, whatever segments follow. -/
theorem relativeModule_climbs_least (file module : String) :
    let directory := directoryOf file
    let target := Text.segments '.' module
    let depth := relativeDepth (relativeModule file module)
    (∃ suffix : String, relativeModule file module = dots depth ++ suffix ∧
        Text.join "." (Text.segments '.' suffix) = suffix ∧
        Climbs directory depth (Text.segments '.' suffix) target) ∧
      IsLeast {k | ∃ down, Climbs directory k down target} depth := by
  intro directory target depth
  let shared := sharedLength directory target
  have hdepth : depth = 1 + (directory.length - shared) := relativeDepth_relativeModule file module
  have hsegments : Text.segments '.' (Text.join "." (target.drop shared)) = target.drop shared :=
    segments_join_drop module shared
  have hclimbs : Climbs directory depth (target.drop shared) target := by
    rw [hdepth]
    exact ⟨by omega, by omega, take_append_drop_sharedLength directory target⟩
  refine ⟨⟨Text.join "." (target.drop shared), ?_, ?_, ?_⟩, ⟨_, hclimbs⟩, ?_⟩
  · rw [hdepth]
    rfl
  · rw [hsegments]
  · rw [hsegments]
    exact hclimbs
  · rintro k ⟨down, hdown⟩
    calc depth
      _ = 1 + (directory.length - shared) := hdepth
      _ ≤ k := hdown.le_depth

end ClientPlan
