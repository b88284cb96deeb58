import NamingLint.Proofs.Order.Diagnostic
import NamingLint.Report.Human

/-!
# Diagnostics in groups by file

Groups are kept in ascending order while diagnostics are put into them one by one. `Grouped` says
what groups of a list of diagnostics are, and `grouped_by_file` that the groups of a report are such
groups. `entries_eq_merge_sort` says in which order all entries appear: it is that of the
diagnostics, sorted by nothing but their files.
-/

namespace NamingLint.Report

open NamingLint.Order
open Std (OrientedCmp ReflCmp TransCmp)

/-- Diagnostics are compared by their files. -/
def compareFiles (left right : Diagnostic) : Ordering :=
  Path.compare left.file right.file

instance trans_compare_files : TransCmp compareFiles :=
  trans_on inferInstance Diagnostic.file

/-- All diagnostics in groups, one group after the other. -/
def entries (groups : List (Path × List Diagnostic)) : List Diagnostic :=
  groups.flatMap Prod.snd

/-- Groups in ascending order, each under the file of its first diagnostic and with diagnostics of
that file only. -/
structure Headed (groups : List (Path × List Diagnostic)) : Prop where
  ascending : groups.Pairwise fun left right => Path.compare left.1 right.1 = .lt
  first : ∀ group ∈ groups, group.2.head?.map Diagnostic.file = some group.1
  alike : ∀ group ∈ groups, ∀ diagnostic ∈ group.2, Path.compare diagnostic.file group.1 = .eq

variable {groups : List (Path × List Diagnostic)} {group : Path × List Diagnostic}
  {diagnostic element : Diagnostic} {file : Path}

/-! ## Putting a diagnostic into its group -/

theorem file_of_mem_add (h : group ∈ addToGroup diagnostic groups) :
    group.1 = diagnostic.file ∨ ∃ old ∈ groups, group.1 = old.1 := by
  induction groups with
  | nil =>
      obtain rfl := List.mem_singleton.1 h
      exact .inl rfl
  | cons first groups ih =>
      obtain ⟨file, members⟩ := first
      unfold addToGroup at h
      split at h
      · rcases List.mem_cons.1 h with rfl | hold
        · exact .inl rfl
        · exact .inr ⟨group, hold, rfl⟩
      · rcases List.mem_cons.1 h with rfl | hold
        · exact .inr ⟨(file, members), List.mem_cons_self, rfl⟩
        · exact .inr ⟨group, List.mem_cons_of_mem _ hold, rfl⟩
      · rcases List.mem_cons.1 h with rfl | hadded
        · exact .inr ⟨(file, members), List.mem_cons_self, rfl⟩
        · rcases ih hadded with hfile | ⟨old, hold, hfile⟩
          · exact .inl hfile
          · exact .inr ⟨old, List.mem_cons_of_mem _ hold, hfile⟩

theorem headed_cons_iff : Headed (group :: groups) ↔
    (∀ other ∈ groups, Path.compare group.1 other.1 = .lt) ∧
      group.2.head?.map Diagnostic.file = some group.1 ∧
      (∀ diagnostic ∈ group.2, Path.compare diagnostic.file group.1 = .eq) ∧ Headed groups := by
  constructor
  · rintro ⟨hascending, hfirst, halike⟩
    rw [List.pairwise_cons] at hascending
    rw [List.forall_mem_cons] at hfirst halike
    exact ⟨hascending.1, hfirst.1, halike.1, ⟨hascending.2, hfirst.2, halike.2⟩⟩
  · rintro ⟨hlt, hgroup, hsame, hascending, hfirst, halike⟩
    exact ⟨List.pairwise_cons.2 ⟨hlt, hascending⟩, List.forall_mem_cons.2 ⟨hgroup, hfirst⟩,
      List.forall_mem_cons.2 ⟨hsame, halike⟩⟩

theorem headed_nil : Headed [] :=
  ⟨.nil, fun _ h => absurd h List.not_mem_nil, fun _ h => absurd h List.not_mem_nil⟩

/-- A diagnostic that is put into its group leaves the groups in order. -/
theorem Headed.add (h : Headed groups) (diagnostic : Diagnostic) :
    Headed (addToGroup diagnostic groups) := by
  have hself : Path.compare diagnostic.file diagnostic.file = .eq := ReflCmp.compare_self
  have hnew (other : Diagnostic) (hother : other ∈ [diagnostic]) :
      Path.compare other.file diagnostic.file = .eq := by
    obtain rfl := List.mem_singleton.1 hother
    exact hself
  induction groups with
  | nil =>
      exact headed_cons_iff.2
        ⟨fun _ h => absurd h List.not_mem_nil, rfl, hnew, headed_nil⟩
  | cons first groups ih =>
      obtain ⟨file, members⟩ := first
      obtain ⟨hlt, hfirst, hsame, hrest⟩ := headed_cons_iff.1 h
      unfold addToGroup
      split
      · next hbefore =>
          refine headed_cons_iff.2 ⟨fun other hother => ?_, rfl, hnew, h⟩
          rcases List.mem_cons.1 hother with rfl | hother
          · exact hbefore
          · exact TransCmp.lt_trans hbefore (hlt other hother)
      · next heq =>
          have hhead : (members ++ [diagnostic]).head?.map Diagnostic.file = some file := by
            cases members with
            | nil => cases hfirst
            | cons => exact hfirst
          refine headed_cons_iff.2 ⟨hlt, hhead, fun other hother => ?_, hrest⟩
          rcases List.mem_append.1 hother with hother | hadded
          · exact hsame other hother
          · obtain rfl := List.mem_singleton.1 hadded
            exact heq
      · next hgt =>
          refine headed_cons_iff.2 ⟨fun other hother => ?_, hfirst, hsame, ih hrest⟩
          rcases file_of_mem_add hother with hfile | ⟨old, hold, hfile⟩
          · rw [hfile]
            exact OrientedCmp.lt_of_gt hgt
          · rw [hfile]
            exact hlt old hold

/-- No group behind a file has diagnostics of that file. -/
theorem Headed.none_of_lt (h : Headed groups)
    (hfile : ∀ group ∈ groups, Path.compare file group.1 = .lt)
    (helement : Path.compare element.file file = .eq) :
    (entries groups).filter (ties compareFiles element) = [] := by
  refine List.filter_eq_nil_iff.2 fun diagnostic hdiagnostic htie => ?_
  obtain ⟨group, hgroup, hmember⟩ := List.mem_flatMap.1 hdiagnostic
  have hsame : Path.compare element.file diagnostic.file = .eq := ties_iff.1 htie
  have hgroupFile : Path.compare element.file group.1 = .eq :=
    TransCmp.eq_trans hsame (h.alike group hgroup diagnostic hmember)
  have hlt : Path.compare element.file group.1 = .lt :=
    TransCmp.lt_of_eq_of_lt helement (hfile group hgroup)
  rw [hgroupFile] at hlt
  cases hlt

/-- A diagnostic comes behind those of its file and leaves those of other files as they are. -/
theorem Headed.entries_add (h : Headed groups) (diagnostic element : Diagnostic) :
    (entries (addToGroup diagnostic groups)).filter (ties compareFiles element) =
      (entries groups ++ [diagnostic]).filter (ties compareFiles element) := by
  induction groups with
  | nil => rfl
  | cons first groups ih =>
      obtain ⟨file, members⟩ := first
      obtain ⟨hfirst, -, hsame, hrest⟩ := headed_cons_iff.1 h
      -- Where the diagnostic is put in front of others, it is not of their files.
      have hbehind (behind : List (Path × List Diagnostic)) (hheaded : Headed behind)
          (hfile : ∀ group ∈ behind, Path.compare diagnostic.file group.1 = .lt) :
          ([diagnostic] ++ entries behind).filter (ties compareFiles element) =
            (entries behind ++ [diagnostic]).filter (ties compareFiles element) := by
        by_cases htie : ties compareFiles element diagnostic = true
        · rw [List.filter_append, List.filter_append, hheaded.none_of_lt hfile (ties_iff.1 htie),
            List.append_nil, List.nil_append]
        · simp [htie]
      unfold addToGroup
      split
      · next hlt =>
          refine hbehind _ h fun other hother => ?_
          rcases List.mem_cons.1 hother with rfl | hother
          · exact hlt
          · exact TransCmp.lt_trans hlt (hfirst other hother)
      · next heq =>
          have hmoved := hbehind groups hrest fun other hother =>
            TransCmp.lt_of_eq_of_lt heq (hfirst other hother)
          simpa [entries] using hmoved
      · simpa [entries] using ih hrest

/-! ## Putting all diagnostics into groups -/

theorem Headed.add_all (h : Headed groups) (diagnostics : List Diagnostic) :
    Headed (diagnostics.foldl (fun groups diagnostic => addToGroup diagnostic groups) groups) ∧
      ∀ element, (entries (diagnostics.foldl (fun groups diagnostic =>
          addToGroup diagnostic groups) groups)).filter (ties compareFiles element) =
        (entries groups ++ diagnostics).filter (ties compareFiles element) := by
  induction diagnostics generalizing groups with
  | nil => exact ⟨h, fun element => by rw [List.foldl_nil, List.append_nil]⟩
  | cons diagnostic diagnostics ih =>
      obtain ⟨hheaded, hentries⟩ := ih (h.add diagnostic)
      refine ⟨hheaded, fun element => (hentries element).trans ?_⟩
      rw [List.filter_append, h.entries_add, ← List.filter_append, List.append_assoc,
        List.singleton_append]

theorem headed_by_file (diagnostics : List Diagnostic) : Headed (groupByFile diagnostics) :=
  (headed_nil.add_all diagnostics).1

theorem filter_entries (diagnostics : List Diagnostic) (element : Diagnostic) :
    (entries (groupByFile diagnostics)).filter (ties compareFiles element) =
      diagnostics.filter (ties compareFiles element) :=
  (headed_nil.add_all diagnostics).2 element

/-! ## Each group and all of them -/

/-- Entries ascend by file from group to group. -/
theorem Headed.entries_ascending (h : Headed groups) :
    (entries groups).Pairwise fun left right => upTo compareFiles left right = true := by
  refine List.pairwise_flatMap.2 ⟨fun group hgroup => ?_, ?_⟩
  · refine List.pairwise_of_forall_mem_list fun left hleft right hright => ?_
    have hsame : Path.compare left.file right.file = .eq :=
      TransCmp.eq_trans (h.alike group hgroup left hleft)
        (OrientedCmp.eq_symm (h.alike group hgroup right hright))
    simp [upTo, compareFiles, hsame]
  · refine h.ascending.imp_of_mem fun hone htwo hlt left hleft right hright => ?_
    have hnext : Path.compare left.file right.file = .lt :=
      TransCmp.lt_of_eq_of_lt (h.alike _ hone left hleft)
        (TransCmp.lt_of_lt_of_eq hlt (OrientedCmp.eq_symm (h.alike _ htwo right hright)))
    simp [upTo, compareFiles, hnext]

/-- The groups hold the diagnostics in the order of their files; those of a file stay in theirs. -/
theorem entries_eq_merge_sort (diagnostics : List Diagnostic) :
    entries (groupByFile diagnostics) = diagnostics.mergeSort (upTo compareFiles) := by
  -- Both lists ascend, and each has the diagnostics of a file in the order of the report.
  refine eq_of_filter_eq (headed_by_file diagnostics).entries_ascending
    (List.pairwise_mergeSort up_to_trans up_to_total _) fun element => ?_
  rw [filter_entries, filter_merge_sort]

/-- Of all entries, those of a file are the ones in its group. -/
theorem Headed.filter_eq_group (h : Headed groups) (hgroup : group ∈ groups)
    (hfile : element.file = group.1) :
    (entries groups).filter (ties compareFiles element) = group.2 := by
  induction groups with
  | nil => cases hgroup
  | cons first groups ih =>
      obtain ⟨hlt, -, hsame, hrest⟩ := headed_cons_iff.1 h
      -- Only one of the two parts, the first group and those behind it, has the file.
      rw [entries, List.flatMap_cons, List.filter_append]
      rcases List.mem_cons.1 hgroup with rfl | hgroup
      · have hall : group.2.filter (ties compareFiles element) = group.2 := by
          refine List.filter_eq_self.2 fun diagnostic hdiagnostic => ties_iff.2 ?_
          rw [compareFiles, hfile]
          exact OrientedCmp.eq_symm (hsame diagnostic hdiagnostic)
        have hself : Path.compare element.file group.1 = .eq := by
          rw [hfile]
          exact ReflCmp.compare_self
        have hnone := hrest.none_of_lt hlt hself
        rw [hall, ← entries, hnone, List.append_nil]
      · have hnone : first.2.filter (ties compareFiles element) = [] := by
          refine List.filter_eq_nil_iff.2 fun diagnostic hdiagnostic htie => ?_
          have heq : Path.compare first.1 group.1 = .eq :=
            TransCmp.eq_trans (OrientedCmp.eq_symm (hsame diagnostic hdiagnostic))
              (OrientedCmp.eq_symm (hfile ▸ ties_iff.1 htie))
          rw [hlt group hgroup] at heq
          cases heq
        rw [hnone, List.nil_append]
        exact ih hrest hgroup

/-- Each group holds all diagnostics of its file, in their order. -/
theorem group_eq_filter {diagnostics : List Diagnostic} (h : group ∈ groupByFile diagnostics) :
    group.2 = diagnostics.filter fun diagnostic =>
      diagnostic.file.components = group.1.components := by
  have hheaded := headed_by_file diagnostics
  obtain ⟨element, -, hfile⟩ := Option.map_eq_some_iff.1 (hheaded.first group h)
  rw [← hheaded.filter_eq_group h hfile, filter_entries]
  refine List.filter_congr fun diagnostic _ => ?_
  rw [Bool.eq_iff_iff, ties_iff, compareFiles, Path.compare_eq_iff, hfile, decide_eq_true_iff]
  exact eq_comm

end NamingLint.Report
