import Mathlib.Data.List.Nodup
import Mathlib.Data.List.Sort
import NamingLint.Filter
import NamingLint.Proofs.FileTree.Rearranged
import NamingLint.Proofs.Order.Ascending

/-!
# Walks

A walk from a path offers the source files below it to a filter, each on its own.
`find_files_below` says what comes out: the files that the filter lets pass, once each and in
ascending order, whatever the order in which the directories list their entries. The walk passes
over directories that cannot be listed without a word, and misses what is below them.
-/

namespace NamingLint

open NamingLint.Order (upTo)

/-- No path comes before and behind another one. -/
instance Path.asymm_before : Std.Asymm Path.Before where
  asymm left right h hback := by
    rw [← Path.compare_lt_iff] at h hback
    have hswap : Path.compare left right = (Path.compare right left).swap :=
      Std.OrientedCmp.eq_swap
    rw [h, hback] at hswap
    cases hswap

namespace PathFilter

theorem to_option_eq_some_iff {α β : Type} {result : Except α β} {value : β} :
    result.toOption = some value ↔ result = .ok value := by
  cases result <;> simp [Except.toOption]

section

variable {filter : PathFilter} {tree other : FileTree} {root path : Path} {paths kept : List Path}

/-! ## Filtering -/

/-- The filter lets a path pass. -/
def passes (filter : PathFilter) (tree : FileTree) (path : Path) : Bool :=
  match (filter.shouldAnalyze tree path).result with
  | .ok verdict => verdict
  | .error _ => false

theorem passes_iff : filter.passes tree path = true ↔
    (filter.shouldAnalyze tree path).result = .ok true := by
  unfold passes
  cases (filter.shouldAnalyze tree path).result <;> simp

theorem result_eq_passes {verdict : Bool}
    (h : (filter.shouldAnalyze tree path).result = .ok verdict) :
    (filter.shouldAnalyze tree path).result = .ok (filter.passes tree path) := by
  rw [passes, h]

/-- If the filter decides about all paths, those that pass are left. -/
theorem filter_paths_ok
    (h : ∀ path ∈ paths, ∃ verdict, (filter.shouldAnalyze tree path).result = .ok verdict) :
    (filter.filterPaths tree paths).result = .ok (paths.filter (filter.passes tree)) := by
  induction paths with
  | nil => rfl
  | cons first paths ih =>
      obtain ⟨⟨verdict, hfirst⟩, hpaths⟩ := List.forall_mem_cons.1 h
      rw [filterPaths, Journal.result_bind, result_eq_passes hfirst, Journal.ok_bind]
      cases hpasses : filter.passes tree first with
      | true =>
          rw [if_pos rfl, Journal.result_bind, ih hpaths, List.filter_cons_of_pos hpasses]
          rfl
      | false =>
          rw [if_neg Bool.false_ne_true, ih hpaths, List.filter_cons_of_neg (by simp [hpasses])]

/-- A path that the filter fails about stops the filtering. -/
theorem filter_paths_error {failure : Failure} (hpath : path ∈ paths)
    (h : (filter.shouldAnalyze tree path).result = .error failure) :
    ∃ failure, (filter.filterPaths tree paths).result = .error failure := by
  induction paths with
  | nil => cases hpath
  | cons first paths ih =>
      rw [filterPaths, Journal.result_bind]
      cases hfirst : (filter.shouldAnalyze tree first).result with
      | error failure => exact ⟨failure, rfl⟩
      | ok verdict =>
          have hrest : path ∈ paths := by
            rcases List.mem_cons.1 hpath with rfl | hrest
            · rw [h] at hfirst
              cases hfirst
            · exact hrest
          obtain ⟨failure, hfailure⟩ := ih hrest
          rw [Journal.ok_bind]
          cases verdict with
          | true => exact ⟨failure, by rw [if_pos rfl, Journal.result_bind, hfailure]; rfl⟩
          | false => exact ⟨failure, hfailure⟩

/-- A filter decides about all paths, or fails about one of them. -/
theorem decided_or_failed (filter : PathFilter) (tree : FileTree) (paths : List Path) :
    (∀ path ∈ paths, ∃ verdict, (filter.shouldAnalyze tree path).result = .ok verdict) ∨
      ∃ path ∈ paths, ∃ failure, (filter.shouldAnalyze tree path).result = .error failure := by
  refine Classical.or_iff_not_imp_right.2 fun hnone path hpath => ?_
  cases hresult : (filter.shouldAnalyze tree path).result with
  | ok verdict => exact ⟨verdict, rfl⟩
  | error failure => exact absurd ⟨path, hpath, failure, hresult⟩ hnone

/-! ## The files that a walk finds -/

/-- The source files that a walk comes by, in the order in which it does. -/
def sourcesUnder (tree : FileTree) (root : Path) : List Path :=
  (tree.filesUnder root).filter isSourceFile

theorem result_find_files : (filter.findFiles tree root).result =
    (filter.filterPaths tree (sourcesUnder tree root)).result.map fun found =>
      found.mergeSort (upTo Path.compare) := by
  rw [findFiles, Journal.result_bind]
  show ((filter.filterPaths tree (sourcesUnder tree root)).result >>= _) = _
  cases (filter.filterPaths tree (sourcesUnder tree root)).result <;> rfl

theorem find_files_ok (h : ∀ path ∈ sourcesUnder tree root,
    ∃ verdict, (filter.shouldAnalyze tree path).result = .ok verdict) :
    (filter.findFiles tree root).result =
      .ok (((sourcesUnder tree root).filter (filter.passes tree)).mergeSort
        (upTo Path.compare)) := by
  rw [result_find_files, filter_paths_ok h]
  rfl

/-- A walk fails exactly if the filter fails about one of the source files. -/
theorem find_files_error_iff : (∃ failure, (filter.findFiles tree root).result = .error failure) ↔
    ∃ path ∈ sourcesUnder tree root, ∃ failure,
      (filter.shouldAnalyze tree path).result = .error failure := by
  constructor
  · rintro ⟨failure, hfailure⟩
    refine (decided_or_failed filter tree _).resolve_left fun hdecided => ?_
    rw [find_files_ok hdecided] at hfailure
    cases hfailure
  · rintro ⟨path, hpath, failure, hfailure⟩
    obtain ⟨failed, hfailed⟩ := filter_paths_error hpath hfailure
    refine ⟨failed, ?_⟩
    rw [result_find_files, hfailed]
    rfl

theorem found_eq {found : List Path} (h : (filter.findFiles tree root).result = .ok found) :
    found = ((sourcesUnder tree root).filter (filter.passes tree)).mergeSort
      (upTo Path.compare) := by
  rcases decided_or_failed filter tree (sourcesUnder tree root) with hdecided | hfailed
  · exact Except.ok.inj (h.symm.trans (find_files_ok hdecided))
  · obtain ⟨failure, hfailure⟩ := find_files_error_iff.2 hfailed
    rw [h] at hfailure
    cases hfailure

/-- A walk finds the source files that the filter lets pass. -/
theorem mem_find_files {found : List Path}
    (h : (filter.findFiles tree root).result = .ok found) :
    path ∈ found ↔ path ∈ tree.filesUnder root ∧ isSourceFile path = true ∧
      (filter.shouldAnalyze tree path).result = .ok true := by
  rw [found_eq h, List.mem_mergeSort, List.mem_filter, sourcesUnder, List.mem_filter, passes_iff,
    and_assoc]

/-- Sorted paths none of which has the components of another one ascend strictly. -/
theorem sort_strictly (h : paths.Pairwise fun left right => left.components ≠ right.components) :
    (paths.mergeSort (upTo Path.compare)).Pairwise Path.Before := by
  have hapart : (paths.mergeSort (upTo Path.compare)).Pairwise
      fun left right => left.components ≠ right.components :=
    h.perm (List.mergeSort_perm _ _).symm Ne.symm
  have hsorted : (paths.mergeSort (upTo Path.compare)).Pairwise
      fun left right => upTo Path.compare left right = true :=
    List.pairwise_mergeSort Order.up_to_trans Order.up_to_total _
  refine (hsorted.and hapart).imp fun {left right} ⟨hle, hne⟩ => ?_
  rw [← Path.compare_lt_iff]
  rw [upTo, bne_iff_ne] at hle
  rw [ne_eq, ← Path.compare_eq_iff] at hne
  cases hcompare : Path.compare left right with
  | lt => rfl
  | eq => exact absurd hcompare hne
  | gt => exact absurd hcompare hle

/-! ## Trees with their entries in another order -/

theorem decide_by_files_rearranged {name : String} {directories : List Path} {included : Bool}
    (h : tree.Likewise other) : decideByFiles other name path directories included =
      decideByFiles tree name path directories included := by
  induction directories generalizing included with
  | nil => rfl
  | cons directory directories ih =>
      simp only [decideByFiles, loadIgnoreFile, FileTree.is_file_rearranged h,
        FileTree.read_text_rearranged h, ih]

theorem should_analyze_rearranged (h : tree.Likewise other) :
    filter.shouldAnalyze other path = filter.shouldAnalyze tree path := by
  unfold shouldAnalyze
  simp only [decide_by_files_rearranged h]

end

/-- A source file that a walk from a path comes by. -/
structure IsCandidate (tree : FileTree) (root path : Path) : Prop where
  listed : tree.IsListed root path
  source : path.extension? = some "rs"

theorem mem_sources_under {tree : FileTree} {root path : Path} (h : tree.WellNamed) :
    path ∈ sourcesUnder tree root ↔ IsCandidate tree root path := by
  rw [sourcesUnder, List.mem_filter, FileTree.mem_files_under h, isSourceFile,
    decide_eq_true_iff]
  exact ⟨fun ⟨hlisted, hsource⟩ => ⟨hlisted, hsource⟩, fun ⟨hlisted, hsource⟩ => ⟨hlisted, hsource⟩⟩

/-- If all directories below a path can be listed, a walk comes by all source files there. -/
theorem is_candidate_iff {tree : FileTree} {root path : Path} (h : tree.ListsAll root) :
    IsCandidate tree root path ↔ tree.IsBelow root path ∧ path.extension? = some "rs" := by
  rw [← FileTree.is_listed_iff h]
  exact ⟨fun ⟨hlisted, hsource⟩ => ⟨hlisted, hsource⟩, fun ⟨hlisted, hsource⟩ => ⟨hlisted, hsource⟩⟩

section

variable {filter : PathFilter} {tree other : FileTree} {root : Path} {found again : List Path}

theorem is_candidate_rearranged {path : Path} (h : tree.Likewise other) :
    IsCandidate other root path ↔ IsCandidate tree root path :=
  ⟨fun ⟨hlisted, hsource⟩ => ⟨(FileTree.is_listed_rearranged h).1 hlisted, hsource⟩,
    fun ⟨hlisted, hsource⟩ => ⟨(FileTree.is_listed_rearranged h).2 hlisted, hsource⟩⟩

theorem mem_found_iff {path : Path} (h : tree.WellNamed)
    (hfound : (filter.findFiles tree root).result = .ok found) :
    path ∈ found ↔
      IsCandidate tree root path ∧ (filter.shouldAnalyze tree path).result = .ok true := by
  rw [mem_find_files hfound, ← mem_sources_under h, sourcesUnder, List.mem_filter, and_assoc]

/-- What a walk finds ascends strictly. -/
theorem found_ascending (h : tree.WellNamed)
    (hfound : (filter.findFiles tree root).result = .ok found) : found.Pairwise Path.Before := by
  have hapart : (sourcesUnder tree root).Pairwise
      fun left right => left.components ≠ right.components :=
    (FileTree.files_under_apart h).filter _
  rw [found_eq hfound]
  exact sort_strictly (hapart.filter _)

/-- Walks through trees that differ in the order of the entries find the same. -/
theorem found_eq_of_rearranged (h : tree.Likewise other)
    (hfound : (filter.findFiles tree root).result = .ok found)
    (hagain : (filter.findFiles other root).result = .ok again) : again = found := by
  have hnamed := h.root.named
  have hother := h.root.symm.named
  refine (found_ascending hother hagain).eq_of_mem_iff (found_ascending hnamed hfound)
    fun path => ?_
  rw [mem_found_iff hother hagain, mem_found_iff hnamed hfound, is_candidate_rearranged h,
    should_analyze_rearranged h]

end

/-- If the filter decides about all source files that a walk from a path comes by, the walk finds
those of them that the filter lets pass, in strictly ascending order; if it fails about one of them,
the walk fails. What is found does not depend on the order of the entries in the directories. If all
directories below the path can be listed, the walk comes by all source files there. -/
theorem find_files_below (filter : PathFilter) {tree : FileTree} (h : tree.WellNamed)
    (root : Path) :
    ((∀ path, IsCandidate tree root path →
        ∃ verdict, (filter.shouldAnalyze tree path).result = .ok verdict) →
      ∃ found, (filter.findFiles tree root).result = .ok found ∧
        found.Pairwise Path.Before ∧ found.Nodup ∧
        ∀ path, path ∈ found ↔
          IsCandidate tree root path ∧ (filter.shouldAnalyze tree path).result = .ok true) ∧
    ((∃ failure, (filter.findFiles tree root).result = .error failure) ↔
      ∃ path, IsCandidate tree root path ∧
        ∃ failure, (filter.shouldAnalyze tree path).result = .error failure) ∧
    (∀ other, tree.Rearranged other →
      (filter.findFiles other root).result.toOption =
        (filter.findFiles tree root).result.toOption) ∧
    (tree.ListsAll root → ∀ path,
      IsCandidate tree root path ↔ tree.IsBelow root path ∧ path.extension? = some "rs") := by
  have hfailed {tree : FileTree} (h : tree.WellNamed) :
      (∃ failure, (filter.findFiles tree root).result = .error failure) ↔
        ∃ path, IsCandidate tree root path ∧
          ∃ failure, (filter.shouldAnalyze tree path).result = .error failure := by
    rw [find_files_error_iff]
    exact exists_congr fun path => and_congr_left' (mem_sources_under h)
  refine ⟨fun hdecided => ?_, hfailed h, fun other hother => ?_, fun hall _ => is_candidate_iff hall⟩
  · have hfound := find_files_ok fun path hpath => hdecided path ((mem_sources_under h).1 hpath)
    have hascending := found_ascending h hfound
    exact ⟨_, hfound, hascending, hascending.imp fun hbefore => ne_of_irrefl hbefore,
      fun path => mem_found_iff h hfound⟩
  · have hlike : tree.Likewise other := FileTree.likewise_of_rearranged hother h
    have hsame : (∃ failure, (filter.findFiles other root).result = .error failure) ↔
        ∃ failure, (filter.findFiles tree root).result = .error failure := by
      rw [hfailed h, hfailed hlike.root.symm.named]
      simp only [is_candidate_rearranged hlike, should_analyze_rearranged hlike]
    cases hfound : (filter.findFiles tree root).result with
    | error failure =>
        obtain ⟨failed, hagain⟩ := hsame.2 ⟨failure, hfound⟩
        rw [hagain]
        rfl
    | ok found =>
        cases hagain : (filter.findFiles other root).result with
        | error failure =>
            obtain ⟨failed, hfailed⟩ := hsame.1 ⟨failure, hagain⟩
            rw [hfound] at hfailed
            cases hfailed
        | ok again => rw [found_eq_of_rearranged hlike hfound hagain]

/-! ## A directory that lists its entries backwards -/

/-- A source file without any text. -/
def emptyFile : FileEntry := .ofText ""

/-- The entries of a directory, from the last to the first. -/
def backwards : List (String × FileEntry) :=
  [("c.rs", .link "a.rs"), ("b.rs", emptyFile), ("a.rs", emptyFile), ("a.md", emptyFile)]

/-- A tree with a single directory, which holds these entries. -/
def treeOf (access : Access) (entries : List (String × FileEntry)) : FileTree :=
  .ofEntries [("src", .directory access entries)]

theorem tree_of_well_named {access : Access} {entries : List (String × FileEntry)}
    (hnodup : (entries.map Prod.fst).Nodup) (hnames : ∀ item ∈ entries, Path.IsName item.1.toList)
    (hitems : ∀ item ∈ entries, item.2.WellNamed) : (treeOf access entries).WellNamed := by
  have hname : Path.IsName "src".toList := by decide
  exact .directory (List.nodup_singleton _) (List.forall_mem_singleton.2 hname)
    (List.forall_mem_singleton.2 (.directory hnodup hnames hitems))

theorem backwards_well_named : (treeOf .full backwards).WellNamed := by
  refine tree_of_well_named (by decide) (by decide) ?_
  simp only [backwards, List.forall_mem_cons, List.not_mem_nil, false_implies, implies_true,
    and_true]
  exact ⟨.link _, .file _, .file _, .file _⟩

theorem backwards_rearranged :
    (treeOf .full backwards).Rearranged (treeOf .full backwards.reverse) := by
  refine ⟨.directory (fun _ => .directory .full backwards.reverse) (.refl _) ?_, rfl⟩
  simp only [List.mem_singleton, forall_eq]
  refine .directory Prod.snd (List.reverse_perm _) ?_
  simp only [backwards, List.forall_mem_cons, List.not_mem_nil, false_implies, implies_true,
    and_true]
  exact ⟨.link _, .file _, .file _, .file _⟩

theorem resolve_tree_of {access : Access} {entries : List (String × FileEntry)}
    {followLast : Bool} :
    (treeOf access entries).resolve ⟨"src"⟩ followLast = .ok (.directory access entries) :=
  FileTree.resolve_name (by decide) rfl nofun

/-- A directory that holds no others can be listed as a whole if it can be listed. -/
theorem lists_all_tree_of {entries : List (String × FileEntry)}
    (h : ∀ item ∈ entries, ∀ access inner, item.2 ≠ .directory access inner) :
    (treeOf .full entries).ListsAll ⟨"src"⟩ := by
  rintro start names access inner hstart hleads
  obtain rfl : start = .directory .full entries := by
    cases hstart with
    | entry hresolve _ => exact Except.ok.inj (hresolve.symm.trans resolve_tree_of)
    | linked hlink _ => cases hlink.symm.trans resolve_tree_of
  cases hleads with
  | here => exact FileTree.can_list_eq resolve_tree_of
  | within hitem hleads =>
      cases hleads with
      | here => exact absurd rfl (h _ hitem _ _)
      | within _ _ => exact absurd rfl (h _ hitem _ _)

theorem backwards_listed : (treeOf .full backwards).ListsAll ⟨"src"⟩ := by
  refine lists_all_tree_of ?_
  simp [backwards, emptyFile, FileEntry.ofText]

theorem sources_backwards :
    sourcesUnder (treeOf .full backwards) ⟨"src"⟩ = [⟨"src/b.rs"⟩, ⟨"src/a.rs"⟩] := by
  have hjoin {name : String} (h : Path.IsName name.toList) :
      (⟨"src"⟩ : Path).join ⟨name⟩ = ⟨"src" ++ "/" ++ name⟩ :=
    Path.join_name h (by decide) (by decide)
  rw [sourcesUnder, FileTree.files_under_listed rfl fun _ => resolve_tree_of]
  show [(⟨"src"⟩ : Path).join ⟨"b.rs"⟩, (⟨"src"⟩ : Path).join ⟨"a.rs"⟩,
    (⟨"src"⟩ : Path).join ⟨"a.md"⟩].filter isSourceFile = _
  rw [hjoin (by decide), hjoin (by decide), hjoin (by decide)]
  decide

theorem backwards_walked : ∃ found,
    ((⟨[], none⟩ : PathFilter).findFiles (treeOf .full backwards) ⟨"src"⟩).result = .ok found ∧
      ((⟨[], none⟩ : PathFilter).findFiles (treeOf .full backwards.reverse) ⟨"src"⟩).result =
        .ok found ∧
      found.Pairwise Path.Before ∧
      ⟨"src/a.rs"⟩ ∈ found ∧ ⟨"src/b.rs"⟩ ∈ found ∧ ⟨"src/a.md"⟩ ∉ found ∧
      ⟨"src/c.rs"⟩ ∉ found ∧
      ∀ path, path ∈ found ↔
        (treeOf .full backwards).IsBelow ⟨"src"⟩ path ∧ path.extension? = some "rs" := by
  have hpasses (path : Path) :
      ((⟨[], none⟩ : PathFilter).shouldAnalyze (treeOf .full backwards) path).result = .ok true :=
    rfl
  obtain ⟨hdecided, _, horder, hall⟩ := find_files_below ⟨[], none⟩ backwards_well_named ⟨"src"⟩
  obtain ⟨found, hfound, hascending, _, hmem⟩ := hdecided fun path _ => ⟨true, hpasses path⟩
  have hagain := horder _ backwards_rearranged
  rw [hfound] at hagain
  simp only [hpasses, and_true] at hmem
  have hbelow (path : Path) := (hmem path).trans (hall backwards_listed path)
  simp only [← mem_sources_under backwards_well_named, sources_backwards] at hmem
  refine ⟨found, hfound, to_option_eq_some_iff.1 hagain, hascending, ?_, ?_, ?_, ?_, hbelow⟩
  all_goals
    rw [hmem]
    decide

/-! ## Directories that cannot be listed -/

/-- A walk from a path misses a source file below it, although the filter lets all paths pass. -/
structure Misses (filter : PathFilter) (tree : FileTree) (root path : Path) : Prop where
  named : tree.WellNamed
  below : tree.IsBelow root path
  source : path.extension? = some "rs"
  passes : ∀ other, (filter.shouldAnalyze tree other).result = .ok true
  missed : ∃ found, (filter.findFiles tree root).result = .ok found ∧ path ∉ found

/-- A directory with a single source file. -/
def single (access : Access) : FileTree := treeOf access [("a.rs", emptyFile)]

/-- The text `./././.`, with a given number of separators. -/
def dots : Nat → List Char
  | 0 => ['.']
  | count + 1 => '.' :: '/' :: dots count

/-- The working directory under a long name. -/
def winding (count : Nat) : Path := ⟨String.ofList (dots count)⟩

section

open FileTree FileEntry

variable {tree : FileTree} {access : Access} {entries : List (String × FileEntry)}
variable {outer : List FileEntry} {root : Path} {name : String} {count : Nat} {followLast : Bool}

theorem segments_of_dots : segmentsOf (dots count) = List.replicate (count + 1) ['.'] := by
  induction count with
  | zero => rfl
  | succ count ih =>
      show ['.'] :: segmentsOf (dots count) = _
      rw [ih]
      rfl

theorem byte_length_dots : byteLength (dots count) = 2 * count + 1 := by
  induction count with
  | zero => rfl
  | succ count ih =>
      have hfirst : byteLength ['.', '/'] = 2 := rfl
      show byteLength (['.', '/'] ++ dots count) = _
      rw [byte_length_append, ih, hfirst]
      omega

theorem mem_dots {c : Char} (h : c ∈ dots count) : c = '.' ∨ c = '/' := by
  induction count with
  | zero => exact .inl (List.mem_singleton.1 h)
  | succ count ih =>
      rcases List.mem_cons.1 h with rfl | h
      · exact .inl rfl
      rcases List.mem_cons.1 h with rfl | h
      · exact .inr rfl
      · exact ih h

theorem dots_nonempty : dots count ≠ [] := by
  cases count <;> simp [dots]

theorem dots_first : (dots count).head? = some '.' := by
  cases count <;> rfl

theorem dots_last : (dots count).getLast? = some '.' := by
  induction count with
  | zero => rfl
  | succ count ih =>
      rw [dots, List.getLast?_cons_cons, List.getLast?_cons, ih]
      rfl

theorem follow_dots {base : FileEntry} {links : Nat} (hpass : access.pass = true) :
    follow base followLast links (directory access entries) outer (List.replicate count ['.']) =
      .ok (directory access entries) := by
  induction count with
  | zero => rw [List.replicate_zero, follow]
  | succ count ih =>
      rw [List.replicate_succ, follow]
      simp [hpass, ih]

theorem resolve_winding (h : 2 * count + 1 ≤ longestPath) :
    (ofEntries entries).resolve (winding count) followLast = .ok (directory .full entries) := by
  have hrelative : IsRelative (String.ofList (dots count)) := by
    rw [IsRelative, String.toList_ofList, dots_first, byte_length_dots]
    exact ⟨dots_nonempty, by decide, fun hnul => absurd (mem_dots hnul) (by decide), h⟩
  rw [winding, resolve_relative hrelative, String.toList_ofList, segments_of_dots]
  exact follow_dots rfl

theorem join_winding (h : Path.IsName name.toList) :
    ((winding count).join ⟨name⟩).text.toList = dots count ++ '/' :: name.toList := by
  have hlast : (String.ofList (dots count)).toList.getLast? ≠ some '/' := by
    rw [String.toList_ofList, dots_last]
    decide
  rw [winding, Path.join_name h (by simpa using dots_nonempty) hlast]
  simp

/-- The working directory may be spelled too long for a directory in it to be listed. -/
theorem can_list_winding (h : Path.IsName name.toList)
    (hlong : longestPath < 2 * count + 2 + byteLength name.toList) :
    tree.canList ((winding count).join ⟨name⟩) = false := by
  have hbytes : byteLength ('/' :: name.toList) = 1 + byteLength name.toList :=
    byte_length_append ['/'] name.toList
  refine can_list_of_long ?_
  rw [join_winding h, byte_length_append, byte_length_dots, hbytes]
  omega

/-- The file in the single directory is missed if that directory cannot be listed. -/
theorem single_missed (hstart : (single access).resolve root false = .ok (single access).root)
    (hclosed : (single access).canList (root.join ⟨"src"⟩) = false) :
    Misses ⟨[], none⟩ (single access) root (descend root ["src", "a.rs"]) where
  named := tree_of_well_named (List.nodup_singleton _)
    (List.forall_mem_singleton.2 (by decide)) (List.forall_mem_singleton.2 (.file _))
  below := ⟨_, _, _, .entry hstart nofun,
    .within List.mem_cons_self (.within List.mem_cons_self .here), rfl⟩
  source := by
    have hname : (descend root ["src", "a.rs"]).fileName = some "a.rs" :=
      Path.file_name_join (by decide)
    rw [Path.extension?, hname]
    decide
  passes _ := rfl
  missed := by
    have hinner : (single access).filesAt (root.join ⟨"src"⟩)
        (.directory access [("a.rs", emptyFile)]) = [] := by
      rw [filesAt, hclosed, if_neg Bool.false_ne_true]
    have hfiles : (single access).filesUnder root = [] := by
      rw [files_under_of_starts (.entry hstart nofun)]
      show filesAt _ _ (.directory .full [("src", .directory access _)]) = []
      rw [filesAt, filesOf, filesOf, hinner, List.append_nil, ite_self]
    refine ⟨_, find_files_ok fun path _ => ⟨true, rfl⟩, ?_⟩
    rw [List.mem_mergeSort, List.mem_filter, sourcesUnder, hfiles]
    exact fun h => List.not_mem_nil h.1

end

/-- A walk misses the files below a directory that must not be listed, and those below one whose
path is too long for that. -/
theorem unlisted_missed :
    Misses ⟨[], none⟩ (single ⟨false, true⟩) ⟨"."⟩ ⟨"./src/a.rs"⟩ ∧
    Misses ⟨[], none⟩ (single .full) (winding 2046)
      (FileTree.descend (winding 2046) ["src", "a.rs"]) := by
  have hinner : (⟨"."⟩ : Path).join ⟨"src"⟩ = (⟨"src"⟩ : Path).dotted :=
    Path.join_name (by decide) (by decide) (by decide)
  have hpath : FileTree.descend ⟨"."⟩ ["src", "a.rs"] = ⟨"./src/a.rs"⟩ := by
    rw [FileTree.descend_cons, hinner]
    exact Path.join_name (by decide) (by decide) (by decide)
  have hclosed : (single ⟨false, true⟩).canList (⟨"src"⟩ : Path).dotted = false :=
    FileTree.can_list_eq ((FileTree.resolve_dotted (by decide) (by decide) (by decide)).trans
      resolve_tree_of)
  constructor
  · rw [← hpath]
    exact single_missed (@resolve_winding _ 0 _ (by decide)) (hinner ▸ hclosed)
  · exact single_missed (resolve_winding (by decide)) (can_list_winding (by decide) (by decide))

end PathFilter

end NamingLint
