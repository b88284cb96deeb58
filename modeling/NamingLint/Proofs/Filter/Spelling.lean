import NamingLint.Config.Basic
import NamingLint.Proofs.Filter.Cascade
import NamingLint.Proofs.Filter.Walk
import NamingLint.Proofs.Glob.Floating
import NamingLint.Proofs.Path.Dotted

/-!
# Two spellings of a path

`should_analyze_dotted` says when a filter decides alike about a relative path and the same path
with `./` in front of it. Anchored patterns are matched against the text of a path, and have to
begin with wildcards for that.
-/

namespace NamingLint

/-! ## Patterns -/

namespace FilterPattern

/-- The pattern is matched against names only, or overlooks a leading dot. -/
def floats (pattern : FilterPattern) : Bool :=
  !pattern.anchored || pattern.glob.floats

section

variable {pattern : FilterPattern} {path : Path}

theorem matches_path_dot (h : pattern.floats = true) : pattern.matchesPath ⟨"."⟩ = false := by
  unfold matchesPath
  split
  · rename_i hanchored
    rw [floats, hanchored] at h
    exact (Glob.accepts_dotted h).1
  · rfl

theorem matches_path_dotted (h : pattern.floats = true) (hpath : path.IsBare) :
    pattern.matchesPath path.dotted = pattern.matchesPath path := by
  unfold matchesPath
  split
  · rename_i hanchored
    rw [floats, hanchored] at h
    rw [Path.dotted_to_list, (Glob.accepts_dotted h).2]
  · rw [Path.file_name_dotted hpath]

theorem applies_to_dotted (h : pattern.floats = true) (hpath : path.IsBare) :
    pattern.appliesTo path.dotted = pattern.appliesTo path := by
  unfold appliesTo
  split
  · -- Of the empty directory and the dot, the former is left out and the latter does not match.
    have hdotted : (path.dotted.parents.filter fun directory => !directory.text.isEmpty) =
        path.above.map Path.dotted ++ [⟨"."⟩] := by
      have habove : ∀ directory ∈ path.above.map Path.dotted,
          (!directory.text.isEmpty) = true := by
        intro directory hdirectory
        obtain ⟨inner, _, rfl⟩ := List.mem_map.1 hdirectory
        simp [Path.dotted]
      rw [Path.parents_dotted hpath, List.filter_append, List.filter_eq_self.2 habove]
      rfl
    have hplain : (path.parents.filter fun directory => !directory.text.isEmpty) = path.above := by
      have habove : ∀ directory ∈ path.above, (!directory.text.isEmpty) = true := by
        intro directory hdirectory
        simpa using (hpath.above hdirectory).nonempty
      rw [Path.parents_eq hpath, List.filter_append, List.filter_eq_self.2 habove]
      exact List.append_nil _
    rw [hdotted, hplain, List.any_append, List.any_map, List.any_cons, List.any_nil, Bool.or_false,
      matches_path_dot h, Bool.or_false]
    rw [Bool.eq_iff_iff, List.any_eq_true, List.any_eq_true]
    exact exists_congr fun directory => and_congr_right fun hdirectory => by
      rw [Function.comp_apply, matches_path_dotted h (hpath.above hdirectory)]
  · exact matches_path_dotted h hpath

/-- Patterns that overlook a leading dot decide alike about both spellings. -/
theorem decide_dotted {patterns : List FilterPattern} {otherwise : Bool}
    (h : ∀ pattern ∈ patterns, pattern.floats = true) (hpath : path.IsBare) :
    decide patterns path.dotted otherwise = decide patterns path otherwise := by
  unfold decide
  rw [List.filter_congr fun pattern hpattern => applies_to_dotted (h pattern hpattern) hpath]

end

end FilterPattern

/-! ## Ignore files -/

namespace Path

variable {directory name : Path}

theorem join_dot (h : name.text.startsWith "/" = false) :
    (⟨"."⟩ : Path).join name = name.dotted := by
  have hends : (⟨"."⟩ : Path).text.endsWith "/" = false := by
    rw [Bool.eq_false_iff, ne_eq, ends_with_separator_iff]
    decide
  rw [join_relative h (by decide), hends, if_neg Bool.false_ne_true]
  rfl

theorem join_dotted (h : name.text.startsWith "/" = false)
    (hdirectory : directory.text.toList ≠ []) :
    directory.dotted.join name = (directory.join name).dotted := by
  have hends : directory.dotted.text.endsWith "/" = directory.text.endsWith "/" := by
    rw [Bool.eq_iff_iff, ends_with_separator_iff, ends_with_separator_iff, dotted_to_list,
      List.suffix_cons_iff, List.suffix_cons_iff]
    simp [hdirectory]
  rw [join_relative h (by simp [dotted_to_list]), join_relative h hdirectory, hends]
  split
  · rw [dotted, dotted, String.append_assoc]
  · rw [dotted, dotted, String.append_assoc, String.append_assoc, String.append_assoc]

end Path

namespace PathFilter

open FileTree (longestPath)

variable {tree : FileTree} {name : String} {path directory file other : Path}

/-- Two paths lead to the same text, if to any, and to the same file that is no text. -/
structure SameText (tree : FileTree) (file other : Path) : Prop where
  text : (tree.readText file).toOption = (tree.readText other).toOption
  illegible : Illegible tree file ↔ Illegible tree other

theorem SameText.of_resolve (h : tree.resolve file true = tree.resolve other true) :
    SameText tree file other where
  text := by rw [FileTree.readText, FileTree.readText, h]
  illegible := by rw [Illegible, Illegible, h]

theorem patterns_in_congr (h : SameText tree (directory.join ⟨name⟩) (other.join ⟨name⟩)) :
    patternsIn tree name directory = patternsIn tree name other := by
  have htext := h.text
  unfold patternsIn
  cases hread : tree.readText (directory.join ⟨name⟩) <;>
    cases hother : tree.readText (other.join ⟨name⟩) <;>
      simp_all [Except.toOption]

theorem same_text_of_dotted (hrelative : ¬ ['/'] <+: file.text.toList)
    (hnonempty : file.text.toList ≠ []) (hfits : file.dotted.text.utf8ByteSize ≤ longestPath) :
    SameText tree file.dotted file :=
  .of_resolve (FileTree.resolve_dotted hrelative hnonempty hfits)

/-- The empty text and `./` lead to no file. -/
theorem same_text_empty : SameText tree ⟨"./"⟩ ⟨""⟩ := by
  have hempty : tree.resolve ⟨""⟩ true = .error .notFound := by
    simp [FileTree.resolve]
  have hdot : ∀ content, tree.resolve ⟨"./"⟩ true ≠ .ok (.file content) := by
    intro content
    let place := FileTree.enter tree.working tree.root []
    show FileTree.follow tree.root true FileTree.mostLinks place.1 place.2 [['.'], []] ≠ _
    cases place.1 <;> simp [FileTree.follow]
    split <;> simp
  constructor
  · unfold FileTree.readText
    rw [hempty]
    generalize tree.resolve ⟨"./"⟩ true = reached at hdot ⊢
    rcases reached with cause | ⟨content⟩ | _ | _
    · rfl
    · exact absurd rfl (hdot content)
    · rfl
    · rfl
  · simp [Illegible, hempty, hdot]

/-- The ignore file of the working directory is the same under both of its spellings. -/
theorem same_text_top (hfits : (⟨name⟩ : Path).dotted.text.utf8ByteSize ≤ longestPath) :
    SameText tree ((⟨"."⟩ : Path).join ⟨name⟩) ((⟨""⟩ : Path).join ⟨name⟩) := by
  cases habsolute : (⟨name⟩ : Path).text.startsWith "/" with
  | true =>
      rw [Path.join_absolute habsolute, Path.join_absolute habsolute]
      exact .of_resolve rfl
  | false =>
      rw [Path.join_dot habsolute, Path.join_empty]
      by_cases hempty : name.toList = []
      · obtain rfl : name = "" := String.toList_inj.1 hempty
        exact same_text_empty
      · refine same_text_of_dotted ?_ hempty hfits
        rw [← Path.starts_with_separator_iff]
        exact Bool.eq_false_iff.1 habsolute

/-- The ignore file of a directory further below is the same under both of its spellings. -/
theorem same_text_below (hdirectory : directory.IsBare)
    (hfits : (directory.join ⟨name⟩).dotted.text.utf8ByteSize ≤ longestPath) :
    SameText tree (directory.dotted.join ⟨name⟩) (directory.join ⟨name⟩) := by
  cases habsolute : (⟨name⟩ : Path).text.startsWith "/" with
  | true =>
      rw [Path.join_absolute habsolute, Path.join_absolute habsolute]
      exact .of_resolve rfl
  | false =>
      have hbegins := Path.join_begins habsolute hdirectory.nonempty
      rw [Path.join_dotted habsolute hdirectory.nonempty]
      refine same_text_of_dotted (fun hroot => ?_) (fun hempty => ?_) hfits
      · have hlength : ['/'].length ≤ directory.text.toList.length :=
          List.length_pos_iff.2 hdirectory.nonempty
        exact hdirectory.plain.relative (List.prefix_of_prefix_length_le hroot hbegins hlength)
      · rw [hempty] at hbegins
        exact hdirectory.nonempty (List.prefix_nil.1 hbegins)

/-- What a filter says about a path does not hang on how the path is spelled: neither the configured
patterns nor those of the working directory's ignore file see a leading dot, and no ignore file
above the path is out of reach because of one. -/
structure SpellingFree (filter : PathFilter) (tree : FileTree) (path : Path) : Prop where
  configured : ∀ pattern ∈ filter.patterns, pattern.floats = true
  topmost : ∀ name, filter.ignoreFile = some name →
    ∀ pattern ∈ patternsIn tree name ⟨""⟩, pattern.floats = true
  reachable : ∀ name, filter.ignoreFile = some name → ∀ directory ∈ path.parents,
    (directory.join ⟨name⟩).dotted.text.utf8ByteSize ≤ longestPath

section

variable (hpath : path.IsBare) (hfits : ∀ directory ∈ path.parents,
  (directory.join ⟨name⟩).dotted.text.utf8ByteSize ≤ longestPath)

include hpath hfits

theorem same_text_above {inner : Path} (hinner : inner ∈ path.above) :
    SameText tree (inner.dotted.join ⟨name⟩) (inner.join ⟨name⟩) := by
  refine same_text_below (hpath.above hinner) (hfits inner ?_)
  rw [Path.parents_eq hpath]
  exact List.mem_append_left _ hinner

theorem same_text_outermost :
    SameText tree ((⟨"."⟩ : Path).join ⟨name⟩) ((⟨""⟩ : Path).join ⟨name⟩) := by
  have hname := hfits ⟨""⟩ (by rw [Path.parents_eq hpath]; simp)
  rw [Path.join_empty] at hname
  exact same_text_top hname

theorem illegible_dotted :
    (∃ directory ∈ path.dotted.parents, Illegible tree (directory.join ⟨name⟩)) ↔
      ∃ directory ∈ path.parents, Illegible tree (directory.join ⟨name⟩) := by
  have houtermost : Illegible tree ((⟨"."⟩ : Path).join ⟨name⟩) ↔
      Illegible tree ((⟨""⟩ : Path).join ⟨name⟩) :=
    (same_text_outermost hpath hfits).illegible
  rw [Path.parents_dotted hpath, Path.parents_eq hpath]
  constructor
  · rintro ⟨directory, hdirectory, hbroken⟩
    rcases List.mem_append.1 hdirectory with hdirectory | hdirectory
    · obtain ⟨inner, hinner, rfl⟩ := List.mem_map.1 hdirectory
      exact ⟨inner, List.mem_append_left _ hinner,
        (same_text_above hpath hfits hinner).illegible.1 hbroken⟩
    · refine ⟨⟨""⟩, List.mem_append_right _ (List.mem_singleton_self _), ?_⟩
      rcases List.mem_cons.1 hdirectory with rfl | hdirectory
      · exact houtermost.1 hbroken
      · rwa [List.mem_singleton.1 hdirectory] at hbroken
  · rintro ⟨directory, hdirectory, hbroken⟩
    rcases List.mem_append.1 hdirectory with hinner | hdirectory
    · exact ⟨directory.dotted, List.mem_append_left _ (List.mem_map_of_mem hinner),
        (same_text_above hpath hfits hinner).illegible.2 hbroken⟩
    · rw [List.mem_singleton.1 hdirectory] at hbroken
      exact ⟨⟨""⟩, List.mem_append_right _ (by simp), hbroken⟩

theorem last_match_cascade_dotted
    (htopmost : ∀ pattern ∈ patternsIn tree name ⟨""⟩, pattern.floats = true) :
    lastMatch true (cascade tree name path.dotted) = lastMatch true (cascade tree name path) := by
  have habove : entriesIn tree name path.dotted (path.above.map Path.dotted).reverse =
      entriesIn tree name path path.above.reverse := by
    rw [← List.map_reverse, entriesIn, List.flatMap_map]
    refine List.flatMap_congr fun directory hdirectory => ?_
    have hinner := List.mem_reverse.1 hdirectory
    rw [patterns_in_congr (same_text_above hpath hfits hinner),
      Path.relative_to_dotted hpath hinner]
  obtain ⟨relative, hrelative, hbare⟩ := Path.relative_to_empty_bare hpath
  have htop : entriesIn tree name path [⟨""⟩] =
      (patternsIn tree name ⟨""⟩).map fun pattern => ⟨pattern, relative⟩ := by
    simp [entriesIn, hrelative]
  have hinner : entriesIn tree name path.dotted [⟨"."⟩] = entriesIn tree name path [⟨""⟩] := by
    rw [htop, ← patterns_in_congr (same_text_outermost hpath hfits)]
    simp [entriesIn, Path.relative_to_dot hpath, hrelative]
  have houter : lastMatch true (entriesIn tree name path.dotted [⟨""⟩]) =
      lastMatch true (entriesIn tree name path [⟨""⟩]) := by
    have hdotted : entriesIn tree name path.dotted [⟨""⟩] =
        (patternsIn tree name ⟨""⟩).map fun pattern => ⟨pattern, relative.dotted⟩ := by
      simp [entriesIn, Path.relative_to_empty_dotted hpath, hrelative]
    rw [htop, hdotted, ← decide_eq_last_match, ← decide_eq_last_match,
      FilterPattern.decide_dotted htopmost hbare]
  have hparents : path.dotted.parents.reverse =
      [⟨""⟩] ++ ([⟨"."⟩] ++ (path.above.map Path.dotted).reverse) := by
    rw [Path.parents_dotted hpath, List.reverse_append]
    rfl
  -- The patterns of the working directory are gone through twice, which changes nothing.
  rw [cascade, cascade, hparents, Path.parents_eq hpath, List.reverse_append, entries_in_append,
    entries_in_append, entries_in_append, last_match_append, last_match_append, last_match_append,
    houter, hinner, habove, last_match_twice]
  rfl

end

/-- A filter decides alike about both spellings of a path, or fails for both. -/
theorem result_dotted {filter : PathFilter} (hpath : path.IsBare)
    (h : filter.SpellingFree tree path) :
    (filter.shouldAnalyze tree path.dotted).result.toOption =
      (filter.shouldAnalyze tree path).result.toOption := by
  have hfail {name : String} {other : Path}
      (hbroken : ∃ directory ∈ other.parents, Illegible tree (directory.join ⟨name⟩)) :
      (decideByFiles tree name other other.parents.reverse true).result.toOption = none := by
    obtain ⟨failure, hfailure⟩ := decide_above_error_iff.2 hbroken
    rw [hfailure]
    rfl
  have hdecision {name : String} {other : Path}
      (hsound : ¬ ∃ directory ∈ other.parents, Illegible tree (directory.join ⟨name⟩)) :
      (decideByFiles tree name other other.parents.reverse true).result.toOption =
        some (lastMatch true (cascade tree name other)) := by
    rw [decide_above_ok fun directory hdirectory hbroken =>
      hsound ⟨directory, hdirectory, hbroken⟩]
    rfl
  unfold shouldAnalyze
  rw [FilterPattern.decide_dotted h.configured hpath]
  split
  · rfl
  · cases hname : filter.ignoreFile with
    | none => rfl
    | some name =>
        have hfits := h.reachable name hname
        by_cases hbroken :
            ∃ directory ∈ path.parents, Illegible tree (directory.join ⟨name⟩)
        · exact (hfail ((illegible_dotted hpath hfits).2 hbroken)).trans (hfail hbroken).symm
        · have hdotted := hdecision (mt (illegible_dotted hpath hfits).1 hbroken)
          rw [last_match_cascade_dotted hpath hfits (h.topmost name hname)] at hdotted
          exact hdotted.trans (hdecision hbroken).symm

/-! ## Walks -/

section

variable {filter : PathFilter}

/-- A filter decides alike about both spellings of a path, or fails for both. So a walk from the
working directory finds a source file exactly if the filter lets its plain name pass. -/
theorem should_analyze_dotted (hpath : path.IsBare) (h : filter.SpellingFree tree path) :
    (filter.shouldAnalyze tree path.dotted).result.toOption =
      (filter.shouldAnalyze tree path).result.toOption ∧
    ∀ found, (filter.findFiles tree ⟨"."⟩).result = .ok found →
      (path.dotted ∈ found ↔ path.dotted ∈ tree.filesUnder ⟨"."⟩ ∧ isSourceFile path = true ∧
        (filter.shouldAnalyze tree path).result = .ok true) := by
  have hresult := result_dotted hpath h
  have hpasses : (filter.shouldAnalyze tree path.dotted).result = .ok true ↔
      (filter.shouldAnalyze tree path).result = .ok true := by
    rw [← to_option_eq_some_iff, hresult, to_option_eq_some_iff]
  have hsource : isSourceFile path.dotted = isSourceFile path := by
    rw [isSourceFile, isSourceFile, Path.extension?, Path.extension?, Path.file_name_dotted hpath]
  refine ⟨hresult, fun found hfound => ?_⟩
  rw [mem_find_files hfound, hsource, hpasses]

-- The patterns that a configuration starts with overlook a leading dot.
example : (Config.defaultPaths.patterns.all fun text =>
    (FilterPattern.parse text.toList).toOption.any FilterPattern.floats) = true := by cbv

end

/-! ## Anchored patterns -/

/-- The pattern `**/*.generated.*`. -/
def generatedSource : FilterPattern :=
  ⟨⟨[.anyComponents, .anySequence] ++ ".generated.".toList.map .literal ++ [.anySequence]⟩,
    false, false, true⟩

theorem layered_spellings_agree :
    let filter : PathFilter := ⟨[generatedSource], some ".ig"⟩
    let path : Path := ⟨"src/keep.rs"⟩
    filter.SpellingFree layeredTree path ∧
      (filter.shouldAnalyze layeredTree path.dotted).result.toOption =
        (filter.shouldAnalyze layeredTree path).result.toOption := by
  intro filter path
  have hpath : path.IsBare := ⟨⟨by decide, by decide, by decide⟩, by decide⟩
  have hspelling : filter.SpellingFree layeredTree path := by
    refine ⟨?_, ?_, ?_⟩
    · simp only [filter, List.mem_singleton, forall_eq]
      decide
    · intro name hname
      obtain rfl := Option.some.inj hname
      rw [patterns_in_layered, List.forall_mem_singleton]
      rfl
    · intro name hname
      obtain rfl := Option.some.inj hname
      have hparents : path.parents = [⟨"src"⟩, ⟨""⟩] := by decide
      have hinner : (⟨"src"⟩ : Path).join ⟨".ig"⟩ = ⟨"src/.ig"⟩ :=
        Path.join_name (by decide) (by decide) (by decide)
      rw [hparents, List.forall_mem_cons, List.forall_mem_singleton, hinner, Path.join_empty,
        Path.dotted, Path.dotted, String.utf8ByteSize_append, String.utf8ByteSize_append]
      decide
  exact ⟨hspelling, (should_analyze_dotted hpath hspelling).1⟩

/-- The filter of the pattern `tests/**`. -/
def testsFilter : PathFilter :=
  ⟨[⟨⟨"tests/".toList.map .literal ++ [.anyComponents]⟩, false, false, true⟩], none⟩

/-- A single source file, below a directory `tests`. -/
def testsTree : FileTree :=
  .ofEntries [("tests", .directory .full [("unit.rs", emptyFile)])]

theorem files_in_tests : testsTree.filesUnder ⟨"."⟩ = [⟨"./tests/unit.rs"⟩] := by
  have htop (followLast : Bool) : testsTree.resolve ⟨"."⟩ followLast = .ok testsTree.root :=
    @resolve_winding _ 0 followLast (by decide)
  have hinner : testsTree.resolve (⟨"tests"⟩ : Path).dotted true = _ :=
    (FileTree.resolve_dotted (by decide) (by decide) (by decide)).trans
      (FileTree.resolve_name (by decide) rfl nofun)
  have hjoin : (⟨"."⟩ : Path).join ⟨"tests"⟩ = (⟨"tests"⟩ : Path).dotted :=
    Path.join_name (by decide) (by decide) (by decide)
  have hfile : ((⟨"tests"⟩ : Path).dotted).join ⟨"unit.rs"⟩ = ⟨"./tests/unit.rs"⟩ :=
    Path.join_name (by decide) (by decide) (by decide)
  rw [FileTree.files_under_listed rfl htop, List.flatMap_singleton, hjoin,
    FileTree.files_at_listed (FileTree.can_list_eq hinner), List.flatMap_singleton, hfile]
  rfl

/-- The pattern leaves the file out under its plain name, and a walk finds it all the same. -/
theorem dotted_escapes_pattern :
    ofPatterns ["tests/**"] none = .ok testsFilter ∧
      (testsFilter.shouldAnalyze testsTree ⟨"tests/unit.rs"⟩).result = .ok false ∧
      (testsFilter.shouldAnalyze testsTree ⟨"./tests/unit.rs"⟩).result = .ok true ∧
      (testsFilter.findFiles testsTree ⟨"."⟩).result = .ok [⟨"./tests/unit.rs"⟩] := by
  have hread : ofPatterns ["tests/**"] none = .ok testsFilter := by cbv
  have hplain : FilterPattern.decide testsFilter.patterns ⟨"tests/unit.rs"⟩ true = false := by cbv
  have hdotted : FilterPattern.decide testsFilter.patterns ⟨"./tests/unit.rs"⟩ true = true := by
    cbv
  have hout : testsFilter.shouldAnalyze testsTree ⟨"tests/unit.rs"⟩ = pure false := by
    simp [shouldAnalyze, hplain]
  have hin : testsFilter.shouldAnalyze testsTree ⟨"./tests/unit.rs"⟩ = pure true := by
    have hnone : testsFilter.ignoreFile = none := rfl
    simp [shouldAnalyze, hdotted, hnone]
  have hsource : isSourceFile ⟨"./tests/unit.rs"⟩ = true := by cbv
  refine ⟨hread, by rw [hout]; rfl, by rw [hin]; rfl, ?_⟩
  simp [findFiles, files_in_tests, hsource, filterPaths, hin]

end PathFilter

end NamingLint
