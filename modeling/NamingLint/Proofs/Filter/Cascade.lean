import NamingLint.Filter
import NamingLint.Proofs.FileTree.Follow
import NamingLint.Proofs.Path.Ancestors

/-!
# The last pattern that matches

A filter goes through its patterns, and then through the ignore files above a path, one after the
other and with the decision so far at hand. `should_analyze_cascade` says what comes out in the end:
what the last matching pattern of a single list says.
-/

namespace NamingLint.PathFilter

/-- A pattern with the path that it is matched against. -/
structure Entry where
  pattern : FilterPattern
  path : Path

namespace Entry

/-- The pattern matches the path. -/
def applies (entry : Entry) : Bool :=
  entry.pattern.appliesTo entry.path

end Entry

/-- The decision of the last entry that applies, or else the given one. -/
def lastMatch (otherwise : Bool) (entries : List Entry) : Bool :=
  ((entries.filter Entry.applies).getLast?.map fun entry => entry.pattern.includes).getD otherwise

section

variable {otherwise : Bool} {entries more : List Entry} {entry : Entry}

@[simp] theorem last_match_nil : lastMatch otherwise [] = otherwise := rfl

theorem last_match_append :
    lastMatch otherwise (entries ++ more) = lastMatch (lastMatch otherwise entries) more := by
  unfold lastMatch
  rw [List.filter_append, List.getLast?_append]
  cases (more.filter Entry.applies).getLast? <;> rfl

theorem last_match_cons : lastMatch otherwise (entry :: entries) =
    lastMatch (if entry.applies then entry.pattern.includes else otherwise) entries := by
  have hfirst : lastMatch otherwise [entry] =
      if entry.applies then entry.pattern.includes else otherwise := by
    cases happlies : entry.applies <;> simp [lastMatch, happlies]
  rw [← hfirst, ← last_match_append, List.singleton_append]

/-- Entries decide alone if one of them applies. -/
theorem last_match_of_applies (h : ∃ entry ∈ entries, entry.applies = true) (other : Bool) :
    lastMatch otherwise entries = lastMatch other entries := by
  obtain ⟨entry, hentry, happlies⟩ := h
  obtain ⟨last, hlast⟩ := Option.ne_none_iff_exists'.1 fun hnone =>
    List.ne_nil_of_mem (List.mem_filter.2 ⟨hentry, happlies⟩) (List.getLast?_eq_none_iff.1 hnone)
  unfold lastMatch
  rw [hlast]
  rfl

/-- To go through entries twice changes nothing. -/
theorem last_match_twice :
    lastMatch (lastMatch otherwise entries) entries = lastMatch otherwise entries := by
  unfold lastMatch
  cases (entries.filter Entry.applies).getLast? <;> rfl

theorem decide_eq_last_match {patterns : List FilterPattern} {path : Path} :
    FilterPattern.decide patterns path otherwise =
      lastMatch otherwise (patterns.map fun pattern => ⟨pattern, path⟩) := by
  unfold FilterPattern.decide
  induction patterns generalizing otherwise with
  | nil => rfl
  | cons pattern patterns ih =>
      rw [List.map_cons, last_match_cons, Entry.applies, List.filter_cons]
      cases pattern.appliesTo path with
      | true => simpa only [if_true, List.foldl_cons] using ih
      | false => simpa only [Bool.false_eq_true, if_false] using ih

end

/-! ## Ignore files -/

section

variable {tree : FileTree} {name : String} {path directory file : Path}

/-- A path leads to a regular file that cannot be read as text. -/
def Illegible (tree : FileTree) (file : Path) : Prop :=
  ∃ content cause, tree.resolve file true = .ok (.file content) ∧
    FileTree.textOf content = .error cause

/-- The patterns among lines. -/
def validPatterns (lines : List (List Char)) : List FilterPattern :=
  lines.filterMap fun line => (FilterPattern.parse line).toOption

/-- The patterns of the ignore file of a directory, if it has one. -/
def patternsIn (tree : FileTree) (name : String) (directory : Path) : List FilterPattern :=
  match tree.readText (directory.join ⟨name⟩) with
  | .ok content => validPatterns (ignoreLines content)
  | .error _ => []

/-- The patterns of the ignore files of directories, each with the path relative to its
directory. -/
def entriesIn (tree : FileTree) (name : String) (path : Path) (directories : List Path) :
    List Entry :=
  directories.flatMap fun directory =>
    (patternsIn tree name directory).map fun pattern =>
      ⟨pattern, (path.relativeTo? directory).getD ⟨""⟩⟩

/-- The patterns of all ignore files above a path, from the outermost directory to the innermost. -/
def cascade (tree : FileTree) (name : String) (path : Path) : List Entry :=
  entriesIn tree name path path.parents.reverse

theorem result_ignore_patterns {lines : List (List Char)} :
    (ignorePatterns file lines).result = .ok (validPatterns lines) := by
  unfold validPatterns
  induction lines with
  | nil => rfl
  | cons line rest ih =>
      unfold ignorePatterns
      cases hparse : FilterPattern.parse line <;> simp [ih, hparse, Except.toOption]

/-- A path leads to no file, to a text, or to a file that is none. -/
theorem file_cases (tree : FileTree) (file : Path) :
    (tree.isFile file = false ∧ (∃ cause, tree.readText file = .error cause) ∧
      ¬ Illegible tree file) ∨
    (tree.isFile file = true ∧ (∃ content, tree.readText file = .ok content) ∧
      ¬ Illegible tree file) ∨
    (tree.isFile file = true ∧ (∃ cause, tree.readText file = .error cause) ∧
      Illegible tree file) := by
  unfold FileTree.isFile FileTree.readText Illegible
  cases tree.resolve file true with
  | error cause => simp
  | ok entry =>
      cases entry with
      | file content => cases hcontent : FileTree.textOf content <;> simp [hcontent]
      | directory access entries => simp
      | link target => simp

theorem not_illegible_of_read {content : String} (h : tree.readText file = .ok content) :
    ¬ Illegible tree file := by
  rcases file_cases tree file with ⟨_, _, hsound⟩ | ⟨_, _, hsound⟩ | ⟨_, ⟨cause, hread⟩, _⟩
  · exact hsound
  · exact hsound
  · rw [h] at hread
    cases hread

/-- A directory whose ignore file can be read, or that has none, refines the decision. -/
theorem decide_by_files_cons {directories : List Path} {included : Bool} {relative : Path}
    (h : ¬ Illegible tree (directory.join ⟨name⟩))
    (hrelative : path.relativeTo? directory = some relative) :
    (decideByFiles tree name path (directory :: directories) included).result =
      (decideByFiles tree name path directories
        (lastMatch included (entriesIn tree name path [directory]))).result := by
  have hentries : entriesIn tree name path [directory] =
      (patternsIn tree name directory).map fun pattern => ⟨pattern, relative⟩ := by
    simp [entriesIn, hrelative]
  rw [hentries, ← decide_eq_last_match, decideByFiles]
  unfold patternsIn
  rcases file_cases tree (directory.join ⟨name⟩) with
    ⟨hfile, ⟨cause, hread⟩, _⟩ | ⟨hfile, ⟨content, hread⟩, _⟩ | ⟨_, _, hbroken⟩
  · simp [hfile, hread, FilterPattern.decide]
  · simp [hfile, hread, loadIgnoreFile, result_ignore_patterns, hrelative]
  · exact absurd hbroken h

/-- A directory with an ignore file that cannot be read as text stops the search. -/
theorem decide_by_files_stop {directories : List Path} {included : Bool}
    (h : Illegible tree (directory.join ⟨name⟩)) :
    ∃ cause, (decideByFiles tree name path (directory :: directories) included).result =
      .error (.configuration (.ignoreFile (directory.join ⟨name⟩) cause)) := by
  rw [decideByFiles]
  rcases file_cases tree (directory.join ⟨name⟩) with
    ⟨_, _, hsound⟩ | ⟨_, _, hsound⟩ | ⟨hfile, ⟨cause, hread⟩, _⟩
  · exact absurd h hsound
  · exact absurd h hsound
  · exact ⟨cause, by simp [hfile, hread, loadIgnoreFile]⟩

theorem entries_in_append {outer inner : List Path} :
    entriesIn tree name path (outer ++ inner) =
      entriesIn tree name path outer ++ entriesIn tree name path inner :=
  List.flatMap_append

/-- Directories whose ignore files can be read refine the decision one after the other. -/
theorem decide_by_files_append {outer inner : List Path} {included : Bool}
    (hrelative : ∀ directory ∈ outer, ∃ relative, path.relativeTo? directory = some relative)
    (hsound : ∀ directory ∈ outer, ¬ Illegible tree (directory.join ⟨name⟩)) :
    (decideByFiles tree name path (outer ++ inner) included).result =
      (decideByFiles tree name path inner
        (lastMatch included (entriesIn tree name path outer))).result := by
  induction outer generalizing included with
  | nil => rfl
  | cons directory outer ih =>
      obtain ⟨⟨relative, hfirst⟩, hothers⟩ := List.forall_mem_cons.1 hrelative
      obtain ⟨hdirectory, houter⟩ := List.forall_mem_cons.1 hsound
      rw [List.cons_append, decide_by_files_cons hdirectory hfirst, ih hothers houter,
        ← last_match_append, ← entries_in_append, List.singleton_append]

theorem relative_of_above {directory : Path} (h : directory ∈ path.parents.reverse) :
    ∃ relative, path.relativeTo? directory = some relative :=
  (Path.relative_to_parent (List.mem_reverse.1 h)).imp fun _ hrelative => hrelative.1

/-- The ignore files above a path decide together if all of them can be read. -/
theorem decide_above_ok {included : Bool}
    (h : ∀ directory ∈ path.parents, ¬ Illegible tree (directory.join ⟨name⟩)) :
    (decideByFiles tree name path path.parents.reverse included).result =
      .ok (lastMatch included (cascade tree name path)) := by
  have hrun : (decideByFiles tree name path (path.parents.reverse ++ []) included).result =
      (decideByFiles tree name path [] (lastMatch included (cascade tree name path))).result :=
    decide_by_files_append (fun directory => relative_of_above)
      fun directory hdirectory => h directory (List.mem_reverse.1 hdirectory)
  rwa [List.append_nil] at hrun

/-- The outermost ignore file above a path that cannot be read as text is reported. -/
theorem decide_above_error {included : Bool} {outer inner : List Path}
    (hsplit : path.parents.reverse = outer ++ directory :: inner)
    (houter : ∀ other ∈ outer, ¬ Illegible tree (other.join ⟨name⟩))
    (hbroken : Illegible tree (directory.join ⟨name⟩)) :
    ∃ cause, (decideByFiles tree name path path.parents.reverse included).result =
      .error (.configuration (.ignoreFile (directory.join ⟨name⟩) cause)) := by
  have hrelative : ∀ other ∈ outer, ∃ relative, path.relativeTo? other = some relative :=
    fun other hother => relative_of_above (hsplit ▸ List.mem_append_left _ hother)
  rw [hsplit, decide_by_files_append hrelative houter]
  exact decide_by_files_stop hbroken

/-- The search fails exactly if an ignore file above the path cannot be read as text. -/
theorem decide_above_error_iff {included : Bool} :
    (∃ failure, (decideByFiles tree name path path.parents.reverse included).result =
      .error failure) ↔
      ∃ directory ∈ path.parents, Illegible tree (directory.join ⟨name⟩) := by
  constructor
  · rintro ⟨failure, hfailure⟩
    refine Classical.byContradiction fun hnone => ?_
    rw [decide_above_ok fun directory hdirectory hbroken =>
      hnone ⟨directory, hdirectory, hbroken⟩] at hfailure
    cases hfailure
  · intro h
    classical
    have hfound : (path.parents.reverse.find? fun directory =>
        Illegible tree (directory.join ⟨name⟩)).isSome := by
      rw [List.find?_isSome]
      simpa using h
    obtain ⟨directory, hdirectory⟩ := Option.isSome_iff_exists.1 hfound
    obtain ⟨hbroken, outer, inner, hsplit, houter⟩ := List.find?_eq_some_iff_append.1 hdirectory
    obtain ⟨cause, hcause⟩ := @decide_above_error _ _ _ _ included _ _ hsplit
      (fun other hother => by simpa using houter other hother) (by simpa using hbroken)
    exact ⟨_, hcause⟩

end

/-- Of the ignore files above a path in the working directory there is at most the one there. -/
theorem decided_by_one_file {tree : FileTree} {name content : String} {path : Path}
    (hparents : path.parents = [⟨""⟩]) (hrelative : path.relativeTo? ⟨""⟩ = some path)
    (hread : tree.readText ⟨name⟩ = .ok content) :
    ((⟨[], some name⟩ : PathFilter).shouldAnalyze tree path).result =
      .ok (lastMatch true ((validPatterns (ignoreLines content)).map fun pattern =>
        ⟨pattern, path⟩)) := by
  have hentries : cascade tree name path =
      (validPatterns (ignoreLines content)).map fun pattern => ⟨pattern, path⟩ := by
    simp [cascade, entriesIn, patternsIn, hparents, hrelative, Path.join_empty, hread]
  rw [← hentries]
  refine decide_above_ok fun directory hdirectory => ?_
  obtain rfl := List.mem_singleton.1 (hparents ▸ hdirectory)
  rw [Path.join_empty]
  exact not_illegible_of_read hread

/-- The configured patterns, each with the path itself. -/
def configured (filter : PathFilter) (path : Path) : List Entry :=
  filter.patterns.map fun pattern => ⟨pattern, path⟩

/-- The last of the configured patterns that matches a path decides first. A path that they leave
in is decided by the last match in the ignore files above it, the innermost of which come last;
this fails exactly if one of these files cannot be read as text. -/
theorem should_analyze_cascade (filter : PathFilter) (path : Path) :
    (lastMatch true (filter.configured path) = false →
      ∀ tree, filter.shouldAnalyze tree path = pure false) ∧
    (lastMatch true (filter.configured path) = true →
      (filter.ignoreFile = none → ∀ tree, filter.shouldAnalyze tree path = pure true) ∧
      ∀ name, filter.ignoreFile = some name → ∀ tree,
        ((∃ failure, (filter.shouldAnalyze tree path).result = .error failure) ↔
          ∃ directory ∈ path.parents, Illegible tree (directory.join ⟨name⟩)) ∧
        ((∀ directory ∈ path.parents, ¬ Illegible tree (directory.join ⟨name⟩)) →
          (filter.shouldAnalyze tree path).result =
            .ok (lastMatch true (cascade tree name path))) ∧
        ∀ outer inner, path.parents.reverse = outer ++ inner →
          (∃ entry ∈ entriesIn tree name path inner, entry.applies = true) →
            lastMatch true (cascade tree name path) =
              lastMatch true (entriesIn tree name path inner)) ∧
    ∀ directory ∈ path.parents, ∃ relative, path.relativeTo? directory = some relative ∧
      directory.components ++ relative.components = path.components := by
  have hdecide : FilterPattern.decide filter.patterns path true =
      lastMatch true (filter.configured path) := decide_eq_last_match
  refine ⟨fun hout tree => ?_, fun hin => ⟨fun hnone tree => ?_, fun name hname tree => ?_⟩,
    fun directory => Path.relative_to_parent⟩
  · simp [shouldAnalyze, hdecide, hout]
  · simp [shouldAnalyze, hdecide, hin, hnone]
  · have hfiles : filter.shouldAnalyze tree path =
        decideByFiles tree name path path.parents.reverse true := by
      simp [shouldAnalyze, hdecide, hin, hname]
    rw [hfiles]
    refine ⟨decide_above_error_iff, decide_above_ok, fun outer inner hsplit hinner => ?_⟩
    rw [cascade, hsplit, entries_in_append, last_match_append]
    exact last_match_of_applies hinner true

/-! ## Ignore files in two directories -/

/-- The pattern `*.rs`. -/
def everySource : FilterPattern :=
  ⟨⟨.anySequence :: ".rs".toList.map .literal⟩, false, false, false⟩

/-- The pattern `!keep.rs`. -/
def keptSource : FilterPattern :=
  ⟨⟨"keep.rs".toList.map .literal⟩, true, false, false⟩

/-- The outer file leaves out all sources, and the inner one brings one of them back. -/
def layeredTree : FileTree :=
  .ofEntries [(".ig", .ofText "*.rs\n"),
    ("src", .directory .full [(".ig", .ofText "!keep.rs\n")])]

theorem read_layered : layeredTree.readText ((⟨""⟩ : Path).join ⟨".ig"⟩) = .ok "*.rs\n" := by
  rw [Path.join_empty]
  exact FileTree.read_encoded (FileTree.resolve_name (by decide) rfl nofun)

theorem read_layered_inner :
    layeredTree.readText ((⟨"src"⟩ : Path).join ⟨".ig"⟩) = .ok "!keep.rs\n" := by
  rw [Path.join_name (by decide) (by decide) (by decide)]
  exact FileTree.read_encoded <| FileTree.resolve_within "src" ".ig" (by decide) rfl (by decide)
    (by decide) rfl rfl rfl nofun

theorem patterns_in_layered : patternsIn layeredTree ".ig" ⟨""⟩ = [everySource] := by
  have hlines : validPatterns (ignoreLines "*.rs\n") = [everySource] := by cbv
  rw [patternsIn, read_layered]
  exact hlines

theorem patterns_in_layered_inner : patternsIn layeredTree ".ig" ⟨"src"⟩ = [keptSource] := by
  have hlines : validPatterns (ignoreLines "!keep.rs\n") = [keptSource] := by cbv
  rw [patternsIn, read_layered_inner]
  exact hlines

theorem layered_files_decide :
    let filter : PathFilter := ⟨[], some ".ig"⟩
    (filter.shouldAnalyze layeredTree ⟨"src/keep.rs"⟩).result = .ok true ∧
      (filter.shouldAnalyze layeredTree ⟨"src/other.rs"⟩).result = .ok false := by
  intro filter
  have hdecision {path relative : Path} (hpath : path.parents = [⟨"src"⟩, ⟨""⟩])
      (htop : path.relativeTo? ⟨""⟩ = some path)
      (hrelative : path.relativeTo? ⟨"src"⟩ = some relative) :
      (filter.shouldAnalyze layeredTree path).result =
        .ok (lastMatch true [⟨everySource, path⟩, ⟨keptSource, relative⟩]) := by
    have hcascade : cascade layeredTree ".ig" path =
        [⟨everySource, path⟩, ⟨keptSource, relative⟩] := by
      simp [cascade, entriesIn, patterns_in_layered, patterns_in_layered_inner, hpath, htop,
        hrelative]
    obtain ⟨_, hin, _⟩ := should_analyze_cascade filter path
    obtain ⟨_, hfiles⟩ := hin rfl
    obtain ⟨_, hresult, _⟩ := hfiles ".ig" rfl layeredTree
    rw [← hcascade]
    refine hresult ?_
    simp [hpath, not_illegible_of_read read_layered, not_illegible_of_read read_layered_inner]
  constructor
  · rw [hdecision (by decide) (by decide) (show _ = some ⟨"keep.rs"⟩ by decide)]
    cbv
  · rw [hdecision (by decide) (by decide) (show _ = some ⟨"other.rs"⟩ by decide)]
    cbv

end NamingLint.PathFilter
