import NamingLint.Analysis.Run
import NamingLint.Proofs.Filter.Cascade
import NamingLint.Proofs.Filter.Reading
import NamingLint.Proofs.Filter.Walk

/-!
# Patterns behind those of a filter

A run may put patterns behind those of a filter, where they have the last word, and may pay no
regard to ignore files. `passes_excluding` and `passes_of_honouring` say what this makes of the
paths that pass: the first takes away those that the patterns match, and the second takes away none.
-/

namespace NamingLint

namespace FilterPattern

section

variable {patterns excludes : List FilterPattern} {pattern : FilterPattern} {path : Path}
variable {text : List Char} {otherwise : Bool}

theorem parse_unmarked (hmark : ¬ ['!'] <+: text) : parse text =
    (Glob.Pattern.parse ((withoutTrailing text).dropWhile (· == '/'))).map fun glob =>
      ⟨glob, false, text.getLast? = some '/', (withoutTrailing text).contains '/'⟩ := by
  cases text with
  | nil => rfl
  | cons c rest =>
      have hc : c ≠ '!' := by
        rintro rfl
        exact hmark (List.prefix_append ['!'] rest)
      simp [parse, hc]

/-- Only an exclamation mark makes a pattern include what it matches. -/
theorem parse_excludes (hmark : ¬ ['!'] <+: text) (h : parse text = .ok pattern) :
    pattern.includes = false := by
  rw [parse_unmarked hmark] at h
  cases hglob : Glob.Pattern.parse ((withoutTrailing text).dropWhile (· == '/')) with
  | error error =>
      rw [hglob] at h
      cases h
  | ok glob =>
      rw [hglob] at h
      obtain rfl := Except.ok.inj h
      rfl

theorem decide_excludes (h : ∀ pattern ∈ excludes, pattern.includes = false) :
    decide excludes path otherwise =
      (otherwise && !excludes.any fun pattern => pattern.appliesTo path) := by
  unfold decide
  induction excludes generalizing otherwise with
  | nil => simp
  | cons pattern excludes ih =>
      obtain ⟨hpattern, hexcludes⟩ := List.forall_mem_cons.1 h
      rw [List.filter_cons, List.any_cons]
      cases pattern.appliesTo path with
      | true =>
          rw [if_pos rfl, List.foldl_cons, ih hexcludes, hpattern]
          simp
      | false =>
          rw [if_neg Bool.false_ne_true, ih hexcludes]
          rfl

theorem decide_append :
    decide (patterns ++ excludes) path otherwise =
      decide excludes path (decide patterns path otherwise) := by
  unfold decide
  rw [List.filter_append, List.foldl_append]

end

end FilterPattern

/-- All files of an entry can be read as texts. -/
inductive FileEntry.Legible : FileEntry → Prop where
  | file {content : Option ByteArray} {text : String} : FileTree.textOf content = .ok text →
      Legible (.file content)
  | link (target : String) : Legible (.link target)
  | directory {access : Access} {entries : List (String × FileEntry)} :
      (∀ item ∈ entries, Legible item.2) → Legible (.directory access entries)

theorem FileEntry.legible_text (text : String) : (ofText text).Legible :=
  .file (FileTree.text_of_encoded text)

/-- All files of a tree can be read as texts. -/
def FileTree.Legible (tree : FileTree) : Prop := tree.root.Legible

theorem FileTree.Legible.not_illegible {tree : FileTree} (h : tree.Legible) (path : Path) :
    ¬ PathFilter.Illegible tree path := by
  have hempty : FileEntry.empty.Legible := .directory (by simp)
  have hentries (access : Access) (entries : List (String × FileEntry))
      (h : (FileEntry.directory access entries).Legible) : ∀ item ∈ entries, item.2.Legible := by
    cases h with
    | directory hitems => exact hitems
  rintro ⟨content, cause, hresolve, hbroken⟩
  cases FileTree.holds_of_resolve hempty hentries h hresolve with
  | file htext =>
      rw [hbroken] at htext
      cases htext

namespace PathFilter

/-- One of some texts stands for a pattern that matches a path. -/
def anyMatches (texts : List String) (path : Path) : Bool :=
  texts.any fun text =>
    (FilterPattern.parse text.toList).toOption.any fun pattern => pattern.appliesTo path

/-- A filter decides about all paths. -/
def Decides (filter : PathFilter) (tree : FileTree) : Prop :=
  ∀ path, ∃ verdict, (filter.shouldAnalyze tree path).result = .ok verdict

/-- All ignore files can be read as texts. -/
def IgnoreFilesLegible (filter : PathFilter) (tree : FileTree) : Prop :=
  ∀ name, filter.ignoreFile = some name →
    ∀ directory : Path, ¬ Illegible tree (directory.join ⟨name⟩)

section

variable {filter extended : PathFilter} {tree : FileTree} {path : Path}
variable {texts : List String} {patterns : List FilterPattern}

/-! ## Adding patterns -/

theorem add_patterns_eq : filter.addPatterns texts = (parsePatterns texts).map fun patterns =>
    { filter with patterns := filter.patterns ++ patterns } := by
  induction texts generalizing filter with
  | nil =>
      show Except.ok filter = .ok { filter with patterns := filter.patterns ++ [] }
      rw [List.append_nil]
  | cons text texts ih =>
      unfold addPatterns addPattern parsePatterns
      cases parsePattern text with
      | error failure => rfl
      | ok pattern =>
          show PathFilter.addPatterns _ texts = _
          rw [ih]
          cases parsePatterns texts with
          | error failure => rfl
          | ok patterns =>
              show Except.ok (PathFilter.mk (filter.patterns ++ [pattern] ++ patterns) _) = _
              rw [List.append_assoc]
              rfl

theorem add_patterns_ok_iff : filter.addPatterns texts = .ok extended ↔
    ∃ patterns, parsePatterns texts = .ok patterns ∧
      extended = { filter with patterns := filter.patterns ++ patterns } := by
  rw [add_patterns_eq]
  cases parsePatterns texts <;> simp [Except.map, eq_comm]

/-- Ignore files may be disregarded before or after patterns are added. -/
theorem add_patterns_without_ignore_files (h : filter.addPatterns texts = .ok extended) :
    filter.withoutIgnoreFiles.addPatterns texts = .ok extended.withoutIgnoreFiles := by
  obtain ⟨patterns, hparse, rfl⟩ := add_patterns_ok_iff.1 h
  exact add_patterns_ok_iff.2 ⟨patterns, hparse, rfl⟩

/-- The patterns that texts without exclamation marks stand for exclude what they match. -/
theorem parsed_exclude (hmarks : ∀ text ∈ texts, ¬ ['!'] <+: text.toList)
    (h : parsePatterns texts = .ok patterns) : ∀ pattern ∈ patterns, pattern.includes = false := by
  induction texts generalizing patterns with
  | nil =>
      obtain rfl : [] = patterns := Except.ok.inj h
      simp
  | cons text texts ih =>
      obtain ⟨pattern, rest, hpattern, hrest, rfl⟩ := parse_patterns_cons_iff.1 h
      obtain ⟨hmark, hothers⟩ := List.forall_mem_cons.1 hmarks
      exact List.forall_mem_cons.2
        ⟨FilterPattern.parse_excludes hmark hpattern, ih hothers hrest⟩

theorem any_applies_of_parsed (h : parsePatterns texts = .ok patterns) :
    (patterns.any fun pattern => pattern.appliesTo path) = anyMatches texts path := by
  unfold anyMatches
  induction texts generalizing patterns with
  | nil =>
      obtain rfl : [] = patterns := Except.ok.inj h
      rfl
  | cons text texts ih =>
      obtain ⟨pattern, rest, hpattern, hrest, rfl⟩ := parse_patterns_cons_iff.1 h
      rw [List.any_cons, List.any_cons, ih hrest, hpattern]
      rfl

/-! ## What passes -/

/-- A filter decides about all paths if all ignore files can be read as texts. -/
theorem decides_of_legible (h : filter.IgnoreFilesLegible tree) : filter.Decides tree := by
  intro path
  unfold shouldAnalyze
  split
  · exact ⟨false, rfl⟩
  · split
    · exact ⟨true, rfl⟩
    · rename_i name hname
      exact ⟨_, decide_above_ok fun directory _ => h name hname directory⟩

theorem legible_of_add_patterns (hlegible : filter.IgnoreFilesLegible tree)
    (h : filter.addPatterns texts = .ok extended) : extended.IgnoreFilesLegible tree := by
  obtain ⟨patterns, _, rfl⟩ := add_patterns_ok_iff.1 h
  exact hlegible

/-- A path passes if the patterns let it pass, and then the ignore files. -/
theorem passes_eq : filter.passes tree path =
    (FilterPattern.decide filter.patterns path true &&
      passes ⟨[], filter.ignoreFile⟩ tree path) := by
  have hempty : FilterPattern.decide [] path true = true := rfl
  unfold passes shouldAnalyze
  rw [hempty]
  cases FilterPattern.decide filter.patterns path true <;> simp

/-- Of the paths that pass, patterns that exclude what they match take away just that. -/
theorem passes_excluding (hmarks : ∀ text ∈ texts, ¬ ['!'] <+: text.toList)
    (h : filter.addPatterns texts = .ok extended) :
    extended.passes tree path = (filter.passes tree path && !anyMatches texts path) := by
  obtain ⟨patterns, hparse, rfl⟩ := add_patterns_ok_iff.1 h
  have hdecide : FilterPattern.decide (filter.patterns ++ patterns) path true =
      (FilterPattern.decide filter.patterns path true && !anyMatches texts path) := by
    rw [FilterPattern.decide_append, FilterPattern.decide_excludes (parsed_exclude hmarks hparse),
      any_applies_of_parsed hparse]
  rw [passes_eq, hdecide, Bool.and_right_comm, ← passes_eq]

/-- A path that passes with regard to ignore files passes without. -/
theorem passes_of_honouring (h : filter.passes tree path = true) :
    filter.withoutIgnoreFiles.passes tree path = true := by
  rw [passes_eq, Bool.and_eq_true] at h
  rw [passes_eq, Bool.and_eq_true]
  exact ⟨h.1, rfl⟩

end

end PathFilter

end NamingLint
