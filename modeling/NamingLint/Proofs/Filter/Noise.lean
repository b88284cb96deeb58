import Mathlib.Data.List.TakeWhile
import Mathlib.Logic.Relation
import NamingLint.Proofs.FileTree.Rewritten
import NamingLint.Proofs.Filter.Cascade
import NamingLint.Proofs.Text.Lines

/-!
# Lines without effect

An ignore file is read for its patterns alone. The patterns of a text are those of its parts, where
one part ends and the other one starts with a line (`patterns_of_starts`, `patterns_of_ends`), and
so neither white space around a line nor a line without a pattern makes a difference.
`noise_without_effect` says this of what a filter decides about any path.
-/

namespace NamingLint

namespace Unicode

/-- White space and nothing else. -/
def IsBlank (text : List Char) : Prop :=
  ∀ c ∈ text, isWhiteSpace c = true

section

variable {text blanks : List Char} {c : Char}

theorem blank_single (h : isWhiteSpace c = true) : IsBlank [c] :=
  List.forall_mem_singleton.2 h

theorem trim_blank (h : IsBlank blanks) : trim blanks = [] := by
  rw [trim, trimFront, List.dropWhile_eq_nil_iff.2 h]
  rfl

theorem trim_blank_append (h : IsBlank blanks) : trim (blanks ++ text) = trim text := by
  rw [trim, trimFront, List.dropWhile_append_of_pos h]
  rfl

theorem trim_back_append_blank (h : IsBlank blanks) :
    trimBack (text ++ blanks) = trimBack text := by
  unfold trimBack
  rw [List.reverse_append,
    List.dropWhile_append_of_pos fun c hc => h c (List.mem_reverse.1 hc)]

theorem trim_append_blank (h : IsBlank blanks) : trim (text ++ blanks) = trim text := by
  by_cases htext : IsBlank text
  · rw [trim_blank_append htext, trim_blank h, trim_blank htext]
  · have hfront : trimFront (text ++ blanks) = trimFront text ++ blanks := by
      have hsome : (text.dropWhile isWhiteSpace).isEmpty = false := by
        rw [← Bool.not_eq_true, List.isEmpty_iff, List.dropWhile_eq_nil_iff]
        exact htext
      rw [trimFront, List.dropWhile_append, hsome, if_neg Bool.false_ne_true]
      rfl
    rw [trim, hfront, trim_back_append_blank h]
    rfl

end

end Unicode

namespace PathFilter

open Unicode (IsBlank)

/-! ## The patterns of a text -/

/-- The pattern of a line, if it has one. -/
def patternOf (line : List Char) : Option FilterPattern :=
  let text := Unicode.trim line
  if !text.isEmpty && text.head? ≠ some '#' then (FilterPattern.parse text).toOption else none

/-- The patterns of the lines of a text. -/
def patternsOf (text : List Char) : List FilterPattern :=
  (Text.linesOf text).filterMap patternOf

/-- A line without a pattern: it is empty, a comment or no pattern once it is trimmed. -/
inductive IsNoise (line : List Char) : Prop where
  | blank : IsBlank line → IsNoise line
  | comment : (Unicode.trim line).head? = some '#' → IsNoise line
  | malformed {error : Glob.PatternError} :
      FilterPattern.parse (Unicode.trim line) = .error error → IsNoise line

section

variable {line blanks front rest text other : List Char} {c : Char}

theorem valid_patterns_eq (content : String) :
    validPatterns (ignoreLines content) = patternsOf content.toList := by
  unfold validPatterns ignoreLines patternsOf
  rw [List.filterMap_filter, List.filterMap_map]
  rfl

theorem IsNoise.no_pattern (h : IsNoise line) : patternOf line = none := by
  unfold patternOf
  cases h with
  | blank hblank => simp [Unicode.trim_blank hblank]
  | comment hcomment => simp [hcomment]
  | malformed herror => simp [herror, Except.toOption]

theorem pattern_of_blank_append (h : IsBlank blanks) :
    patternOf (blanks ++ line) = patternOf line := by
  rw [patternOf, Unicode.trim_blank_append h]
  rfl

theorem pattern_of_append_blank (h : IsBlank blanks) :
    patternOf (line ++ blanks) = patternOf line := by
  rw [patternOf, Unicode.trim_append_blank h]
  rfl

/-- A text without line feeds has the pattern of its only line. -/
theorem patterns_of_line (h : '\n' ∉ line) : patternsOf line = (patternOf line).toList := by
  by_cases hempty : line = []
  · rw [hempty]
    rfl
  · rw [patternsOf, Text.lines_of_last h hempty]
    cases hpattern : patternOf line <;> simp [hpattern]

theorem patterns_of_noise (hline : '\n' ∉ line) (h : IsNoise line) : patternsOf line = [] := by
  rw [patterns_of_line hline, h.no_pattern]
  rfl

/-- The patterns in front of a line feed are followed by those behind it. -/
theorem patterns_of_feed (front rest : List Char) :
    patternsOf (front ++ '\n' :: rest) = patternsOf front ++ patternsOf rest := by
  have hfirst {line : List Char} (hline : '\n' ∉ line) (rest : List Char) :
      patternsOf (line ++ '\n' :: rest) = patternsOf line ++ patternsOf rest := by
    obtain ⟨shown, hshown, hlines⟩ := Text.lines_of_feed hline
    have hpattern : patternOf line = patternOf shown := by
      rcases hshown with rfl | rfl
      · rfl
      · exact pattern_of_append_blank (Unicode.blank_single rfl)
    rw [patterns_of_line hline, hpattern, patternsOf, hlines]
    cases hshown : patternOf shown <;> simp [hshown, patternsOf]
  induction front using Text.feeds_induction with
  | last line hline => exact hfirst hline rest
  | feed line more hline ih =>
      rw [List.append_assoc, List.cons_append, hfirst hline, hfirst hline, ih, List.append_assoc]

/-! ## White space at both ends -/

theorem patterns_of_blank_cons (hblank : Unicode.isWhiteSpace c = true) (rest : List Char) :
    patternsOf (c :: rest) = patternsOf rest := by
  by_cases hc : c = '\n'
  · rw [hc]
    exact patterns_of_feed [] rest
  · have hline {line : List Char} (hline : '\n' ∉ line) :
        patternsOf (c :: line) = patternsOf line := by
      have hcons : '\n' ∉ c :: line := List.not_mem_cons_of_ne_of_not_mem (Ne.symm hc) hline
      have hpattern : patternOf ([c] ++ line) = patternOf line :=
        pattern_of_blank_append (Unicode.blank_single hblank)
      rw [patterns_of_line hcons, patterns_of_line hline, ← hpattern]
      rfl
    induction rest using Text.feeds_induction with
    | last line hlast => exact hline hlast
    | feed line more hfeed _ =>
        rw [← List.cons_append, patterns_of_feed, patterns_of_feed, hline hfeed]

theorem patterns_of_append_blank (hblank : Unicode.isWhiteSpace c = true) (front : List Char) :
    patternsOf (front ++ [c]) = patternsOf front := by
  by_cases hc : c = '\n'
  · rw [hc, patterns_of_feed]
    exact List.append_nil _
  · induction front using Text.feeds_induction with
    | last line hline =>
        have happend : '\n' ∉ line ++ [c] := by
          simpa [hline] using Ne.symm hc
        rw [patterns_of_line happend, patterns_of_line hline,
          pattern_of_append_blank (Unicode.blank_single hblank)]
    | feed line more _ ih =>
        rw [List.append_assoc, List.cons_append, patterns_of_feed, patterns_of_feed, ih]

theorem patterns_of_blanks_append (h : IsBlank blanks) (rest : List Char) :
    patternsOf (blanks ++ rest) = patternsOf rest := by
  induction blanks with
  | nil => rfl
  | cons c blanks ih =>
      obtain ⟨hc, hblanks⟩ := List.forall_mem_cons.1 h
      rw [List.cons_append, patterns_of_blank_cons hc, ih hblanks]

theorem patterns_of_append_blanks (h : IsBlank blanks) (front : List Char) :
    patternsOf (front ++ blanks) = patternsOf front := by
  induction blanks generalizing front with
  | nil => rw [List.append_nil]
  | cons c blanks ih =>
      obtain ⟨hc, hblanks⟩ := List.forall_mem_cons.1 h
      rw [List.append_cons, ih hblanks, patterns_of_append_blank hc]

/-! ## Between lines -/

/-- A line starts behind this text. -/
inductive StartsLine : List Char → Prop where
  | first : StartsLine []
  | feed (before : List Char) : StartsLine (before ++ ['\n'])

/-- A line ends in front of this text. -/
inductive EndsLine : List Char → Prop where
  | last : EndsLine []
  | feed (more : List Char) : EndsLine ('\n' :: more)
  | returnFeed (more : List Char) : EndsLine ('\r' :: '\n' :: more)

theorem patterns_of_starts (h : StartsLine front) (rest : List Char) :
    patternsOf (front ++ rest) = patternsOf front ++ patternsOf rest := by
  cases h with
  | first => rfl
  | feed before =>
      have hfront : patternsOf (before ++ ['\n']) = patternsOf before :=
        patterns_of_append_blank rfl before
      rw [← List.append_cons, patterns_of_feed, hfront]

theorem patterns_of_ends (h : EndsLine rest) (front : List Char) :
    patternsOf (front ++ rest) = patternsOf front ++ patternsOf rest := by
  cases h with
  | last => rw [List.append_nil]; exact (List.append_nil _).symm
  | feed more => rw [patterns_of_feed, patterns_of_blank_cons rfl]
  | returnFeed more =>
      rw [List.append_cons, patterns_of_feed, patterns_of_append_blank rfl,
        patterns_of_blank_cons rfl, patterns_of_blank_cons rfl]

/-- A change of a text that its patterns do not depend on. White space may hold line feeds, and so
stand for blank lines, too. -/
inductive NoiseEdit : List Char → List Char → Prop where
  | lineBefore {front line : List Char} : StartsLine front → '\n' ∉ line → IsNoise line →
      ∀ rest, NoiseEdit (front ++ rest) (front ++ (line ++ '\n' :: rest))
  | lineBehind {line rest : List Char} : EndsLine rest → '\n' ∉ line → IsNoise line →
      ∀ front, NoiseEdit (front ++ rest) (front ++ '\n' :: line ++ rest)
  | leading {front blanks : List Char} : StartsLine front → IsBlank blanks →
      ∀ rest, NoiseEdit (front ++ rest) (front ++ (blanks ++ rest))
  | trailing {blanks rest : List Char} : EndsLine rest → IsBlank blanks →
      ∀ front, NoiseEdit (front ++ rest) (front ++ blanks ++ rest)
  | lineEnd (front rest : List Char) :
      NoiseEdit (front ++ '\n' :: rest) (front ++ '\r' :: '\n' :: rest)

theorem NoiseEdit.same_patterns (h : NoiseEdit text other) :
    patternsOf other = patternsOf text := by
  cases h with
  | lineBefore hstart hline hnoise rest =>
      rw [patterns_of_starts hstart, patterns_of_starts hstart, patterns_of_feed,
        patterns_of_noise hline hnoise, List.nil_append]
  | lineBehind hend hline hnoise front =>
      rw [patterns_of_ends hend, patterns_of_ends hend, patterns_of_feed,
        patterns_of_noise hline hnoise, List.append_nil]
  | leading hstart hblank rest =>
      rw [patterns_of_starts hstart, patterns_of_starts hstart, patterns_of_blanks_append hblank]
  | trailing hend hblank front =>
      rw [patterns_of_ends hend, patterns_of_ends hend, patterns_of_append_blanks hblank]
  | lineEnd front rest =>
      rw [List.append_cons, patterns_of_feed, patterns_of_feed, patterns_of_append_blank rfl]

/-- Any number of changes in either direction leave the patterns as they are. -/
theorem same_patterns (h : Relation.EqvGen NoiseEdit text other) :
    patternsOf other = patternsOf text := by
  induction h with
  | rel _ _ hedit => exact hedit.same_patterns
  | refl _ => rfl
  | symm _ _ _ ih => exact ih.symm
  | trans _ _ _ _ _ hfirst hsecond => exact hsecond.trans hfirst

end

/-! ## Ignore files -/

/-- Contents of files that differ in nothing but such changes. Any content, text or not, may also be
left as it is. -/
inductive SameButNoise : ByteArray → ByteArray → Prop where
  | unchanged (content : ByteArray) : SameButNoise content content
  | edited {text other : String} : Relation.EqvGen NoiseEdit text.toList other.toList →
      SameButNoise text.toUTF8 other.toUTF8

section

variable {tree other : FileTree} {name : String} {path file : Path} {directories : List Path}
variable {included : Bool}

theorem load_rewritten (h : tree.Rewritten SameButNoise other) :
    (loadIgnoreFile other file).result = (loadIgnoreFile tree file).result := by
  unfold loadIgnoreFile
  rcases FileTree.read_rewritten h with
    ⟨cause, htree, hother⟩ | ⟨content, changed, hcontent, htree, hother⟩
  · rw [htree, hother]
  · rw [htree, hother]
    cases hcontent with
    | unchanged => rfl
    | edited hedits =>
        simp only [FileTree.text_of_encoded, result_ignore_patterns, valid_patterns_eq,
          same_patterns hedits]

theorem decide_by_files_rewritten (h : tree.Rewritten SameButNoise other) :
    (decideByFiles other name path directories included).result =
      (decideByFiles tree name path directories included).result := by
  induction directories generalizing included with
  | nil => rfl
  | cons directory directories ih =>
      rw [decideByFiles, decideByFiles,
        FileTree.is_file_bisimilar FileTree.rewritten_bisimulation h]
      split
      · rw [Journal.result_bind, Journal.result_bind, load_rewritten h]
        exact bind_congr fun patterns => ih
      · exact ih

/-- A filter decides about a path if all ignore files above it are texts, whatever their lines. -/
theorem decided_of_texts {filter : PathFilter}
    (h : ∀ name, filter.ignoreFile = some name →
      ∀ directory ∈ path.parents, ¬ Illegible tree (directory.join ⟨name⟩)) :
    ∃ verdict, (filter.shouldAnalyze tree path).result = .ok verdict := by
  unfold shouldAnalyze
  split
  · exact ⟨false, rfl⟩
  · cases hname : filter.ignoreFile with
    | none => exact ⟨true, rfl⟩
    | some name => exact ⟨_, decide_above_ok (h name hname)⟩

/-- Lines that are blank, comments or no patterns, white space around lines and carriage returns at
their ends make no difference in any ignore file to what a filter decides about any path. The filter
does decide, as long as all ignore files above the path are texts. -/
theorem noise_without_effect (filter : PathFilter) (tree : FileTree) (path : Path) :
    (∀ other, tree.Rewritten SameButNoise other →
      (filter.shouldAnalyze other path).result = (filter.shouldAnalyze tree path).result) ∧
    ((∀ name, filter.ignoreFile = some name →
        ∀ directory ∈ path.parents, ¬ Illegible tree (directory.join ⟨name⟩)) →
      ∃ verdict, (filter.shouldAnalyze tree path).result = .ok verdict) := by
  refine ⟨fun other hother => ?_, decided_of_texts⟩
  unfold shouldAnalyze
  split
  · rfl
  · cases filter.ignoreFile with
    | none => rfl
    | some name => exact decide_by_files_rewritten hother

end

/-! ## The same patterns in a neat file and in another one -/

/-- A tree with an ignore file and nothing else. -/
def ruledTree (rules : String) : FileTree :=
  .ofEntries [(".ig", .ofText rules)]

theorem read_ruled (rules : String) : (ruledTree rules).readText ⟨".ig"⟩ = .ok rules :=
  FileTree.read_encoded (FileTree.resolve_name (by decide) rfl nofun)

theorem neat_edited :
    Relation.EqvGen NoiseEdit "*\n!a.rs".toList "# all\n\t*\r\n!a.rs \n[".toList := by
  have hcomment : NoiseEdit "*\n!a.rs".toList "# all\n*\n!a.rs".toList :=
    .lineBefore .first (show '\n' ∉ "# all".toList by decide) (.comment (by decide))
      "*\n!a.rs".toList
  have hindented : NoiseEdit "# all\n*\n!a.rs".toList "# all\n\t*\n!a.rs".toList :=
    .leading (.feed "# all".toList) (Unicode.blank_single rfl) "*\n!a.rs".toList
  have hreturn : NoiseEdit "# all\n\t*\n!a.rs".toList "# all\n\t*\r\n!a.rs".toList :=
    .lineEnd "# all\n\t*".toList "!a.rs".toList
  have hpadded : NoiseEdit "# all\n\t*\r\n!a.rs".toList "# all\n\t*\r\n!a.rs ".toList :=
    .trailing .last (Unicode.blank_single rfl) "# all\n\t*\r\n!a.rs".toList
  have hbracket : FilterPattern.parse (Unicode.trim ['[']) = .error ⟨0, .invalidRange⟩ := by cbv
  have hmalformed : NoiseEdit "# all\n\t*\r\n!a.rs ".toList
      "# all\n\t*\r\n!a.rs \n[".toList :=
    .lineBehind .last (by decide) (.malformed hbracket) "# all\n\t*\r\n!a.rs ".toList
  exact .trans _ _ _ (.rel _ _ hcomment) <| .trans _ _ _ (.rel _ _ hindented) <|
    .trans _ _ _ (.rel _ _ hreturn) <| .trans _ _ _ (.rel _ _ hpadded) (.rel _ _ hmalformed)

theorem noisy_files_decide :
    let filter : PathFilter := ⟨[], some ".ig"⟩
    let noisy := ruledTree "# all\n\t*\r\n!a.rs \n["
    (∃ verdict, (filter.shouldAnalyze noisy ⟨"a.rs"⟩).result = .ok verdict) ∧
      (filter.shouldAnalyze noisy ⟨"a.rs"⟩).result = .ok true ∧
      (filter.shouldAnalyze noisy ⟨"b.rs"⟩).result = .ok false := by
  intro filter noisy
  let neat := ruledTree "*\n!a.rs"
  have hnoisy : neat.Rewritten SameButNoise noisy :=
    ⟨.directory (.cons (.file (.edited neat_edited)) .nil), rfl⟩
  have hfirst : (filter.shouldAnalyze neat ⟨"a.rs"⟩).result = .ok true := by
    rw [decided_by_one_file (by decide) (by decide) (read_ruled _)]
    cbv
  have hsecond : (filter.shouldAnalyze neat ⟨"b.rs"⟩).result = .ok false := by
    rw [decided_by_one_file (by decide) (by decide) (read_ruled _)]
    cbv
  refine ⟨(noise_without_effect filter noisy ⟨"a.rs"⟩).2 fun name hname => ?_, ?_, ?_⟩
  · obtain rfl := Option.some.inj hname
    have hparents : (⟨"a.rs"⟩ : Path).parents = [⟨""⟩] := by decide
    rw [hparents, List.forall_mem_singleton, Path.join_empty]
    exact not_illegible_of_read (read_ruled _)
  · rw [(noise_without_effect filter neat ⟨"a.rs"⟩).1 noisy hnoisy, hfirst]
  · rw [(noise_without_effect filter neat ⟨"b.rs"⟩).1 noisy hnoisy, hsecond]

end PathFilter

end NamingLint
