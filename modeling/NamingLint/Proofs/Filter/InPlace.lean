import NamingLint.Analysis.Run
import NamingLint.Proofs.Filter.Reading

/-!
# Changing a filter in place

A filter that is given its patterns one after the other is the filter that is built from all of them
at once. An addition that fails leaves the filter as it was, so that nothing that is done with the
filter afterwards can tell (`pushed_as_built`). A run of the analysis adds its patterns to a copy,
which comes to the same (`pushed_as_added`).
-/

namespace NamingLint.PathFilter

/-- The filter without patterns. -/
def empty (ignoreFile : Option String) : PathFilter :=
  ⟨[], ignoreFile⟩

/-- Two filters decide alike about every path of every file tree. -/
def SameVerdicts (filter other : PathFilter) : Prop :=
  ∀ tree path, filter.shouldAnalyze tree path = other.shouldAnalyze tree path

/-- Add patterns one after the other, up to the first text that is none. -/
def pushPatterns (texts : List String) : EStateM Failure PathFilter Unit :=
  texts.forM pushPattern

/-- Add a pattern, or go on without it if the text is none. -/
def tryPattern (text : String) : EStateM Failure PathFilter Unit :=
  try pushPattern text catch _ => pure ()

/-- Add those of the texts that are patterns. -/
def tryPatterns (texts : List String) : EStateM Failure PathFilter Unit :=
  texts.forM tryPattern

instance (text : String) : Decidable (IsPattern text) :=
  match h : FilterPattern.parse text.toList with
  | .ok pattern => .isTrue ⟨pattern, h⟩
  | .error _ => .isFalse fun ⟨_, hpattern⟩ => by cases h.symm.trans hpattern

section

variable {filter left : PathFilter} {text : String} {texts : List String}
variable {ignoreFile : Option String} {failure : Failure}

/-! ## One addition -/

theorem push_pattern_ok {pattern : FilterPattern} (h : parsePattern text = .ok pattern) :
    (pushPattern text).run filter =
      .ok () { filter with patterns := filter.patterns ++ [pattern] } := by
  unfold pushPattern
  rw [h]
  rfl

theorem push_pattern_error (filter : PathFilter) (h : parsePattern text = .error failure) :
    (pushPattern text).run filter = .error failure filter := by
  unfold pushPattern
  rw [h]
  rfl

/-- An addition fails at a text that is no pattern and leaves the filter as it was. -/
theorem push_pattern_error_iff : (pushPattern text).run filter = .error failure left ↔
    parsePattern text = .error failure ∧ left = filter := by
  cases h : parsePattern text with
  | error failed => simp [push_pattern_error filter h, eq_comm]
  | ok pattern => simp [push_pattern_ok h]

/-- Adding in place gives the filter that adding to a copy gives. -/
theorem push_pattern_eq : (pushPattern text).run filter =
    match filter.addPattern text with
    | .ok extended => .ok () extended
    | .error failure => .error failure filter := by
  unfold addPattern
  cases h : parsePattern text with
  | error failure => exact push_pattern_error filter h
  | ok pattern => exact push_pattern_ok h

theorem not_is_pattern_of_error (h : parsePattern text = .error failure) : ¬ IsPattern text := by
  obtain ⟨error, herror, _⟩ := parse_pattern_error_iff.1 h
  intro ⟨pattern, hpattern⟩
  cases herror.symm.trans hpattern

/-- An addition that may be left out is the addition if it succeeds, and otherwise nothing. -/
theorem try_pattern_eq :
    tryPattern text = if IsPattern text then pushPattern text else pure () := by
  funext filter
  show EStateM.tryCatch (pushPattern text) (fun _ => pure ()) filter = _
  unfold EStateM.tryCatch
  cases h : parsePattern text with
  | error failure =>
      have hpush : pushPattern text filter = .error failure filter := push_pattern_error filter h
      rw [if_neg (not_is_pattern_of_error h), hpush]
      rfl
  | ok pattern =>
      have hpush : pushPattern text filter = .ok () _ := push_pattern_ok h
      rw [if_pos ⟨pattern, parse_pattern_ok_iff.1 h⟩, hpush]

/-! ## A run of additions -/

theorem of_patterns_ok {patterns : List FilterPattern} (h : parsePatterns texts = .ok patterns) :
    ofPatterns texts ignoreFile = .ok ⟨patterns, ignoreFile⟩ := by
  rw [ofPatterns, h]
  rfl

theorem of_patterns_error (h : parsePatterns texts = .error failure) :
    ofPatterns texts ignoreFile = .error failure := by
  rw [ofPatterns, h]
  rfl

theorem push_patterns_ok {patterns : List FilterPattern} (h : parsePatterns texts = .ok patterns) :
    (pushPatterns texts).run filter =
      .ok () { filter with patterns := filter.patterns ++ patterns } := by
  induction texts generalizing filter patterns with
  | nil =>
      obtain rfl : [] = patterns := Except.ok.inj h
      show EStateM.Result.ok () filter = .ok () { filter with patterns := filter.patterns ++ [] }
      rw [List.append_nil]
  | cons text texts ih =>
      obtain ⟨pattern, rest, hpattern, hrest, rfl⟩ := parse_patterns_cons_iff.1 h
      show (pushPattern text >>= fun _ => pushPatterns texts).run filter = _
      rw [EStateM.run_bind, push_pattern_ok (parse_pattern_ok_iff.2 hpattern)]
      show (pushPatterns texts).run _ = _
      rw [ih hrest, List.append_assoc]
      rfl

/-- A run of additions stops at the first text that is no pattern, with the patterns in front of it
added. -/
theorem push_patterns_error (filter : PathFilter) (h : parsePatterns texts = .error failure) :
    ∃ front, (pushPatterns texts).run filter =
      .error failure { filter with patterns := filter.patterns ++ front } := by
  induction texts generalizing filter with
  | nil => cases h
  | cons text texts ih =>
      show ∃ front, (pushPattern text >>= fun _ => pushPatterns texts).run filter = _
      simp only [EStateM.run_bind]
      cases hfirst : parsePattern text with
      | error failed =>
          unfold parsePatterns at h
          rw [hfirst] at h
          obtain rfl : failed = failure := Except.error.inj h
          refine ⟨[], ?_⟩
          rw [push_pattern_error filter hfirst, List.append_nil]
      | ok pattern =>
          obtain ⟨front, hfront⟩ := ih _ ((parse_patterns_error_behind hfirst).1 h)
          refine ⟨pattern :: front, ?_⟩
          rw [push_pattern_ok hfirst]
          show (pushPatterns texts).run _ = _
          rw [hfront, List.append_assoc]
          rfl

/-- Additions that may be left out are the additions of the texts that are patterns. -/
theorem try_patterns_eq :
    tryPatterns texts = pushPatterns (texts.filter fun text => IsPattern text) := by
  induction texts with
  | nil => rfl
  | cons text texts ih =>
      show (tryPattern text >>= fun _ => tryPatterns texts) = _
      rw [ih, try_pattern_eq, List.filter_cons]
      by_cases h : IsPattern text
      · rw [if_pos h, if_pos (decide_eq_true h)]
        rfl
      · rw [if_neg h, if_neg (by simpa using h)]
        rfl

end

/-- Building a filter from texts and giving the texts to an empty filter one after the other both
fail with the first text that is no pattern, or both give filters with the same verdicts. A failing
addition changes no verdict and nothing that is done after it, so that a run of additions that may
fail gives the filter of the texts that are patterns. -/
theorem pushed_as_built (texts : List String) (ignoreFile : Option String) :
    ofPatterns [] ignoreFile = .ok (empty ignoreFile) ∧
    ((∃ text error left, FirstFault texts text error ∧
        ofPatterns texts ignoreFile = .error (.pattern (.path text error)) ∧
        (pushPatterns texts).run (empty ignoreFile) =
          .error (.pattern (.path text error)) left) ∨
      ∃ built pushed, ofPatterns texts ignoreFile = .ok built ∧
        (pushPatterns texts).run (empty ignoreFile) = .ok () pushed ∧
        built.SameVerdicts pushed) ∧
    (∀ filter text failure left, (pushPattern text).run filter = .error failure left →
      left.SameVerdicts filter ∧
      ∀ (α : Type) (later : EStateM Failure PathFilter α),
        (do tryPattern text; later : EStateM Failure PathFilter α).run filter =
          later.run filter) ∧
    ∃ kept, ofPatterns (texts.filter fun text => IsPattern text) ignoreFile = .ok kept ∧
      (tryPatterns texts).run (empty ignoreFile) = .ok () kept := by
  have hvalid : ∀ text ∈ texts.filter fun text => IsPattern text, IsPattern text := by
    intro text htext
    exact of_decide_eq_true (List.mem_filter.1 htext).2
  obtain ⟨kept, hkept⟩ := parse_patterns_ok_iff.2 hvalid
  refine ⟨rfl, ?_, ?_, ⟨kept, ignoreFile⟩, of_patterns_ok hkept, ?_⟩
  · cases h : parsePatterns texts with
    | error failure =>
        obtain ⟨text, error, hfault, rfl⟩ := parse_patterns_error_iff.1 h
        obtain ⟨front, hfront⟩ := push_patterns_error (empty ignoreFile) h
        exact .inl ⟨text, error, _, hfault, of_patterns_error h, hfront⟩
    | ok patterns =>
        exact .inr ⟨_, _, of_patterns_ok h, push_patterns_ok h, fun tree path => rfl⟩
  · intro filter text failure left hfail
    obtain ⟨herror, rfl⟩ := push_pattern_error_iff.1 hfail
    refine ⟨fun tree path => rfl, fun α later => ?_⟩
    rw [try_pattern_eq, if_neg (not_is_pattern_of_error herror)]
    rfl
  · rw [try_patterns_eq]
    exact push_patterns_ok hkept

/-- A text with an open bracket is skipped, and what is added after it counts as ever. -/
theorem broken_pattern_skipped :
    ∃ failure, (pushPattern "[bad").run (empty none) = .error failure (empty none) ∧
      (do tryPattern "[bad"; pushPatterns ["*.rs", "!keep.rs"]).run (empty none) =
        (pushPatterns ["*.rs", "!keep.rs"]).run (empty none) := by
  have hbad : parsePattern "[bad" = .error (.pattern (.path "[bad" ⟨0, .invalidRange⟩)) := by cbv
  have hfail := push_pattern_error (empty none) hbad
  exact ⟨_, hfail, ((pushed_as_built [] none).2.2.1 _ _ _ _ hfail).2 Unit _⟩

/-- Adding texts in place and adding them to a copy both fail in the same way, or both give the same
filter. -/
theorem pushed_as_added (filter : PathFilter) (texts : List String) :
    filter.addPatterns texts =
      match (pushPatterns texts).run filter with
      | .ok () extended => .ok extended
      | .error failure _ => .error failure := by
  induction texts generalizing filter with
  | nil => rfl
  | cons text texts ih =>
      show filter.addPatterns (text :: texts) =
        match (pushPattern text >>= fun _ => pushPatterns texts).run filter with
        | .ok () extended => .ok extended
        | .error failure _ => .error failure
      rw [EStateM.run_bind, push_pattern_eq, addPatterns]
      cases filter.addPattern text with
      | error failure => rfl
      | ok extended => exact ih extended

end NamingLint.PathFilter
