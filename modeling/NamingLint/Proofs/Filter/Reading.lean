import NamingLint.Filter

/-!
# Reading the patterns of a filter

The patterns of a filter are read one after the other, and the first text that is no pattern is
reported (`parse_patterns_error_iff`).
-/

namespace NamingLint.PathFilter

/-- A text stands for a pattern. -/
def IsPattern (text : String) : Prop :=
  ∃ pattern, FilterPattern.parse text.toList = .ok pattern

/-- `FirstFault texts text error` says that `text` is the first of the texts that stands for no
pattern, for the reason `error`. -/
inductive FirstFault : List String → String → Glob.PatternError → Prop where
  | here {text rest error} :
      FilterPattern.parse text.toList = .error error → FirstFault (text :: rest) text error
  | later {first rest text error} :
      IsPattern first → FirstFault rest text error → FirstFault (first :: rest) text error

section

variable {text : String} {texts : List String} {failure : Failure}

theorem parse_pattern_ok_iff {pattern : FilterPattern} :
    parsePattern text = .ok pattern ↔ FilterPattern.parse text.toList = .ok pattern := by
  unfold parsePattern
  cases FilterPattern.parse text.toList <;> simp

theorem parse_pattern_error_iff :
    parsePattern text = .error failure ↔
      ∃ error, FilterPattern.parse text.toList = .error error ∧
        failure = .pattern (.path text error) := by
  unfold parsePattern
  cases FilterPattern.parse text.toList <;> simp [eq_comm]

theorem parse_patterns_cons_iff {patterns : List FilterPattern} :
    parsePatterns (text :: texts) = .ok patterns ↔
      ∃ pattern rest, FilterPattern.parse text.toList = .ok pattern ∧
        parsePatterns texts = .ok rest ∧ patterns = pattern :: rest := by
  cases hfirst : FilterPattern.parse text.toList with
  | error error => simp [parsePatterns, parsePattern, hfirst]
  | ok pattern =>
      cases hrest : parsePatterns texts <;>
        simp [parsePatterns, parsePattern, hfirst, hrest, Except.map, eq_comm]

/-- Behind a pattern, reading fails as it does without the pattern. -/
theorem parse_patterns_error_behind {pattern : FilterPattern}
    (hpattern : parsePattern text = .ok pattern) :
    parsePatterns (text :: texts) = .error failure ↔ parsePatterns texts = .error failure := by
  cases hrest : parsePatterns texts <;> simp [parsePatterns, hpattern, hrest, Except.map]

/-- Reading succeeds exactly if all texts are patterns. -/
theorem parse_patterns_ok_iff :
    (∃ patterns, parsePatterns texts = .ok patterns) ↔ ∀ text ∈ texts, IsPattern text := by
  induction texts with
  | nil => simp [parsePatterns]
  | cons first rest ih =>
      rw [List.forall_mem_cons, ← ih]
      cases hfirst : parsePattern first with
      | error failed =>
          obtain ⟨error, herror, _⟩ := parse_pattern_error_iff.1 hfirst
          simp [parsePatterns, hfirst, IsPattern, herror]
      | ok pattern =>
          have hpattern : IsPattern first := ⟨pattern, parse_pattern_ok_iff.1 hfirst⟩
          cases hrest : parsePatterns rest <;>
            simp [parsePatterns, hfirst, hrest, hpattern, Except.map]

/-- Reading fails at the first text that is no pattern, and names it. -/
theorem parse_patterns_error_iff :
    parsePatterns texts = .error failure ↔
      ∃ text error, FirstFault texts text error ∧ failure = .pattern (.path text error) := by
  induction texts with
  | nil =>
      constructor
      · intro h
        cases h
      · rintro ⟨text, error, h, _⟩
        cases h
  | cons first rest ih =>
      cases hfirst : parsePattern first with
      | error failed =>
          obtain ⟨error, herror, rfl⟩ := parse_pattern_error_iff.1 hfirst
          simp only [parsePatterns, hfirst, Except.error.injEq]
          constructor
          · rintro rfl
            exact ⟨first, error, .here herror, rfl⟩
          · rintro ⟨text, other, h, rfl⟩
            cases h with
            | here hother => rw [Except.error.inj (herror.symm.trans hother)]
            | later hpattern =>
                obtain ⟨pattern, hpattern⟩ := hpattern
                cases herror.symm.trans hpattern
      | ok pattern =>
          have hpattern := parse_pattern_ok_iff.1 hfirst
          rw [parse_patterns_error_behind hfirst, ih]
          constructor
          · rintro ⟨text, error, h, rfl⟩
            exact ⟨text, error, .later ⟨pattern, hpattern⟩ h, rfl⟩
          · rintro ⟨text, error, h, rfl⟩
            cases h with
            | here herror => cases hpattern.symm.trans herror
            | later _ h => exact ⟨text, error, h, rfl⟩

end

end NamingLint.PathFilter
