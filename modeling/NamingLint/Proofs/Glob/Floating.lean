import NamingLint.Glob

/-!
# Patterns that overlook a leading dot

A pattern that begins with wildcards and goes on with a name covers a path with `./` in front
exactly if it covers the path without it (`accepts_dotted`).
-/

namespace NamingLint.Glob

/-- A token that covers any number of characters. -/
def Token.isWildcard : Token → Bool
  | .anySequence | .anyComponents => true
  | _ => false

/-- The tokens cover only texts that begin with a name: with a character that is no separator, and
another one of these behind it if the first may be a dot. -/
def beginsWithName : List Token → Bool
  | [] => false
  | first :: rest =>
    !first.isWildcard && !first.coversChar '/' && (!first.coversChar '.' ||
      rest.head?.any fun second => !second.isWildcard && !second.coversChar '/')

/-- The pattern begins with wildcards, behind which a name follows. -/
def Pattern.floats (pattern : Pattern) : Bool :=
  pattern.tokens.head?.any Token.isWildcard &&
    beginsWithName (pattern.tokens.dropWhile Token.isWildcard)

/-- Whether tokens cover a whole text. -/
def covers (tokens : List Token) : List Char → Bool :=
  tokens.foldr Token.acceptsThen List.isEmpty

theorem accepts_eq_covers {pattern : Pattern} {chars : List Char} :
    pattern.accepts chars = covers pattern.tokens chars := rfl

/-- No text is covered because of what stands in front of a separator at its beginning, or because
of a dot there. -/
structure LosesDot (test : List Char → Bool) : Prop where
  nil : test [] = false
  dot : test ['.'] = false
  separator : ∀ chars, test ('/' :: chars) = true → test chars = true
  dotted : ∀ chars, test ('.' :: '/' :: chars) = true → test chars = true

section

variable {token : Token} {tokens : List Token} {rest : List Char → Bool} {chars : List Char}

theorem accepts_then_nil (h : token.isWildcard = false) : token.acceptsThen rest [] = false := by
  cases token with
  | anySequence | anyComponents => cases h
  | literal | anyChar | oneOf | noneOf => rfl

theorem accepts_then_cons {c : Char} (h : token.isWildcard = false) :
    token.acceptsThen rest (c :: chars) = (token.coversChar c && rest chars) := by
  cases token with
  | anySequence | anyComponents => cases h
  | literal | anyChar | oneOf | noneOf => rfl

theorem loses_dot_of_name (h : beginsWithName tokens = true) : LosesDot (covers tokens) := by
  cases tokens with
  | nil => cases h
  | cons first tokens =>
      simp only [beginsWithName, Bool.and_eq_true, Bool.not_eq_true'] at h
      obtain ⟨⟨hfirst, hseparator⟩, hdot⟩ := h
      have hnil : covers (first :: tokens) [] = false := accepts_then_nil hfirst
      have hcons (c : Char) (chars : List Char) : covers (first :: tokens) (c :: chars) =
          (first.coversChar c && covers tokens chars) := accepts_then_cons hfirst
      -- A dot that the first token covers is followed by a character that is no separator.
      have hbehind : first.coversChar '.' = true → covers tokens [] = false ∧
          ∀ chars, covers tokens ('/' :: chars) = false := by
        intro hcovers
        cases tokens with
        | nil => simp [hcovers] at hdot
        | cons second tokens =>
            simp only [hcovers, Bool.not_true, Bool.false_or, List.head?_cons, Option.any_some,
              Bool.and_eq_true, Bool.not_eq_true'] at hdot
            refine ⟨accepts_then_nil hdot.1, fun chars => ?_⟩
            rw [covers, List.foldr_cons, accepts_then_cons hdot.1, hdot.2, Bool.false_and]
      refine ⟨hnil, ?_, fun chars hcovers => ?_, fun chars hcovers => ?_⟩
      · rw [hcons]
        exact Bool.and_eq_false_imp.2 fun hcovers => (hbehind hcovers).1
      · rw [hcons, hseparator] at hcovers
        cases hcovers
      · rw [hcons, Bool.and_eq_true] at hcovers
        rw [(hbehind hcovers.1).2 chars] at hcovers
        cases hcovers.2

theorem mem_suffixes_self (chars : List Char) : chars ∈ suffixes chars := by
  cases chars <;> simp [suffixes]

/-- A wildcard hands on to the rest what it does not cover itself. -/
theorem LosesDot.wildcard (h : LosesDot rest) (hwildcard : token.isWildcard = true) :
    LosesDot (token.acceptsThen rest) := by
  have hself {test : List Char → Bool} (chars : List Char) (htest : test chars = true) :
      (suffixes chars).any test = true :=
    List.any_eq_true.2 ⟨chars, mem_suffixes_self chars, htest⟩
  cases token with
  | literal | anyChar | oneOf | noneOf => cases hwildcard
  | anySequence =>
      refine ⟨by simp [Token.acceptsThen, suffixes, h.nil],
        by simp [Token.acceptsThen, suffixes, h.nil, h.dot], fun chars hcovers => ?_,
        fun chars hcovers => ?_⟩
      · simp only [Token.acceptsThen, suffixes, List.any_cons, Bool.or_eq_true] at hcovers ⊢
        exact hcovers.elim (fun hrest => hself chars (h.separator chars hrest)) id
      · simp only [Token.acceptsThen, suffixes, List.any_cons, Bool.or_eq_true] at hcovers ⊢
        rcases hcovers with hrest | hrest | hrest
        · exact hself chars (h.dotted chars hrest)
        · exact hself chars (h.separator chars hrest)
        · exact hrest
  | anyComponents =>
      refine ⟨by simp [Token.acceptsThen, afterSeparators, h.nil],
        by simp [Token.acceptsThen, afterSeparators, h.nil, h.dot], fun chars hcovers => ?_,
        fun chars hcovers => ?_⟩
      · simp only [Token.acceptsThen, afterSeparators, if_true, List.any_cons, h.nil,
          Bool.or_false, Bool.or_eq_true] at hcovers ⊢
        exact hcovers.elim (fun hrest => .inl (h.separator chars hrest)) id
      · simp only [Token.acceptsThen, afterSeparators, Char.reduceEq, if_false, if_true,
          List.any_cons, h.nil, Bool.or_false, Bool.or_eq_true] at hcovers ⊢
        exact hcovers.elim (fun hrest => .inl (h.dotted chars hrest)) id

/-- A wildcard covers whatever stands in front of a text that it helps to cover. -/
theorem wildcard_dotted (hwildcard : token.isWildcard = true)
    (h : token.acceptsThen rest chars = true) :
    token.acceptsThen rest ('.' :: '/' :: chars) = true := by
  cases token with
  | literal | anyChar | oneOf | noneOf => cases hwildcard
  | anySequence =>
      simp only [Token.acceptsThen, suffixes, List.any_cons, Bool.or_eq_true] at h ⊢
      exact .inr (.inr h)
  | anyComponents =>
      simp only [Token.acceptsThen, afterSeparators, Char.reduceEq, if_false, if_true,
        List.any_cons, Bool.or_eq_true] at h ⊢
      exact h.elim (fun hrest => .inl (.inr hrest)) .inr

theorem loses_dot_of_floats (h : beginsWithName (tokens.dropWhile Token.isWildcard) = true) :
    LosesDot (covers tokens) := by
  induction tokens with
  | nil => cases h
  | cons token tokens ih =>
      cases hwildcard : token.isWildcard with
      | true =>
          rw [List.dropWhile_cons_of_pos hwildcard] at h
          exact (ih h).wildcard hwildcard
      | false =>
          rw [List.dropWhile_cons_of_neg (by simp [hwildcard])] at h
          exact loses_dot_of_name h

/-- Neither the dot itself nor a dot in front of a path makes a difference. -/
theorem accepts_dotted {pattern : Pattern} (h : pattern.floats = true) :
    pattern.accepts ['.'] = false ∧
      ∀ chars, pattern.accepts ('.' :: '/' :: chars) = pattern.accepts chars := by
  obtain ⟨hfirst, hname⟩ := Bool.and_eq_true_iff.1 h
  have hloses := loses_dot_of_floats hname
  refine ⟨hloses.dot, fun chars => Bool.eq_iff_iff.2 ⟨hloses.dotted chars, fun hcovers => ?_⟩⟩
  obtain ⟨first, hhead, hwildcard⟩ := (Option.any_eq_true _ _).1 hfirst
  obtain ⟨tokens, htokens⟩ := List.head?_eq_some_iff.1 hhead
  rw [accepts_eq_covers, htokens] at hcovers ⊢
  exact wildcard_dotted hwildcard hcovers

end

end NamingLint.Glob
