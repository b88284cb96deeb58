/-!
# Glob patterns

A pattern is a list of tokens; `Pattern.accepts` says which texts it covers. A star covers any
characters, separators included, and a doubled star stands for a whole path component and covers
any number of components.
-/

namespace NamingLint.Glob

/-- Why a text is no pattern. -/
inductive PatternProblem where
  /-- Three or more stars in a row. -/
  | tooManyStars
  /-- A doubled star next to something that is no separator. -/
  | partialComponent
  /-- An opening bracket without a closing one in reach. -/
  | invalidRange
  deriving DecidableEq, Repr, Inhabited

/-- A problem with the place, counted in characters from 0, where it was noticed. -/
structure PatternError where
  position : Nat
  problem : PatternProblem
  deriving DecidableEq, Repr, Inhabited

namespace PatternError

/-- The wording of an error. -/
def message (error : PatternError) : String :=
  "Pattern syntax error near position " ++ toString error.position ++ ": " ++
    match error.problem with
    | .tooManyStars => "wildcards are either regular `*` or recursive `**`"
    | .partialComponent => "recursive wildcards must form a single path component"
    | .invalidRange => "invalid range pattern"

end PatternError

/-- A member of a bracketed class. -/
inductive ClassItem where
  | single (c : Char)
  /-- The characters from the first to the last, both included. -/
  | range (first last : Char)
  deriving DecidableEq, Repr

/-- Whether a class item covers a character. -/
def ClassItem.covers (c : Char) : ClassItem → Bool
  | single d => c == d
  | range first last => first ≤ c && c ≤ last

/-- One unit of a pattern. -/
inductive Token where
  | literal (c : Char)
  | anyChar
  | anySequence
  /-- A doubled star. -/
  | anyComponents
  | oneOf (items : List ClassItem)
  | noneOf (items : List ClassItem)
  deriving DecidableEq, Repr

/-- A parsed pattern. -/
structure Pattern where
  tokens : List Token
  deriving DecidableEq, Repr, Inhabited

/-! ## Reading -/

/-- The items of a bracketed class. -/
def classItems : List Char → List ClassItem
  | first :: '-' :: last :: rest => .range first last :: classItems rest
  | c :: rest => .single c :: classItems rest
  | [] => []

/-- Split a text behind the first closing bracket that follows at least `skip` characters; the
first part is without the bracket. -/
def splitClass (skip : Nat) (chars : List Char) : Option (List Char × List Char) :=
  let tail := chars.drop skip
  if chars.length < skip || !tail.contains ']' then none
  else
    let inner := tail.takeWhile (· ≠ ']')
    some (chars.take skip ++ inner, tail.drop (inner.length + 1))

/-- The class that starts behind an opening bracket, with the characters behind it. A bracket that
comes first in the class is a member of it. -/
def parseClass? : List Char → Option (Token × List Char)
  | '!' :: rest => (splitClass 1 rest).map fun (inner, rest) => (.noneOf (classItems inner), rest)
  | rest => (splitClass 1 rest).map fun (inner, rest) => (.oneOf (classItems inner), rest)

/-- What is left behind a class is shorter than what stands behind the opening bracket. -/
theorem length_splitClass {skip : Nat} {chars inner rest : List Char}
    (h : splitClass skip chars = some (inner, rest)) : rest.length ≤ chars.length := by
  unfold splitClass at h
  dsimp only at h
  split at h
  · exact absurd h (by simp)
  · simp only [Option.some.injEq, Prod.mk.injEq] at h
    rw [← h.2]
    simp only [List.length_drop]
    omega

/-- What is left behind a class is no longer than what stands behind the opening bracket. -/
theorem length_parseClass? {chars rest : List Char} {token : Token}
    (h : parseClass? chars = some (token, rest)) : rest.length ≤ chars.length := by
  unfold parseClass? at h
  split at h
  · obtain ⟨⟨inner, found⟩, hsplit, heq⟩ := Option.map_eq_some_iff.1 h
    have hle := length_splitClass hsplit
    rw [(Prod.mk.inj heq).2] at hle
    exact Nat.le_succ_of_le hle
  · obtain ⟨⟨inner, found⟩, hsplit, heq⟩ := Option.map_eq_some_iff.1 h
    have hle := length_splitClass hsplit
    rw [(Prod.mk.inj heq).2] at hle
    exact hle

/-- Read the rest of a pattern. `position` counts the characters before it, `previous` is the last
of them and `tokens` are the tokens read so far, the last one first. -/
def parseFrom (position : Nat) (previous : Option Char) (tokens : List Token)
    (chars : List Char) : Except PatternError (List Token) :=
  match chars with
  | [] => .ok tokens.reverse
  | '?' :: rest => parseFrom (position + 1) (some '?') (.anyChar :: tokens) rest
  | '*' :: '*' :: '*' :: _ => .error ⟨position + 2, .tooManyStars⟩
  | '*' :: '*' :: rest =>
    if previous ≠ none ∧ previous ≠ some '/' then .error ⟨position - 1, .partialComponent⟩
    else
      let tokens := match tokens with
        | .anyComponents :: _ :: _ => tokens
        | _ => .anyComponents :: tokens
      match rest with
      | [] => .ok tokens.reverse
      | '/' :: rest => parseFrom (position + 3) (some '/') tokens rest
      | _ => .error ⟨position + 2, .partialComponent⟩
  | '*' :: rest => parseFrom (position + 1) (some '*') (.anySequence :: tokens) rest
  | '[' :: rest =>
    match h : parseClass? rest with
    | some (token, remaining) =>
      have := length_parseClass? h
      parseFrom (position + 1 + (rest.length - remaining.length)) (some ']') (token :: tokens)
        remaining
    | none => .error ⟨position, .invalidRange⟩
  | c :: rest => parseFrom (position + 1) (some c) (.literal c :: tokens) rest
termination_by chars.length

/-- Read a pattern. -/
def Pattern.parse (chars : List Char) : Except PatternError Pattern :=
  Pattern.mk <$> parseFrom 0 none [] chars

/-! ## Matching -/

/-- Whether a single-character token covers a character. -/
def Token.coversChar (c : Char) : Token → Bool
  | literal d => c == d
  | anyChar => true
  | oneOf items => items.any (ClassItem.covers c)
  | noneOf items => !items.any (ClassItem.covers c)
  | anySequence | anyComponents => false

/-- A text and all that is left of it after taking characters from its front. -/
def suffixes : List Char → List (List Char)
  | [] => [[]]
  | c :: rest => (c :: rest) :: suffixes rest

/-- The parts of a text behind each of its separators. -/
def afterSeparators : List Char → List (List Char)
  | [] => []
  | c :: rest => if c = '/' then rest :: afterSeparators rest else afterSeparators rest

/-- Whether a token covers the start of a text such that the rest of the pattern covers what
follows. A doubled star covers nothing, anything up to and including a separator, or all. -/
def Token.acceptsThen (token : Token) (rest : List Char → Bool) (chars : List Char) : Bool :=
  match token with
  | .anySequence => (suffixes chars).any rest
  | .anyComponents => rest chars || (afterSeparators chars).any rest || rest []
  | single =>
    match chars with
    | [] => false
    | c :: following => single.coversChar c && rest following

/-- Whether a pattern covers a whole text. -/
def Pattern.accepts (pattern : Pattern) (chars : List Char) : Bool :=
  pattern.tokens.foldr Token.acceptsThen List.isEmpty chars

end NamingLint.Glob
