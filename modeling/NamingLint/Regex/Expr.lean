/-!
# Regular expressions

The meaning of a regular expression is a relation between places of a text: it leads from a place to
every place where a match that starts there may end. `Expr.advance` computes this relation on sets
of places, `Expr.occursIn` asks whether a match starts anywhere.
-/

namespace NamingLint.Regex

/-- A place in a text. -/
structure Place where
  position : Nat
  /-- The character in front of the place. -/
  behind : Option Char
  /-- The text that follows the place. -/
  ahead : List Char
  deriving DecidableEq, Repr, Inhabited

namespace Place

/-- The place in front of a text. -/
def start (text : List Char) : Place := ⟨0, none, text⟩

/-- The character behind the place. -/
def following (place : Place) : Option Char :=
  place.ahead.head?

/-- All places of a text from one on, in ascending order. -/
def onwards (position : Nat) (behind : Option Char) : List Char → List Place
  | [] => [⟨position, behind, []⟩]
  | c :: rest => ⟨position, behind, c :: rest⟩ :: onwards (position + 1) (some c) rest

/-- The union of two sets of places, both in ascending order. -/
def union : List Place → List Place → List Place
  | [], right => right
  | left, [] => left
  | first :: left, second :: right =>
    if first.position < second.position then first :: union left (second :: right)
    else if second.position < first.position then second :: union (first :: left) right
    else first :: union left right

end Place

/-- What a pattern may ask of a place without reading a character. -/
inductive Assertion where
  | textStart
  | textEnd
  | lineStart
  | lineEnd
  /-- The start of a line that may also end in a carriage return. -/
  | lineStartWithReturn
  | lineEndWithReturn
  | wordBoundary
  | noWordBoundary
  | wordStart
  | wordEnd
  /-- No word character stands in front. -/
  | wordStartHalf
  /-- No word character follows. -/
  | wordEndHalf
  deriving DecidableEq, Repr

/-- Whether an assertion holds at a place. The test tells which characters are part of words. -/
def Assertion.holds (assertion : Assertion) (isWord : Char → Bool) (place : Place) : Bool :=
  let before := place.behind.any isWord
  let after := place.following.any isWord
  match assertion with
  | textStart => place.behind.isNone
  | textEnd => place.following.isNone
  | lineStart => place.behind.isNone || place.behind = some '\n'
  | lineEnd => place.following.isNone || place.following = some '\n'
  | lineStartWithReturn =>
    place.behind.isNone || place.behind = some '\n' ||
      (place.behind = some '\r' && place.following ≠ some '\n')
  | lineEndWithReturn =>
    place.following.isNone || place.following = some '\r' ||
      (place.following = some '\n' && place.behind ≠ some '\r')
  | wordBoundary => before != after
  | noWordBoundary => before == after
  | wordStart => !before && after
  | wordEnd => before && !after
  | wordStartHalf => !before
  | wordEndHalf => !after

/-- A regular expression. -/
inductive Expr where
  | empty
  /-- One character that passes the test. -/
  | oneOf (accepts : Char → Bool)
  | assertion (assertion : Assertion) (isWord : Char → Bool)
  | sequence (first second : Expr)
  | alternatives (first second : Expr)
  /-- A number of repetitions between two bounds, the upper of which may be absent. -/
  | repetition (inner : Expr) (least : Nat) (most : Option Nat)
  deriving Inhabited

namespace Expr

/-- Apply a step a number of times. -/
def iterate (step : List Place → List Place) : Nat → List Place → List Place
  | 0, places => places
  | count + 1, places => iterate step count (step places)

/-- Apply a step up to a number of times and unite what each application gives. -/
def unite (step : List Place → List Place) : Nat → List Place → List Place → List Place
  | 0, _, reached => reached
  | count + 1, places, reached =>
    let next := step places
    unite step count next (Place.union reached next)

/-- The places where a match may end that starts at one of the given places. A step never goes back,
so that after one application more than there are places nothing new is reached; `limit` is such a
number. -/
def advance (limit : Nat) : Expr → List Place → List Place
  | empty, places => places
  | oneOf accepts, places =>
    places.filterMap fun place =>
      match place.ahead with
      | c :: rest => if accepts c then some ⟨place.position + 1, some c, rest⟩ else none
      | [] => none
  | assertion test isWord, places => places.filter (test.holds isWord)
  | sequence first second, places => advance limit second (advance limit first places)
  | alternatives first second, places =>
    Place.union (advance limit first places) (advance limit second places)
  | repetition inner least most, places =>
    let step := advance limit inner
    let reached := iterate step (min least limit) places
    let further := match most with
      | some most => min (most - least) limit
      | none => limit
    unite step further reached reached

/-- A match starts at some place of the text. -/
def occursIn (expr : Expr) (text : List Char) : Bool :=
  !(expr.advance (text.length + 2) (Place.onwards 0 none text)).isEmpty

/-- The sequence of expressions. -/
def sequenceOf : List Expr → Expr
  | [] => empty
  | [last] => last
  | first :: rest => sequence first (sequenceOf rest)

/-- The choice between expressions. -/
def alternativesOf : List Expr → Expr
  | [] => empty
  | [last] => last
  | first :: rest => alternatives first (alternativesOf rest)

end Expr

end NamingLint.Regex
