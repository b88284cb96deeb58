import NamingLint.Source.Grammar.Item
import NamingLint.Source.Grammar.Statement
import NamingLint.Source.Lexer

/-!
# Source files

`outline?` reads the text of a file. It gives the outlines that a walk over the file meets, in
order, or nothing if the text is no well-formed file.
-/

namespace NamingLint.Source

open Grammar Parse

namespace Grammar

/-- The productions with as many levels of nesting as the argument says. -/
def knot : Nat → Knot
  | 0 => .none
  | depth + 1 => {
      type := fun allowPlus state => type (knot depth) allowPlus state
      bound := fun allowCapture allowConst state =>
        bound (knot depth) allowCapture allowConst state
      expression := fun allowStruct state => expression (knot depth) allowStruct state
      unary := fun allowStruct state => unary (knot depth) allowStruct state
      operators := fun shape allowStruct least state =>
        operators (knot depth) shape allowStruct least state
      statementExpression := fun state => statementExpression (knot depth) state
      pattern := fun state => pattern (knot depth) state
      statements := fun state => statements (knot depth) state
      item := fun state => item (knot depth) state
      useTree := fun allowRoot state => useTree (knot depth) allowRoot state }

/-- The content of a file: its attributes and its items. -/
def file (knot : Knot) : Parse Unit := do
  innerAttributes knot
  untilEnd knot.item

end Grammar

/-- The outlines of a forest of tokens. No production goes through more than six others before it
reads a token, which bounds the nesting. -/
def outlineOfTokens? (tokens : List TokenTree) : Option (List Outline) :=
  ((file (knot (6 * TokenTree.sizeAll tokens + 6))).run { rest := tokens }).map fun (_, state) =>
    state.met.reverse

/-- The outlines of the text of a file. -/
def outline? (text : String) : Option (List Outline) :=
  (Lexer.tokens? (Lexer.withoutPreamble text.toList)).bind outlineOfTokens?

end NamingLint.Source
