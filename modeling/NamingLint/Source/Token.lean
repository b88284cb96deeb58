import NamingLint.Location

/-!
# Tokens of a source file

A source file is a forest of tokens: identifiers, punctuation characters, literals, and groups that
enclose further tokens. `render` prints a forest with one space between tokens.
-/

namespace NamingLint.Source

/-- The three kinds of brackets. -/
inductive Delimiter where
  | parenthesis
  | bracket
  | brace
  deriving DecidableEq, Repr, Inhabited

/-- A token, or a group of tokens between brackets. -/
inductive TokenTree where
  /-- An identifier or keyword. The name of a raw identifier is kept without its marker. -/
  | ident (name : String) (raw : Bool) (location : Location)
  /-- A punctuation character; a joint one continues in the character behind it. -/
  | punct (char : Char) (joint : Bool)
  /-- A literal as it was written. -/
  | literal (text : String)
  | group (delimiter : Delimiter) (content : List TokenTree)
  deriving Inhabited

namespace Delimiter

/-- The opening bracket that a character is. -/
def ofOpening? (c : Char) : Option Delimiter :=
  if c == '(' then some parenthesis
  else if c == '[' then some bracket
  else if c == '\x7b' then some brace
  else none

/-- The closing bracket that a character is. -/
def ofClosing? (c : Char) : Option Delimiter :=
  if c == ')' then some parenthesis
  else if c == ']' then some bracket
  else if c == '\x7d' then some brace
  else none

end Delimiter

namespace TokenTree

mutual

/-- The text of one token. Braces keep a space from what they enclose. -/
def render : TokenTree → String
  | ident name raw _ => if raw then "r#" ++ name else name
  | punct c _ => c.toString
  | literal text => text
  | group .parenthesis content => "(" ++ renderAll content ++ ")"
  | group .bracket content => "[" ++ renderAll content ++ "]"
  | group .brace [] => "\x7b \x7d"
  | group .brace (first :: rest) => "\x7b " ++ renderAll (first :: rest) ++ " \x7d"

/-- The text of a forest: one space stands behind each token but for joint punctuation and the
last. -/
def renderAll : List TokenTree → String
  | [] => ""
  | [last] => last.render
  | punct c true :: rest => c.toString ++ renderAll rest
  | first :: rest => first.render ++ " " ++ renderAll rest

end

mutual

/-- The number of tokens in a tree, groups included. -/
def size : TokenTree → Nat
  | group _ content => sizeAll content + 1
  | _ => 1

/-- The number of tokens in a forest, groups included. -/
def sizeAll : List TokenTree → Nat
  | [] => 0
  | first :: rest => first.size + sizeAll rest

end

end TokenTree

end NamingLint.Source
