/-!
# Lines and substrings

`linesOf` splits a text at its line feeds. A carriage return in front of a line feed belongs to the
end of the line, and no empty line follows the last line feed.
-/

namespace NamingLint.Text

/-- The lines of a text without their ends. -/
def linesOf : List Char → List (List Char)
  | [] => []
  | '\n' :: rest => [] :: linesOf rest
  | '\r' :: '\n' :: rest => [] :: linesOf rest
  | c :: rest =>
    match linesOf rest with
    | [] => [[c]]
    | line :: lines => (c :: line) :: lines

/-- A text occurs in another one. -/
def occursIn (part : List Char) : List Char → Bool
  | [] => part.isEmpty
  | c :: rest => part.isPrefixOf (c :: rest) || occursIn part rest

end NamingLint.Text
