/-!
# Positions in a source file
-/

namespace NamingLint

/-- A position in a source file. Lines and columns count from 1, columns in characters. -/
structure Location where
  line : UInt32
  column : UInt32
  deriving DecidableEq, Repr, Inhabited

namespace Location

/-- The text `line:column`. -/
def render (location : Location) : String :=
  toString location.line.toNat ++ ":" ++ toString location.column.toNat

/-- Positions are compared by line, then by column. -/
def compare (left right : Location) : Ordering :=
  (Ord.compare left.line right.line).then (Ord.compare left.column right.column)

end Location

end NamingLint
