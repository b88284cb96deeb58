import NamingLint.Text.Lines

/-!
# Generated files

A file counts as generated if one of its first lines holds a marker that generators leave there.
-/

namespace NamingLint.Source

/-- The markers of generated files. -/
def generatedMarkers : List String := ["@generated", "<auto-generated"]

/-- How many lines at the top of a file are searched for markers. -/
def markedLines : Nat := 5

/-- A marker of generated files occurs in a line. -/
def holdsMarker (line : List Char) : Bool :=
  generatedMarkers.any fun marker => Text.occursIn marker.toList line

/-- The first lines of a text hold a marker of generated files. -/
def isGenerated (text : String) : Bool :=
  ((Text.linesOf text.toList).take markedLines).any holdsMarker

end NamingLint.Source
