import NamingLint.Failure
import NamingLint.Report.Annotation
import NamingLint.Report.Human
import NamingLint.Report.Json
import NamingLint.Report.Sarif
import NamingLint.Unicode.TextCase

/-!
# Styles of output
-/

namespace NamingLint.Report

/-- The styles in which a report can be written. -/
inductive Style where
  | human
  | json
  | sarif
  /-- Annotations of a workflow run. -/
  | github
  deriving DecidableEq, Repr, Inhabited

namespace Style

/-- All styles. -/
def all : List Style := [human, json, sarif, github]

/-- The name of a style. -/
def name : Style → String
  | human => "human"
  | json => "json"
  | sarif => "sarif"
  | github => "github"

/-- The style with a name, in whatever letter case it is written. -/
def ofName? (text : String) : Option Style :=
  all.find? fun style => style.name == Unicode.lowercaseText text

end Style

/-- A report in a style. Colours are shown if they are wanted and the destination shows them. -/
def render (style : Style) (options : Options) (showsColors : Bool) (report : Report) : String :=
  match style with
  | .human => report.humanText options (options.colors && showsColors)
  | .json => report.jsonText options
  | .sarif => report.sarifReport options
  | .github => report.annotationText options

/-- Write a text to a destination that takes a number of bytes: what is written, and whether that is
all of it. -/
def writeTo (capacity : Nat) (text : String) : ByteArray × Except Failure Unit :=
  let bytes := text.toUTF8
  if bytes.size ≤ capacity then (bytes, .ok ())
  else (bytes.extract 0 capacity, .error (.io .incomplete))

end NamingLint.Report
