import NamingLint.FileTree
import NamingLint.Journal
import NamingLint.Text.Lines
import NamingLint.Unicode.Blank

/-!
# Path filters

A path filter decides which files are analysed. Of the configured patterns the last one that matches
a path decides; ignore files in the directories above the path may then exclude it as well, a nearer
one overriding one further out.
-/

namespace NamingLint

/-- A pattern of a filter. -/
structure FilterPattern where
  glob : Glob.Pattern
  /-- What the pattern matches is analysed rather than left out. -/
  includes : Bool
  /-- The pattern is matched against the directories above a path. -/
  directoryOnly : Bool
  /-- The pattern is matched against whole paths rather than their last names. -/
  anchored : Bool

namespace FilterPattern

/-- The text without the separators at its end. -/
def withoutTrailing (text : List Char) : List Char :=
  (text.reverse.dropWhile (· == '/')).reverse

/-- The pattern that a text stands for. An exclamation mark in front makes it include what it
matches. -/
def parse (text : List Char) : Except Glob.PatternError FilterPattern :=
  let (includes, rest) := match text with
    | '!' :: rest => (true, rest)
    | _ => (false, text)
  let trimmed := withoutTrailing rest
  (Glob.Pattern.parse (trimmed.dropWhile (· == '/'))).map fun glob => {
    glob
    includes
    directoryOnly := rest.getLast? = some '/'
    anchored := trimmed.contains '/' }

/-- Match a single path. -/
def matchesPath (pattern : FilterPattern) (path : Path) : Bool :=
  if pattern.anchored then pattern.glob.accepts path.text.toList
  else path.fileName.any fun name => pattern.glob.accepts name.toList

/-- Match a path, or the directories above it if the pattern is for directories only. -/
def appliesTo (pattern : FilterPattern) (path : Path) : Bool :=
  if pattern.directoryOnly then
    (path.parents.filter fun directory => !directory.text.isEmpty).any pattern.matchesPath
  else pattern.matchesPath path

/-- The decision of the last of the patterns that matches a path, or else the given one. -/
def decide (patterns : List FilterPattern) (path : Path) (otherwise : Bool) : Bool :=
  (patterns.filter fun pattern => pattern.appliesTo path).foldl
    (fun _ pattern => pattern.includes) otherwise

end FilterPattern

/-- A path filter. -/
structure PathFilter where
  patterns : List FilterPattern
  /-- The name of the ignore files, if they are honoured. -/
  ignoreFile : Option String

namespace PathFilter

/-- A pattern of a configuration. -/
def parsePattern (text : String) : Except Failure FilterPattern :=
  match FilterPattern.parse text.toList with
  | .ok pattern => .ok pattern
  | .error error => .error (.pattern (.path text error))

/-- The patterns of a configuration, up to the first one that is none. -/
def parsePatterns : List String → Except Failure (List FilterPattern)
  | [] => .ok []
  | first :: rest =>
    match parsePattern first with
    | .error failure => .error failure
    | .ok pattern => (parsePatterns rest).map fun patterns => pattern :: patterns

/-- The filter with these patterns. -/
def ofPatterns (patterns : List String) (ignoreFile : Option String) : Except Failure PathFilter :=
  (parsePatterns patterns).map fun patterns => ⟨patterns, ignoreFile⟩

/-- Add a pattern behind the others. -/
def addPattern (filter : PathFilter) (text : String) : Except Failure PathFilter :=
  (parsePattern text).map fun pattern => { filter with patterns := filter.patterns ++ [pattern] }

/-- Add a pattern behind the others in place. A filter that is changed in place is kept even if the
change fails. -/
def pushPattern (text : String) : EStateM Failure PathFilter Unit := do
  let pattern ← ofExcept (parsePattern text)
  modify fun filter => { filter with patterns := filter.patterns ++ [pattern] }

/-- The filter without regard to ignore files. -/
def withoutIgnoreFiles (filter : PathFilter) : PathFilter :=
  { filter with ignoreFile := none }

/-! ## Ignore files -/

/-- The lines of an ignore file that are patterns or should be: blanks at both ends are cut off, and
empty lines and comments are left out. -/
def ignoreLines (content : String) : List (List Char) :=
  ((Text.linesOf content.toList).map Unicode.trim).filter fun line =>
    !line.isEmpty && line.head? ≠ some '#'

/-- The patterns among lines. Each line that is none is reported. -/
def ignorePatterns (file : Path) : List (List Char) → Journal (List FilterPattern)
  | [] => return []
  | line :: rest => do
    match FilterPattern.parse line with
    | .ok pattern => return pattern :: (← ignorePatterns file rest)
    | .error error =>
      Journal.report .warning .filter
        ("Invalid pattern '" ++ String.ofList line ++ "' in " ++ file.text ++ ": " ++ error.message)
      ignorePatterns file rest

/-- The patterns of an ignore file. -/
def loadIgnoreFile (tree : FileTree) (file : Path) : Journal (List FilterPattern) := do
  match tree.readText file with
  | .ok content => ignorePatterns file (ignoreLines content)
  | .error cause => Journal.ofExcept (.error (.configuration (.ignoreFile file cause)))

/-- The decision of the ignore files in some directories, one after the other. -/
def decideByFiles (tree : FileTree) (name : String) (path : Path) :
    List Path → Bool → Journal Bool
  | [], included => return included
  | directory :: rest, included => do
    let file := directory.join ⟨name⟩
    if tree.isFile file then
      let patterns ← loadIgnoreFile tree file
      let included := match path.relativeTo? directory with
        | some relative => FilterPattern.decide patterns relative included
        | none => included
      decideByFiles tree name path rest included
    else decideByFiles tree name path rest included

/-! ## Selecting files -/

/-- Whether a path is analysed. -/
def shouldAnalyze (filter : PathFilter) (tree : FileTree) (path : Path) : Journal Bool :=
  if !FilterPattern.decide filter.patterns path true then return false
  else
    match filter.ignoreFile with
    | none => return true
    | some name => decideByFiles tree name path path.parents.reverse true

/-- The paths that are analysed. -/
def filterPaths (filter : PathFilter) (tree : FileTree) : List Path → Journal (List Path)
  | [] => return []
  | path :: rest => do
    if ← filter.shouldAnalyze tree path then return path :: (← filterPaths filter tree rest)
    else filterPaths filter tree rest

/-- The extension of source files. -/
def sourceExtension : String := "rs"

/-- The path names a source file. -/
def isSourceFile (path : Path) : Bool :=
  path.extension? = some sourceExtension

/-- The source files below a path that are analysed, in the order of paths. -/
def findFiles (filter : PathFilter) (tree : FileTree) (root : Path) : Journal (List Path) := do
  let found ← filter.filterPaths tree ((tree.filesUnder root).filter isSourceFile)
  return found.mergeSort fun left right => Path.compare left right != .gt

end PathFilter

end NamingLint
