import NamingLint.Config.Builder
import NamingLint.FileTree
import NamingLint.Journal

/-!
# Configuration files
-/

namespace NamingLint.Config

/-- The configuration of a file, checked. -/
def loadFile (tree : FileTree) (file : Path) : Except Failure Config :=
  match tree.readText file with
  | .ok text => loadOr (.malformedFile file) text
  | .error cause => .error (.configuration (.unreadable file cause))

/-- The first of the usual configuration files that a directory holds. -/
def discoverFile? (tree : FileTree) (directory : Path) : Option Path :=
  (fileNames.map fun name => directory.join ⟨name⟩).find? tree.isFile

/-- The configuration found in a directory, or the default one. -/
def discover (tree : FileTree) (directory : Path) : Journal Config := do
  match discoverFile? tree directory with
  | some file =>
    Journal.report .debug .configuration ("Using configuration from " ++ file.text)
    Journal.ofExcept (loadFile tree file)
  | none => return default

end NamingLint.Config
