import NamingLint.CommandLine.Run
import Std.Time.DateTime.Timestamp

/-!
# The program

The outer layer: it loads the files below the working directory, runs the command line on them and
writes what that comes to. What lies outside of the working directory is not loaded.
-/

namespace NamingLint

/-- Load a file. It is kept if it cannot be read. -/
def loadFile (path : String) : IO FileEntry := do
  try
    return .file (some (← IO.FS.readBinFile (System.mkFilePath [path])))
  catch _ => return .file none

/-- Load a directory, down to a given depth. It is kept if it cannot be listed. Of its entries those
are left out that lead nowhere. -/
def loadDirectory : Nat → (path : String) → IO FileEntry
  | 0, _ => return .empty
  | depth + 1, path => do
    try
      let mut entries := []
      for entry in ← (System.mkFilePath [path]).readDir do
        try
          let found ← match (← entry.path.symlinkMetadata).type with
            | .dir => some <$> loadDirectory depth entry.path.toString
            | .file => some <$> loadFile entry.path.toString
            | .symlink => (fun target => some (.link target.toString)) <$> IO.FS.realPath entry.path
            | .other => pure none
          if let some found := found then
            entries := FileEntry.setEntry entry.fileName found entries
        catch _ => pure ()
      return .directory .full entries
    catch _ => return .directory ⟨false, true⟩ []

/-- Load the working directory. No path is long enough to lead deeper than is loaded. -/
def loadWorkingDirectory : IO FileTree := do
  let path := (← IO.FS.realPath (← IO.currentDir)).toString
  return .around (FileTree.namesOf ⟨path⟩) (← loadDirectory FileTree.longestPath path)

/-- What a command finds around it. -/
def loadEnvironment : IO CommandLine.Environment := do
  let isTerminal ← (← IO.getStdout).isTty
  let now ← Std.Time.Timestamp.now
  return {
    tree := ← loadWorkingDirectory
    now := .ofNanoseconds now.toNanosecondsSinceUnixEpoch.val
    logSetting := ← IO.getEnv "RUST_LOG"
    showsColors := CommandLine.showsColors isTerminal (← IO.getEnv "CLICOLOR_FORCE")
      (← IO.getEnv "NO_COLOR") (← IO.getEnv "CLICOLOR") }

end NamingLint

/-- Run a command line. -/
def main (arguments : List String) : IO UInt32 := do
  let start ← IO.monoMsNow
  let environment ← NamingLint.loadEnvironment
  let outcome := NamingLint.CommandLine.run environment arguments
  for event in outcome.log do
    IO.eprintln (event.stampedLine environment.now)
  IO.eprint outcome.errors
  IO.print (outcome.output ((← IO.monoMsNow) - start))
  return outcome.exitCode.toUInt32
