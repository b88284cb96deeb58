import NamingLint.Failure

/-!
# File trees

The files of a system, as a tree below its root, together with the names that lead from the root to
the working directory. Links hold the path of what they stand for, and a path is followed entry by
entry. The tree also says what may be done with its files and directories: some cannot be read, and
some directories cannot be listed, or passed through.
-/

namespace NamingLint

/-- What may be done with a directory. -/
structure Access where
  /-- Its entries may be listed. -/
  list : Bool
  /-- Its entries may be reached by their names. -/
  pass : Bool
  deriving DecidableEq, Repr, Inhabited

/-- The access to a directory that is closed to nobody. -/
def Access.full : Access := ⟨true, true⟩

/-- An entry of a directory: a file, with what it holds if that may be read, another directory or a
link. -/
inductive FileEntry where
  | file (content : Option ByteArray)
  | directory (access : Access) (entries : List (String × FileEntry))
  | link (target : String)
  deriving Inhabited

namespace FileEntry

/-- A directory without entries. -/
def empty : FileEntry := directory .full []

/-- A file that holds a text. -/
def ofText (text : String) : FileEntry := file (some text.toUTF8)

/-- What a name stands for in a directory. One that is not there stands for a directory without
entries. -/
def child (name : String) : FileEntry → FileEntry
  | directory _ entries => (entries.lookup name).getD empty
  | _ => empty

/-- Set an entry among entries that ascend by name. -/
def setEntry (name : String) (entry : FileEntry) :
    List (String × FileEntry) → List (String × FileEntry)
  | [] => [(name, entry)]
  | (other, found) :: rest =>
    if name < other then (name, entry) :: (other, found) :: rest
    else if name = other then (name, entry) :: rest
    else (other, found) :: setEntry name entry rest

/-- Put an entry at the end of a sequence of names; directories on the way are added. -/
def insertAt (entry : FileEntry) : List String → FileEntry → FileEntry
  | [], _ => entry
  | name :: rest, directory access entries =>
    let below := child name (directory access entries)
    directory access (setEntry name (insertAt entry rest below) entries)
  | name :: rest, _ => directory .full [(name, insertAt entry rest empty)]

end FileEntry

/-- The files of a system, and the names that lead from its root to the working directory. -/
structure FileTree where
  root : FileEntry
  working : List String
  deriving Inhabited

namespace FileTree

open FileEntry

/-- The tree with nothing in it but the working directory. -/
def around (working : List String) (directory : FileEntry) : FileTree :=
  ⟨insertAt directory working .empty, working⟩

/-- The tree whose root is the working directory and has these entries. -/
def ofEntries (entries : List (String × FileEntry)) : FileTree :=
  ⟨directory .full entries, []⟩

/-- The names that a path leads through. -/
def namesOf (path : Path) : List String :=
  path.components.filterMap fun
    | .name text => some text
    | _ => none

/-- Put an entry at a path from the working directory on. -/
def insert (tree : FileTree) (path : Path) (entry : FileEntry) : FileTree :=
  { tree with root := insertAt entry (tree.working ++ namesOf path) tree.root }

/-! ## Following paths -/

/-- What names lead to, and the directories that enclose it, the nearest first. What is not there
has been removed, and is a directory without entries. -/
def enter : List String → FileEntry → List FileEntry → FileEntry × List FileEntry
  | [], here, outer => (here, outer)
  | name :: rest, here, outer => enter rest (child name here) (here :: outer)

/-- The parts of a text between separators. -/
def segmentsOf : List Char → List (List Char)
  | [] => [[]]
  | c :: rest =>
    if c = '/' then [] :: segmentsOf rest
    else
      match segmentsOf rest with
      | first :: more => (c :: first) :: more
      | [] => [[c]]

/-- The longest name of an entry, in bytes. -/
def longestName : Nat := 255

/-- The longest path, in bytes. -/
def longestPath : Nat := 4095

/-- The most links on the way along a path. -/
def mostLinks : Nat := 40

/-- The bytes that a text takes. -/
def byteLength (text : List Char) : Nat :=
  (String.ofList text).utf8ByteSize

/-- Follow the parts of a path from an entry on, which is enclosed by some directories, the nearest
first. Nothing encloses the root, and what is above it is the root itself. A link on the way is
replaced by the parts of its target, for at most a given number of links; one at the end only if
asked to. -/
def follow (root : FileEntry) (followLast : Bool) (links : Nat) (here : FileEntry)
    (outer : List FileEntry) (parts : List (List Char)) : Except ReadError FileEntry :=
  match parts with
  | [] => .ok here
  | part :: rest =>
    match here with
    | file _ => .error .notDirectory
    | link _ => .error .notDirectory
    | directory access entries =>
      if part.isEmpty then follow root followLast links (directory access entries) outer rest
      else if !access.pass then .error .permissionDenied
      else if part == ['.'] then
        follow root followLast links (directory access entries) outer rest
      else if part == ['.', '.'] then
        follow root followLast links (outer.headD (directory access entries)) outer.tail rest
      else if byteLength part > longestName then .error .nameTooLong
      else
        match entries.lookup (String.ofList part) with
        | none => .error .notFound
        | some (link target) =>
          if rest.isEmpty && !followLast then .ok (link target)
          else
            match links with
            | 0 => .error .tooManyLinks
            | links + 1 =>
              if target.startsWith "/" then
                follow root followLast links root [] (segmentsOf target.toList ++ rest)
              else
                follow root followLast links (directory access entries) outer
                  (segmentsOf target.toList ++ rest)
        | some entry =>
          follow root followLast links entry (directory access entries :: outer) rest
  termination_by (links, parts.length)

/-- What a path leads to, from the root or else from the working directory on. -/
def resolve (tree : FileTree) (path : Path) (followLast : Bool) : Except ReadError FileEntry :=
  let chars := path.text.toList
  if chars.contains '\x00' then .error .nulInPath
  else if chars.isEmpty then .error .notFound
  else if byteLength chars > longestPath then .error .nameTooLong
  else
    let names := if chars.head? = some '/' then [] else tree.working
    let (here, outer) := enter names tree.root []
    follow tree.root followLast mostLinks here outer (segmentsOf chars)

/-! ## Reading -/

/-- The path leads to a file. -/
def isFile (tree : FileTree) (path : Path) : Bool :=
  match tree.resolve path true with
  | .ok (file _) => true
  | _ => false

/-- The path leads to a directory. -/
def isDirectory (tree : FileTree) (path : Path) : Bool :=
  match tree.resolve path true with
  | .ok (directory _ _) => true
  | _ => false

/-- The path leads to a directory that may be listed. -/
def canList (tree : FileTree) (path : Path) : Bool :=
  match tree.resolve path true with
  | .ok (directory access _) => access.list
  | _ => false

/-- The text that a file holds. -/
def textOf : Option ByteArray → Except ReadError String
  | none => .error .permissionDenied
  | some content =>
    match String.fromUTF8? content with
    | some text => .ok text
    | none => .error .invalidEncoding

/-- The text of the file at a path. -/
def readText (tree : FileTree) (path : Path) : Except ReadError String :=
  match tree.resolve path true with
  | .error cause => .error cause
  | .ok (file content) => textOf content
  | .ok (directory access _) =>
    .error (if access.list then .isDirectory else .permissionDenied)
  | .ok (link _) => .error .tooManyLinks

mutual

/-- The files of an entry at a path. Links are left aside, and so are directories that cannot be
listed. -/
def filesAt (tree : FileTree) (path : Path) : FileEntry → List Path
  | file _ => [path]
  | directory _ entries => if tree.canList path then filesOf tree path entries else []
  | link _ => []

/-- The files among the entries of a directory at a path. -/
def filesOf (tree : FileTree) (path : Path) : List (String × FileEntry) → List Path
  | [] => []
  | (name, entry) :: rest => filesAt tree (path.join ⟨name⟩) entry ++ filesOf tree path rest

end

/-- The files below a path, as far as the directories on the way to them can be listed. Links are
left aside, but for one that the path itself is and that leads to a directory. -/
def filesUnder (tree : FileTree) (root : Path) : List Path :=
  match tree.resolve root false with
  | .ok (link _) =>
    match tree.resolve root true with
    | .ok (directory access entries) => tree.filesAt root (directory access entries)
    | _ => []
  | .ok entry => tree.filesAt root entry
  | .error _ => []

end FileTree

end NamingLint
