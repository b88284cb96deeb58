/-!
# Paths

A path is its text; what it names is its list of components. Repeated and trailing separators and
`.` components, but for a leading one, leave no component. Two spellings of the same components
compare as equal and stay different texts.
-/

namespace NamingLint

/-- A path as it was written. -/
structure Path where
  text : String
  deriving DecidableEq, Repr, Inhabited

namespace Path

/-- One step of a path. -/
inductive Component where
  /-- The separator that starts an absolute path. -/
  | root
  /-- A leading `.`. -/
  | current
  | parent
  | name (text : String)
  deriving DecidableEq, Repr, Inhabited

namespace Component

/-- The position of a component's form in ascending order. -/
def rank : Component → Nat
  | root => 0
  | current => 1
  | parent => 2
  | name _ => 3

/-- Components are compared by form, names by their characters. -/
def compare : Component → Component → Ordering
  | name left, name right => compareOfLessAndEq left right
  | left, right => Ord.compare left.rank right.rank

end Component

/-- A component with the characters of the text from its first to behind its last. -/
structure Step where
  component : Component
  start : Nat
  stop : Nat
  deriving DecidableEq, Repr

/-- The component that a segment between separators makes, if any. -/
def segmentComponent (segment : List Char) : Option Component :=
  if segment.isEmpty || segment == ['.'] then none
  else if segment == ['.', '.'] then some .parent
  else some (.name (String.ofList segment))

/-- The steps of the segments in the rest of a text; `start` is the place where the current
segment starts and `segment` what has been read of it, reversed. -/
def bodySteps (start : Nat) (segment : List Char) : List Char → List Step
  | [] =>
    match segmentComponent segment.reverse with
    | some component => [⟨component, start, start + segment.length⟩]
    | none => []
  | c :: rest =>
    if c = '/' then
      let next := bodySteps (start + segment.length + 1) [] rest
      match segmentComponent segment.reverse with
      | some component => ⟨component, start, start + segment.length⟩ :: next
      | none => next
    else bodySteps start (c :: segment) rest

/-- The steps of a path, each with its place in the text. -/
def stepsOf (chars : List Char) : List Step :=
  match chars with
  | '/' :: rest => ⟨.root, 0, 1⟩ :: bodySteps 1 [] rest
  | ['.'] => [⟨.current, 0, 1⟩]
  | '.' :: '/' :: rest => ⟨.current, 0, 1⟩ :: bodySteps 2 [] rest
  | _ => bodySteps 0 [] chars

/-- The steps of a path, each with its place in the text. -/
def steps (path : Path) : List Step :=
  stepsOf path.text.toList

/-- The components of a path. -/
def components (path : Path) : List Component :=
  path.steps.map Step.component

/-- Paths are compared component by component. -/
def compare (left right : Path) : Ordering :=
  go left.components right.components
where
  /-- Compare component lists; a proper initial part comes first. -/
  go : List Component → List Component → Ordering
    | [], [] => .eq
    | [], _ :: _ => .lt
    | _ :: _, [] => .gt
    | x :: xs, y :: ys => (Component.compare x y).then (go xs ys)

/-- The text between two places. -/
def slice (path : Path) (start stop : Nat) : Path :=
  ⟨String.ofList ((path.text.toList.drop start).take (stop - start))⟩

/-- The paths of the directories above a path, the nearest first. A relative path ends in the empty
path, an absolute one in the root. -/
def parents (path : Path) : List Path :=
  match path.steps with
  | [] => []
  | first :: rest =>
    let above := ((first :: rest).dropLast.map fun step => path.slice 0 step.stop).reverse
    if first.component = .root then above else above ++ [⟨""⟩]

/-- The last component, if it is a name. -/
def fileName (path : Path) : Option String :=
  match path.steps.getLast? with
  | some ⟨.name text, _, _⟩ => some text
  | _ => none

/-- What stands behind the last dot of the file name, unless that dot is the name's first
character. -/
def extension? (path : Path) : Option String :=
  match path.fileName with
  | none => none
  | some name =>
    let reversed := name.toList.reverse
    match reversed.dropWhile (· ≠ '.') with
    | _ :: _ :: _ => some (String.ofList (reversed.takeWhile (· ≠ '.')).reverse)
    | _ => none

/-- An absolute path replaces the directory, a relative one is put behind it. -/
def join (directory name : Path) : Path :=
  if name.text.startsWith "/" || directory.text.isEmpty then name
  else if directory.text.endsWith "/" then ⟨directory.text ++ name.text⟩
  else ⟨directory.text ++ "/" ++ name.text⟩

/-- The rest of a path behind a directory whose components it starts with. -/
def relativeTo? (path directory : Path) : Option Path :=
  let own := path.steps
  let base := directory.components
  if base.isPrefixOf (own.map Step.component) then
    let start :=
      if base.isEmpty then 0
      else match own.drop base.length with
        | next :: _ => next.start
        | [] => path.text.length
    let stop := match own.getLast? with
      | some last => last.stop
      | none => 0
    some (path.slice start stop)
  else none

end Path

end NamingLint
