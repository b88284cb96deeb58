import NamingLint.Document
import NamingLint.Yaml.Scan

/-!
# Nodes of YAML

The tokens of a text are composed into nodes. `document?` gives the document of a text that holds
exactly one.
-/

namespace NamingLint.Yaml

/-- A node. Tags are kept for scalars only, and an alias is replaced by the node that it names. -/
inductive Node where
  | scalar (tag : Option String) (style : Style) (text : String)
  | sequence (items : List Node)
  | mapping (entries : List (Node × Node))
  /-- An alias inside of the node that it names. -/
  | cycle
  deriving Inhabited

namespace Node

/-- A node for which nothing is written. -/
def blank : Node := scalar none .plain ""

end Node

/-- The tokens left to read, the shorthands of tags, and the named nodes, the last one first. -/
structure ComposeState where
  rest : List Token
  shorthands : List (String × String) := []
  anchors : List (String × Node) := []
  deriving Inhabited

/-- A step of composing nodes. -/
abbrev Compose := StateT ComposeState Option

namespace Compose

/-! ## Tokens -/

/-- The next token. -/
def peek : Compose (Option Token) := do
  return (← get).rest.head?

/-- Go behind the next token. -/
def skip : Compose Unit :=
  modify fun state => { state with rest := state.rest.drop 1 }

/-- Whether the next token is one of these. -/
def next (tokens : List Token) : Compose Bool := do
  return (← peek).any tokens.contains

/-- Go behind this token if it comes next. -/
def optToken (token : Token) : Compose Bool := do
  if ← next [token] then
    skip
    return true
  else return false

/-- Go behind this token. -/
def expect (token : Token) : Compose Unit := do
  if !(← optToken token) then failure

/-! ## Properties of nodes -/

/-- The anchor of a node, if it comes next. -/
def optAnchor : Compose (Option String) := do
  match ← peek with
  | some (.anchor name) =>
    skip
    return some name
  | _ => return none

/-- A tag in full. -/
def resolveTag (handle suffix : String) : Compose String := do
  if handle.isEmpty then return suffix
  else
    match (← get).shorthands.lookup handle with
    | some start => return start ++ suffix
    | none => failure

/-- The tag of a node, if it comes next. -/
def optTag : Compose (Option String) := do
  match ← peek with
  | some (.tag handle suffix) =>
    skip
    return some (← resolveTag handle suffix)
  | _ => return none

/-- The anchor and the tag of a node, in either order. -/
def properties : Compose (Option String × Option String) := do
  match ← optAnchor with
  | some name => return (some name, ← optTag)
  | none =>
    match ← optTag with
    | some tag => return (← optAnchor, some tag)
    | none => return (none, none)

/-- Name a node. While it is composed its name stands for a cycle. -/
def named (anchor : Option String) (compose : Compose Node) : Compose Node := do
  match anchor with
  | none => compose
  | some name =>
    let before := (← get).anchors.length
    modify fun state => { state with anchors := (name, .cycle) :: state.anchors }
    let node ← compose
    modify fun state => {
      state with
      anchors := state.anchors.set (state.anchors.length - 1 - before) (name, node) }
    return node

/-! ## Collections -/

/-- The tokens that end a node of a block which has nothing written. -/
def entryEnds : List Token := [.key, .value, .blockEnd]

/-- A node, unless one of these tokens comes next. -/
def optNode (node : Compose Node) (ends : List Token) : Compose Node := do
  if ← next ends then return .blank else node

/-- The entries of a block with hyphens; at most a given number of them. -/
def blockItemsUpTo (node : Compose Node) : Nat → Compose (List Node)
  | 0 => failure
  | count + 1 => do
    if ← optToken .blockEntry then
      let first ← optNode node [.blockEntry, .blockEnd]
      return first :: (← blockItemsUpTo node count)
    else
      expect .blockEnd
      return []

/-- The entries with hyphens of a block that is not indented further than the mapping around it; at
most a given number of them. -/
def flatItemsUpTo (node : Compose Node) : Nat → Compose (List Node)
  | 0 => failure
  | count + 1 => do
    if ← optToken .blockEntry then
      let first ← optNode node (.blockEntry :: entryEnds)
      return first :: (← flatItemsUpTo node count)
    else return []

/-- The entries of a block with colons; at most a given number of them. A key may be missing and so
may a value, but not the question mark or the colon of both. -/
def blockEntriesUpTo (node : Compose Node) : Nat → Compose (List (Node × Node))
  | 0 => failure
  | count + 1 => do
    if ← optToken .blockEnd then return []
    else
      expect .key
      let key ← optNode node entryEnds
      let value ← if ← optToken .value then optNode node entryEnds else pure .blank
      return (key, value) :: (← blockEntriesUpTo node count)

/-- A single pair within a flow sequence, behind its question mark or the sign of a key. -/
def flowPair (node : Compose Node) : Compose Node := do
  let key ←
    if ← next [.value, .flowEntry, .flowSequenceEnd] then
      skip
      pure Node.blank
    else node
  let value ←
    if ← optToken .value then optNode node [.flowEntry, .flowSequenceEnd] else pure .blank
  return .mapping [(key, value)]

/-- The entries of a flow sequence; at most a given number of them. -/
def flowItemsUpTo (node : Compose Node) (first : Bool) : Nat → Compose (List Node)
  | 0 => failure
  | count + 1 => do
    if ← optToken .flowSequenceEnd then return []
    if !first then
      expect .flowEntry
    if ← optToken .flowSequenceEnd then return []
    let item ← if ← optToken .key then flowPair node else node
    return item :: (← flowItemsUpTo node false count)

/-- The entries of a flow mapping; at most a given number of them. -/
def flowEntriesUpTo (node : Compose Node) (first : Bool) : Nat → Compose (List (Node × Node))
  | 0 => failure
  | count + 1 => do
    if ← optToken .flowMappingEnd then return []
    if !first then
      expect .flowEntry
    if ← optToken .flowMappingEnd then return []
    let ends : List Token := [.flowEntry, .flowMappingEnd]
    if ← optToken .key then
      let key ← optNode node (.value :: ends)
      let value ← if ← optToken .value then optNode node ends else pure .blank
      return (key, value) :: (← flowEntriesUpTo node false count)
    else
      let key ← node
      return (key, .blank) :: (← flowEntriesUpTo node false count)

/-- A node nested at most as deeply as the last argument says. The flags tell whether it may be a
block, and whether it may be a sequence that is not indented. -/
def node (block flat : Bool) : Nat → Compose Node
  | 0 => failure
  | depth + 1 => do
    match ← peek with
    | some (.alias name) =>
      skip
      match (← get).anchors.lookup name with
      | some node => return node
      | none => failure
    | _ =>
      let (anchor, tag) ← properties
      named anchor do
        let count := (← get).rest.length + 1
        match ← peek with
        | some (.scalar text style) =>
          skip
          return .scalar tag style text
        | some .flowSequenceStart =>
          skip
          return .sequence (← flowItemsUpTo (node false false depth) true count)
        | some .flowMappingStart =>
          skip
          return .mapping (← flowEntriesUpTo (node false false depth) true count)
        | found =>
          if flat && found = some .blockEntry then
            return .sequence (← flatItemsUpTo (node true false depth) count)
          else if block && found = some .blockSequenceStart then
            skip
            return .sequence (← blockItemsUpTo (node true false depth) count)
          else if block && found = some .blockMappingStart then
            skip
            return .mapping (← blockEntriesUpTo (node true true depth) count)
          else if anchor.isSome || tag.isSome then return .scalar tag .plain ""
          else failure

/-! ## Documents -/

/-- Add a shorthand that a directive introduces. -/
def addShorthand (handle start : String) : Compose Unit := do
  let state ← get
  if (state.shorthands.lookup handle).isSome then failure
  set { state with shorthands := (handle, start) :: state.shorthands }

/-- The directives in front of a document; at most a given number of them. -/
def directivesUpTo (versioned : Bool) : Nat → Compose Unit
  | 0 => return
  | count + 1 => do
    match ← peek with
    | some (.version major minor) =>
      if versioned || major != 1 || (minor != 1 && minor != 2) then failure
      skip
      directivesUpTo true count
    | some (.tagShorthand handle start) =>
      addShorthand handle start
      skip
      directivesUpTo versioned count
    | _ => return

/-- The shorthands that need no directive. -/
def standardShorthands : List (String × String) :=
  [("!", "!"), ("!!", "tag:yaml.org,2002:")]

/-- A directive comes next. -/
def atDirective : Compose Bool := do
  match ← peek with
  | some (.version _ _) => return true
  | some (.tagShorthand _ _) => return true
  | _ => return false

/-- The content of a document. -/
def content : Compose Node := do
  if (← peek).isNone || (← atDirective) || (← next [.documentStart, .documentEnd]) then
    return .blank
  else node true false ((← get).rest.length + 1)

/-- The only document of a text. Directives need a mark behind them. -/
def onlyDocument : Compose Node := do
  if (← peek).isNone then failure
  let explicit := (← atDirective) || (← next [.documentStart])
  if explicit then
    directivesUpTo false ((← get).rest.length + 1)
    expect .documentStart
  modify fun state => { state with shorthands := state.shorthands ++ standardShorthands }
  let found ← if explicit then content else node true false ((← get).rest.length + 1)
  let rest := (← get).rest.dropWhile fun token => token = .documentEnd
  if rest.isEmpty then return found else failure

end Compose

/-! ## Documents -/

/-- The truth value that a plain scalar is. -/
def truthOf? (text : String) : Option Bool :=
  if ["true", "True", "TRUE"].contains text then some true
  else if ["false", "False", "FALSE"].contains text then some false
  else none

/-- The scalar stands for the absence of a value. -/
def isNullText (text : String) : Bool :=
  ["null", "Null", "NULL", "~"].contains text

/-- The name of a tag that is not defined by the standard. -/
def localTag? (tag : Option String) : Option String :=
  match tag.map String.toList with
  | some ['!'] => some "!"
  | some ('!' :: name) => some (String.ofList name)
  | _ => none

/-- The readings of a scalar. Only plain scalars stand for something other than a text. A tag of its
own names an alternative if nothing else is written. -/
def scalarOf (tag : Option String) (style : Style) (text : String) : Scalar :=
  let plain := style = .plain
  let nothing := plain && (text.isEmpty || isNullText text)
  { text := some text
    truth :=
      if plain || (style = .literal && tag = some "tag:yaml.org,2002:bool") then truthOf? text
      else none
    choice := match localTag? tag with
      | some name => if nothing then some name else none
      | none => some text
    isAbsent := match tag with
      | none => nothing
      | some tag => plain && tag = "tag:yaml.org,2002:null" && isNullText text
    isBlank := plain && text.isEmpty }

namespace Node

/-- The text of a key, if the key is a scalar. -/
def keyText : Node → Option String
  | scalar _ _ text => some text
  | _ => none

mutual

/-- The document that a node is. -/
def document : Node → Document
  | scalar tag style text => .scalar (scalarOf tag style text)
  | sequence items => .list (documents items)
  | mapping entries => .record (recordEntries entries) none
  | cycle => .record [(none, .list [])] none

/-- The documents that nodes are. -/
def documents : List Node → List Document
  | [] => []
  | first :: rest => first.document :: documents rest

/-- The entries of a record that the entries of a mapping are. -/
def recordEntries : List (Node × Node) → List (Option String × Document)
  | [] => []
  | (key, value) :: rest => (key.keyText, value.document) :: recordEntries rest

end

end Node

/-- The document of a text that holds exactly one. -/
def document? (text : String) : Option Document := do
  let tokens ← tokens? text
  let (node, _) ← Compose.onlyDocument.run { rest := tokens }
  return node.document

end NamingLint.Yaml
