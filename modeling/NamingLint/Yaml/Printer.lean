import NamingLint.Json.Value
import NamingLint.Yaml.Node
import NamingLint.Yaml.Number

/-!
# Printing YAML

A value of JSON as a YAML text in block style. A text is printed plain where that is possible, else
in single quotes, else in double quotes with escapes; a text of several lines becomes a block
scalar.
-/

namespace NamingLint.Yaml

namespace Printer

/-! ## The styles that a text allows -/

/-- The character can be printed as it is. -/
def isPrintable (c : Char) : Bool :=
  let n := c.toNat
  n == 10 || (32 ≤ n && n ≤ 126) || (0xA0 ≤ n && n != 0xFEFF && n != 0xFFFE && n != 0xFFFF)

/-- Characters that have a meaning of their own at the start of a plain scalar. -/
def openingIndicators : List Char :=
  ['#', ',', '[', ']', '\x7b', '\x7d', '&', '*', '!', '|', '>', '\'', '"', '%', '@', Char.ofNat 96]

/-- Some character behind the first one has a meaning of its own. The first argument is the
character in front. -/
def holdsIndicator : Char → List Char → Bool
  | _, [] => false
  | before, c :: rest =>
    (c == ':' && isBlankOrEnd rest.head?) || (c == '#' && isBlankOrEnd (some before)) ||
      holdsIndicator c rest

/-- A plain scalar with this text would read as something else. -/
def needsQuotes (text : List Char) : Bool :=
  match text with
  | [] => false
  | first :: rest =>
    ['-', '-', '-'].isPrefixOf text || ['.', '.', '.'].isPrefixOf text ||
      openingIndicators.contains first ||
      (['?', ':', '-'].contains first && isBlankOrEnd rest.head?) || holdsIndicator first rest

/-- Two neighbours in a text pass the tests. -/
def hasNeighbours (left right : Char → Bool) : List Char → Bool
  | first :: second :: rest =>
    (left first && right second) || hasNeighbours left right (second :: rest)
  | _ => false

/-- A space. -/
def isSpace (c : Char) : Bool := c == ' '

/-- Only escapes can print the text. -/
def needsEscapes (text : List Char) : Bool :=
  !text.all isPrintable || hasNeighbours isSpace isBreak text

/-- A plain scalar can have this text. -/
def allowsPlain (text : List Char) : Bool :=
  !needsEscapes text && !needsQuotes text && !text.any isBreak &&
    !text.head?.any isSpace && !text.getLast?.any isSpace

/-- A scalar in single quotes can have this text. -/
def allowsSingleQuotes (text : List Char) : Bool :=
  !needsEscapes text && !hasNeighbours isBreak isSpace text

/-- A block scalar can have this text. -/
def allowsBlock (text : List Char) : Bool :=
  !text.isEmpty && !needsEscapes text && !text.getLast?.any isSpace

/-- A plain scalar with this text would not read as a text. -/
def readsAsOther (text : List Char) : Bool :=
  text.isEmpty || isNullText (String.ofList text) || (truthOf? (String.ofList text)).isSome ||
    looksNumeric text

/-- The style in which a text is printed. -/
def styleOf (text : List Char) : Style :=
  if text.contains '\n' then if allowsBlock text then .literal else .doubleQuoted
  else if allowsPlain text && !readsAsOther text then .plain
  else if allowsSingleQuotes text then .singleQuoted
  else .doubleQuoted

/-! ## Scalars -/

/-- Spaces up to a column. -/
def spaces (column : Nat) : List Char :=
  List.replicate column ' '

/-- The lines of a text from a column on; the flag tells whether a line starts here. -/
def indented (column : Nat) (quote : Bool) : Bool → List Char → List Char
  | atStart, [] => if atStart && quote then spaces column else []
  | atStart, c :: rest =>
    if isBreak c then c :: indented column quote true rest
    else
      (if atStart then spaces column else []) ++ (if quote && c == '\'' then ['\'', c] else [c]) ++
        indented column quote false rest

/-- A digit in hexadecimal. -/
def hexDigit (value : Nat) : Char :=
  if value < 10 then Char.ofNat ('0'.toNat + value) else Char.ofNat ('A'.toNat + (value - 10))

/-- The lowest digits of a number in hexadecimal. -/
def hexDigits : Nat → Nat → List Char
  | 0, _ => []
  | count + 1, value => hexDigits count (value / 16) ++ [hexDigit (value % 16)]

/-- A character between double quotes. -/
def escapeChar (c : Char) : List Char :=
  if isPrintable c && !isBreak c && c != '"' && c != '\\' then [c]
  else
    '\\' :: match c with
      | '\x00' => ['0']
      | '\x07' => ['a']
      | '\x08' => ['b']
      | '\t' => ['t']
      | '\n' => ['n']
      | '\x0b' => ['v']
      | '\x0c' => ['f']
      | '\r' => ['r']
      | '\x1b' => ['e']
      | '"' => ['"']
      | '\\' => ['\\']
      | c =>
        if c.toNat == 0x85 then ['N']
        else if c.toNat == 0x2028 then ['L']
        else if c.toNat == 0x2029 then ['P']
        else if c.toNat < 0x100 then 'x' :: hexDigits 2 c.toNat
        else if c.toNat < 0x10000 then 'u' :: hexDigits 4 c.toNat
        else 'U' :: hexDigits 8 c.toNat

/-- The signs behind the bar of a block scalar: the indentation, if the text hides it, and what
becomes of the line breaks at its end. -/
def blockSigns (text : List Char) : List Char :=
  let indentation := if text.head?.any fun c => isSpace c || isBreak c then ['2'] else []
  let chomping := match text.reverse with
    | [] => ['-']
    | last :: before =>
      if !isBreak last then ['-']
      else if before.head?.all isBreak then ['+']
      else []
  indentation ++ chomping

/-- A scalar whose further lines start at a column. -/
def scalar (column : Nat) (text : String) : String :=
  let chars := text.toList
  String.ofList <| match styleOf chars with
    | .plain => chars
    | .singleQuoted => '\'' :: indented column true false chars ++ ['\'']
    | .literal => '|' :: blockSigns chars ++ '\n' :: indented column false true chars
    | _ => '"' :: chars.flatMap escapeChar ++ ['"']

/-! ## Collections -/

/-- A line break behind a text, unless it ends in one. -/
def endLine (text : String) : String :=
  if text.toList.getLast?.any isBreak then text else text ++ "\n"

/-- The text of a key may stand in front of a colon on one line. -/
def isSimpleKey (text : String) : Bool :=
  !text.toList.any isBreak && text.utf8ByteSize ≤ 128

/-- Leave out the indentation of the first line, which a sign takes. -/
def behindSign (column : Nat) (text : String) : String :=
  String.ofList (text.toList.drop column)

/-- A key and the colon behind it, at a column. -/
def keyText (column : Nat) (name : String) : String :=
  let margin := String.ofList (spaces column)
  if isSimpleKey name then margin ++ scalar (column + 2) name ++ ":"
  else margin ++ "? " ++ endLine (scalar (column + 2) name) ++ margin ++ ":"

/-- A value on the line of its key or its hyphen, if it fits there. -/
def inline? (column : Nat) : Json.Value → Option String
  | .null => some "null"
  | .bool true => some "true"
  | .bool false => some "false"
  | .number text => some text
  | .string text => some (scalar column text)
  | .array [] => some "[]"
  | .object [] => some "\x7b\x7d"
  | _ => none

mutual

/-- A value as a block at a column. -/
def block (column : Nat) : Json.Value → String
  | .array elements => items column elements
  | .object members => entries column members
  | value => endLine (String.ofList (spaces column) ++ (inline? column value).getD "")

/-- The entries of a sequence at a column. -/
def items (column : Nat) : List Json.Value → String
  | [] => ""
  | first :: rest =>
    let margin := String.ofList (spaces column)
    let text := match inline? (column + 2) first with
      | some text => endLine (margin ++ "- " ++ text)
      | none => margin ++ "- " ++ behindSign (column + 2) (block (column + 2) first)
    text ++ items column rest

/-- The entries of a mapping at a column. -/
def entries (column : Nat) : List (String × Json.Value) → String
  | [] => ""
  | (name, value) :: rest =>
    let key := keyText column name
    let text := match inline? (column + 2) value with
      | some text => endLine (key ++ " " ++ text)
      | none =>
        if !isSimpleKey name then key ++ " " ++ behindSign (column + 2) (block (column + 2) value)
        else
          match value with
          | .array elements => key ++ "\n" ++ items column elements
          | value => key ++ "\n" ++ block (column + 2) value
    text ++ entries column rest

end

end Printer

/-- The text of a value. -/
def print (value : Json.Value) : String :=
  Printer.block 0 value

end NamingLint.Yaml
