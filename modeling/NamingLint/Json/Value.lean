import NamingLint.Document

/-!
# JSON

Values of JSON and their texts: `Value.compact` without any blanks, and `Value.pretty` with one
member or element on each line.
-/

namespace NamingLint.Json

/-- A value. A number is kept as it is written, and the members of an object in their order. -/
inductive Value where
  | null
  | bool (value : Bool)
  | number (text : String)
  | string (text : String)
  | array (elements : List Value)
  | object (members : List (String × Value))
  deriving Inhabited

/-- A digit in hexadecimal. -/
def hexDigit (value : Nat) : Char :=
  if value < 10 then Char.ofNat ('0'.toNat + value) else Char.ofNat ('a'.toNat + (value - 10))

/-- A character within a string. -/
def escapeChar (c : Char) : List Char :=
  match c with
  | '"' => ['\\', '"']
  | '\\' => ['\\', '\\']
  | '\n' => ['\\', 'n']
  | '\r' => ['\\', 'r']
  | '\t' => ['\\', 't']
  | '\x08' => ['\\', 'b']
  | '\x0c' => ['\\', 'f']
  | c =>
    if c.toNat < 32 then
      ['\\', 'u', '0', '0', hexDigit (c.toNat / 16), hexDigit (c.toNat % 16)]
    else [c]

/-- The text of a string. -/
def quote (text : String) : String :=
  "\"" ++ String.ofList (text.toList.flatMap escapeChar) ++ "\""

/-- A line break and the indentation of a level. -/
def lineBreak (level : Nat) : String :=
  "\n" ++ String.ofList (List.replicate (2 * level) ' ')

namespace Value

/-- A whole number. -/
def ofNat (value : Nat) : Value := number (toString value)

/-- A value that may be absent. -/
def ofOption {α : Type} (encode : α → Value) : Option α → Value
  | some value => encode value
  | none => null

mutual

/-- The text without blanks. -/
def compact : Value → String
  | null => "null"
  | bool true => "true"
  | bool false => "false"
  | number text => text
  | string text => quote text
  | array elements => "[" ++ ",".intercalate (compactAll elements) ++ "]"
  | object members => "\x7b" ++ ",".intercalate (compactMembers members) ++ "\x7d"

/-- The texts of elements. -/
def compactAll : List Value → List String
  | [] => []
  | first :: rest => first.compact :: compactAll rest

/-- The texts of members. -/
def compactMembers : List (String × Value) → List String
  | [] => []
  | (name, value) :: rest => (quote name ++ ":" ++ value.compact) :: compactMembers rest

end

/-- A collection between brackets with its parts on lines of their own. -/
def layOut (level : Nat) (opening closing : String) (parts : List String) : String :=
  match parts with
  | [] => opening ++ closing
  | _ =>
    opening ++ lineBreak (level + 1) ++ ("," ++ lineBreak (level + 1)).intercalate parts ++
      lineBreak level ++ closing

mutual

/-- The text with every part of a collection on a line of its own, at a level of indentation. -/
def prettyAt (level : Nat) : Value → String
  | null => "null"
  | bool true => "true"
  | bool false => "false"
  | number text => text
  | string text => quote text
  | array elements => layOut level "[" "]" (prettyAll (level + 1) elements)
  | object members => layOut level "\x7b" "\x7d" (prettyMembers (level + 1) members)

/-- The texts of elements. -/
def prettyAll (level : Nat) : List Value → List String
  | [] => []
  | first :: rest => first.prettyAt level :: prettyAll level rest

/-- The texts of members. -/
def prettyMembers (level : Nat) : List (String × Value) → List String
  | [] => []
  | (name, value) :: rest =>
    (quote name ++ ": " ++ value.prettyAt level) :: prettyMembers level rest

end

/-- The text with every part of a collection on a line of its own. -/
def pretty (value : Value) : String :=
  value.prettyAt 0

/-- The number that digits make up. -/
def natOfText? (text : String) : Option Nat :=
  let digits := text.toList
  if !digits.isEmpty && digits.all Char.isDigit then some (Nat.ofDigitChars 10 digits 0) else none

mutual

/-- The document that a value is. A lone member with no value may name an alternative. -/
def document : Value → Document
  | null => .scalar { isAbsent := true }
  | bool value => .scalar { truth := some value }
  | number text => .scalar { number := natOfText? text }
  | string text => .scalar { text := some text, choice := some text }
  | array elements => .list (documents elements)
  | object members =>
    .record (entries members) <| match members with
      | [(name, null)] => some name
      | _ => none

/-- The documents that elements are. -/
def documents : List Value → List Document
  | [] => []
  | first :: rest => first.document :: documents rest

/-- The entries that members are. -/
def entries : List (String × Value) → List (Option String × Document)
  | [] => []
  | (name, value) :: rest => (some name, value.document) :: entries rest

end

end Value

end NamingLint.Json
