import NamingLint.Json.Value

/-!
# Reading JSON

`Value.parse?` reads a whole text. The other readers take characters from the front of a text and
give what they have read together with the rest.
-/

namespace NamingLint.Json

/-- The text behind blanks. -/
def skipBlanks (text : List Char) : List Char :=
  text.dropWhile fun c => c == ' ' || c == '\n' || c == '\t' || c == '\r'

/-- The value of a hexadecimal digit. -/
def hexValue? (c : Char) : Option Nat :=
  if c.isDigit then some (c.toNat - '0'.toNat)
  else if 'a' ≤ c && c ≤ 'f' then some (c.toNat - 'a'.toNat + 10)
  else if 'A' ≤ c && c ≤ 'F' then some (c.toNat - 'A'.toNat + 10)
  else none

/-- A code unit in four hexadecimal digits. -/
def codeUnit? : List Char → Option (Nat × List Char)
  | a :: b :: c :: d :: rest => do
    let value := ((← hexValue? a) * 16 + (← hexValue? b)) * 256 +
      ((← hexValue? c) * 16 + (← hexValue? d))
    return (value, rest)
  | _ => none

/-- A character given by code units, behind the first `\u`. Characters beyond the basic plane take
two units, and no unit of such a pair may stand alone. -/
def codeUnits? (text : List Char) : Option (Char × List Char) := do
  let (first, rest) ← codeUnit? text
  if 0xD800 ≤ first && first < 0xDC00 then
    match rest with
    | '\\' :: 'u' :: more =>
      let (second, rest) ← codeUnit? more
      if 0xDC00 ≤ second && second < 0xE000 then
        return (Char.ofNat (0x10000 + (first - 0xD800) * 0x400 + (second - 0xDC00)), rest)
      else none
    | _ => none
  else if 0xDC00 ≤ first && first < 0xE000 then none
  else return (Char.ofNat first, rest)

/-- A character behind a backslash. -/
def escaped? : List Char → Option (Char × List Char)
  | '"' :: rest => some ('"', rest)
  | '\\' :: rest => some ('\\', rest)
  | '/' :: rest => some ('/', rest)
  | 'b' :: rest => some ('\x08', rest)
  | 'f' :: rest => some ('\x0c', rest)
  | 'n' :: rest => some ('\n', rest)
  | 'r' :: rest => some ('\r', rest)
  | 't' :: rest => some ('\t', rest)
  | 'u' :: rest => codeUnits? rest
  | _ => none

/-- The characters of a string up to its closing quote, of which there are fewer than the first
argument says. -/
def stringBody? : Nat → List Char → Option (List Char × List Char)
  | 0, _ => none
  | _, [] => none
  | count + 1, c :: rest =>
    if c == '"' then some ([], rest)
    else if c.toNat < 32 then none
    else do
      let (c, rest) ← if c == '\\' then escaped? rest else some (c, rest)
      let (more, rest) ← stringBody? count rest
      return (c :: more, rest)

/-- A string behind its opening quote. -/
def string? (text : List Char) : Option (String × List Char) := do
  let (body, rest) ← stringBody? (text.length + 1) text
  return (String.ofList body, rest)

/-- One or more digits. -/
def digits? (text : List Char) : Option (List Char × List Char) :=
  match text.takeWhile Char.isDigit with
  | [] => none
  | digits => some (digits, text.dropWhile Char.isDigit)

/-- The fraction of a number, if there is one. -/
def fraction? : List Char → Option (List Char × List Char)
  | '.' :: rest => (digits? rest).map fun (digits, rest) => ('.' :: digits, rest)
  | text => some ([], text)

/-- The exponent of a number, if there is one. -/
def exponent? : List Char → Option (List Char × List Char)
  | c :: rest =>
    if c == 'e' || c == 'E' then
      let (sign, rest) := match rest with
        | '+' :: more => (['+'], more)
        | '-' :: more => (['-'], more)
        | _ => ([], rest)
      (digits? rest).map fun (digits, rest) => (c :: sign ++ digits, rest)
    else some ([], c :: rest)
  | [] => some ([], [])

/-- The whole part of a number; a zero in front is the only digit. -/
def wholePart? : List Char → Option (List Char × List Char)
  | '0' :: rest => if rest.head?.any Char.isDigit then none else some (['0'], rest)
  | text => digits? text

/-- A number, kept as it is written. -/
def number? (text : List Char) : Option (String × List Char) := do
  let (sign, rest) := match text with
    | '-' :: more => (['-'], more)
    | _ => ([], text)
  let (whole, rest) ← wholePart? rest
  let (fraction, rest) ← fraction? rest
  let (exponent, rest) ← exponent? rest
  return (String.ofList (sign ++ whole ++ fraction ++ exponent), rest)

/-- Parts up to a closing bracket, separated by commas; the first argument bounds their number. -/
def parts? {α : Type} (part : List Char → Option (α × List Char)) (closing : Char) :
    Nat → List Char → Option (List α × List Char)
  | 0, _ => none
  | count + 1, text => do
    let (first, rest) ← part text
    match skipBlanks rest with
    | c :: rest =>
      if c == closing then return ([first], rest)
      else if c == ',' then
        let (others, rest) ← parts? part closing count rest
        return (first :: others, rest)
      else none
    | [] => none

/-- A collection behind its opening bracket. -/
def collection? {α : Type} (part : List Char → Option (α × List Char)) (closing : Char)
    (text : List Char) : Option (List α × List Char) :=
  match skipBlanks text with
  | c :: rest => if c == closing then some ([], rest) else parts? part closing text.length text
  | [] => none

/-- A member of an object, with a reader for its value. -/
def member? (value : List Char → Option (Value × List Char)) (text : List Char) :
    Option ((String × Value) × List Char) := do
  match skipBlanks text with
  | '"' :: rest =>
    let (name, rest) ← string? rest
    match skipBlanks rest with
    | ':' :: rest =>
      let (found, rest) ← value rest
      return ((name, found), rest)
    | _ => none
  | _ => none

/-- A word that stands for a value. -/
def literal? (text : List Char) : Option (Value × List Char) :=
  if "null".toList.isPrefixOf text then some (.null, text.drop 4)
  else if "true".toList.isPrefixOf text then some (.bool true, text.drop 4)
  else if "false".toList.isPrefixOf text then some (.bool false, text.drop 5)
  else none

/-- A value nested at most as deeply as the first argument says. -/
def value? : Nat → List Char → Option (Value × List Char)
  | 0, _ => none
  | depth + 1, text =>
    match skipBlanks text with
    | '"' :: rest => (string? rest).map fun (text, rest) => (.string text, rest)
    | '[' :: rest =>
      (collection? (value? depth) ']' rest).map fun (elements, rest) => (.array elements, rest)
    | '\x7b' :: rest =>
      (collection? (member? (value? depth)) '\x7d' rest).map fun (members, rest) =>
        (.object members, rest)
    | '-' :: rest => (number? ('-' :: rest)).map fun (text, rest) => (.number text, rest)
    | c :: rest =>
      if c.isDigit then (number? (c :: rest)).map fun (text, rest) => (.number text, rest)
      else literal? (c :: rest)
    | [] => none

/-- The value that a text is. -/
def Value.parse? (text : String) : Option Value := do
  let (value, rest) ← value? (text.length + 1) text.toList
  if (skipBlanks rest).isEmpty then return value else none

end NamingLint.Json
