import NamingLint.Source.Token
import NamingLint.Unicode.Blank
import NamingLint.Unicode.Escape
import NamingLint.Unicode.Identifier

/-!
# From text to tokens

Each scanner takes the characters from some place on and answers how many of them make up the
lexeme that starts there, or none. `tokens?` cuts a whole text into lexemes, drops blanks and
comments, turns documentation comments into attributes and groups the rest by brackets. It fails on
a character that starts no lexeme and on brackets that do not match.
-/

namespace NamingLint.Source.Lexer

open NamingLint.Unicode

/-- How many characters make up the lexeme at the start of a text, if there is one. -/
abbrev Scanner := List Char → Option Nat

/-- Whether a text starts with a string. -/
def startsWith (chars : List Char) (text : String) : Bool :=
  text.toList.isPrefixOf chars

/-! ## Identifiers -/

/-- The first character of an identifier. -/
def isIdentStart (c : Char) : Bool :=
  c == '_' || isIdentifierStart c

/-- An identifier or keyword without a marker. -/
def scanName : Scanner
  | [] => none
  | c :: rest =>
    if isIdentStart c then some (1 + (rest.takeWhile isIdentifierContinue).length) else none

/-- The suffix of a literal, which may be empty. -/
def suffixLength (chars : List Char) : Nat :=
  (scanName chars).getD 0

/-- Names that a raw identifier may not have. -/
def notRaw : List String := ["_", "super", "self", "Self", "crate"]

/-- The length, marker included, and the name of an identifier, and whether it is raw. -/
def scanIdent (chars : List Char) : Option (Nat × String × Bool) :=
  if startsWith chars "r#" then
    let rest := chars.drop 2
    match scanName rest with
    | some length =>
      let name := String.ofList (rest.take length)
      if notRaw.contains name then none else some (2 + length, name, true)
    | none => none
  else
    (scanName chars).map fun length => (length, String.ofList (chars.take length), false)

/-- Starts of literals, which are no identifiers even if the literal is malformed. -/
def literalStarts : List String :=
  ["r\"", "r#\"", "r##", "b\"", "b\'", "br\"", "br#", "c\"", "cr\"", "cr#"]

/-! ## Escapes -/

/-- A hexadecimal digit's value. -/
def hexValue? (c : Char) : Option Nat :=
  if '0' ≤ c && c ≤ '9' then some (c.toNat - '0'.toNat)
  else if 'a' ≤ c && c ≤ 'f' then some (c.toNat - 'a'.toNat + 10)
  else if 'A' ≤ c && c ≤ 'F' then some (c.toNat - 'A'.toNat + 10)
  else none

/-- A character that is a hexadecimal digit. -/
def isHex (c : Char) : Bool :=
  (hexValue? c).isSome

/-- The kinds of quoted literals, which differ in the characters and escapes that they admit. -/
inductive Quoting where
  | text
  | bytes
  /-- Text that holds no zero character. -/
  | zeroFree
  deriving DecidableEq

/-- Two hexadecimal digits behind a backslash and an `x`. -/
def scanHexEscape (quoting : Quoting) : Scanner
  | first :: second :: _ =>
    let admitted := match quoting with
      | .text => '0' ≤ first && first ≤ '7' && isHex second
      | .bytes => isHex first && isHex second
      | .zeroFree => isHex first && isHex second && !(first == '0' && second == '0')
    if admitted then some 2 else none
  | _ => none

/-- The digits of a code point in braces, up to the closing one. `digits` have been read so far and
make up `value`. -/
def scanCodePoint (digits value : Nat) : List Char → Option (Nat × Nat)
  | [] => none
  | c :: rest =>
    match hexValue? c with
    | some digit =>
      if digits == 6 then none
      else
        (scanCodePoint (digits + 1) (value * 16 + digit) rest).map fun (count, point) =>
          (count + 1, point)
    | none =>
      if digits == 0 then none
      else if c == '_' then
        (scanCodePoint digits value rest).map fun (count, point) => (count + 1, point)
      else if c == '\x7d' then
        if value.isValidChar then some (1, value) else none
      else none

/-- What follows a backslash and a `u`: the length and the code point. -/
def scanUnicodeEscape : List Char → Option (Nat × Nat)
  | '\x7b' :: rest => (scanCodePoint 0 0 rest).map fun (count, point) => (count + 1, point)
  | _ => none

/-- The blanks that a backslash at the end of a line skips. `last` is the character before them. A
carriage return must stand before a line feed, and something must follow. -/
def scanLineSkip (last : Char) : Scanner
  | [] => none
  | c :: rest =>
    if last == '\r' && c ≠ '\n' then none
    else if last == '\r' then (scanLineSkip c rest).map (· + 1)
    else if c == ' ' || c == '\t' || c == '\n' || c == '\r' then
      (scanLineSkip c rest).map (· + 1)
    else some 0

/-- What may follow a backslash: the length of the escape behind the backslash. Only a string may
be continued behind the end of a line. -/
def scanEscape (quoting : Quoting) (inString : Bool) : Scanner
  | [] => none
  | c :: rest =>
    if c == 'x' then (scanHexEscape quoting rest).map (· + 1)
    else if c == 'n' || c == 'r' || c == 't' || c == '\\' || c == '\'' || c == '"' then some 1
    else if c == '0' then if quoting = .zeroFree then none else some 1
    else if c == 'u' then
      if quoting = .bytes then none
      else
        match scanUnicodeEscape rest with
        | some (count, point) =>
          if quoting = .zeroFree && point == 0 then none else some (count + 1)
        | none => none
    else if inString && (c == '\n' || c == '\r') then (scanLineSkip c rest).map (· + 1)
    else none

/-! ## Quoted literals -/

/-- Whether a character may stand unescaped in a quoted literal. -/
def Quoting.admits (quoting : Quoting) (c : Char) : Bool :=
  match quoting with
  | .text => true
  | .bytes => c.toNat < 128
  | .zeroFree => c.toNat ≠ 0

/-- The rest of a string behind its opening quote, with the suffix. The first argument bounds the
number of characters read. -/
def scanCooked (quoting : Quoting) : Nat → Scanner
  | 0, _ => none
  | _, [] => none
  | fuel + 1, c :: rest =>
    if c == '"' then some (1 + suffixLength rest)
    else if c == '\r' then
      match rest with
      | '\n' :: rest => (scanCooked quoting fuel rest).map (· + 2)
      | _ => none
    else if c == '\\' then
      match scanEscape quoting true rest with
      | some count => (scanCooked quoting fuel (rest.drop count)).map (· + (count + 1))
      | none => none
    else if quoting.admits c then (scanCooked quoting fuel rest).map (· + 1)
    else none

/-- The rest of a raw string behind its opening quote, with the suffix. -/
def scanRawBody (quoting : Quoting) (hashes : List Char) : Scanner
  | [] => none
  | c :: rest =>
    if c == '"' && hashes.isPrefixOf rest then
      some (1 + hashes.length + suffixLength (rest.drop hashes.length))
    else if c == '\r' then
      match rest with
      | '\n' :: _ => (scanRawBody quoting hashes rest).map (· + 1)
      | _ => none
    else if quoting.admits c then (scanRawBody quoting hashes rest).map (· + 1)
    else none

/-- A raw string from its hash signs on. At most 255 of them may open it. -/
def scanRaw (quoting : Quoting) (chars : List Char) : Option Nat :=
  let hashes := chars.takeWhile (· == '#')
  match chars.drop hashes.length with
  | '"' :: rest =>
    if hashes.length > 255 then none
    else (scanRawBody quoting hashes rest).map (· + (hashes.length + 1))
  | _ => none

/-- A string literal with the given letter in front of its quote or of the `r` of a raw one. -/
def scanString (quoting : Quoting) (letter : String) (chars : List Char) : Option Nat :=
  if startsWith chars (letter ++ "\"") then
    let rest := chars.drop (letter.length + 1)
    (scanCooked quoting (rest.length + 1) rest).map (· + (letter.length + 1))
  else if startsWith chars (letter ++ "r") then
    (scanRaw quoting (chars.drop (letter.length + 1))).map (· + (letter.length + 1))
  else none

/-- The single character or escape of a character literal, its closing quote and the suffix. -/
def scanQuotedChar (quoting : Quoting) : Scanner
  | [] => none
  | c :: rest =>
    let length? :=
      if c == '\\' then (scanEscape quoting false rest).map (· + 1)
      else if quoting.admits c then some 1
      else none
    match length? with
    | some length =>
      match (c :: rest).drop length with
      | '\'' :: behind => some (length + 1 + suffixLength behind)
      | _ => none
    | none => none

/-- A character literal or a byte literal. -/
def scanChar : Scanner
  | '\'' :: rest => (scanQuotedChar .text rest).map (· + 1)
  | 'b' :: '\'' :: rest => (scanQuotedChar .bytes rest).map (· + 2)
  | _ => none

/-! ## Numbers -/

/-- An ASCII digit. -/
def isDigit (c : Char) : Bool :=
  '0' ≤ c && c ≤ '9'

/-- The suffix of a number, which must end where no identifier goes on. -/
def withNumberSuffix (chars : List Char) (digits : Nat) : Option Nat :=
  let rest := chars.drop digits
  let length := digits + suffixLength rest
  match chars.drop length with
  | c :: _ => if isIdentifierContinue c then none else some length
  | [] => some length

/-- The sign and digits of an exponent: its length and whether it has a digit. A second sign ends
the number in front of the exponent. -/
def scanExponent (signed valued : Bool) : List Char → Option (Nat × Bool)
  | [] => some (0, valued)
  | c :: rest =>
    if c == '+' || c == '-' then
      if valued then some (0, valued)
      else if signed then none
      else (scanExponent true valued rest).map fun (count, found) => (count + 1, found)
    else if isDigit c then
      (scanExponent signed true rest).map fun (count, found) => (count + 1, found)
    else if c == '_' then
      (scanExponent signed valued rest).map fun (count, found) => (count + 1, found)
    else some (0, valued)

/-- The digits, the point and the exponent of a floating-point number, behind its first digit.
`count` characters have been read and `dotted` tells whether a point is among them. -/
def scanFloatDigits (count : Nat) (dotted : Bool) : Scanner
  | [] => if dotted then some count else none
  | c :: rest =>
    if isDigit c || c == '_' then scanFloatDigits (count + 1) dotted rest
    else if c == '.' then
      if dotted then some count
      else
        match rest with
        | d :: _ =>
          if d == '.' || isIdentStart d then none else scanFloatDigits (count + 1) true rest
        | [] => some (count + 1)
    else if c == 'e' || c == 'E' then
      match scanExponent false false rest with
      | some (length, true) => some (count + 1 + length)
      | _ => if dotted then some count else none
    else if dotted then some count
    else none

/-- A floating-point literal. -/
def scanFloat : Scanner
  | [] => none
  | c :: rest =>
    if isDigit c then
      (scanFloatDigits 1 false rest).bind fun digits => withNumberSuffix (c :: rest) digits
    else none

/-- The digits of an integer to a base. `some` number of characters once a digit has been seen. A
decimal digit that the base lacks is an error, a letter ends the number. -/
def scanDigits (base count : Nat) (empty : Bool) : Scanner
  | [] => if empty then none else some count
  | c :: rest =>
    if c == '_' then
      if empty && base == 10 then none else scanDigits base (count + 1) empty rest
    else
      match hexValue? c with
      | some digit =>
        if digit < base then scanDigits base (count + 1) false rest
        else if isDigit c then none
        else if empty then none
        else some count
      | none => if empty then none else some count

/-- An integer literal. -/
def scanInt (chars : List Char) : Option Nat :=
  let digits :=
    if startsWith chars "0x" then scanDigits 16 2 true (chars.drop 2)
    else if startsWith chars "0o" then scanDigits 8 2 true (chars.drop 2)
    else if startsWith chars "0b" then scanDigits 2 2 true (chars.drop 2)
    else scanDigits 10 0 true chars
  digits.bind (withNumberSuffix chars)

/-- Any literal. -/
def scanLiteral (chars : List Char) : Option Nat :=
  (scanString .text "" chars).orElse fun _ =>
  (scanString .bytes "b" chars).orElse fun _ =>
  (scanString .zeroFree "c" chars).orElse fun _ =>
  (scanChar chars).orElse fun _ =>
  (scanFloat chars).orElse fun _ => scanInt chars

/-! ## Comments and blanks -/

/-- A blank. The marks that set the direction of writing count as blanks. -/
def isBlank (c : Char) : Bool :=
  isWhiteSpace c || c.toNat == 0x200E || c.toNat == 0x200F

/-- The length of the rest of a line and of the carriage return behind it, if any. -/
def lineLength : List Char → Nat × Nat
  | [] => (0, 0)
  | '\n' :: _ => (0, 0)
  | '\r' :: '\n' :: _ => (0, 1)
  | _ :: rest => let (count, ending) := lineLength rest; (count + 1, ending)

/-- The length of a comment between `/*` and its `*/`, at a depth of nesting. The second argument
bounds the number of steps. -/
def scanNested (depth : Nat) : Nat → Scanner
  | 0, _ => none
  | fuel + 1, '/' :: '*' :: rest => (scanNested (depth + 1) fuel rest).map (· + 2)
  | fuel + 1, '*' :: '/' :: rest =>
    if depth ≤ 1 then some 2 else (scanNested (depth - 1) fuel rest).map (· + 2)
  | _, [] => none
  | fuel + 1, _ :: rest => (scanNested depth fuel rest).map (· + 1)

/-- A comment between `/*` and `*/`, nested ones included. -/
def scanBlockComment (chars : List Char) : Option Nat :=
  if startsWith chars "/*" then
    (scanNested 1 (chars.length + 1) (chars.drop 2)).map (· + 2)
  else none

/-- Blanks and comments other than documentation: the length of the first one, if there is one. -/
def scanBlank (chars : List Char) : Option Nat :=
  if startsWith chars "//" && (!startsWith chars "///" || startsWith chars "////") &&
      !startsWith chars "//!" then
    let (count, ending) := lineLength chars
    some (count + ending)
  else if startsWith chars "/**/" then some 4
  else if startsWith chars "/*" && (!startsWith chars "/**" || startsWith chars "/***") &&
      !startsWith chars "/*!" then
    scanBlockComment chars
  else
    match chars with
    | c :: _ => if isBlank c then some 1 else none
    | [] => none

/-- The first characters of a text that are neither blank nor part of a comment. The first argument
bounds the number of blanks and comments. -/
def skipBlanks : Nat → List Char → List Char
  | 0, chars => chars
  | fuel + 1, chars =>
    match scanBlank chars with
    | some count => skipBlanks fuel (chars.drop count)
    | none => chars

/-- A documentation comment: its length, its text and whether it documents what encloses it. -/
def scanDoc (chars : List Char) : Option (Nat × List Char × Bool) :=
  let line (inner : Bool) :=
    let rest := chars.drop 3
    let (count, ending) := lineLength rest
    some (3 + count + ending, rest.take count, inner)
  let block (inner : Bool) :=
    (scanBlockComment chars).map fun length =>
      (length, (chars.drop 3).take (length - 5), inner)
  if startsWith chars "//!" then line true
  else if startsWith chars "/*!" then block true
  else if startsWith chars "///" then if startsWith chars "////" then none else line false
  else if startsWith chars "/**" && !startsWith chars "/***" then block false
  else none

/-- Whether a carriage return in a text stands before something other than a line feed. -/
def hasBareReturn : List Char → Bool
  | [] => false
  | '\r' :: '\n' :: rest => hasBareReturn rest
  | '\r' :: _ => true
  | _ :: rest => hasBareReturn rest

/-- A text as a string literal. A zero character is written so that no digit can follow it. -/
def quoteDoc : List Char → List Char
  | [] => []
  | c :: rest =>
    let shown :=
      if c.toNat == 0 then
        match rest with
        | d :: _ => if '0' ≤ d && d ≤ '7' then ['\\', 'x', '0', '0'] else ['\\', '0']
        | [] => ['\\', '0']
      else if c == '\'' then [c]
      else escapeQuoted c
    shown ++ quoteDoc rest

/-- The attribute that a documentation comment stands for, in reverse order. -/
def docTokens (text : List Char) (inner : Bool) (location : Location) : List TokenTree :=
  let quoted := String.ofList ('"' :: quoteDoc text ++ ['"'])
  let brackets : TokenTree :=
    .group .bracket [.ident "doc" false location, .punct '=' false, .literal quoted]
  brackets :: (if inner then [.punct '!' false] else []) ++ [.punct '#' false]

/-! ## Punctuation -/

/-- The punctuation characters. -/
def punctuation : List Char :=
  "~!@#$%^&*-=+|;:,<.>/?'".toList

/-- Whether a text starts with a punctuation character that starts no comment. -/
def startsPunct (chars : List Char) : Bool :=
  match chars with
  | c :: _ => punctuation.contains c && !startsWith chars "//" && !startsWith chars "/*"
  | [] => false

/-- The punctuation token at the start of a text. A quote needs an identifier behind it that no
further quote follows. -/
def scanPunct (chars : List Char) : Option TokenTree :=
  if startsPunct chars then
    match chars with
    | '\'' :: rest =>
      match scanIdent rest with
      | some (length, _, _) =>
        match rest.drop length with
        | '\'' :: _ => none
        | '#' :: _ => if startsWith rest "r#" then some (.punct '\'' true) else none
        | _ => some (.punct '\'' true)
      | none => none
    | c :: rest => some (.punct c (startsPunct rest))
    | [] => none
  else none

/-- A literal that stands for an error and is written as a comment in parentheses. -/
def errorLiteral : String := "(/*ERROR*/)"

/-- The token at the start of a text that is no bracket, with its length. -/
def scanLeaf (chars : List Char) (location : Location) : Option (Nat × TokenTree) :=
  match scanLiteral chars with
  | some length => some (length, .literal (String.ofList (chars.take length)))
  | none =>
    match scanPunct chars with
    | some token => some (1, token)
    | none =>
      if literalStarts.any (startsWith chars) then none
      else
        match scanIdent chars with
        | some (length, name, raw) => some (length, .ident name raw location)
        | none =>
          if startsWith chars errorLiteral then
            some (errorLiteral.length, .literal errorLiteral)
          else none

/-! ## The forest -/

/-- The place behind some characters. Only a line feed ends a line. -/
def advance (location : Location) (chars : List Char) : Location :=
  chars.foldl (fun place c =>
    if c == '\n' then ⟨place.line + 1, 1⟩ else ⟨place.line, place.column + 1⟩) location

/-- An open bracket with the tokens before it, the last one first. -/
structure OpenGroup where
  delimiter : Delimiter
  before : List TokenTree

/-- Cut the rest of a text into tokens. `found` are the tokens since the innermost open bracket, the
last one first. The first argument bounds the number of lexemes. -/
def lexFrom : Nat → Location → List OpenGroup → List TokenTree → List Char →
    Option (List TokenTree)
  | 0, _, _, _, _ => none
  | fuel + 1, location, stack, found, chars =>
    let goOn (length : Nat) (stack : List OpenGroup) (found : List TokenTree) :=
      lexFrom fuel (advance location (chars.take length)) stack found (chars.drop length)
    match scanBlank chars with
    | some length => goOn length stack found
    | none =>
      match scanDoc chars with
      | some (length, text, inner) =>
        if hasBareReturn text then none
        else goOn length stack (docTokens text inner location ++ found)
      | none =>
        match chars with
        | [] => if stack.isEmpty then some found.reverse else none
        | c :: _ =>
          match if startsWith chars errorLiteral then none else Delimiter.ofOpening? c with
          | some delimiter => goOn 1 (⟨delimiter, found⟩ :: stack) []
          | none =>
            match Delimiter.ofClosing? c, stack with
            | some delimiter, top :: stack =>
              if top.delimiter = delimiter then
                goOn 1 stack (.group delimiter found.reverse :: top.before)
              else none
            | some _, [] => none
            | none, _ =>
              match scanLeaf chars location with
              | some (length, token) => goOn length stack (token :: found)
              | none => none

/-- The tokens of a text, positions counted from its first character. A byte order mark in front is
no token but takes a column. -/
def tokens? (chars : List Char) : Option (List TokenTree) :=
  match chars with
  | '\uFEFF' :: rest => lexFrom (rest.length + 1) ⟨1, 2⟩ [] [] rest
  | _ => lexFrom (chars.length + 1) ⟨1, 1⟩ [] [] chars

/-- A text without a byte order mark in front and without a first line that names an interpreter.
A first line that opens an attribute is kept. -/
def withoutPreamble (chars : List Char) : List Char :=
  let chars := match chars with
    | '\uFEFF' :: rest => rest
    | _ => chars
  match chars with
  | '#' :: '!' :: rest =>
    match skipBlanks (rest.length + 1) rest with
    | '[' :: _ => chars
    | _ => chars.dropWhile (· ≠ '\n')
  | _ => chars

end NamingLint.Source.Lexer
