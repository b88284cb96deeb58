/-!
# Numbers in YAML

A plain scalar that reads as a number has to be quoted if a text is meant. These are the texts that
read as numbers, and those that other readers could take for one.
-/

namespace NamingLint.Yaml

/-- The value of a digit in a base of at most sixteen. -/
def digitIn? (base : Nat) (c : Char) : Option Nat :=
  let value :=
    if c.isDigit then c.toNat - '0'.toNat
    else if 'a' ≤ c && c ≤ 'f' then c.toNat - 'a'.toNat + 10
    else if 'A' ≤ c && c ≤ 'F' then c.toNat - 'A'.toNat + 10
    else base
  if value < base then some value else none

/-- The number that digits in a base make up, if there are any. -/
def numberIn? (base : Nat) (digits : List Char) : Option Nat :=
  if digits.isEmpty then none
  else digits.foldlM (fun value c => (digitIn? base c).map fun digit => value * base + digit) 0

/-- The base that is written in front of digits, and the digits. -/
def baseOf (text : List Char) : Option (Nat × List Char) :=
  match text with
  | '0' :: 'x' :: rest => some (16, rest)
  | '0' :: 'o' :: rest => some (8, rest)
  | '0' :: 'b' :: rest => some (2, rest)
  | _ => none

/-- Digits with a zero in front, perhaps behind a sign. -/
def hasLeadingZero (text : List Char) : Bool :=
  let digits := match text with
    | '-' :: rest => rest
    | '+' :: rest => rest
    | _ => text
  match digits with
  | '0' :: second :: rest => (second :: rest).all Char.isDigit
  | _ => false

/-- A whole number that is not negative and has at most 128 bits. -/
def isUnsigned (text : List Char) : Bool :=
  let digits := match text with
    | '+' :: rest => rest
    | _ => text
  let found := match baseOf digits with
    | some (base, rest) => numberIn? base rest
    | none => if hasLeadingZero text then none else numberIn? 10 digits
  found.any fun value => value < 1 <<< 128

/-- A negative whole number of at most 128 bits. -/
def isNegative (text : List Char) : Bool :=
  match text with
  | '-' :: digits =>
    let found := match baseOf digits with
      | some (base, rest) => numberIn? base rest
      | none => if hasLeadingZero text then none else numberIn? 10 digits
    found.any fun value => value ≤ 1 <<< 127
  | _ => false

/-- The digits of a decimal fraction without its sign, and the power of ten of the last one. -/
def decimal? (text : List Char) : Option (List Char × Int) := do
  let whole := text.takeWhile Char.isDigit
  let rest := text.dropWhile Char.isDigit
  let (fraction, rest) := match rest with
    | '.' :: more => (more.takeWhile Char.isDigit, more.dropWhile Char.isDigit)
    | _ => ([], rest)
  if whole.isEmpty && fraction.isEmpty then none
  else
    let exponent ← match rest with
      | [] => some 0
      | e :: more =>
        if e == 'e' || e == 'E' then
          match more with
          | '-' :: digits => (numberIn? 10 digits).map fun value => -(value : Int)
          | '+' :: digits => (numberIn? 10 digits).map fun value => (value : Int)
          | digits => (numberIn? 10 digits).map fun value => (value : Int)
        else none
    return (whole ++ fraction, exponent - fraction.length)

/-- The number lies in the range of binary fractions of 64 bits. -/
def isFinite (digits : List Char) (power : Int) : Bool :=
  let significant := digits.dropWhile fun c => c == '0'
  let magnitude := (significant.length : Int) + power
  if significant.isEmpty || magnitude < 300 then true
  else if magnitude > 310 then false
  else
    let value := (numberIn? 10 significant).getD 0
    let bound := 1 <<< 1024 - 1 <<< 970
    if power ≥ 0 then value * Nat.pow 10 power.toNat < bound
    else value < bound * Nat.pow 10 (-power).toNat

/-- A decimal fraction, or a name of one that is no number. -/
def isFraction (text : List Char) : Bool :=
  let unsigned := match text with
    | '+' :: rest => rest
    | _ => text
  let isNamed := [".inf", ".Inf", ".INF"].contains (String.ofList unsigned) ||
    ["-.inf", "-.Inf", "-.INF", ".nan", ".NaN", ".NAN"].contains (String.ofList text)
  let body := match text with
    | '+' :: rest => rest
    | '-' :: rest => rest
    | _ => text
  isNamed || (decimal? body).any fun (digits, power) => isFinite digits power

/-- The text reads as a number, or could be taken for one. -/
def looksNumeric (text : List Char) : Bool :=
  isUnsigned text || isNegative text || hasLeadingZero text || isFraction text

end NamingLint.Yaml
