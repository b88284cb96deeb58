import NamingLint.Source.Grammar.Pattern
import NamingLint.Source.Grammar.Type

/-!
# Visibility and signatures
-/

namespace NamingLint.Source.Grammar

open Parse
open NamingLint.Naming (Identifier)

/-- The restriction of a visibility, if the parentheses that come next are one. -/
def restriction : Parse Unit := do
  match ← upcoming with
  | .group .parenthesis content :: _ =>
    if isKeyword "in" content then
      group .parenthesis do
        keyword "in"
        plainPath
    else if isOneOf ["crate", "self", "super"] content && content.length = 1 then
      let _ ← anyGroup
  | _ => return

/-- A visibility. The answer tells whether one is written. -/
def visibility : Parse Bool := do
  if ← optKeyword "pub" then
    restriction
    return true
  else return false

/-- The tokens behind a visibility, and whether one is written. -/
def behindVisibility : Parse (List TokenTree × Bool) := fun state =>
  match visibility.run state with
  | some (written, after) => some ((after.rest, written), state)
  | none => none

/-- The tokens without a word in front. -/
def withoutWord (name : String) (tokens : List TokenTree) : List TokenTree :=
  if isKeyword name tokens then tokens.drop 1 else tokens

/-- The next tokens start the signature of a function. -/
def startsFunction (allowSafe : Bool) (tokens : List TokenTree) : Bool :=
  let tokens := withoutWord "async" (withoutWord "const" tokens)
  let tokens :=
    if allowSafe && isKeyword "safe" tokens then tokens.drop 1 else withoutWord "unsafe" tokens
  let tokens :=
    if isKeyword "extern" tokens then
      if isStringLiteral (tokens.drop 1) then tokens.drop 2 else tokens.drop 1
    else tokens
  isKeyword "fn" tokens

/-- The receiver of a method. -/
def receiver (knot : Knot) : Parse Unit := do
  let reference ← optPunct "&"
  if reference then
    let _ ← optLifetime
  let _ ← optKeyword "mut"
  keyword "self"
  if !reference then
    if ← optPunct ":" then
      let _ ← knot.type true

/-- The comma behind the dots that stand for further arguments, which end the list. -/
def commaBehindDots : Parse Bool := do
  if !(← atEnd) then punct ","
  return false

/-- An argument with its attributes. Only the first may be a receiver. A type alone stands for an
argument without a name. The answer tells whether further arguments may follow. -/
def functionArgument (knot : Knot) (first : Bool) : Parse Bool := do
  outerAttributes knot
  if ← optPunct "..." then return ← commaBehindDots
  if (← attempt (receiver knot)).isSome then
    if !first then failure
    return true
  if ← next (fun tokens => isIdent tokens && second (isPunct "<") tokens) then
    print [.ident "_" false default, .punct ':' false]
    let _ ← knot.type true
    return true
  let _ ← knot.pattern
  punct ":"
  if ← optPunct "..." then return ← commaBehindDots
  let _ ← knot.type true
  return true

/-- The arguments of a function, at most a given number of them. -/
def functionArguments (knot : Knot) (first : Bool) : Nat → Parse Unit
  | 0 => failure
  | count + 1 => do
    if ← atEnd then return
    if ← functionArgument knot first then
      if ← atEnd then return
      punct ","
      functionArguments knot false count

/-- A signature as it was read. -/
structure Signature where
  identifier : Identifier
  printed : List TokenTree
  met : List Outline
  /-- The signature holds the word `safe`. -/
  safe : Bool

/-- The parts of a signature: its name, what it meets, and whether it holds the word `safe`. Generic
parameters and their conditions are met before arguments and result. -/
def signatureParts (knot : Knot) (allowSafe : Bool) :
    Parse (Identifier × List Outline × Bool) := do
  let _ ← optKeyword "const"
  let _ ← optKeyword "async"
  let safe ← if allowSafe then optKeyword "safe" else pure false
  if !safe then
    let _ ← optKeyword "unsafe"
  if ← next (isKeyword "extern") then abi
  keyword "fn"
  match ← ident with
  | .ident name _ location =>
    let ((), parameters) ← holdingMet (generics knot)
    let ((), inputs) ← holdingMet do
      group .parenthesis do
        functionArguments knot true ((← upcoming).length + 1)
      returnType knot true
    let ((), conditions) ← holdingMet (whereClause knot)
    return (⟨name, location, true⟩, parameters ++ conditions ++ inputs, safe)
  | _ => failure

/-- A signature. It meets nothing by itself. -/
def signature (knot : Knot) (allowSafe : Bool) : Parse Signature := do
  let ((identifier, met, safe), printed) ← withPrinted (signatureParts knot allowSafe)
  return { identifier, printed, met, safe }

/-- The head of the function that a signature declares. -/
def Signature.head (signature : Signature) : FunctionHead :=
  ⟨signature.identifier, TokenTree.renderAll signature.printed⟩

/-- What a walk meets in the function that a signature declares. -/
def Signature.inside (signature : Signature) (attributes body : List Outline) : List Outline :=
  attributes ++ signature.met ++ body

end NamingLint.Source.Grammar
