import NamingLint.Source.Grammar.Signature

/-!
# Members of traits, implementations and `extern` blocks

Each member is read with its attributes. A member in a form that no later stage interprets, such as
a function of an implementation without a body, is left out of the outline.
-/

namespace NamingLint.Source.Grammar

open Parse

/-- The next token starts the path of a macro call. -/
def startsMacroPath (tokens : List TokenTree) : Bool :=
  isIdent tokens || isOneOf ["self", "super", "crate"] tokens || isPunct "::" tokens

/-- A macro call as a member. Only arguments in braces need no semicolon. -/
def memberMacro : Parse Unit := do
  if (← macroCall) ≠ .brace then punct ";"

/-- A constant behind the word `const`. It gives whether it has a value, and whether it has generic
parameters or conditions. -/
def constantRest (knot : Knot) : Parse (Bool × Bool) := do
  if !(← next fun tokens => isIdent tokens || isKeyword "_" tokens) then failure
  let _ ← word
  let parametric ← next (isPunct "<")
  generics knot
  punct ":"
  let _ ← knot.type true
  let valued ← optPunct "="
  if valued then
    let _ ← knot.expression true
  let conditional ← next (isKeyword "where")
  whereClause knot
  punct ";"
  return (valued, parametric || conditional)

/-- The places where the conditions of a type may stand. -/
inductive ConditionPlace where
  | beforeDefinition
  | behindDefinition
  | either
  deriving DecidableEq

/-- A type behind its visibility. Its conditions are met before its bounds and its definition. It
gives whether it has bounds and whether it has a definition. -/
def typeRest (knot : Knot) (place : ConditionPlace) : Parse (Bool × Bool) := do
  keyword "type"
  let _ ← ident
  generics knot
  let (bounded, bounds) ← holdingMet do
    let bounded ← optPunct ":"
    if bounded then
      let stop := fun tokens => isKeyword "where" tokens || isPunct "=" tokens || isPunct ";" tokens
      loop do
        if ← next stop then return false
        let _ ← knot.bound false true
        if ← next stop then return false
        punct "+"
        return true
    return bounded
  let early ← next (isKeyword "where")
  let ((), before) ← holdingMet do
    if place ≠ .behindDefinition then whereClause knot
  let (defined, definition) ← holdingMet do
    let defined ← optPunct "="
    if defined then
      let _ ← knot.type true
    return defined
  let ((), behind) ← holdingMet do
    if place = .behindDefinition || (place = .either && !early) then whereClause knot
  punct ";"
  meet before
  meet behind
  meet bounds
  meet definition
  return (bounded, defined)

/-- Read a member with its attributes, which are handed on. The parse gives the member if it is a
function, and answers whether the member is left uninterpreted. Such a member is no part of the
outline. -/
def member (knot : Knot) (parse : List Outline → Parse (Option Member × Bool)) :
    Parse (List Member) := do
  let before ← get
  let ((), attributes) ← holdingMet (outerAttributes knot)
  let ((function, uninterpreted), met) ← holdingMet (parse attributes)
  if uninterpreted then
    verbatimSince before
    return []
  else return [function.getD (.other met)]

/-- A member of a trait. -/
def traitMember (knot : Knot) : Parse (List Member) :=
  member knot fun attributes => do
    let visible ← visibility
    let specialised ← optKeyword "default"
    let tokens ← upcoming
    if startsFunction false tokens then
      let found ← signature knot false
      if ← optPunct ";" then
        return (some (.function found.head (found.inside attributes [])), visible || specialised)
      else
        let (inner, body) ← blockParts knot
        return (some (.function found.head (found.inside (attributes ++ inner) [.block body])),
          visible || specialised)
    else if isKeyword "const" tokens then
      meet attributes
      keyword "const"
      let (_, parametric) ← constantRest knot
      return (none, visible || specialised || parametric)
    else if isKeyword "type" tokens then
      meet attributes
      let _ ← typeRest knot .behindDefinition
      return (none, visible || specialised)
    else if !visible && !specialised && startsMacroPath tokens then
      meet attributes
      memberMacro
      return (none, false)
    else failure

/-- A member of an implementation. -/
def implementationMember (knot : Knot) : Parse (List Member) :=
  member knot fun attributes => do
    let visible ← visibility
    let specialised ← next fun tokens => isKeyword "default" tokens && !second (isPunct "!") tokens
    if specialised then keyword "default"
    let tokens ← upcoming
    if startsFunction false tokens then
      let found ← signature knot false
      if ← optPunct ";" then return (none, true)
      let (inner, body) ← blockParts knot
      return (some (.function found.head (found.inside (attributes ++ inner) [.block body])), false)
    else if isKeyword "const" tokens then
      meet attributes
      keyword "const"
      let (valued, parametric) ← constantRest knot
      return (none, !valued || parametric)
    else if isKeyword "type" tokens then
      meet attributes
      let (bounded, defined) ← typeRest knot .behindDefinition
      return (none, bounded || !defined)
    else if !visible && !specialised && startsMacroPath tokens then
      meet attributes
      memberMacro
      return (none, false)
    else failure

/-- A static variable of an `extern` block. The answer tells whether it is left uninterpreted. -/
def foreignStatic (knot : Knot) : Parse Bool := do
  let qualified ← if ← optKeyword "unsafe" then pure true else optKeyword "safe"
  keyword "static"
  let _ ← optKeyword "mut"
  let _ ← ident
  punct ":"
  let _ ← knot.type true
  let valued ← optPunct "="
  if valued then
    let _ ← knot.expression true
  punct ";"
  return qualified || valued

/-- A member of an `extern` block. -/
def foreignMember (knot : Knot) : Parse (List Member) :=
  member knot fun attributes => do
    let visible ← visibility
    let tokens ← upcoming
    if startsFunction true tokens then
      let found ← signature knot true
      if ← next (isGroup .brace) then
        let _ ← blockParts knot
        return (none, true)
      punct ";"
      return (some (.function found.head (found.inside attributes [])), found.safe)
    else if isKeyword "static" tokens ||
        (isOneOf ["unsafe", "safe"] tokens && second (isKeyword "static") tokens) then
      meet attributes
      return (none, ← foreignStatic knot)
    else if isKeyword "type" tokens then
      meet attributes
      let (bounded, defined) ← typeRest knot .either
      return (none, bounded || defined)
    else if !visible && startsMacroPath tokens then
      meet attributes
      memberMacro
      return (none, false)
    else failure

end NamingLint.Source.Grammar
