import NamingLint.Source.Grammar.Expression

/-!
# Statements
-/

namespace NamingLint.Source.Grammar

open Parse

/-- The tokens behind the path that comes next, if one does. -/
def behindPlainPath : Parse (Option (List TokenTree)) := fun state =>
  match plainPath.run state with
  | some ((), after) => some (some after.rest, state)
  | none => some (none, state)

/-- The next tokens start a closure that a word of an item could start as well. -/
def startsStaticClosure (tokens : List TokenTree) : Bool :=
  second (isKeyword "async") tokens &&
    (third (isKeyword "move") tokens || third (isPunct "|") tokens)

/-- The next tokens start an item rather than an expression. -/
def startsItem (tokens : List TokenTree) : Bool :=
  isOneOf ["pub", "extern", "use", "fn", "mod", "type", "struct", "enum", "trait", "impl", "macro"]
      tokens ||
    (isKeyword "crate" tokens && !second (isPunct "::") tokens) ||
    (isKeyword "static" tokens && (second (isKeyword "mut") tokens ||
      (second isIdent tokens && !startsStaticClosure tokens))) ||
    (isKeyword "const" tokens && !(second (isGroup .brace) tokens ||
      second (isKeyword "static") tokens ||
      (second (isKeyword "async") tokens && !third (isOneOf ["unsafe", "extern", "fn"]) tokens) ||
      second (isKeyword "move") tokens || second (isPunct "|") tokens)) ||
    (isKeyword "unsafe" tokens && !second (isGroup .brace) tokens) ||
    (isKeyword "async" tokens && second (isOneOf ["unsafe", "extern", "fn"]) tokens) ||
    (isKeyword "union" tokens && second isIdent tokens) ||
    (isKeyword "auto" tokens && second (isKeyword "trait") tokens) ||
    (isKeyword "default" tokens && second (isOneOf ["unsafe", "impl"]) tokens)

/-- A binding of a pattern, with a value and a block for the case that the value does not fit. -/
def letStatement (knot : Knot) : Parse Unit := do
  keyword "let"
  let _ ← knot.pattern
  if ← optPunct ":" then
    let _ ← knot.type true
  if ← optPunct "=" then
    let _ ← knot.expression true
    let braced := match (← get).printed with
      | .group .brace _ :: _ => true
      | _ => false
    if !braced then
      if ← optKeyword "else" then plainBlock knot
  punct ";"

/-- A statement. The answer tells whether it has to be the last one of its block. -/
def statement (knot : Knot) : Parse Bool := do
  let start ← get
  outerAttributes knot
  let tokens ← upcoming
  let behindPath := (← behindPlainPath).getD []
  let isMacro := isPunct "!" behindPath
  let definesMacro :=
    isMacro && second (fun rest => isIdent rest || isKeyword "try" rest) behindPath
  if isMacro && !definesMacro && second (isGroup .brace) behindPath &&
      !third (fun rest => isDot rest || isPunct "?" rest) behindPath then
    let _ ← macroCall
    let _ ← optPunct ";"
    return false
  else if isKeyword "let" tokens then
    letStatement knot
    return false
  else if startsItem tokens || definesMacro then
    set start
    knot.item
    return false
  else
    let shape ← knot.statementExpression
    if ← optPunct ";" then return false
    return match shape with
      | .blockLike => false
      | .macroCall .brace => false
      | _ => true

/-- The statements of a block, up to its end. -/
def statements (knot : Knot) : Parse Unit :=
  loop do
    loop (optPunct ";")
    if ← atEnd then return false
    let isLast ← statement knot
    if ← atEnd then return false
    if isLast then failure
    return true

end NamingLint.Source.Grammar
