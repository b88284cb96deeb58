import NamingLint.Source.Grammar.Path

/-!
# Types
-/

namespace NamingLint.Source.Grammar

open Parse

/-- The bounds of a trait object, at least one of them a trait. -/
def objectBounds (knot : Knot) (allowPlus : Bool) : Parse Unit := do
  let shapes ← bounds knot allowPlus false false
  if !shapes.contains .trait then failure

/-- The bounds behind the first one of a trait object. -/
def furtherBounds (knot : Knot) : Parse Unit :=
  loop do
    if ← optPunct "+" then
      let _ ← knot.bound false false
      return true
    else return false

/-- A `static`-like word in front of an `extern` interface. -/
def abi : Parse Unit := do
  keyword "extern"
  if ← next isStringLiteral then
    let _ ← take

/-- The next tokens name an argument of a function type. -/
def isNamedArgument (tokens : List TokenTree) : Bool :=
  (isIdent tokens || isKeyword "_" tokens) && second (isPunct ":") tokens

/-- An argument of a function type. Only the first may be a receiver. -/
def functionTypeArgument (knot : Knot) (allowSelf : Bool) : Parse Unit := do
  outerAttributes knot
  verbatimIf do
    let tokens ← upcoming
    let mutableSelf := allowSelf && isKeyword "mut" tokens && second (isKeyword "self") tokens
    if mutableSelf then keyword "mut"
    let tokens ← upcoming
    let hasSelf := allowSelf && isKeyword "self" tokens
    let named := (isIdent tokens || isKeyword "_" tokens || hasSelf) &&
      second (isPunct ":") tokens && !second (isPunct "::") tokens
    if named then
      let _ ← word
      punct ":"
    if mutableSelf && !named then keyword "self"
    else
      let _ ← knot.type true
    return mutableSelf

/-- The dots of a function type with a variable number of arguments. -/
def functionTypeDots : Parse Unit := do
  if ← next (fun tokens => isIdent tokens || isKeyword "_" tokens) then
    let _ ← word
    punct ":"
  punct "..."
  let _ ← optPunct ","

/-- The arguments of a function type. -/
def functionTypeArguments (knot : Knot) (first : Bool) : Nat → Parse Unit
  | 0 => failure
  | count + 1 => do
    if ← atEnd then return
    let dotted ← isAhead do
      outerAttributes knot
      if !(← next fun tokens => isPunct "..." tokens ||
          (isNamedArgument tokens && third (isPunct "...") tokens)) then failure
    if dotted then
      outerAttributes knot
      functionTypeDots
    else
      functionTypeArgument knot first
      if ← atEnd then return
      punct ","
      functionTypeArguments knot false count

/-- A function type behind its lifetimes. -/
def functionType (knot : Knot) : Parse Unit := do
  let _ ← optKeyword "unsafe"
  if ← next (isKeyword "extern") then abi
  keyword "fn"
  group .parenthesis do
    functionTypeArguments knot true ((← upcoming).length + 1)
  returnType knot false

/-- The next token starts a path. -/
def isPathStart (tokens : List TokenTree) : Bool :=
  isPlainPathStart tokens || isPunct "::" tokens || isPunct "<" tokens

/-- What stands in the parentheses of a type. -/
inductive ParenthesizedType where
  | tuple
  /-- A bound that may be relaxed. -/
  | relaxedBound
  | object (printed : List TokenTree)
  | single (shape : TypeShape)

/-- A type that starts with parentheses; none if its form is of no interest. -/
def parenthesizedType (knot : Knot) (allowPlus : Bool) : Parse (Option SelfType × Bool) := do
  let content ← group .parenthesis do
    let tokens ← upcoming
    if tokens.isEmpty then return ParenthesizedType.tuple
    else if isLifetime tokens then
      let ((), printed) ← withPrinted (objectBounds knot true)
      return .object printed
    else if isPunct "?" tokens then
      if ← traitBound knot false then failure
      return .relaxedBound
    else
      let shape ← knot.type true
      if ← next (isPunct ",") then
        punct ","
        terminated (do let _ ← knot.type true) ","
        return .tuple
      else return .single shape
  match content with
  | .tuple => return (none, false)
  | .object printed => return (some (.parenthesized (.other printed)), false)
  | .relaxedBound =>
    let single := !(← next (isPunct "+"))
    furtherBounds knot
    return (none, single)
  | .single shape =>
    let joinable := shape.loneBound || match shape.form with
      | .path ⟨none, _, _⟩ => true
      | _ => false
    if allowPlus && joinable && (← next (isPunct "+")) then
      furtherBounds knot
      return (none, false)
    else return (some (.parenthesized shape.form), false)

/-- The next token goes on with bounds behind a `+`. -/
def isBoundStart (tokens : List TokenTree) : Bool :=
  isWord tokens || isPunct "::" tokens || isPunct "?" tokens || isLifetime tokens ||
    isGroup .parenthesis tokens

/-- A type that starts with a path. -/
def pathType (knot : Knot) (bound allowPlus : Bool) : Parse (Option SelfType × Bool) := do
  let found ← qualifiedPath knot false
  if found.qualifier.isSome then return (some (.path found), false)
  if (← optMacroArguments found).isSome then return (none, false)
  if allowPlus && (← next (isPunct "+")) then
    punct "+"
    if ← next isBoundStart then
      let _ ← bounds knot true false false
    return (none, false)
  if bound then return (none, true)
  return (some (.path found), false)

/-- A type, and whether it is a lone bound; its form is none if that is of no interest. -/
def typeForm (knot : Knot) (allowPlus : Bool) : Parse (Option SelfType × Bool) := do
  let lifetimes ← optBoundLifetimes knot
  let tokens ← upcoming
  if lifetimes && !(isIdent tokens ||
      isOneOf ["fn", "unsafe", "extern", "super", "self", "Self", "crate"] tokens) then failure
  if isGroup .parenthesis tokens then parenthesizedType knot allowPlus
  else if isOneOf ["fn", "unsafe", "extern"] tokens then
    functionType knot
    return (none, false)
  else if isPathStart tokens then pathType knot lifetimes allowPlus
  else if isKeyword "dyn" tokens then
    verbatimIf do
      keyword "dyn"
      let starred ← optPunct "*"
      objectBounds knot allowPlus
      return starred
    return (none, false)
  else if isGroup .bracket tokens then
    group .bracket do
      let _ ← knot.type true
      if ← optPunct ";" then
        let _ ← knot.expression true
    return (none, false)
  else if isPunct "*" tokens then
    punct "*"
    if !(← optKeyword "const") then keyword "mut"
    let _ ← knot.type false
    return (none, false)
  else if isPunct "&" tokens then
    punct "&"
    let name ← optLifetime
    let mutable ← optKeyword "mut"
    let target ← knot.type false
    return (some (.reference name mutable target.form), false)
  else if isPunct "!" tokens && !isPunct "!=" tokens then
    punct "!"
    return (none, false)
  else if isKeyword "impl" tokens then
    keyword "impl"
    let shapes ← bounds knot allowPlus true true
    if !shapes.contains .trait then failure
    return (none, false)
  else if isKeyword "_" tokens then
    keyword "_"
    return (none, false)
  else if isLifetime tokens then
    objectBounds knot true
    return (none, false)
  else failure

/-- A type. -/
def type (knot : Knot) (allowPlus : Bool) : Parse TypeShape := do
  let ((form, loneBound), printed) ← withPrinted (typeForm knot allowPlus)
  match form with
  | some form => return { form, loneBound }
  | none => return { form := .other printed, loneBound }

end NamingLint.Source.Grammar
