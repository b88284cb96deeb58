import NamingLint.Source.Grammar.Knot

/-!
# Attributes, paths and bounds
-/

namespace NamingLint.Source.Grammar

open Parse

/-! ## Plain paths and attributes -/

/-- The next token starts a path without generic arguments. -/
def isPlainPathStart (tokens : List TokenTree) : Bool :=
  isIdent tokens || isOneOf ["super", "self", "Self", "crate"] tokens

/-- A path without generic arguments. -/
def plainPath : Parse Unit := do
  let _ ← optPunct "::"
  loop do
    if !(← next isPlainPathStart) then failure
    let _ ← word
    optPunct "::"

/-- What stands between the brackets of an attribute. -/
def attributeContent (knot : Knot) : Parse Unit := do
  if ← next (isKeyword "unsafe") then keyword "unsafe" else plainPath
  let tokens ← upcoming
  if isAnyGroup tokens then
    let _ ← anyGroup
  else if isPunct "=" tokens && !isPunct "==" tokens && !isPunct "=>" tokens then
    punct "="
    if ← isAhead (do literal; if !(← atEnd) then failure) then literal
    else if ← next (fun tokens => isPunct "#" tokens && second (isGroup .bracket) tokens) then
      failure
    else
      let _ ← knot.expression true

/-- Attributes of what follows them. -/
def outerAttributes (knot : Knot) : Parse Unit :=
  loop do
    if ← next (isPunct "#") then
      punct "#"
      group .bracket (attributeContent knot)
      return true
    else return false

/-- Attributes of what encloses them. -/
def innerAttributes (knot : Knot) : Parse Unit :=
  loop do
    if ← next (fun tokens => isPunct "#" tokens && second (isPunct "!") tokens) then
      punct "#"
      punct "!"
      group .bracket (attributeContent knot)
      return true
    else return false

/-! ## Blocks -/

/-- A block in braces. It gives what its attributes and its statements meet, and meets nothing. -/
def blockParts (knot : Knot) : Parse (List Outline × List Outline) :=
  group .brace do
    let ((), attributes) ← holdingMet (innerAttributes knot)
    let ((), body) ← holdingMet knot.statements
    return (attributes, body)

/-- A block in braces that may start with attributes. -/
def attributedBlock (knot : Knot) : Parse Unit := do
  let (attributes, body) ← blockParts knot
  meet attributes
  meet [.block body]

/-- A block in braces without attributes. -/
def plainBlock (knot : Knot) : Parse Unit := do
  let ((), body) ← group .brace (holdingMet knot.statements)
  meet [.block body]

/-! ## Generic arguments -/

/-- A constant as a generic argument. -/
def constArgument (knot : Knot) : Parse Unit := do
  let tokens ← upcoming
  if isLiteral tokens then literal
  else if isIdent tokens then
    let _ ← ident
  else if isGroup .brace tokens then attributedBlock knot
  else failure

/-- Bounds joined by `+`, up to a token that passes the test. The answer tells whether there are
any. -/
def boundsUntil (knot : Knot) (stop : List TokenTree → Bool) : Parse Bool := do
  let any := !stop (← upcoming)
  loop do
    if ← next stop then return false
    let _ ← knot.bound false true
    optPunct "+"
  return any

/-- A generic argument or parameter, printed, and whether a comma follows it. -/
structure Listed where
  isLifetime : Bool
  printed : List TokenTree
  comma : Bool

namespace Listed

/-- A comma. -/
def commaToken : TokenTree := .punct ',' false

/-- A generic argument or parameter with the comma that follows it. -/
def tokens (listed : Listed) : List TokenTree :=
  listed.printed ++ if listed.comma then [commaToken] else []

/-- Print the entries other than lifetimes. A comma is put in where the one before lacks it. -/
def arrangeRest (separated : Bool) : List Listed → List TokenTree
  | [] => []
  | first :: rest =>
    (if separated then [] else [commaToken]) ++ first.tokens ++ arrangeRest first.comma rest

/-- Print entries, lifetimes before all others. -/
def arrange (entries : List Listed) : List TokenTree :=
  let lifetimes := entries.filter isLifetime
  let others := entries.filter fun entry => !entry.isLifetime
  let separated := match lifetimes.getLast? with
    | some last => last.comma
    | none => true
  lifetimes.flatMap tokens ++ arrangeRest separated others

end Listed

/-- The entries of a list in angle brackets, up to the closing one. -/
def listedUntilClose (entry : Parse Bool) : Parse (List Listed) :=
  gather do
    if ← next (isPunct ">") then return none
    let (isLifetime, printed) ← holdingPrinted entry
    if ← next (isPunct ">") then return some (⟨isLifetime, printed, false⟩, false)
    silently (punct ",")
    return some (⟨isLifetime, printed, true⟩, true)

/-- A generic argument. The answer tells whether it is a lifetime. -/
def genericArgument (knot : Knot) : Parse Bool := do
  let tokens ← upcoming
  if isLifetime tokens && !second (isPunct "+") tokens then
    let _ ← lifetime
    return true
  if isLiteral tokens || isGroup .brace tokens then
    constArgument knot
    return false
  let shape ← knot.type true
  match shape.form with
  | .path ⟨none, false, [_]⟩ =>
    if ← optPunct "=" then
      if ← next (fun tokens => isLiteral tokens || isGroup .brace tokens) then constArgument knot
      else
        let _ ← knot.type true
    else if ← optPunct ":" then
      let _ ← boundsUntil knot fun tokens => isPunct "," tokens || isPunct ">" tokens
    return false
  | _ => return false

/-- Generic arguments in angle brackets. -/
def angleArguments (knot : Knot) : Parse Unit := do
  punct "<"
  print (Listed.arrange (← listedUntilClose (genericArgument knot)))
  punct ">"

/-- The type behind an arrow, if there is one. -/
def returnType (knot : Knot) (allowPlus : Bool) : Parse Unit := do
  if ← optPunct "->" then
    let _ ← knot.type allowPlus

/-- The arguments of a function trait. -/
def parenthesizedArguments (knot : Knot) : Parse Unit := do
  group .parenthesis (terminated (do let _ ← knot.type true) ",")
  returnType knot false

/-! ## Paths -/

/-- A segment of a path. In an expression, arguments need a separator in front. -/
def pathSegment (knot : Knot) (inExpression : Bool) : Parse PathSegment := do
  let tokens ← upcoming
  if isOneOf ["super", "self", "crate", "try"] tokens then
    match ← word with
    | .ident name raw _ => return { name, raw }
    | _ => failure
  else
    match ← if isKeyword "Self" tokens then word else ident with
    | .ident name raw _ =>
      let tokens ← upcoming
      if (!inExpression && isPunct "<" tokens && !isPunct "<=" tokens) ||
          (isPunct "::" tokens && third (isPunct "<") tokens) then
        let ((), arguments) ← withPrinted do
          let _ ← optPunct "::"
          angleArguments knot
        return { name, raw, arguments }
      else return { name, raw }
    | _ => failure

/-- The segments of a path. -/
def pathSegments (knot : Knot) (inExpression : Bool) : Parse (List PathSegment) :=
  gather do
    let segment ← pathSegment knot inExpression
    if ← next (fun tokens => isPunct "::" tokens && !third (isGroup .parenthesis) tokens) then
      punct "::"
      return some (segment, true)
    else return some (segment, false)

/-- A path. -/
def path (knot : Knot) (inExpression : Bool) : Parse TypePath := do
  let absolute ← optPunct "::"
  return ⟨none, absolute, ← pathSegments knot inExpression⟩

/-- A path that may start with a type in angle brackets. -/
def qualifiedPath (knot : Knot) (inExpression : Bool) : Parse TypePath := do
  if ← next (isPunct "<") then
    let ((), qualifier) ← withPrinted do
      punct "<"
      let _ ← knot.type true
      if ← optKeyword "as" then
        let _ ← path knot false
      punct ">"
    punct "::"
    let segments ← gather do
      let segment ← pathSegment knot inExpression
      return some (segment, ← optPunct "::")
    return ⟨some qualifier, false, segments⟩
  else path knot inExpression

/-- The path has no generic arguments and no qualifier. -/
def isPlain (path : TypePath) : Bool :=
  path.qualifier.isNone && path.segments.all fun segment => segment.arguments.isEmpty

/-- A macro's exclamation mark and arguments behind its path, if they come next. -/
def optMacroArguments (path : TypePath) : Parse (Option Delimiter) := do
  if isPlain path && (← next fun tokens => isPunct "!" tokens && !isPunct "!=" tokens) then
    punct "!"
    return some (← anyGroup)
  else return none

/-- A macro call: its path, an exclamation mark and its arguments. -/
def macroCall : Parse Delimiter := do
  plainPath
  punct "!"
  anyGroup

/-! ## Generic parameters -/

/-- Lifetimes joined by `+` behind a colon, which is left out if there are none. -/
def lifetimeBounds (stop : List TokenTree → Bool) : Parse Unit := do
  if ← next (isPunct ":") then
    let (any, printed) ← holdingPrinted do
      punct ":"
      let any := !stop (← upcoming)
      loop do
        if ← next stop then return false
        let _ ← lifetime
        optPunct "+"
      return any
    if any then print printed

/-- A lifetime as a generic parameter, behind its attributes. -/
def lifetimeParameter : Parse Unit := do
  let _ ← lifetime
  lifetimeBounds fun tokens => isPunct "," tokens || isPunct ">" tokens

/-- A type as a generic parameter, behind its attributes. -/
def typeParameter (knot : Knot) : Parse Unit := do
  let _ ← ident
  if ← next (isPunct ":") then
    let (any, printed) ← holdingPrinted do
      punct ":"
      boundsUntil knot fun tokens => isPunct "," tokens || isPunct ">" tokens || isPunct "=" tokens
    if any then print printed
  if ← optPunct "=" then
    let _ ← knot.type true

/-- A constant as a generic parameter, behind its attributes. -/
def constParameter (knot : Knot) : Parse Unit := do
  keyword "const"
  let _ ← ident
  punct ":"
  let _ ← knot.type true
  if ← optPunct "=" then constArgument knot

/-- A generic parameter with its attributes. The answer tells whether it is a lifetime. -/
def genericParameter (knot : Knot) (allowBlank : Bool) : Parse Bool := do
  outerAttributes knot
  let tokens ← upcoming
  if isLifetime tokens then
    lifetimeParameter
    return true
  else
    if isIdent tokens then typeParameter knot
    else if isKeyword "const" tokens then constParameter knot
    else if allowBlank && isKeyword "_" tokens then keyword "_"
    else failure
    return false

/-- Generic parameters in angle brackets, if there are any. Empty brackets are left out. -/
def generics (knot : Knot) : Parse Unit := do
  if ← next (isPunct "<") then
    let (entries, printed) ← holdingPrinted do
      punct "<"
      let entries ← listedUntilClose (genericParameter knot true)
      print (Listed.arrange entries)
      punct ">"
      return entries
    if !entries.isEmpty then print printed

/-- The next tokens are generic parameters rather than a type in angle brackets. -/
def startsGenerics (tokens : List TokenTree) : Bool :=
  isPunct "<" tokens &&
    (second (isPunct ">") tokens || second (isPunct "#") tokens ||
      (second (fun rest => isLifetime rest || isIdent rest) tokens &&
        third (fun rest => isPunct ">" rest || isPunct "," rest ||
          (isPunct ":" rest && !isPunct "::" rest) || isPunct "=" rest) tokens) ||
      second (isKeyword "const") tokens)

/-- The lifetimes that a `for` introduces in front of a bound or a function type. -/
def boundLifetimes (knot : Knot) : Parse Unit := do
  keyword "for"
  punct "<"
  loop do
    if ← next (isPunct ">") then return false
    let _ ← genericParameter knot false
    if ← next (isPunct ">") then return false
    punct ","
    return true
  punct ">"

/-- Lifetimes that a `for` introduces, if it comes next. -/
def optBoundLifetimes (knot : Knot) : Parse Bool := do
  if ← next (isKeyword "for") then
    boundLifetimes knot
    return true
  else return false

/-- The next token ends a clause of a `where`. -/
def endsPredicate (tokens : List TokenTree) : Bool :=
  tokens.isEmpty || isGroup .brace tokens || isPunct "," tokens || isPunct ";" tokens ||
    (isPunct ":" tokens && !isPunct "::" tokens) || isPunct "=" tokens

/-- One predicate of a `where` clause. -/
def wherePredicate (knot : Knot) : Parse Unit := do
  if ← next (fun tokens => isLifetime tokens && second (isPunct ":") tokens) then
    let _ ← lifetime
    punct ":"
    loop do
      if ← next (fun tokens => endsPredicate tokens || isPunct ":" tokens) then return false
      let _ ← lifetime
      optPunct "+"
  else
    let _ ← optBoundLifetimes knot
    let _ ← knot.type true
    punct ":"
    let _ ← boundsUntil knot endsPredicate

/-- A `where` clause, if there is one. A clause without predicates is left out. -/
def whereClause (knot : Knot) : Parse Unit := do
  if ← next (isKeyword "where") then
    let (any, printed) ← holdingPrinted do
      keyword "where"
      let any := !endsPredicate (← upcoming)
      loop do
        if ← next endsPredicate then return false
        wherePredicate knot
        optPunct ","
      return any
    if any then print printed

/-! ## Bounds -/

/-- A list of captured parameters. -/
def captureList : Parse Unit := do
  keyword "use"
  punct "<"
  let entries ← listedUntilClose do
    let tokens ← upcoming
    if isLifetime tokens then
      let _ ← lifetime
      return true
    else if isIdent tokens || isKeyword "Self" tokens then
      let _ ← word
      return false
    else failure
  print (Listed.arrange entries)
  punct ">"

/-- A trait as a bound, without parentheses. The answer tells whether it is `const`. -/
def traitBound (knot : Knot) (allowConst : Bool) : Parse Bool := do
  let early ← optBoundLifetimes knot
  let tokens ← upcoming
  let conditional := isGroup .bracket tokens
  let unconditional := isKeyword "const" tokens
  if conditional then group .bracket (keyword "const")
  else if unconditional then keyword "const"
  if (conditional || unconditional) && !allowConst then failure
  let relaxed ← optPunct "?"
  let late ← if !early && relaxed then optBoundLifetimes knot else pure false
  let found ← path knot false
  let tokens ← upcoming
  let takesInputs := found.segments.getLast?.any fun segment => segment.arguments.isEmpty
  if takesInputs && (isGroup .parenthesis tokens ||
      isPunct "::" tokens && third (isGroup .parenthesis) tokens) then
    let _ ← silently (optPunct "::")
    parenthesizedArguments knot
  if (early || late) && relaxed then failure
  return conditional || unconditional

/-- A bound. -/
def bound (knot : Knot) (allowCapture allowConst : Bool) : Parse BoundShape := do
  let tokens ← upcoming
  if isLifetime tokens then
    let _ ← lifetime
    return .lifetime
  else if isKeyword "use" tokens then
    captureList
    if allowCapture then return .capture else failure
  else
    verbatimIf do
      if isGroup .parenthesis tokens then group .parenthesis (traitBound knot allowConst)
      else traitBound knot allowConst
    return .trait

/-- Bounds joined by `+`. A `+` may also stand behind the last one. -/
def bounds (knot : Knot) (allowPlus allowCapture allowConst : Bool) : Parse (List BoundShape) :=
  gather do
    let shape ← knot.bound allowCapture allowConst
    if allowPlus && (← next (isPunct "+")) then
      punct "+"
      let goesOn ← next fun tokens =>
        isWord tokens || isPunct "::" tokens || isPunct "?" tokens || isLifetime tokens ||
          isGroup .parenthesis tokens ||
          (allowConst && (isGroup .bracket tokens || isKeyword "const" tokens))
      return some (shape, goesOn)
    else return some (shape, false)

end NamingLint.Source.Grammar
