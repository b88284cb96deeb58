import NamingLint.Source.Grammar.Member

/-!
# Items

Each item is read with its attributes. An item in a form that no later stage interprets, such as a
function without a body, is left out of the outline together with all that it holds.
-/

namespace NamingLint.Source.Grammar

open Parse

/-! ## Functions, constants and imports -/

/-- A function behind its attributes. -/
def functionItem (knot : Knot) (attributes : List Outline) : Parse Bool := do
  let _ ← visibility
  let found ← signature knot false
  if ← optPunct ";" then return true
  let (inner, body) ← blockParts knot
  meet [.function found.head (found.inside (attributes ++ inner) [.block body])]
  return false

/-- An external crate, perhaps under another name. -/
def externCrateItem : Parse Unit := do
  let _ ← visibility
  keyword "extern"
  keyword "crate"
  if !(← optKeyword "self") then
    let _ ← ident
  if ← optKeyword "as" then
    if !(← optKeyword "_") then
      let _ ← ident
  punct ";"

/-- A tree of imports. The answer tells whether some branch starts with a separator. -/
def useTree (knot : Knot) (allowRoot : Bool) : Parse Bool := do
  let tokens ← upcoming
  if isIdent tokens || isOneOf ["self", "super", "crate", "try"] tokens then
    let _ ← word
    if ← optPunct "::" then
      let _ ← knot.useTree false
    else if ← optKeyword "as" then
      if !(← optKeyword "_") then
        let _ ← ident
    return false
  else if isPunct "*" tokens then
    punct "*"
    return false
  else
    group .brace do
      let branches ← gather do
        if ← atEnd then return none
        let rooted ← if allowRoot then optPunct "::" else pure false
        let nested ← knot.useTree (allowRoot && !rooted)
        if ← atEnd then return some (rooted || nested, false)
        punct ","
        return some (rooted || nested, true)
      return branches.contains true

/-- An import. -/
def useItem (knot : Knot) : Parse Bool := do
  let _ ← visibility
  keyword "use"
  let rooted ← optPunct "::"
  let uninterpreted ← useTree knot (!rooted)
  punct ";"
  return uninterpreted

/-- A static variable. -/
def staticItem (knot : Knot) : Parse Bool := do
  let _ ← visibility
  keyword "static"
  let _ ← optKeyword "mut"
  let _ ← ident
  if ← optPunct "=" then
    let _ ← knot.expression true
    punct ";"
    return true
  punct ":"
  let _ ← knot.type true
  if ← optPunct ";" then return true
  punct "="
  let _ ← knot.expression true
  punct ";"
  return false

/-- A constant. -/
def constItem (knot : Knot) : Parse Bool := do
  let _ ← visibility
  keyword "const"
  let (valued, parametric) ← constantRest knot
  return !valued || parametric

/-- A type with a name of its own. -/
def typeItem (knot : Knot) : Parse Bool := do
  let _ ← visibility
  let (bounded, defined) ← typeRest knot .beforeDefinition
  return bounded || !defined

/-! ## Structures -/

/-- A field with a name. A field without one may hold the fields of a structure. -/
def namedField (knot : Knot) : Parse Unit := do
  outerAttributes knot
  let _ ← visibility
  if ← optKeyword "_" then
    punct ":"
    let tokens ← upcoming
    if isKeyword "struct" tokens ||
        (isKeyword "union" tokens && second (isGroup .brace) tokens) then
      let _ ← word
      let _ ← anyGroup
    else
      let _ ← knot.type true
  else
    let _ ← ident
    punct ":"
    let _ ← knot.type true

/-- Fields in braces. -/
def namedFields (knot : Knot) : Parse Unit :=
  group .brace (terminated (namedField knot) ",")

/-- Fields in parentheses. -/
def positionalFields (knot : Knot) : Parse Unit :=
  group .parenthesis <| terminated (do
    outerAttributes knot
    let _ ← visibility
    let _ ← knot.type true) ","

/-- A structure. The conditions behind fields in parentheses are met before the fields. -/
def structItem (knot : Knot) : Parse Unit := do
  let _ ← visibility
  keyword "struct"
  let _ ← ident
  generics knot
  let conditional ← next (isKeyword "where")
  whereClause knot
  let tokens ← upcoming
  if !conditional && isGroup .parenthesis tokens then
    let ((), fields) ← holdingMet (positionalFields knot)
    whereClause knot
    meet fields
    punct ";"
  else if isGroup .brace tokens then namedFields knot
  else punct ";"

/-- A union. -/
def unionItem (knot : Knot) : Parse Unit := do
  let _ ← visibility
  keyword "union"
  let _ ← ident
  generics knot
  whereClause knot
  namedFields knot

/-- A variant of an enumeration. Its visibility is not printed. -/
def variant (knot : Knot) : Parse Unit := do
  outerAttributes knot
  let _ ← silently visibility
  let _ ← ident
  let tokens ← upcoming
  if isGroup .brace tokens then namedFields knot
  else if isGroup .parenthesis tokens then positionalFields knot
  if ← optPunct "=" then
    let _ ← knot.expression true

/-- An enumeration. -/
def enumItem (knot : Knot) : Parse Unit := do
  let _ ← visibility
  keyword "enum"
  let _ ← ident
  generics knot
  whereClause knot
  group .brace (terminated (variant knot) ",")

/-! ## Scopes -/

/-- The content of a scope in braces, with what its attributes meet in front. -/
def scopeParts {α : Type} (knot : Knot) (content : Parse α) : Parse (List Outline × α) :=
  group .brace do
    let ((), attributes) ← holdingMet (innerAttributes knot)
    return (attributes, ← content)

/-- The content of a scope that has members. -/
def memberParts (knot : Knot) (member : Parse (List Member)) :
    Parse (List Outline × List Member) := do
  let (attributes, members) ← scopeParts knot (gatherUntilEnd member)
  return (attributes, members.flatten)

/-- A module. -/
def moduleItem (knot : Knot) (attributes : List Outline) : Parse Unit := do
  let _ ← visibility
  let _ ← optKeyword "unsafe"
  keyword "mod"
  match ← if ← next (isKeyword "try") then word else ident with
  | .ident name _ _ =>
    if ← optPunct ";" then meet [.module name attributes]
    else
      let (inner, (), items) ← scopeParts knot (holdingMet (untilEnd knot.item))
      meet [.module name (attributes ++ inner ++ items)]
  | _ => failure

/-- A block of foreign functions. -/
def foreignItem (knot : Knot) (attributes : List Outline) : Parse Unit := do
  let _ ← optKeyword "unsafe"
  abi
  let (inner, members) ← memberParts knot (foreignMember knot)
  meet [.foreignBlock (.other (attributes ++ inner) :: members)]

/-- Bounds joined by `+` up to a token that passes the test, without a `+` in front of it. -/
def separatedBounds (knot : Knot) (stop : List TokenTree → Bool) : Parse Unit :=
  loop do
    if ← next stop then return false
    let _ ← knot.bound false true
    if ← next stop then return false
    punct "+"
    return true

/-- A trait, or another name for bounds. -/
def traitItem (knot : Knot) (attributes : List Outline) : Parse Unit := do
  let _ ← visibility
  let isUnsafe ← optKeyword "unsafe"
  let isAuto ← optKeyword "auto"
  keyword "trait"
  match ← ident with
  | .ident name _ _ =>
    let ((), parameters) ← holdingMet (generics knot)
    if !isUnsafe && !isAuto && (← next (isPunct "=")) then
      punct "="
      let ((), bounds) ← holdingMet
        (separatedBounds knot fun tokens => isKeyword "where" tokens || isPunct ";" tokens)
      let ((), conditions) ← holdingMet (whereClause knot)
      punct ";"
      meet (attributes ++ parameters ++ conditions ++ bounds)
    else
      let ((), bounds) ← holdingMet do
        if ← optPunct ":" then
          separatedBounds knot fun tokens => isKeyword "where" tokens || isGroup .brace tokens
      let ((), conditions) ← holdingMet (whereClause knot)
      let (inner, members) ← memberParts knot (traitMember knot)
      meet [.traitDefinition name
        (.other (attributes ++ inner ++ parameters ++ conditions ++ bounds) :: members)]
  | _ => failure

/-- The type in the header of an implementation, as it was written if the implementation is
negative. -/
def headerType (knot : Knot) (negative : Bool) : Parse SelfType := do
  let before ← get
  if negative then punct "!"
  let shape ← knot.type true
  if negative && !(← next (isKeyword "for")) then
    let after := (← get).rest
    return .other (before.rest.take (before.rest.length - after.length))
  return shape.form

/-- An implementation. The answer tells whether it is left uninterpreted. -/
def implementationItem (knot : Knot) (attributes : List Outline) : Parse Bool := do
  let visible ← visibility
  let _ ← optKeyword "default"
  let _ ← optKeyword "unsafe"
  keyword "impl"
  let ((), parameters) ← holdingMet do
    if ← next startsGenerics then generics knot
  let isConst ← next fun tokens =>
    isKeyword "const" tokens || (isPunct "?" tokens && second (isKeyword "const") tokens)
  if isConst then
    let _ ← optPunct "?"
    keyword "const"
  let negative ← next fun tokens => isPunct "!" tokens && !second (isGroup .brace) tokens
  let (first, firstMet) ← holdingMet (headerType knot negative)
  let forTrait ← optKeyword "for"
  let (selfType, selfMet) ← holdingMet do
    if forTrait then return (← knot.type true).form else return first
  let namesTrait := match first with
    | .path ⟨none, _, _⟩ => true
    | _ => false
  let ((), conditions) ← holdingMet (whereClause knot)
  let (inner, members) ← memberParts knot (implementationMember knot)
  meet [.implementation selfType forTrait
    (.other (attributes ++ inner ++ parameters ++ conditions ++ firstMet ++ selfMet) :: members)]
  return visible || isConst || (forTrait && !namesTrait)

/-! ## Macros -/

/-- A macro call as an item, perhaps with a name for what it defines. -/
def macroItem : Parse Unit := do
  plainPath
  punct "!"
  if ← next (fun tokens => isIdent tokens || isKeyword "try" tokens) then
    let _ ← word
  if (← anyGroup) ≠ .brace then punct ";"

/-- A macro that is defined by the word `macro`, behind its visibility. -/
def macroDefinition : Parse Unit := do
  keyword "macro"
  let _ ← ident
  if ← next (isGroup .parenthesis) then
    let _ ← anyGroup
  if ← next (isGroup .brace) then
    let _ ← anyGroup
  else failure

/-! ## All items -/

/-- The next tokens start an `extern` block. -/
def startsForeignBlock (tokens : List TokenTree) : Bool :=
  isKeyword "extern" tokens && (second (isGroup .brace) tokens ||
    (second isStringLiteral tokens && third (isGroup .brace) tokens))

/-- The next tokens start a trait. -/
def startsTrait (tokens : List TokenTree) : Bool :=
  isKeyword "trait" tokens || (isKeyword "auto" tokens && second (isKeyword "trait") tokens)

/-- An item whose first words are `unsafe` and something other than a function's. -/
def unsafeItem (knot : Knot) (attributes : List Outline) : Parse Bool := do
  let (tokens, _) ← behindVisibility
  let rest := tokens.drop 1
  if startsTrait rest then
    traitItem knot attributes
    return false
  else if isKeyword "impl" rest then implementationItem knot attributes
  else if isKeyword "extern" rest then
    foreignItem knot attributes
    return false
  else if isKeyword "mod" rest then
    moduleItem knot attributes
    return false
  else failure

/-- An item that introduces a scope or a function. None if the next tokens start no such item. -/
def scopeItem? (knot : Knot) (attributes : List Outline) : Parse (Option Bool) := do
  let (tokens, _) ← behindVisibility
  if startsFunction false tokens then return some (← functionItem knot attributes)
  else if startsForeignBlock tokens then
    foreignItem knot attributes
    return some false
  else if isKeyword "unsafe" tokens then return some (← unsafeItem knot attributes)
  else if isKeyword "mod" tokens then
    moduleItem knot attributes
    return some false
  else if startsTrait tokens then
    traitItem knot attributes
    return some false
  else if isKeyword "impl" tokens ||
      (isKeyword "default" tokens && !second (isPunct "!") tokens) then
    return some (← implementationItem knot attributes)
  else return none

/-- An item that introduces neither a scope nor a function. -/
def plainItem (knot : Knot) : Parse Bool := do
  let (tokens, visible) ← behindVisibility
  if isKeyword "extern" tokens then
    externCrateItem
    return false
  else if isKeyword "use" tokens then useItem knot
  else if isKeyword "static" tokens then staticItem knot
  else if isKeyword "const" tokens then constItem knot
  else if isKeyword "type" tokens then typeItem knot
  else if isKeyword "struct" tokens then
    structItem knot
    return false
  else if isKeyword "enum" tokens then
    enumItem knot
    return false
  else if isKeyword "union" tokens && second isIdent tokens then
    unionItem knot
    return false
  else if isKeyword "macro" tokens then
    let _ ← visibility
    macroDefinition
    return true
  else if !visible && startsMacroPath tokens then
    macroItem
    return false
  else failure

/-- An item with its attributes. -/
def item (knot : Knot) : Parse Unit :=
  verbatimIf do
    let ((), attributes) ← holdingMet (outerAttributes knot)
    match ← scopeItem? knot attributes with
    | some uninterpreted => return uninterpreted
    | none =>
      meet attributes
      plainItem knot

end NamingLint.Source.Grammar
