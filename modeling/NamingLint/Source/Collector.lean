import NamingLint.Naming.Declaration
import NamingLint.Source.Outline

/-!
# Declarations of a file

`declarations` walks over outlines and gives a declaration for each function, before those inside
it. The kind of a function depends on what directly encloses it, its container on all that encloses
it.
-/

namespace NamingLint.Source

open NamingLint.Naming (Container Context Declaration DeclarationKind)

/-- Something that encloses functions. -/
inductive Scope where
  | module (name : String)
  | implementation (name : String) (ofTrait : Bool)
  | traitDefinition (name : String)
  | foreignBlock
  | block
  deriving DecidableEq, Repr, Inhabited

namespace Scope

/-- The name of a scope that has one. -/
def name? : Scope → Option String
  | module name | implementation name _ | traitDefinition name => some name
  | foreignBlock | block => none

/-- The scope holds native functions, be it by its form or by its name. -/
def isNative (nativeName : String → Bool) : Scope → Bool
  | foreignBlock => true
  | scope => scope.name?.any nativeName

/-- The container that enclosing scopes make up. -/
def container (nativeName : String → Bool) (scopes : List Scope) : Container :=
  if scopes.any (isNative nativeName) then .native else .ordinary

end Scope

/-- The kind of a function in the scopes that enclose it, the innermost one first. -/
def FunctionRole.kind (role : FunctionRole) (scopes : List Scope) : DeclarationKind :=
  match role, scopes with
  | .item, .block :: _ => .localFunction
  | .item, _ => .function
  | .implemented, .implementation _ true :: _ => .traitImplMethod
  | .implemented, _ => .inherentMethod
  | .required, _ => .traitMethod
  | .foreign, _ => .foreignFunction

/-- The declaration of a function in the scopes that enclose it, the innermost one first. -/
def FunctionHead.declare (head : FunctionHead) (nativeName : String → Bool) (role : FunctionRole)
    (scopes : List Scope) : Declaration :=
  let kind := role.kind scopes
  { kind
    identifier := head.identifier
    context := ⟨Scope.container nativeName scopes, kind = .traitImplMethod⟩
    signature := head.signature }

mutual

/-- The declarations of an outline in the scopes that enclose it, the innermost one first. -/
def Outline.declarations (nativeName : String → Bool) (scopes : List Scope) :
    Outline → List Declaration
  | .function head inside =>
    head.declare nativeName .item scopes :: Outline.declarationsOf nativeName scopes inside
  | .module name inside => Outline.declarationsOf nativeName (.module name :: scopes) inside
  | .implementation selfType ofTrait members =>
    Member.declarationsOf nativeName .implemented (.implementation selfType.name ofTrait :: scopes)
      members
  | .traitDefinition name members =>
    Member.declarationsOf nativeName .required (.traitDefinition name :: scopes) members
  | .foreignBlock members =>
    Member.declarationsOf nativeName .foreign (.foreignBlock :: scopes) members
  | .block inside => Outline.declarationsOf nativeName (.block :: scopes) inside

/-- The declarations of several outlines, in their order. -/
def Outline.declarationsOf (nativeName : String → Bool) (scopes : List Scope) :
    List Outline → List Declaration
  | [] => []
  | first :: rest =>
    Outline.declarations nativeName scopes first ++ Outline.declarationsOf nativeName scopes rest

/-- The declarations of a member of a scope, whose functions have the given role. -/
def Member.declarations (nativeName : String → Bool) (role : FunctionRole) (scopes : List Scope) :
    Member → List Declaration
  | .function head inside =>
    head.declare nativeName role scopes :: Outline.declarationsOf nativeName scopes inside
  | .other inside => Outline.declarationsOf nativeName scopes inside

/-- The declarations of several members of a scope, in their order. -/
def Member.declarationsOf (nativeName : String → Bool) (role : FunctionRole)
    (scopes : List Scope) : List Member → List Declaration
  | [] => []
  | first :: rest =>
    Member.declarations nativeName role scopes first ++
      Member.declarationsOf nativeName role scopes rest

end

/-- The declarations of a file. -/
def declarations (nativeName : String → Bool) (outlines : List Outline) : List Declaration :=
  Outline.declarationsOf nativeName [] outlines

end NamingLint.Source
