import NamingLint.Naming.Casing
import NamingLint.Source.Token

/-!
# Outlines

An outline is what the rules need to know of a parsed file: its functions and the scopes that
enclose them, in the order in which a walk over the file meets them. Everything between two of them
is left out.
-/

namespace NamingLint.Source

open NamingLint.Naming (Identifier)

/-- A segment of a path. The name of a raw identifier is kept without its marker. -/
structure PathSegment where
  name : String
  raw : Bool := false
  /-- The printed generic arguments, brackets included. -/
  arguments : List TokenTree := []
  deriving Inhabited

/-- A path as it names a type or a value. -/
structure TypePath where
  /-- What stands in angle brackets in front of a qualified path, printed. -/
  qualifier : Option (List TokenTree)
  /-- The path starts with a separator. -/
  absolute : Bool
  segments : List PathSegment
  deriving Inhabited

/-- The form of a type, as far as an implementation is named for it. -/
inductive SelfType where
  | path (path : TypePath)
  | reference (lifetime : Option String) (mutable : Bool) (target : SelfType)
  | parenthesized (inner : SelfType)
  /-- Any other type, printed. -/
  | other (printed : List TokenTree)
  deriving Inhabited

/-- The name of a type: the last segment of a path, through references and parentheses, or else the
text of the type. -/
def SelfType.name : SelfType → String
  | path found =>
    match found.segments.getLast? with
    | some segment => segment.name
    | none => ""
  | reference _ _ target => target.name
  | parenthesized inner => inner.name
  | other printed => TokenTree.renderAll printed

/-- What a function is declared in. -/
inductive FunctionRole where
  /-- An item of a file, a module or a block. -/
  | item
  /-- A function of an implementation. -/
  | implemented
  /-- A function of a trait definition. -/
  | required
  /-- A function of an `extern` block. -/
  | foreign
  deriving DecidableEq, Repr, Inhabited

/-- A function as it is declared: its name and its printed signature. -/
structure FunctionHead where
  identifier : Identifier
  signature : String
  deriving DecidableEq, Repr, Inhabited

mutual

/-- A function or a scope, with what a walk meets inside. -/
inductive Outline where
  /-- A function that is an item; inside are its attributes, signature and body. -/
  | function (head : FunctionHead) (inside : List Outline)
  | module (name : String) (inside : List Outline)
  | implementation (selfType : SelfType) (ofTrait : Bool) (members : List Member)
  | traitDefinition (name : String) (members : List Member)
  | foreignBlock (members : List Member)
  /-- A block of statements, be it the body of a function or part of an expression. -/
  | block (inside : List Outline)

/-- A part of an implementation, a trait definition or an `extern` block. -/
inductive Member where
  /-- A function of the scope; inside are its attributes, signature and body. -/
  | function (head : FunctionHead) (inside : List Outline)
  /-- Any other part, such as the header of the scope or a constant. -/
  | other (inside : List Outline)

end

instance : Inhabited Outline := ⟨.block []⟩

instance : Inhabited Member := ⟨.other []⟩

end NamingLint.Source
