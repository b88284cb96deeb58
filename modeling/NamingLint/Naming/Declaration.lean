import NamingLint.Naming.Casing

/-!
# Declarations

The kinds of function-like declarations that rules can be wired to, and a declaration as the rules
see it.
-/

namespace NamingLint.Naming

/-- The kinds of declarations, in their fixed order. -/
inductive DeclarationKind where
  /-- A free function at module level. -/
  | function
  /-- A function item inside a block. -/
  | localFunction
  /-- A function of an implementation without a trait. -/
  | inherentMethod
  /-- A function of an implementation of a trait. -/
  | traitImplMethod
  /-- A function of a trait definition. -/
  | traitMethod
  /-- A function of an `extern` block. -/
  | foreignFunction
  deriving DecidableEq, Repr, Inhabited

namespace DeclarationKind

/-- All kinds, in their fixed order. -/
def all : List DeclarationKind :=
  [function, localFunction, inherentMethod, traitImplMethod, traitMethod, foreignFunction]

/-- The name used in configurations and reports. -/
def name : DeclarationKind → String
  | function => "function"
  | localFunction => "local_function"
  | inherentMethod => "inherent_method"
  | traitImplMethod => "trait_impl_method"
  | traitMethod => "trait_method"
  | foreignFunction => "foreign_function"

/-- The kind with this name. -/
def ofName? (text : String) : Option DeclarationKind :=
  all.find? fun kind => kind.name == text

/-- The kinds of a list, each once and in their fixed order. -/
def normalize (kinds : List DeclarationKind) : List DeclarationKind :=
  all.filter fun kind => kinds.contains kind

end DeclarationKind

/-- A declaration as the rules see it. -/
structure Declaration where
  kind : DeclarationKind
  identifier : Identifier
  context : Context
  /-- The rendered signature, shown with a finding. -/
  signature : String
  deriving DecidableEq, Repr, Inhabited

end NamingLint.Naming
