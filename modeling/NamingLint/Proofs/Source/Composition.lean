import NamingLint.Proofs.Source.Declarations

/-!
# Files put together from parts

The declarations of a file are those of its parts, one after the other, and a module around some
items changes nothing about their declarations but their containers (`declarations_compose`). Both
hold inside any scopes. What makes them hold is that the scopes around a place are those of the
nodes above it and of nothing else: a scope that is put around everything stands behind all of them.
-/

namespace NamingLint.Source

open NamingLint.Naming (Declaration)

/-- A declaration as it is once a module with this name encloses it as well: only its container may
be another one. -/
def enclosedBy (nativeName : String → Bool) (name : String) (declaration : Declaration) :
    Declaration :=
  if nativeName name then
    { declaration with context := { declaration.context with container := .native } }
  else declaration

section

variable {nativeName : String → Bool} {scopes : List Scope} {role : FunctionRole}
  {head : FunctionHead} {name : String} {forest : List Node}

/-- A module around all other scopes has no part in the kind of a function. -/
theorem kind_in_module : role.kind (scopes ++ [.module name]) = role.kind scopes := by
  cases scopes with
  | nil => cases role <;> rfl
  | cons nearest outer =>
      cases role with
      | item => cases nearest <;> rfl
      | implemented =>
          cases nearest with
          | implementation selfName ofTrait => cases ofTrait <;> rfl
          | module | traitDefinition | foreignBlock | block => rfl
      | required | foreign => rfl

/-- A module around all other scopes makes the container native if it has a native name. -/
theorem container_in_module :
    Scope.container nativeName (scopes ++ [.module name]) =
      if nativeName name then .native else Scope.container nativeName scopes := by
  have hmodule : (Scope.module name).isNative nativeName = nativeName name := rfl
  simp only [Scope.container, List.any_append, List.any_cons, List.any_nil, Bool.or_false, hmodule]
  cases nativeName name <;> simp

theorem declare_in_module :
    head.declare nativeName role (scopes ++ [.module name]) =
      enclosedBy nativeName name (head.declare nativeName role scopes) := by
  simp only [FunctionHead.declare, kind_in_module, container_in_module, enclosedBy]
  cases nativeName name <;> rfl

/-- A walk inside a module gives the declarations of a walk outside of it, each as it is once the
module encloses it. -/
theorem declarations_in_module :
    declarationsIn nativeName (scopes ++ [.module name]) forest =
      (declarationsIn nativeName scopes forest).map (enclosedBy nativeName name) := by
  obtain ⟨places, -, hdeclared⟩ := declarations_in_places nativeName forest
  rw [hdeclared, hdeclared, List.map_filterMap]
  refine List.filterMap_congr fun place _ => ?_
  rw [declareAt?, declareAt?, Option.map_map]
  refine congrArg (Option.map · (functionAt? forest place)) (funext fun function => ?_)
  rw [← List.append_assoc]
  exact declare_in_module

end

/-- The declarations of items that follow one another are those of the first items and then those of
the others. A module around items leaves their declarations in their order and as they are, but that
all of them get into a native container if the module has a native name. -/
theorem declarations_compose (nativeName : String → Bool) :
    (∀ first second : List Outline, declarations nativeName (first ++ second) =
      declarations nativeName first ++ declarations nativeName second) ∧
    ∀ (name : String) (items : List Outline), declarations nativeName [.module name items] =
      (declarations nativeName items).map (enclosedBy nativeName name) := by
  constructor
  · intro first second
    simp only [declarations, outline_declarations_of, declarationsIn, List.map_append,
      List.flatMap_append]
  · intro name items
    simp only [declarations, outline_declarations_of]
    rw [← declarations_in_module, declarationsIn, List.map_singleton, List.flatMap_singleton,
      Node.declarations_eq]
    rfl

/-- A function inside a module with a native name gets into a native container; its kind and
everything else about it is kept. -/
example :
    (outline? "mod sys \x7b fn f() \x7b fn G() \x7b\x7d \x7d \x7d fn h() \x7b\x7d").map
        (fun outlines => (declarations (· == "sys") outlines).map fun declaration =>
          (declaration.kind, declaration.identifier.text, declaration.context.container)) =
      some [(.function, "f", .native), (.localFunction, "G", .native),
        (.function, "h", .ordinary)] := by
  decide +kernel

end NamingLint.Source
