import NamingLint.Proofs.Source.Declarations

/-!
# How the type of an implementation is written

An implementation is named for its type, and a type can be written in many ways that end in the same
name. `Spells.name_eq` says that references and parentheses around a path, what stands in front of
its last name and the generic arguments behind it do not count. So the functions directly inside an
implementation are declared alike however its type is written (`spelling_without_effect`).
-/

namespace NamingLint.Source

open NamingLint.Naming (Context Declaration DeclarationKind)

/-! ## Types -/

/-- A type is a path whose last segment has a name, within any references and parentheses. -/
inductive Spells (name : String) : SelfType → Prop where
  | path {found : TypePath} {segment : PathSegment} (last : found.segments.getLast? = some segment)
      (named : segment.name = name) : Spells name (.path found)
  | reference (lifetime : Option String) (mutable : Bool) {target : SelfType}
      (inside : Spells name target) : Spells name (.reference lifetime mutable target)
  | parenthesized {inner : SelfType} (inside : Spells name inner) :
      Spells name (.parenthesized inner)

/-- A type is named by the path inside it. -/
theorem Spells.name_eq {name : String} {selfType : SelfType} (h : Spells name selfType) :
    selfType.name = name := by
  induction h with
  | @path found segment last named =>
      unfold SelfType.name
      rw [last]
      exact named
  | reference lifetime mutable _ ih => exact ih
  | parenthesized _ ih => exact ih

/-! ## Raw identifiers -/

/-- The marker of a raw identifier is no part of the name that is scanned. -/
theorem scan_raw {chars : List Char} {length : Nat} {name : String}
    (hplain : Lexer.scanIdent chars = some (length, name, false)) (hraw : name ∉ Lexer.notRaw) :
    Lexer.scanIdent ('r' :: '#' :: chars) = some (2 + length, name, true) := by
  have hmarker : Lexer.startsWith ('r' :: '#' :: chars) "r#" = true := rfl
  unfold Lexer.scanIdent at hplain ⊢
  split at hplain
  · -- A name that is marked already does not count as a plain one.
    dsimp only at hplain
    split at hplain
    · split at hplain <;> cases hplain
    · cases hplain
  · obtain ⟨scanned, hscan, hsame⟩ := Option.map_eq_some_iff.1 hplain
    obtain ⟨rfl, rfl⟩ : scanned = length ∧ String.ofList (chars.take scanned) = name := by
      simpa using hsame
    have hname : Lexer.notRaw.contains (String.ofList (chars.take scanned)) = false := by
      simpa using hraw
    rw [if_pos hmarker]
    simp only [List.drop_succ_cons, List.drop_zero, hscan, hname, Bool.false_eq_true, if_false]

/-! ## Functions directly inside an implementation -/

/-- The name of a member that is a function. -/
def Member.functionName? : Member → Option String
  | .function head _ => some head.identifier.text
  | .other _ => none

/-- What a declaration says but for how and where the function is written. -/
def gist (declaration : Declaration) : DeclarationKind × Context × String :=
  (declaration.kind, declaration.context, declaration.identifier.text)

section

variable {nativeName : String → Bool} {forest : List Node} {place : Place} {index : Nat}
  {selfType : SelfType} {ofTrait : Bool} {members : List Member}

/-- The declaration of a function directly inside an implementation depends on the type of the
implementation by its name only. -/
theorem gist_in_implementation
    (h : nodeAt forest place = some (.outline (.implementation selfType ofTrait members))) :
    (declareAt? nativeName [] forest (place ++ [index])).map gist =
      ((members[index]?).bind Member.functionName?).map fun text =>
        let scopes := .implementation selfType.name ofTrait :: scopesAt forest place
        ((if ofTrait then .traitImplMethod else .inherentMethod : DeclarationKind),
          ⟨Scope.container nativeName scopes, ofTrait⟩, text) := by
  have hplace : place ≠ [] := by
    rintro rfl
    cases h
  have hnode : nodeAt forest (place ++ [index]) = (members[index]?).map (.member .implemented) := by
    rw [node_at_concat hplace, h]
    simp [Node.children]
  have hscopes : scopesAt forest (place ++ [index]) =
      .implementation selfType.name ofTrait :: scopesAt forest place := by
    rw [scopes_at_concat, h]
    rfl
  simp only [declareAt?, functionAt?, hnode, hscopes, List.append_nil]
  cases members[index]? with
  | none => rfl
  | some member =>
      cases member with
      | other inside => rfl
      | function head inside => cases ofTrait <;> rfl

end

/-- At places in two files there are implementations whose types end in the same name, with functions
of the same names, in the same scopes. -/
inductive Respelled (forest others : List Node) (place elsewhere : Place) : Prop where
  | intro {name : String} {selfType otherType : SelfType} {ofTrait : Bool}
      {members otherMembers : List Member} (spells : Spells name selfType)
      (spellsToo : Spells name otherType)
      (here : nodeAt forest place =
        some (.outline (.implementation selfType ofTrait members)))
      (there : nodeAt others elsewhere =
        some (.outline (.implementation otherType ofTrait otherMembers)))
      (functions : members.map Member.functionName? = otherMembers.map Member.functionName?)
      (scopes : scopesAt forest place = scopesAt others elsewhere)

/-- The name of a type is that of the last segment of a path, whatever references and parentheses
are around it and whatever else belongs to the path, and names are the same if they are marked as
raw. So functions directly inside an implementation have the same kinds, contexts and names however
its type and their names are written. -/
theorem spelling_without_effect (nativeName : String → Bool) :
    (∀ name selfType, Spells name selfType → selfType.name = name) ∧
    (∀ chars length name, Lexer.scanIdent chars = some (length, name, false) →
      name ∉ Lexer.notRaw →
        Lexer.scanIdent ('r' :: '#' :: chars) = some (2 + length, name, true)) ∧
    ∀ forest others place elsewhere, Respelled forest others place elsewhere → ∀ index,
      (declareAt? nativeName [] forest (place ++ [index])).map gist =
        (declareAt? nativeName [] others (elsewhere ++ [index])).map gist := by
  refine ⟨fun name selfType h => h.name_eq, fun chars length name => scan_raw, ?_⟩
  intro forest others place elsewhere h index
  cases h with
  | @intro name selfType otherType ofTrait members otherMembers spells spellsToo here there
      functions scopes =>
      have hfunction : (members[index]?).bind Member.functionName? =
          (otherMembers[index]?).bind Member.functionName? := by
        have hnames := congrArg (fun names => (names[index]?).bind id) functions
        simpa only [List.getElem?_map, Option.bind_map, Function.id_comp] using hnames
      rw [gist_in_implementation here, gist_in_implementation there, hfunction, spells.name_eq,
        spellsToo.name_eq, scopes]

/-- A type with a native name. -/
def nativeType : SelfType :=
  .path ⟨none, false, [⟨"NativeMethods", false, []⟩]⟩

/-- The same type behind a reference and in parentheses, with a prefix, as a raw identifier and with
a generic argument. -/
def decoratedType : SelfType :=
  .reference (some "a") true (.parenthesized (.path ⟨none, true,
    [⟨"sys", false, []⟩, ⟨"NativeMethods", true, [.ident "T" false ⟨1, 40⟩]⟩]⟩))

/-- An implementation with one function. -/
def implementing (selfType : SelfType) (location : Location) (signature : String) : List Node :=
  [.outline (.implementation selfType false
    [.other [], .function ⟨⟨"Beep", location, true⟩, signature⟩ [.block []]])]

theorem decorated_type_native : ∃ declaration,
    declareAt? (· == "NativeMethods") [] (implementing decoratedType ⟨2, 5⟩ "fn r#Beep ()") [0, 1] =
        some declaration ∧
      gist declaration = (.inherentMethod, ⟨.native, false⟩, "Beep") := by
  have hdecorated : Spells "NativeMethods" decoratedType :=
    .reference _ _ (.parenthesized (.path rfl rfl))
  have hnative : Spells "NativeMethods" nativeType := .path rfl rfl
  have hspelled : Respelled (implementing decoratedType ⟨2, 5⟩ "fn r#Beep ()")
      (implementing nativeType ⟨1, 25⟩ "fn Beep ()") [0] [0] :=
    .intro hdecorated hnative rfl rfl rfl (by rw [scopes_at_top, scopes_at_top])
  have hsame := (spelling_without_effect (· == "NativeMethods")).2.2 _ _ _ _ hspelled 1
  have hplain : (declareAt? (· == "NativeMethods") []
      (implementing nativeType ⟨1, 25⟩ "fn Beep ()") [0, 1]).map gist =
        some (.inherentMethod, ⟨.native, false⟩, "Beep") := rfl
  exact Option.map_eq_some_iff.1 (hsame.trans hplain)

/-- The functions of an implementation for a decorated type are native. -/
example :
    (outline? "impl &mut (a::r\x23N<T>) \x7b fn r\x23G() \x7b\x7d \x7d").map
        (fun outlines => (declarations (· == "N") outlines).map gist) =
      some [(.inherentMethod, ⟨.native, false⟩, "G")] := by
  decide +kernel

end NamingLint.Source
