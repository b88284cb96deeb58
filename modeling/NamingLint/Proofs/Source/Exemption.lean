import NamingLint.Proofs.Naming.Verdict
import NamingLint.Proofs.Source.Declarations

/-!
# Exempt functions

Where a function stands may exempt it from the rules. `Exempt` says so of its place alone, by the
nodes above it. `Exempt.evaluate_none` says that its name is never reported, whatever it is, and
`exempt_of_kind` that functions of two kinds are always exempt.
-/

namespace NamingLint.Source

open NamingLint.Naming (Declaration DeclarationKind Exemptions evaluate evaluate_none_iff)

/-- The function at a place is exempt from the rules. -/
inductive Exempt (nativeName : String → Bool) (forest : List Node) (place : Place) : Prop where
  /-- It stands directly inside an implementation of a trait. -/
  | implements (selfType : SelfType) (members : List Member)
      (above : nodeAt forest place.dropLast =
        some (.outline (.implementation selfType true members)))
  /-- It is a function of an `extern` block. -/
  | foreign (head : FunctionHead) (function : functionAt? forest place = some (.foreign, head))
  /-- It stands at any depth inside an `extern` block, or inside a module, an implementation or a
  trait definition with a native name. -/
  | enclosed (outer : Place) (scope : Scope) (begins : outer <+: place) (proper : outer ≠ place)
      (opens : (nodeAt forest outer).bind Node.scope? = some scope)
      (native : scope = .foreignBlock ∨ ∃ name, scope.name? = some name ∧ nativeName name = true)

section

variable {nativeName : String → Bool} {outlines : List Outline} {forest : List Node} {place : Place}
  {declaration : Declaration} {role : FunctionRole} {head : FunctionHead} {parent : Node}

/-! ## What stands directly inside a node -/

/-- Members with the functions of `extern` blocks are directly inside an `extern` block. -/
theorem foreign_of_child {member : Member} (h : .member .foreign member ∈ parent.children) :
    ∃ members, parent = .outline (.foreignBlock members) := by
  cases parent with
  | outline found => cases found <;> simp_all [Node.children]
  | member role found => cases found <;> simp [Node.children] at h

/-- The `extern` block of a function is one of the scopes around it. -/
theorem foreign_above
    (h : functionAt? (outlines.map .outline) place = some (.foreign, head)) :
    .foreignBlock ∈ scopesAt (outlines.map .outline) place := by
  obtain ⟨above, index, parent, member, rfl, hparent, hchild⟩ := scope_above (by decide) h
  obtain ⟨members, rfl⟩ := foreign_of_child hchild
  simp [scopes_at_concat, hparent, Node.scope?]

/-- A function directly inside an implementation has the role that goes with it, and the
implementation is the nearest scope around it. -/
theorem implemented_of_above {selfType : SelfType} {ofTrait : Bool} {members : List Member}
    (habove : nodeAt forest place.dropLast =
      some (.outline (.implementation selfType ofTrait members)))
    (h : functionAt? forest place = some (role, head)) :
    role = .implemented ∧ ∃ scopes,
      scopesAt forest place = .implementation selfType.name ofTrait :: scopes := by
  obtain ⟨node, hnode, hfunction⟩ := Option.bind_eq_some_iff.1 h
  rcases List.eq_nil_or_concat' place with rfl | ⟨above, index, rfl⟩
  · cases hnode
  rw [List.dropLast_concat] at habove
  have hne : above ≠ [] := by
    rintro rfl
    simp [nodeAt] at habove
  rw [node_at_concat hne, habove] at hnode
  obtain ⟨member, _, rfl⟩ := List.mem_map.1 (List.mem_of_getElem? hnode)
  constructor
  · cases member with
    | function => exact (congrArg Prod.fst (Option.some.inj hfunction)).symm
    | other => cases hfunction
  · exact ⟨scopesAt forest above, by simp [scopes_at_concat, habove, Node.scope?]⟩

/-! ## What exemption comes to -/

/-- An exempt function has a context that no rule looks behind. -/
theorem Exempt.context (h : Exempt nativeName (outlines.map .outline) place)
    (hfunction : functionAt? (outlines.map .outline) place = some (role, head)) :
    (head.declare nativeName role (scopesAt (outlines.map .outline) place)).context.container =
        .native ∨
      (head.declare nativeName role
        (scopesAt (outlines.map .outline) place)).context.implementsMember = true := by
  cases h with
  | implements selfType members above =>
      obtain ⟨rfl, scopes, hscopes⟩ := implemented_of_above above hfunction
      rw [hscopes]
      exact .inr rfl
  | foreign head above =>
      exact .inl (container_native_iff.2 ⟨.foreignBlock, foreign_above above, .inl rfl⟩)
  | enclosed outer scope begins proper opens native =>
      exact .inl (container_native_iff.2
        ⟨scope, mem_scopes_at.2 ⟨outer, begins, proper, opens⟩, native⟩)

/-- The name of an exempt function is not reported. -/
theorem Exempt.evaluate_none (h : Exempt nativeName (outlines.map .outline) place)
    (hdeclared : declareAt? nativeName [] (outlines.map .outline) place = some declaration)
    (exemptions : Exemptions) :
    evaluate declaration.identifier declaration.context exemptions = none := by
  obtain ⟨⟨role, head⟩, hfunction, rfl⟩ := Option.map_eq_some_iff.1 hdeclared
  rw [List.append_nil, evaluate_none_iff]
  intro hreported
  rcases h.context hfunction with hnative | himplements
  · cases hnative.symm.trans hreported.ordinary
  · cases himplements.symm.trans hreported.unconstrained

/-- Functions of implementations of traits and of `extern` blocks are exempt wherever they are. -/
theorem exempt_of_kind
    (hdeclared : declareAt? nativeName [] (outlines.map .outline) place = some declaration)
    (hkind : declaration.kind = .traitImplMethod ∨ declaration.kind = .foreignFunction) :
    Exempt nativeName (outlines.map .outline) place := by
  obtain ⟨⟨role, head⟩, hfunction, rfl⟩ := Option.map_eq_some_iff.1 hdeclared
  rw [List.append_nil] at hkind
  have hrole : role.kind (scopesAt (outlines.map .outline) place) = .traitImplMethod ∨
      role.kind (scopesAt (outlines.map .outline) place) = .foreignFunction := hkind
  cases role with
  | foreign => exact .foreign head hfunction
  | required => rcases hrole with h | h <;> cases h
  | item =>
      by_cases hblock : (scopesAt (outlines.map .outline) place).head? = some .block
      · rw [item_kind.1.2 hblock] at hrole
        rcases hrole with h | h <;> cases h
      · rw [item_kind.2.2 hblock] at hrole
        rcases hrole with h | h <;> cases h
  | implemented =>
      obtain ⟨selfType, ofTrait, members, habove, hnearest⟩ := implementation_above hfunction
      obtain ⟨scopes, hscopes⟩ := List.head?_eq_some_iff.1 hnearest
      rw [hscopes] at hrole
      cases ofTrait with
      | true => exact .implements selfType members habove
      | false => rcases hrole with h | h <;> cases h

end

end NamingLint.Source
