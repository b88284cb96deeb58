import Mathlib.Data.List.Forall2
import NamingLint.Proofs.Source.Place
import NamingLint.Source.Grammar

/-!
# One declaration for each function

`declarations_describe_functions` is the main statement: a walk over a parsed file gives exactly one
declaration for each function of the file, in the order of their places, and the declaration says
what kind of function it is and whether it belongs to a native container. Both are read off the
nodes above the function.

Vocabulary: `NamingLint.Proofs.Source.Place`.
-/

namespace NamingLint.Source

open NamingLint.Naming (Declaration DeclarationKind)

/-- The function at a place, with its role. -/
def functionAt? (forest : List Node) (place : Place) : Option (FunctionRole × FunctionHead) :=
  (nodeAt forest place).bind Node.function?

/-! ## The functions of a file in their order -/

/-- The place that a node has once another node is put in front of all. -/
def Place.behind : Place → Place
  | [] => []
  | index :: inner => (index + 1) :: inner

namespace Place

variable {place inner : Place} {index : Nat}

@[simp] theorem behind_eq_nil : place.behind = [] ↔ place = [] := by
  cases place <;> simp [behind]

@[simp] theorem behind_ne_zero : place.behind ≠ 0 :: inner := by
  cases place <;> simp [behind]

@[simp] theorem behind_eq_succ : place.behind = (index + 1) :: inner ↔ place = index :: inner := by
  cases place <;> simp [behind]

/-- A node in front of all others keeps the order of their places. -/
theorem behind_lt {first second : Place} (h : first < second) : first.behind < second.behind := by
  match first, second, h with
  | [], _ :: _, _ => exact List.nil_lt_cons _ _
  | i :: first, j :: second, h =>
      rcases List.cons_lt_cons_iff.1 h with h | ⟨hindex, h⟩
      · exact List.cons_lt_cons_iff.2 (.inl (Nat.succ_lt_succ h))
      · exact List.cons_lt_cons_iff.2 (.inr ⟨congrArg _ hindex, h⟩)

end Place

/-- The places are those that hold a function, in ascending order. -/
structure PlacesOf (forest : List Node) (places : List Place) : Prop where
  ascending : places.Pairwise (· < ·)
  mem_iff : ∀ place, place ∈ places ↔ (functionAt? forest place).isSome

/-- The places of the functions of some nodes, by those inside the first node and those of all
others. -/
def placesCons (node : Node) (childPlaces restPlaces : List Place) : List Place :=
  (if node.function?.isSome then [[0]] else []) ++
    (childPlaces.map (0 :: ·) ++ restPlaces.map Place.behind)

section

variable {node : Node} {forest rest : List Node} {places childPlaces restPlaces : List Place}

/-- No function is at the empty place. -/
theorem PlacesOf.nil_not_mem (h : PlacesOf forest places) : [] ∉ places := fun hnil => by
  simpa [functionAt?, nodeAt] using (h.mem_iff []).1 hnil

/-- No nodes have no functions. -/
theorem PlacesOf.nil : PlacesOf [] [] := by
  refine ⟨.nil, fun place => ?_⟩
  match place with
  | [] | [_] | _ :: _ :: _ => simp [functionAt?, nodeAt]

/-- The order of places puts a node before what is inside it, and that before the nodes behind. -/
theorem pairwise_places_cons (hchild : PlacesOf node.children childPlaces)
    (hrest : PlacesOf rest restPlaces) :
    (placesCons node childPlaces restPlaces).Pairwise (· < ·) := by
  have hinside : (childPlaces.map (0 :: ·)).Pairwise (· < ·) :=
    hchild.ascending.map _ fun _ _ h => List.cons_lt_cons_iff.2 (.inr ⟨rfl, h⟩)
  have hbehind : (restPlaces.map Place.behind).Pairwise (· < ·) :=
    hrest.ascending.map _ fun _ _ h => Place.behind_lt h
  have hlater (inner : Place) {place : Place} (hplace : place ∈ restPlaces) :
      0 :: inner < place.behind := by
    cases place with
    | nil => exact absurd hplace hrest.nil_not_mem
    | cons index place => exact List.cons_lt_cons_iff.2 (.inl (Nat.succ_pos index))
  have htail : (childPlaces.map (0 :: ·) ++ restPlaces.map Place.behind).Pairwise (· < ·) := by
    refine List.pairwise_append.2 ⟨hinside, hbehind, ?_⟩
    simp only [List.forall_mem_map]
    exact fun inner _ place hplace => hlater inner hplace
  rw [placesCons]
  split
  · -- The node itself comes first, since the places inside it go on where its own ends.
    refine List.pairwise_append.2 ⟨List.pairwise_singleton _ _, htail, ?_⟩
    intro first hfirst second hsecond
    rw [List.mem_singleton.1 hfirst]
    rcases List.mem_append.1 hsecond with h | h
    · obtain ⟨inner, hinner, rfl⟩ := List.mem_map.1 h
      have hne : inner ≠ [] := fun heq => hchild.nil_not_mem (heq ▸ hinner)
      obtain ⟨next, inner, rfl⟩ := List.exists_cons_of_ne_nil hne
      exact List.cons_lt_cons_iff.2 (.inr ⟨rfl, List.nil_lt_cons _ _⟩)
    · obtain ⟨place, hplace, rfl⟩ := List.mem_map.1 h
      exact hlater [] hplace
  · exact htail

/-- The functions of some nodes are the first node if it is one, those inside it, and those of the
other nodes. -/
theorem PlacesOf.cons (hchild : PlacesOf node.children childPlaces)
    (hrest : PlacesOf rest restPlaces) :
    PlacesOf (node :: rest) (placesCons node childPlaces restPlaces) := by
  refine ⟨pairwise_places_cons hchild hrest, fun place => ?_⟩
  match place with
  | [] => simp [placesCons, functionAt?, nodeAt, hrest.nil_not_mem]
  | [0] => simp [placesCons, functionAt?, hchild.nil_not_mem]
  | 0 :: next :: inner => simp [placesCons, functionAt?, hchild.mem_iff]
  | (index + 1) :: inner => simp [placesCons, functionAt?, hrest.mem_iff]

/-- The declaration of the function at a place, in further scopes around all nodes. -/
def declareAt? (nativeName : String → Bool) (scopes : List Scope) (forest : List Node)
    (place : Place) : Option Declaration :=
  (functionAt? forest place).map fun function =>
    function.2.declare nativeName function.1 (scopesAt forest place ++ scopes)

theorem declare_at_head {nativeName : String → Bool} {scopes : List Scope} :
    declareAt? nativeName scopes (node :: rest) [0] =
      node.function?.map fun function => function.2.declare nativeName function.1 scopes := by
  simp [declareAt?, functionAt?]

/-- Inside a node, its scope is one of those around all nodes. -/
theorem declare_at_inner {nativeName : String → Bool} {scopes : List Scope} {inner : Place}
    (hinner : inner ≠ []) :
    declareAt? nativeName scopes (node :: rest) (0 :: inner) =
      declareAt? nativeName (node.scope?.toList ++ scopes) node.children inner := by
  simp [declareAt?, functionAt?, hinner, scopes_at_inner hinner (List.getElem?_cons_zero ..)]

theorem declare_at_behind {nativeName : String → Bool} {scopes : List Scope} {place : Place} :
    declareAt? nativeName scopes (node :: rest) place.behind =
      declareAt? nativeName scopes rest place := by
  cases place <;> simp [declareAt?, functionAt?, Place.behind, nodeAt]

/-- A walk over nodes gives the declarations of the functions at their places, in ascending order of
these, whatever scopes enclose them all. -/
theorem declarations_in_places (nativeName : String → Bool) (forest : List Node) :
    ∃ places, PlacesOf forest places ∧ ∀ scopes,
      declarationsIn nativeName scopes forest =
        places.filterMap (declareAt? nativeName scopes forest) := by
  -- The scopes stay open in the induction: what is inside a node has the scope of the node as well.
  induction forest using forest_induction with
  | nil => exact ⟨[], .nil, fun scopes => rfl⟩
  | cons node rest ihchild ihrest =>
      obtain ⟨childPlaces, hchild, hchildDeclared⟩ := ihchild
      obtain ⟨restPlaces, hrest, hrestDeclared⟩ := ihrest
      refine ⟨placesCons node childPlaces restPlaces, hchild.cons hrest, fun scopes => ?_⟩
      have hown : (if node.function?.isSome then [[0]] else []).filterMap
          (declareAt? nativeName scopes (node :: rest)) =
          (node.function?.map fun f => f.2.declare nativeName f.1 scopes).toList := by
        cases hfunction : node.function? <;> simp [declare_at_head, hfunction]
      have hinside : childPlaces.filterMap
          (fun inner => declareAt? nativeName scopes (node :: rest) (0 :: inner)) =
          declarationsIn nativeName (node.scope?.toList ++ scopes) node.children := by
        rw [hchildDeclared]
        refine List.filterMap_congr fun inner hmem => declare_at_inner ?_
        exact fun heq => hchild.nil_not_mem (heq ▸ hmem)
      calc declarationsIn nativeName scopes (node :: rest)
          = node.declarations nativeName scopes ++ declarationsIn nativeName scopes rest := by
            simp [declarationsIn]
        _ = (placesCons node childPlaces restPlaces).filterMap
            (declareAt? nativeName scopes (node :: rest)) := by
            simp only [placesCons, List.filterMap_append, List.filterMap_map, Function.comp_def,
              declare_at_behind, hown, hinside, ← hrestDeclared, node.declarations_eq,
              List.append_assoc]

end

/-! ## What a declaration says -/

/-- A declaration tells of the function at a place. The kind of an item depends on the nearest scope
around it, that of a function of an implementation on the implementation directly above it, and the
container on all scopes around it. -/
structure Describes (nativeName : String → Bool) (forest : List Node) (place : Place)
    (declaration : Declaration) (role : FunctionRole) (head : FunctionHead) : Prop where
  identifier : declaration.identifier = head.identifier
  signature : declaration.signature = head.signature
  item : role = .item →
    (declaration.kind = .localFunction ↔ (scopesAt forest place).head? = some .block) ∧
    (declaration.kind = .function ↔ (scopesAt forest place).head? ≠ some .block)
  implemented : role = .implemented → ∃ selfType ofTrait members,
    nodeAt forest place.dropLast = some (.outline (.implementation selfType ofTrait members)) ∧
    (declaration.kind = .traitImplMethod ↔ ofTrait = true) ∧
    (declaration.kind = .inherentMethod ↔ ofTrait = false)
  required : role = .required → declaration.kind = .traitMethod
  foreign : role = .foreign → declaration.kind = .foreignFunction
  implements_iff : declaration.context.implementsMember = true ↔ declaration.kind = .traitImplMethod
  native_iff : declaration.context.container = .native ↔ ∃ scope ∈ scopesAt forest place,
    scope = .foreignBlock ∨ ∃ name, scope.name? = some name ∧ nativeName name = true

section

variable {nativeName : String → Bool} {scopes : List Scope} {role : FunctionRole}
  {head : FunctionHead} {outlines : List Outline} {forest : List Node} {place : Place}

/-- A container is native if some scope is an `extern` block or bears a native name. -/
theorem container_native_iff :
    Scope.container nativeName scopes = .native ↔ ∃ scope ∈ scopes,
      scope = .foreignBlock ∨ ∃ name, scope.name? = some name ∧ nativeName name = true := by
  have hscope (scope : Scope) : scope.isNative nativeName = true ↔
      scope = .foreignBlock ∨ ∃ name, scope.name? = some name ∧ nativeName name = true := by
    cases scope <;> simp [Scope.isNative, Scope.name?]
  simp only [Scope.container, ← hscope, ← List.any_eq_true]
  cases scopes.any (Scope.isNative nativeName) <;> simp

/-- The kind of an item is local directly inside a block and free anywhere else. -/
theorem item_kind :
    (FunctionRole.item.kind scopes = .localFunction ↔ scopes.head? = some .block) ∧
    (FunctionRole.item.kind scopes = .function ↔ scopes.head? ≠ some .block) := by
  cases scopes with
  | nil => simp [FunctionRole.kind]
  | cons nearest scopes => cases nearest <;> simp [FunctionRole.kind]

/-- Members with the functions of implementations are directly inside an implementation. -/
theorem implementation_of_child {parent : Node} {member : Member}
    (h : .member .implemented member ∈ parent.children) :
    ∃ selfType ofTrait members, parent = .outline (.implementation selfType ofTrait members) := by
  cases parent with
  | outline found => cases found <;> simp_all [Node.children]
  | member role found => cases found <;> simp [Node.children] at h

/-- A function that is no item is a member of the node above it. -/
theorem scope_above (hrole : role ≠ .item)
    (h : functionAt? (outlines.map .outline) place = some (role, head)) :
    ∃ above index parent member, place = above ++ [index] ∧
      nodeAt (outlines.map .outline) above = some parent ∧
      .member role member ∈ parent.children := by
  obtain ⟨node, hnode, hfunction⟩ := Option.bind_eq_some_iff.1 h
  obtain ⟨member, rfl⟩ : ∃ member, node = .member role member := by
    cases node with
    | outline found =>
        cases found with
        | function => exact absurd (congrArg Prod.fst (Option.some.inj hfunction)).symm hrole
        | _ => cases hfunction
    | member role found => cases found <;> simp_all [Node.function?]
  rcases List.eq_nil_or_concat' place with rfl | ⟨above, index, rfl⟩
  · cases hnode
  have hne : above ≠ [] := by
    rintro rfl
    simp [nodeAt] at hnode
  rw [node_at_concat hne] at hnode
  obtain ⟨parent, hparent, hchild⟩ := Option.bind_eq_some_iff.1 hnode
  exact ⟨above, index, parent, member, rfl, hparent, List.mem_of_getElem? hchild⟩

/-- The node above a function of an implementation is the implementation, which is also the nearest
scope around the function. -/
theorem implementation_above
    (h : functionAt? (outlines.map .outline) place = some (.implemented, head)) :
    ∃ selfType ofTrait members,
      nodeAt (outlines.map .outline) place.dropLast =
        some (.outline (.implementation selfType ofTrait members)) ∧
      (scopesAt (outlines.map .outline) place).head? =
        some (.implementation selfType.name ofTrait) := by
  obtain ⟨above, index, parent, member, rfl, hparent, hchild⟩ := scope_above (by decide) h
  obtain ⟨selfType, ofTrait, members, rfl⟩ := implementation_of_child hchild
  refine ⟨selfType, ofTrait, members, by rw [List.dropLast_concat, hparent], ?_⟩
  simp [scopes_at_concat, hparent, Node.scope?]

/-- The declaration of the function at a place describes it. -/
theorem declare_describes
    (h : functionAt? (outlines.map .outline) place = some (role, head)) :
    Describes nativeName (outlines.map .outline) place
      (head.declare nativeName role (scopesAt (outlines.map .outline) place)) role head where
  identifier := rfl
  signature := rfl
  item := by
    rintro rfl
    exact item_kind
  implemented := by
    rintro rfl
    obtain ⟨selfType, ofTrait, members, habove, hnearest⟩ := implementation_above h
    refine ⟨selfType, ofTrait, members, habove, ?_⟩
    obtain ⟨scopes, hscopes⟩ := List.head?_eq_some_iff.1 hnearest
    cases ofTrait <;> simp [FunctionHead.declare, FunctionRole.kind, hscopes]
  required := by
    rintro rfl
    rfl
  foreign := by
    rintro rfl
    rfl
  implements_iff := by simp [FunctionHead.declare]
  native_iff := container_native_iff

end

/-- A walk over a parsed file gives exactly one declaration for each function in it, at any depth,
and a function comes before those inside it. -/
theorem declarations_describe_functions (nativeName : String → Bool) (outlines : List Outline) :
    ∃ places, PlacesOf (outlines.map .outline) places ∧
      List.Forall₂ (fun place declaration => ∃ role head,
          functionAt? (outlines.map .outline) place = some (role, head) ∧
          Describes nativeName (outlines.map .outline) place declaration role head)
        places (declarations nativeName outlines) := by
  obtain ⟨places, hplaces, hdeclared⟩ :=
    declarations_in_places nativeName (outlines.map .outline)
  refine ⟨places, hplaces, ?_⟩
  rw [declarations, outline_declarations_of, hdeclared]
  -- Every place holds a function, so that none of them is lost on the way.
  have hall := fun place hplace => (hplaces.mem_iff place).1 hplace
  clear hplaces hdeclared
  induction places with
  | nil => exact .nil
  | cons place places ih =>
      obtain ⟨⟨role, head⟩, hfunction⟩ := Option.isSome_iff_exists.1 (hall place List.mem_cons_self)
      have hdeclare : declareAt? nativeName [] (outlines.map .outline) place =
          some (head.declare nativeName role (scopesAt (outlines.map .outline) place)) := by
        simp [declareAt?, hfunction]
      rw [List.filterMap_cons_some hdeclare]
      refine .cons ⟨role, head, hfunction, declare_describes hfunction⟩ (ih ?_)
      exact fun place hplace => hall place (List.mem_cons_of_mem _ hplace)

/-- A function in a block that stands for the length of an array is a local one. -/
example :
    (outline? "fn f(a: [u8; \x7b fn G() \x7b\x7d 3 \x7d]) \x7b\x7d").map
        (fun outlines => (declarations (fun _ => false) outlines).map fun declaration =>
          (declaration.kind, declaration.identifier.text)) =
      some [(.function, "f"), (.localFunction, "G")] := by
  decide +kernel

end NamingLint.Source
