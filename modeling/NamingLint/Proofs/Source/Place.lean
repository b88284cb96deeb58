import Mathlib.Data.List.Infix
import NamingLint.Source.Collector

/-!
# Places in a parsed file

A node of a parsed file is an outline or a member of a scope, and its place is the list of indices
that leads down to it. Read `scopesAt` first: it says which scopes enclose a place, from the places
above it alone and without a walk over the file. `Node.declarations_eq` puts the walk into one
equation for all nodes, and `forest_induction` is the induction over a file that goes with it.
-/

namespace NamingLint.Source

open NamingLint.Naming (Declaration)

/-! ## Nodes -/

/-- A node of a parsed file: an outline, or a member of a scope whose functions have a role. -/
inductive Node where
  | outline (outline : Outline)
  | member (role : FunctionRole) (member : Member)

namespace Node

/-- The nodes directly inside a node, in the order of a walk. -/
def children : Node → List Node
  | outline (.function _ inside) | outline (.module _ inside) | outline (.block inside) =>
    inside.map outline
  | outline (.implementation _ _ members) => members.map (member .implemented)
  | outline (.traitDefinition _ members) => members.map (member .required)
  | outline (.foreignBlock members) => members.map (member .foreign)
  | member _ (.function _ inside) | member _ (.other inside) => inside.map outline

/-- The scope that a node opens around what is inside it. -/
def scope? : Node → Option Scope
  | outline (.module name _) => some (.module name)
  | outline (.implementation selfType ofTrait _) => some (.implementation selfType.name ofTrait)
  | outline (.traitDefinition name _) => some (.traitDefinition name)
  | outline (.foreignBlock _) => some .foreignBlock
  | outline (.block _) => some .block
  | outline (.function _ _) | member _ _ => none

/-- The function that a node is, with its role. -/
def function? : Node → Option (FunctionRole × FunctionHead)
  | outline (.function head _) => some (.item, head)
  | member role (.function head _) => some (role, head)
  | _ => none

/-- The declarations of a node in the scopes that enclose it, the innermost one first. -/
def declarations (nativeName : String → Bool) (scopes : List Scope) : Node → List Declaration
  | outline found => found.declarations nativeName scopes
  | member role found => found.declarations nativeName role scopes

end Node

/-- The declarations of several nodes, in their order. -/
def declarationsIn (nativeName : String → Bool) (scopes : List Scope) (forest : List Node) :
    List Declaration :=
  forest.flatMap (Node.declarations nativeName scopes)

/-! ## The walk, node by node -/

section

variable {nativeName : String → Bool} {scopes : List Scope}

/-- A walk over outlines goes through them as nodes. -/
theorem outline_declarations_of (outlines : List Outline) :
    Outline.declarationsOf nativeName scopes outlines =
      declarationsIn nativeName scopes (outlines.map .outline) := by
  induction outlines with
  | nil => simp [Outline.declarationsOf, declarationsIn]
  | cons first rest ih =>
      rw [Outline.declarationsOf, ih]
      simp [declarationsIn, Node.declarations]

/-- A walk over the members of a scope goes through them as nodes. -/
theorem member_declarations_of (role : FunctionRole) (members : List Member) :
    Member.declarationsOf nativeName role scopes members =
      declarationsIn nativeName scopes (members.map (.member role)) := by
  induction members with
  | nil => simp [Member.declarationsOf, declarationsIn]
  | cons first rest ih =>
      rw [Member.declarationsOf, ih]
      simp [declarationsIn, Node.declarations]

/-- The declarations of a node are its own, if it is a function, and those of the nodes inside it,
which stand in the scope that it opens. -/
theorem Node.declarations_eq (node : Node) :
    node.declarations nativeName scopes =
      (node.function?.map fun function => function.2.declare nativeName function.1 scopes).toList ++
        declarationsIn nativeName (node.scope?.toList ++ scopes) node.children := by
  cases node with
  | outline found =>
      cases found <;>
        simp [Node.declarations, Outline.declarations, Node.function?, Node.scope?, Node.children,
          outline_declarations_of, member_declarations_of]
  | member role found =>
      cases found <;>
        simp [Node.declarations, Member.declarations, Node.function?, Node.scope?, Node.children,
          outline_declarations_of]

end

/-! ## Induction over a file -/

section

variable {motive : List Node → Prop}

mutual

/-- The induction over a file for the nodes of outlines. -/
theorem outlines_induction (nil : motive [])
    (cons : ∀ node rest, motive node.children → motive rest → motive (node :: rest)) :
    ∀ outlines : List Outline, motive (outlines.map .outline)
  | [] => nil
  | first :: rest =>
      cons _ _ (outline_induction nil cons first) (outlines_induction nil cons rest)

/-- The induction over a file for what is inside an outline. -/
theorem outline_induction (nil : motive [])
    (cons : ∀ node rest, motive node.children → motive rest → motive (node :: rest)) :
    ∀ found : Outline, motive (Node.outline found).children
  | .function _ inside => outlines_induction nil cons inside
  | .module _ inside => outlines_induction nil cons inside
  | .block inside => outlines_induction nil cons inside
  | .implementation _ _ members => members_induction nil cons .implemented members
  | .traitDefinition _ members => members_induction nil cons .required members
  | .foreignBlock members => members_induction nil cons .foreign members

/-- The induction over a file for the nodes of members. -/
theorem members_induction (nil : motive [])
    (cons : ∀ node rest, motive node.children → motive rest → motive (node :: rest))
    (role : FunctionRole) : ∀ members : List Member, motive (members.map (.member role))
  | [] => nil
  | first :: rest =>
      cons _ _ (member_induction nil cons role first) (members_induction nil cons role rest)

/-- The induction over a file for what is inside a member. -/
theorem member_induction (nil : motive [])
    (cons : ∀ node rest, motive node.children → motive rest → motive (node :: rest))
    (role : FunctionRole) : ∀ found : Member, motive (Node.member role found).children
  | .function _ inside => outlines_induction nil cons inside
  | .other inside => outlines_induction nil cons inside

end

/-- What holds of no nodes, and of some nodes whenever it holds of what is inside the first of them
and of all the others, holds of every list of nodes. -/
theorem forest_induction (nil : motive [])
    (cons : ∀ node rest, motive node.children → motive rest → motive (node :: rest))
    (forest : List Node) : motive forest := by
  induction forest with
  | nil => exact nil
  | cons node rest ih =>
      cases node with
      | outline found => exact cons _ _ (outline_induction nil cons found) ih
      | member role found => exact cons _ _ (member_induction nil cons role found) ih

end

/-! ## Places -/

/-- A place in a list of nodes: the index of a node in it, and the place of a further node inside
that one if the list goes on. Places are in lexicographic order, so that a node comes before all
that is inside it, and all of that before the node behind it. -/
abbrev Place := List Nat

/-- The node at a place. -/
def nodeAt : List Node → Place → Option Node
  | _, [] => none
  | forest, [index] => forest[index]?
  | forest, index :: inner => forest[index]?.bind fun node => nodeAt node.children inner

/-- The scopes that enclose a place, the innermost one first: those that the nodes above it open. -/
def scopesAt (forest : List Node) (place : Place) : List Scope :=
  (place.inits.dropLast.filterMap fun above => (nodeAt forest above).bind Node.scope?).reverse

variable {forest : List Node} {node : Node} {rest : List Node} {index : Nat} {inner place : Place}

/-- What is at a place inside a node is at the rest of the place among the nodes inside that one. -/
theorem node_at_inner (hinner : inner ≠ []) :
    nodeAt forest (index :: inner) =
      forest[index]?.bind fun node => nodeAt node.children inner := by
  cases inner with
  | nil => exact absurd rfl hinner
  | cons next inner => rfl

@[simp] theorem node_at_head : nodeAt (node :: rest) [0] = some node := rfl

@[simp] theorem node_at_head_inner (hinner : inner ≠ []) :
    nodeAt (node :: rest) (0 :: inner) = nodeAt node.children inner := by
  simp [node_at_inner hinner]

@[simp] theorem node_at_tail :
    nodeAt (node :: rest) ((index + 1) :: inner) = nodeAt rest (index :: inner) := by
  cases inner with
  | nil => simp [nodeAt]
  | cons next inner => simp [nodeAt]

/-- The places above one inside a node: the empty one, that of the node, and those inside it. -/
theorem inits_drop_last_cons (index : Nat) (inner : Place) :
    (index :: inner).inits.dropLast = [] :: inner.inits.dropLast.map (index :: ·) := by
  have hinits : inner.inits ≠ [] := by cases inner <;> simp
  rw [List.inits_cons, List.dropLast_cons_of_ne_nil (by simpa using hinits), List.map_dropLast]

@[simp] theorem scopes_at_top : scopesAt forest [index] = [] := by
  simp [scopesAt, nodeAt]

/-- The scopes around a place inside a node are those inside the node and the one that it opens. -/
theorem scopes_at_inner (hinner : inner ≠ []) (hnode : forest[index]? = some node) :
    scopesAt forest (index :: inner) = scopesAt node.children inner ++ node.scope?.toList := by
  obtain ⟨next, inner, rfl⟩ := List.exists_cons_of_ne_nil hinner
  have hfirst : (nodeAt forest [index]).bind Node.scope? = node.scope? := by
    simp [nodeAt, hnode]
  have hrest (above : Place) :
      (nodeAt forest (index :: next :: above)).bind Node.scope? =
        (nodeAt node.children (next :: above)).bind Node.scope? := by
    simp [nodeAt, hnode]
  have hempty (forest : List Node) : (nodeAt forest []).bind Node.scope? = none := rfl
  simp only [scopesAt, inits_drop_last_cons, List.map_cons, List.map_map, List.filterMap_cons,
    List.filterMap_map, Function.comp_def, hempty, hfirst, hrest]
  cases node.scope? <;> simp

@[simp] theorem scopes_at_tail :
    scopesAt (node :: rest) ((index + 1) :: inner) = scopesAt rest (index :: inner) := by
  have hempty (forest : List Node) : (nodeAt forest []).bind Node.scope? = none := rfl
  simp only [scopesAt, inits_drop_last_cons, List.filterMap_cons, List.filterMap_map,
    Function.comp_def, hempty, node_at_tail]

/-- The places up to one are those above it and the place itself. -/
theorem inits_eq_concat (place : Place) : place.inits = place.inits.dropLast ++ [place] := by
  induction place with
  | nil => rfl
  | cons index inner ih =>
      rw [inits_drop_last_cons, List.inits_cons, ih]
      simp

/-- What is directly inside a node stands in the scope that the node opens and in those around
it. -/
theorem scopes_at_concat :
    scopesAt forest (place ++ [index]) =
      ((nodeAt forest place).bind Node.scope?).toList ++ scopesAt forest place := by
  have habove : (place ++ [index]).inits.dropLast = place.inits.dropLast ++ [place] := by
    simp [List.inits_append, ← inits_eq_concat]
  simp only [scopesAt, habove, List.filterMap_append, List.reverse_append]
  cases h : (nodeAt forest place).bind Node.scope? <;> simp [h]

/-- The places above one are its proper initial parts. -/
theorem mem_inits_drop_last {outer : Place} :
    outer ∈ place.inits.dropLast ↔ outer <+: place ∧ outer ≠ place := by
  induction place generalizing outer with
  | nil => simp
  | cons index inner ih =>
      rw [inits_drop_last_cons, List.mem_cons, List.mem_map]
      cases outer with
      | nil => simp
      | cons first outer =>
          rw [List.cons_prefix_cons, Ne, List.cons.injEq]
          constructor
          · rintro (hnil | ⟨above, habove, heq⟩)
            · cases hnil
            · obtain ⟨rfl, rfl⟩ := List.cons.inj heq
              obtain ⟨hbegins, hproper⟩ := ih.1 habove
              exact ⟨⟨rfl, hbegins⟩, fun h => hproper h.2⟩
          · rintro ⟨⟨rfl, hbegins⟩, hproper⟩
            exact .inr ⟨outer, ih.2 ⟨hbegins, fun h => hproper ⟨rfl, h⟩⟩, rfl⟩

/-- The scopes around a place are those that the nodes above it open. -/
theorem mem_scopes_at {scope : Scope} :
    scope ∈ scopesAt forest place ↔ ∃ outer, outer <+: place ∧ outer ≠ place ∧
      (nodeAt forest outer).bind Node.scope? = some scope := by
  simp only [scopesAt, List.mem_reverse, List.mem_filterMap, mem_inits_drop_last, and_assoc]

/-- A node at a place is one of the list, or directly inside the node at the place above. -/
theorem node_at_concat (hplace : place ≠ []) :
    nodeAt forest (place ++ [index]) =
      (nodeAt forest place).bind fun node => node.children[index]? := by
  induction place generalizing forest with
  | nil => exact absurd rfl hplace
  | cons first place ih =>
      cases place with
      | nil => simp [nodeAt]
      | cons next place =>
          simp only [List.cons_append] at ih ⊢
          rw [node_at_inner (by simp), node_at_inner (by simp), Option.bind_assoc]
          exact Option.bind_congr fun node _ => ih (by simp)

end NamingLint.Source
