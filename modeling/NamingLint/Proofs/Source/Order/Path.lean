import NamingLint.Proofs.Source.Order.Holding
import NamingLint.Source.Grammar.Type

/-!
# Order in paths, bounds and types
-/

namespace NamingLint.Source.Grammar

open Parse

-- Instances are found along whole productions.
set_option synthInstance.maxSize 100000

/-! ## The recursive productions -/

/-- All productions meet functions in the order of their names. -/
class Knot.InOrder (forest : List TokenTree) (knot : Knot) : Prop where
  type (allowPlus : Bool) : Parse.InOrder forest (knot.type allowPlus)
  bound (allowCapture allowConst : Bool) : Parse.InOrder forest (knot.bound allowCapture allowConst)
  expression (allowStruct : Bool) : Parse.InOrder forest (knot.expression allowStruct)
  unary (allowStruct : Bool) : Parse.InOrder forest (knot.unary allowStruct)
  operators (shape : ExprShape) (allowStruct : Bool) (least : Nat) :
    Parse.InOrder forest (knot.operators shape allowStruct least)
  statementExpression : Parse.InOrder forest knot.statementExpression
  pattern : Parse.InOrder forest knot.pattern
  statements : Parse.InOrder forest knot.statements
  item : Parse.InOrder forest knot.item
  useTree (allowRoot : Bool) : Parse.InOrder forest (knot.useTree allowRoot)

attribute [instance] Knot.InOrder.type Knot.InOrder.bound Knot.InOrder.expression
  Knot.InOrder.unary Knot.InOrder.operators Knot.InOrder.statementExpression Knot.InOrder.pattern
  Knot.InOrder.statements Knot.InOrder.item Knot.InOrder.useTree

/-- A parse meets no function anywhere in a forest. -/
def MeetsNone (forest : List TokenTree) (parse : Parse Unit) : Prop :=
  ∀ ⦃start finish⦄, Inside forest start.rest → parse.run start = some ((), finish) →
    Outline.namesOf finish.met.reverse = Outline.namesOf start.met.reverse

theorem MeetsNone.silent {forest : List TokenTree} {parse : Parse Unit}
    (h : MeetsNone forest parse) (horder : Parse.InOrder forest parse) : Silent forest parse where
  leads hinside hrun := by
    obtain ⟨read, met, hleads, -⟩ := horder.leads hinside hrun
    refine ⟨read, met, hleads, ?_⟩
    have hnames := h hinside hrun
    rw [hleads.met, List.reverse_append, List.reverse_reverse, Outline.names_of_append] at hnames
    exact List.append_right_eq_self.1 hnames

/-- No function stands in an attribute or in a `where` clause, wherever in a forest one can be
read. -/
class Undisturbed (forest : List TokenTree) (knot : Knot) : Prop where
  outer : MeetsNone forest (outerAttributes knot)
  inner : MeetsNone forest (innerAttributes knot)
  conditions : MeetsNone forest (whereClause knot)

section

variable {forest : List TokenTree} {relation : List Location → List Location → Prop}
  [Additive relation] {knot : Knot} [Knot.InOrder forest knot]

/-! ## Attributes and blocks -/

instance : Keeps forest relation plainPath := by unfold plainPath; infer_instance

instance : Parse.InOrder forest (attributeContent knot) := by
  unfold attributeContent; infer_instance

instance : Parse.InOrder forest (outerAttributes knot) := by unfold outerAttributes; infer_instance

instance : Parse.InOrder forest (innerAttributes knot) := by unfold innerAttributes; infer_instance

instance [h : Undisturbed forest knot] : Silent forest (outerAttributes knot) :=
  h.outer.silent inferInstance

instance [h : Undisturbed forest knot] : Silent forest (innerAttributes knot) :=
  h.inner.silent inferInstance

/-- What stands in a group behind inner attributes is left to be met. -/
theorem defers_attributed [Undisturbed forest knot] {before : List Location} {content : Parse Unit}
    [Parse.InOrder forest content] :
    Defers forest before (group .brace do
      let ((), attributes) ← holdingMet (innerAttributes knot)
      let ((), found) ← holdingMet content
      return (attributes, found)) fun parts names =>
        Outline.namesOf parts.1 = [] ∧ names = before ++ Outline.namesOf parts.2 :=
  .group (.then_hold_silent fun _ _ hnone => .then_hold fun _ _ => .pure ⟨hnone, rfl⟩ (.refl _))

theorem defers_block_parts [Undisturbed forest knot] {before : List Location} :
    Defers forest before (blockParts knot) fun parts names =>
      Outline.namesOf parts.1 = [] ∧ names = before ++ Outline.namesOf parts.2 :=
  defers_attributed

instance [Undisturbed forest knot] : Parse.InOrder forest (attributedBlock knot) := by
  refine Defers.in_order (.bind defers_block_parts ?_)
  rintro ⟨attributes, body⟩ _ ⟨hnone, rfl⟩
  exact .then_meet_none hnone (.meet_all (by simp [Outline.names]))

instance : Parse.InOrder forest (plainBlock knot) := by
  refine Defers.in_order (.bind (.group .hold) ?_)
  rintro ⟨⟨⟩, body⟩ _ rfl
  exact .meet_all (by simp [Outline.names])

/-! ## Generic arguments -/

variable [Undisturbed forest knot]

instance : Parse.InOrder forest (constArgument knot) := by unfold constArgument; infer_instance

instance {stop : List TokenTree → Bool} : Parse.InOrder forest (boundsUntil knot stop) := by
  unfold boundsUntil; infer_instance

instance {entry : Parse Bool} [Keeps forest relation entry] :
    Keeps forest relation (listedUntilClose entry) := by
  unfold listedUntilClose; infer_instance

instance : Parse.InOrder forest (genericArgument knot) := by
  unfold genericArgument
  refine .bind inferInstance fun tokens => ?_
  split
  · infer_instance
  · split
    · infer_instance
    · refine .bind inferInstance fun shape => ?_
      split <;> infer_instance

instance : Parse.InOrder forest (angleArguments knot) := by unfold angleArguments; infer_instance

instance {allowPlus : Bool} : Parse.InOrder forest (returnType knot allowPlus) := by
  unfold returnType; infer_instance

instance : Parse.InOrder forest (parenthesizedArguments knot) := by
  unfold parenthesizedArguments; infer_instance

/-! ## Paths -/

instance {inExpression : Bool} : Parse.InOrder forest (pathSegment knot inExpression) := by
  unfold pathSegment
  refine .bind inferInstance fun tokens => ?_
  split
  · refine .bind inferInstance fun token => ?_
    split <;> infer_instance
  · dsimp only
    split
    · refine .bind inferInstance fun token => ?_
      split <;> infer_instance
    · refine .bind inferInstance fun token => ?_
      split <;> infer_instance

instance {inExpression : Bool} : Parse.InOrder forest (pathSegments knot inExpression) := by
  unfold pathSegments; infer_instance

instance {inExpression : Bool} : Parse.InOrder forest (path knot inExpression) := by
  unfold path; infer_instance

instance {inExpression : Bool} : Parse.InOrder forest (qualifiedPath knot inExpression) := by
  unfold qualifiedPath; infer_instance

instance {path : TypePath} : Keeps forest relation (optMacroArguments path) := by
  unfold optMacroArguments; infer_instance

instance : Keeps forest relation macroCall := by unfold macroCall; infer_instance

/-! ## Generic parameters -/

instance {stop : List TokenTree → Bool} : Keeps forest relation (lifetimeBounds stop) := by
  unfold lifetimeBounds; infer_instance

instance : Keeps forest relation lifetimeParameter := by unfold lifetimeParameter; infer_instance

instance : Parse.InOrder forest (typeParameter knot) := by unfold typeParameter; infer_instance

instance : Parse.InOrder forest (constParameter knot) := by unfold constParameter; infer_instance

instance {allowBlank : Bool} : Parse.InOrder forest (genericParameter knot allowBlank) := by
  unfold genericParameter; infer_instance

instance : Parse.InOrder forest (generics knot) := by unfold generics; infer_instance

instance : Parse.InOrder forest (boundLifetimes knot) := by unfold boundLifetimes; infer_instance

instance : Parse.InOrder forest (optBoundLifetimes knot) := by
  unfold optBoundLifetimes; infer_instance

instance : Parse.InOrder forest (wherePredicate knot) := by unfold wherePredicate; infer_instance

instance : Parse.InOrder forest (whereClause knot) := by unfold whereClause; infer_instance

instance : Silent forest (whereClause knot) :=
  Undisturbed.conditions.silent inferInstance

/-! ## Bounds -/

instance : Keeps forest relation captureList := by unfold captureList; infer_instance

instance {allowConst : Bool} : Parse.InOrder forest (traitBound knot allowConst) := by
  unfold traitBound; infer_instance

instance {allowCapture allowConst : Bool} :
    Parse.InOrder forest (bound knot allowCapture allowConst) := by
  unfold bound; infer_instance

instance {allowPlus allowCapture allowConst : Bool} :
    Parse.InOrder forest (bounds knot allowPlus allowCapture allowConst) := by
  unfold bounds; infer_instance

/-! ## Types -/

instance {allowPlus : Bool} : Parse.InOrder forest (objectBounds knot allowPlus) := by
  unfold objectBounds; infer_instance

instance : Parse.InOrder forest (furtherBounds knot) := by unfold furtherBounds; infer_instance

instance : Keeps forest relation abi := by unfold abi; infer_instance

instance {allowSelf : Bool} : Parse.InOrder forest (functionTypeArgument knot allowSelf) := by
  unfold functionTypeArgument; infer_instance

instance : Keeps forest relation functionTypeDots := by unfold functionTypeDots; infer_instance

instance {first : Bool} {count : Nat} :
    Parse.InOrder forest (functionTypeArguments knot first count) := by
  induction count generalizing first with
  | zero => unfold functionTypeArguments; infer_instance
  | succ count ih => unfold functionTypeArguments; infer_instance

instance : Parse.InOrder forest (functionType knot) := by unfold functionType; infer_instance

instance {allowPlus : Bool} : Parse.InOrder forest (parenthesizedType knot allowPlus) := by
  unfold parenthesizedType
  refine .bind inferInstance fun content => ?_
  split <;> infer_instance

instance {bound allowPlus : Bool} : Parse.InOrder forest (pathType knot bound allowPlus) := by
  unfold pathType; infer_instance

instance {allowPlus : Bool} : Parse.InOrder forest (typeForm knot allowPlus) := by
  unfold typeForm; infer_instance

instance {allowPlus : Bool} : Parse.InOrder forest (type knot allowPlus) := by
  unfold type
  refine .bind inferInstance ?_
  rintro ⟨⟨form, loneBound⟩, printed⟩
  cases form <;> infer_instance

end

end NamingLint.Source.Grammar
