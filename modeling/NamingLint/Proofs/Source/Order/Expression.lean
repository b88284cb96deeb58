import NamingLint.Proofs.Source.Order.Path
import NamingLint.Source.Grammar.Statement

/-!
# Order in patterns, expressions and statements

A loop and a `match` meet the attributes of their block before their header, which makes no
difference as long as no functions stand in attributes.
-/

namespace NamingLint.Source.Grammar

open Parse

-- Instances are found along whole productions.
set_option synthInstance.maxSize 100000

section

variable {forest : List TokenTree} {relation : List Location → List Location → Prop}
  [Additive relation] {knot : Knot} [Knot.InOrder forest knot] [Undisturbed forest knot]

/-! ## Patterns -/

instance : Keeps forest relation fieldMember := by
  unfold fieldMember
  refine .bind inferInstance fun tokens => ?_
  split
  · infer_instance
  · refine .bind inferInstance fun token => ?_
    split
    · split <;> infer_instance
    · infer_instance

instance : Parse.InOrder forest (patternAlternatives knot) := by
  unfold patternAlternatives; infer_instance

instance : Parse.InOrder forest (constBlock knot) := by unfold constBlock; infer_instance

instance : Parse.InOrder forest (rangeBound knot) := by unfold rangeBound; infer_instance

instance : Parse.InOrder forest (rangeRest knot) := by unfold rangeRest; infer_instance

instance : Parse.InOrder forest (rangeWithoutStart knot) := by
  unfold rangeWithoutStart; infer_instance

instance : Parse.InOrder forest (fieldPattern knot) := by
  unfold fieldPattern
  refine .from_start fun start => ?_
  -- The end of a boxed name is what `verbatimSince` does, written out.
  have hsince : KeepsSince forest List.Sublist start (do
      let after := (← get).rest
      set { start with rest := after }
      print (start.rest.take (start.rest.length - after.length))) :=
    inferInstanceAs (KeepsSince forest List.Sublist start (verbatimSince start))
  infer_instance

instance : Parse.InOrder forest (structPattern knot) := by unfold structPattern; infer_instance

instance : Parse.InOrder forest (pathPattern knot) := by unfold pathPattern; infer_instance

instance : Parse.InOrder forest (parenthesizedPattern knot) := by
  unfold parenthesizedPattern; infer_instance

instance : Parse.InOrder forest (slicePattern knot) := by unfold slicePattern; infer_instance

instance : Parse.InOrder forest (bindingPattern knot) := by unfold bindingPattern; infer_instance

instance : Parse.InOrder forest (pattern knot) := by unfold pattern; infer_instance

/-! ## Operators -/

instance {allowStruct : Bool} {precedence : Nat} :
    Parse.InOrder forest (rightOperand knot allowStruct precedence) := by
  have hgoOn (shape : ExprShape) (count : Nat) :
      Parse.InOrder forest (rightOperand.goOn knot allowStruct precedence shape count) := by
    induction count generalizing shape with
    | zero => unfold rightOperand.goOn; infer_instance
    | succ count ih => unfold rightOperand.goOn; infer_instance
  unfold rightOperand; infer_instance

instance {allowStruct : Bool} : Parse.InOrder forest (rangeTail knot allowStruct) := by
  unfold rangeTail; infer_instance

instance {shape : ExprShape} {allowStruct : Bool} {least : Nat} :
    Parse.InOrder forest (operatorStep knot shape allowStruct least) := by
  unfold operatorStep
  split
  · infer_instance
  · refine .bind inferInstance fun tokens => ?_
    split <;> infer_instance

instance {shape : ExprShape} {allowStruct : Bool} {least : Nat} :
    Parse.InOrder forest (operators knot shape allowStruct least) := by
  have hgoOn (shape : ExprShape) (count : Nat) :
      Parse.InOrder forest (operators.goOn knot allowStruct least shape count) := by
    induction count generalizing shape with
    | zero => unfold operators.goOn; infer_instance
    | succ count ih =>
        unfold operators.goOn
        refine .bind inferInstance fun found => ?_
        cases found <;> infer_instance
  unfold operators; infer_instance

instance {allowStruct : Bool} : Parse.InOrder forest (expression knot allowStruct) := by
  unfold expression; infer_instance

/-! ## Control flow -/

instance : Parse.InOrder forest (condition knot) := by unfold condition; infer_instance

instance : Parse.InOrder forest (ifExpression knot) := by unfold ifExpression; infer_instance

instance {header : Parse Unit} [Parse.InOrder forest header] :
    Parse.InOrder forest (headedBlock knot header) := by
  refine Defers.in_order (.then_hold fun _ before => .bind defers_block_parts ?_)
  rintro ⟨attributes, body⟩ _ ⟨hnone, rfl⟩
  exact .then_meet_none hnone (.then_meet (.meet_all (by simp [Outline.names])))

instance : Parse.InOrder forest (loopExpression knot) := by unfold loopExpression; infer_instance

instance : Parse.InOrder forest (labeledExpression knot) := by
  unfold labeledExpression; infer_instance

instance : Parse.InOrder forest (matchArm knot) := by unfold matchArm; infer_instance

instance : Parse.InOrder forest (matchExpression knot) := by
  refine Defers.in_order (.then_hold fun _ subject => .bind defers_attributed ?_)
  rintro ⟨attributes, arms⟩ _ ⟨hnone, rfl⟩
  exact .then_meet_none hnone (.then_meet (.meet_all (.refl _)))

/-! ## Closures and atoms -/

instance : Parse.InOrder forest (closureParameter knot) := by
  unfold closureParameter; infer_instance

instance {allowStruct : Bool} : Parse.InOrder forest (closureExpression knot allowStruct) := by
  unfold closureExpression; infer_instance

instance : Parse.InOrder forest (optValue knot) := by unfold optValue; infer_instance

instance {allowStruct : Bool} : Parse.InOrder forest (breakExpression knot allowStruct) := by
  unfold breakExpression; infer_instance

instance : Parse.InOrder forest (structFields knot) := by unfold structFields; infer_instance

instance {allowStruct : Bool} : Parse.InOrder forest (pathExpression knot allowStruct) := by
  unfold pathExpression
  refine .bind inferInstance fun found => .bind inferInstance fun delimiter => ?_
  cases delimiter <;> infer_instance

instance : Parse.InOrder forest (expressionList knot) := by unfold expressionList; infer_instance

instance : Parse.InOrder forest (arrayExpression knot) := by unfold arrayExpression; infer_instance

instance : Keeps forest relation builtinExpression := by unfold builtinExpression; infer_instance

instance {allowStruct : Bool} : Parse.InOrder forest (wordExpression knot allowStruct) := by
  unfold wordExpression; infer_instance

instance {allowStruct : Bool} : Parse.InOrder forest (atom knot allowStruct) := by
  unfold atom; infer_instance

/-! ## Suffixes -/

instance : Parse.InOrder forest (memberAccess.memberName knot) := by
  unfold memberAccess.memberName; infer_instance

instance : Parse.InOrder forest (memberAccess knot) := by
  unfold memberAccess
  refine .bind inferInstance fun _ => .bind inferInstance fun tokens => ?_
  split
  · refine .bind inferInstance fun _ => ?_
    dsimp only
    split <;> infer_instance
  · infer_instance

instance {shape : ExprShape} : Parse.InOrder forest (suffixes knot shape) := by
  have hgoOn (shape : ExprShape) (count : Nat) :
      Parse.InOrder forest (suffixes.goOn knot shape count) := by
    induction count generalizing shape with
    | zero => unfold suffixes.goOn; infer_instance
    | succ count ih => unfold suffixes.goOn; infer_instance
  unfold suffixes; infer_instance

instance {allowStruct : Bool} : Parse.InOrder forest (unary knot allowStruct) := by
  unfold unary; infer_instance

instance : Parse.InOrder forest (statementExpression knot) := by
  unfold statementExpression; infer_instance

/-! ## Statements -/

instance : Keeps forest relation behindPlainPath :=
  .of_unchanged fun hrun => by
    simp only [behindPlainPath, StateT.run] at hrun
    split at hrun <;> cases hrun <;> exact ⟨rfl, rfl⟩

instance : Parse.InOrder forest (letStatement knot) := by unfold letStatement; infer_instance

instance : Parse.InOrder forest (statement knot) := by
  unfold statement
  refine .from_start fun start => ?_
  infer_instance

instance : Parse.InOrder forest (statements knot) := by unfold statements; infer_instance

end

end NamingLint.Source.Grammar
