import NamingLint.Source.Parse

/-!
# The recursive productions

The grammar is recursive: types hold expressions, expressions hold blocks, blocks hold items. A
production therefore takes a `Knot`, the productions that it may use inside what it reads itself.
Tying the knot a number of times gives a grammar for all files nested no deeper than that.
-/

namespace NamingLint.Source.Grammar

/-- What a type looks like from outside. -/
structure TypeShape where
  form : SelfType
  /-- The type is a single bound without `dyn`, which may go on behind parentheses. -/
  loneBound : Bool := false
  deriving Inhabited

/-- What an expression looks like from outside. -/
inductive ExprShape where
  /-- An expression that ends a statement or a match arm by its closing brace. -/
  | blockLike
  | range
  | comparison
  | macroCall (delimiter : Delimiter)
  | plain
  deriving DecidableEq, Inhabited

/-- What a pattern looks like from outside. -/
inductive PatternShape where
  /-- The pattern `..`. -/
  | rest
  /-- A range that lacks one of its ends. -/
  | openRange
  | plain
  deriving DecidableEq, Inhabited

/-- What a bound of a type looks like from outside. -/
inductive BoundShape where
  | lifetime
  | capture
  /-- A trait, or an uninterpreted bound that counts as one. -/
  | trait
  deriving DecidableEq, Inhabited

/-- The productions that others use inside what they read. -/
structure Knot where
  /-- A type; the argument tells whether bounds may be joined by `+`. -/
  type : Bool → Parse TypeShape
  /-- A bound; the arguments tell whether it may list captures and whether it may be `const`. -/
  bound : Bool → Bool → Parse BoundShape
  /-- An expression; the argument tells whether it may be a struct literal. -/
  expression : Bool → Parse ExprShape
  /-- An operand with the operators in front of and behind it. -/
  unary : Bool → Parse ExprShape
  /-- The operators of at least a precedence that follow an operand, with their other operands. -/
  operators : ExprShape → Bool → Nat → Parse ExprShape
  /-- An expression that ends where a statement can end. -/
  statementExpression : Parse ExprShape
  /-- A pattern without alternatives. -/
  pattern : Parse PatternShape
  /-- The statements of a block, up to its end. -/
  statements : Parse Unit
  /-- An item with its attributes. -/
  item : Parse Unit
  /-- A tree of imports. The argument tells whether it may start with a separator, the answer
  whether it does. -/
  useTree : Bool → Parse Bool

/-- The productions that read nothing. -/
def Knot.none : Knot where
  type _ := failure
  bound _ _ := failure
  expression _ := failure
  unary _ := failure
  operators _ _ _ := failure
  statementExpression := failure
  pattern := failure
  statements := failure
  item := failure
  useTree _ := failure

end NamingLint.Source.Grammar
