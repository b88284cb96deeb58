/-!
# Binary floating-point numbers

Positive numbers with 53 binary digits, in exact arithmetic. Rounding takes the nearest such number;
halfway between two it takes the one with an even mantissa.
-/

namespace NamingLint

/-- The whole number nearest to a ratio; halfway between two, the even one. -/
def roundedRatio (numerator denominator : Nat) : Nat :=
  let whole := numerator / denominator
  let rest := numerator % denominator
  if 2 * rest < denominator then whole
  else if denominator < 2 * rest then whole + 1
  else whole + whole % 2

/-- A mantissa times a power of two. -/
structure Binary64 where
  mantissa : Nat
  exponent : Int
  deriving DecidableEq, Repr, Inhabited

namespace Binary64

/-- How many binary digits a mantissa has. -/
def precision : Nat := 53

/-- The exponent of the largest power of two that is not above a ratio. -/
def leadingExponent (numerator denominator : Nat) : Int :=
  let estimate : Int := numerator.log2 - denominator.log2
  if denominator <<< estimate.toNat ≤ numerator <<< (-estimate).toNat then estimate
  else estimate - 1

/-- The number nearest to a ratio. -/
def ofRatio (numerator denominator : Nat) : Binary64 :=
  if numerator = 0 then ⟨0, 0⟩
  else
    let exponent := leadingExponent numerator denominator - (precision - 1 : Nat)
    ⟨roundedRatio (numerator <<< (-exponent).toNat) (denominator <<< exponent.toNat), exponent⟩

/-- The quotient by a whole number. -/
def divide (number : Binary64) (divisor : Nat) : Binary64 :=
  ofRatio (number.mantissa <<< number.exponent.toNat) (divisor <<< (-number.exponent).toNat)

/-- The number in decimal digits with one place behind the point. -/
def render (number : Binary64) : String :=
  let tenths := roundedRatio ((10 * number.mantissa) <<< number.exponent.toNat)
    (1 <<< (-number.exponent).toNat)
  toString (tenths / 10) ++ "." ++ toString (tenths % 10)

end Binary64

end NamingLint
