/-!
# Points in time
-/

namespace NamingLint

/-- How many nanoseconds a second has. -/
def nanosecondsPerSecond : Nat := 1000000000

/-- A point in time: seconds since the start of 1970 in UTC, leap seconds not counted, and the
nanoseconds within that second. A leap second is the last second of a minute with 10⁹ nanoseconds
more. -/
structure Instant where
  seconds : Int
  nanoseconds : Nat
  bounded : nanoseconds < nanosecondsPerSecond ∨
    nanoseconds < 2 * nanosecondsPerSecond ∧ seconds % 60 = 59
  deriving DecidableEq, Repr

instance : Inhabited Instant := ⟨⟨0, 0, .inl (by decide)⟩⟩

/-- The point in time a number of nanoseconds after the start of 1970. -/
def Instant.ofNanoseconds (count : Int) : Instant where
  seconds := count / nanosecondsPerSecond
  nanoseconds := (count % nanosecondsPerSecond).toNat
  bounded := .inl (by unfold nanosecondsPerSecond; omega)

end NamingLint
