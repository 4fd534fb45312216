import Testbed.Decimal.Written

/-!
Lengths and points of time, in seconds.

Waiting is described for any kind of number that can stand for seconds: a run takes doubles, and
the same definitions over rational numbers are exact.
-/

namespace Testbed

class Seconds (τ : Type) extends Zero τ, Add τ, Sub τ, Mul τ, LE τ, LT τ where
  [decidableLe : DecidableLE τ]
  [decidableLt : DecidableLT τ]
  /-- A whole number of seconds. -/
  ofNat : Nat → τ
  /-- Whether a whole number is a length of time at all. -/
  admits : Nat → Bool
  /-- More than the whole seconds of a length of time, when it has an end. -/
  bound : τ → Nat
  /-- Six leading digits. -/
  text : τ → String

namespace Seconds

attribute [reducible, instance] Seconds.decidableLe Seconds.decidableLt

variable {τ : Type} [Seconds τ]

/-- The first of two lengths, unless the second is shorter. -/
def least (a b : τ) : τ := if b < a then b else a

/-- The first of two points of time, unless the second is later. -/
def latest (a b : τ) : τ := if a < b then b else a

end Seconds

/-- The whole seconds of a double, rounded up, and one more; time without end has very many. -/
def floatBound (x : Float) : Nat :=
  match Decimal.Double.ofFloat x with
  | .finite b => if b.negative then 1 else b.fraction.1 / b.fraction.2 + 2
  | _ => Nat.pow 2 64

instance : Seconds Float where
  zero := 0
  ofNat n := Decimal.nearest false n 1
  admits n := (Decimal.ofInt? n).isSome
  bound := floatBound
  text := Decimal.generalText

instance : Seconds Rat where
  zero := 0
  ofNat n := n
  admits _ := true
  bound x := x.ceil.toNat + 1
  text x := Decimal.generalFraction (x.num < 0) x.num.natAbs x.den

end Testbed
