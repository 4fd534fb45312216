/-!
Doubles taken apart and put together.

A finite double is a sign and `significand * 2 ^ exponent`, exactly. In the other direction a
fraction of natural numbers goes to the nearest double, and a tie to the one whose significand
is even.
-/

namespace Testbed.Decimal

/-- The number `significand * 2 ^ exponent`, with a sign that zero keeps. -/
structure Binary where
  negative : Bool
  significand : Nat
  exponent : Int
  deriving Repr, DecidableEq

inductive Double where
  | nan
  | infinite (negative : Bool)
  | finite (value : Binary)
  deriving Repr, DecidableEq

namespace Double

/-- A double's fields: one sign bit, eleven of exponent, fifty-two of fraction. -/
def ofBits (bits : Nat) : Double :=
  let negative := bits / Nat.pow 2 63 % 2 == 1
  let field : Nat := bits / Nat.pow 2 52 % Nat.pow 2 11
  let fraction : Nat := bits % Nat.pow 2 52
  if field = Nat.pow 2 11 - 1 then
    if fraction = 0 then .infinite negative else .nan
  else if field = 0 then .finite ⟨negative, fraction, -1074⟩
  else .finite ⟨negative, Nat.pow 2 52 + fraction, (field : Int) - 1075⟩

def ofFloat (x : Float) : Double :=
  ofBits x.toBits.toNat

end Double

namespace Binary

/-- The magnitude as a numerator over a positive denominator. -/
def fraction (b : Binary) : Nat × Nat :=
  if 0 ≤ b.exponent then (b.significand * Nat.pow 2 b.exponent.toNat, 1)
  else (b.significand, Nat.pow 2 (-b.exponent).toNat)

/-- The value when it is a whole number. -/
def whole? (b : Binary) : Option Int :=
  let (num, den) := b.fraction
  if num % den = 0 then
    some (if b.negative then -((num / den : Nat) : Int) else ((num / den : Nat) : Int))
  else none

end Binary

/-- The whole number nearest to `num / den`; a half goes to the even neighbour. -/
def roundHalfEven (num den : Nat) : Nat :=
  let q := num / den
  let r := num % den
  if 2 * r < den then q
  else if den < 2 * r then q + 1
  else if q % 2 = 0 then q else q + 1

/-- The exponent of the leading binary digit of a positive fraction. -/
def leadingBit (num den : Nat) : Int :=
  let guess : Int := (num.log2 : Int) - (den.log2 : Int)
  let fits :=
    if 0 ≤ guess then den * Nat.pow 2 guess.toNat ≤ num else den ≤ num * Nat.pow 2 (-guess).toNat
  if fits then guess else guess - 1

/-- The bits, without the sign, of the double nearest to `num / den`. -/
def nearestBits (num den : Nat) : Nat :=
  if num = 0 then 0
  else
    let step : Int := max (leadingBit num den - 52) (-1074)
    let significand :=
      if 0 ≤ step then roundHalfEven num (den * Nat.pow 2 step.toNat)
      else roundHalfEven (num * Nat.pow 2 (-step).toNat) den
    let bits := (step + 1074).toNat * Nat.pow 2 52 + significand
    min bits ((Nat.pow 2 11 - 1) * Nat.pow 2 52)

/-- The double nearest to `num / den`, infinite beyond the largest. -/
def nearest (negative : Bool) (num den : Nat) : Float :=
  Float.ofBits (UInt64.ofNat (nearestBits num den + if negative then Nat.pow 2 63 else 0))

/-- The double nearest to a whole number; none when it is beyond the largest. -/
def ofInt? (n : Int) : Option Float :=
  let x := nearest (decide (n < 0)) n.natAbs 1
  if x.isInf then none else some x

def infinity : Float := Float.ofBits 0x7FF0000000000000
def notANumber : Float := Float.ofBits 0x7FF8000000000000

end Testbed.Decimal
