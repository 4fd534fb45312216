import Testbed.Decimal.Binary

/-!
The decimal text of a double.

Two choices of digits: the fewest that read back as the same double, and a fixed number of
leading digits, rounded. A style then says which magnitudes are written without an exponent.
-/

namespace Testbed.Decimal

/-- The number `0.d₁d₂… * 10 ^ (point)` by its digits, first digit not zero. -/
structure Digits where
  digits : List Char
  /-- How many digits stand before the decimal point. -/
  point : Int
  deriving Repr, DecidableEq

/-- Which powers of ten of the leading digit are written positionally, and whether a whole
number keeps a zero after the point. -/
structure Style where
  least : Int
  most : Int
  keepZero : Bool
  deriving Repr, DecidableEq

namespace Style

/-- Positional from a ten-thousandth up to sixteen digits, and always visibly a fraction. -/
def exact : Style := ⟨-4, 15, true⟩

/-- Six leading digits, positional below a million. -/
def general : Style := ⟨-4, 5, false⟩

/-- An exponent has a sign and at least two digits. -/
def exponent (e : Int) : List Char :=
  let digits := (toString e.natAbs).toList
  (if e < 0 then '-' else '+') :: (if digits.length < 2 then '0' :: digits else digits)

def write (style : Style) (d : Digits) : List Char :=
  let power := d.point - 1
  let count := d.digits.length
  if style.least ≤ power ∧ power ≤ style.most then
    if d.point ≤ 0 then
      '0' :: '.' :: (List.replicate (-d.point).toNat '0' ++ d.digits)
    else if (count : Int) ≤ d.point then
      d.digits ++ List.replicate (d.point.toNat - count) '0'
        ++ (if style.keepZero then ['.', '0'] else [])
    else d.digits.take d.point.toNat ++ '.' :: d.digits.drop d.point.toNat
  else
    match d.digits with
    | [] => []
    | first :: [] => first :: 'e' :: exponent power
    | first :: rest => first :: '.' :: (rest ++ 'e' :: exponent power)

/-- The text of zero. -/
def zero (style : Style) : List Char :=
  if style.keepZero then ['0', '.', '0'] else ['0']

end Style

/-- The power of ten of the leading digit of `num / den`, a positive number no smaller than the
least double. -/
def leadingPower (num den : Nat) : Int :=
  ((toString (num * Nat.pow 10 340 / den)).length : Int) - 341

/-- `num / den` in units of `10 ^ power`, as a fraction. -/
def inUnits (num den : Nat) (power : Int) : Nat × Nat :=
  if 0 ≤ power then (num, den * Nat.pow 10 power.toNat) else (num * Nat.pow 10 (-power).toNat, den)

def dropTrailingZeros (digits : List Char) : List Char :=
  (digits.reverse.dropWhile (· == '0')).reverse

/-- The `count` leading digits of `num / den`, rounded to nearest, without trailing zeros. -/
def leadingDigits (count : Nat) (num den : Nat) : Digits :=
  let power := leadingPower num den
  let (n, d) := inUnits num den (power - (count : Int) + 1)
  let scaled := roundHalfEven n d
  if scaled = Nat.pow 10 count then ⟨['1'], power + 2⟩
  else ⟨dropTrailingZeros (toString scaled).toList, power + 1⟩

/-- The interval of numbers that round to a double, as numerators over a common denominator;
the ends belong to it when the significand is even. -/
structure Interval where
  low : Nat
  value : Nat
  high : Nat
  den : Nat
  closed : Bool

def Binary.interval (b : Binary) : Interval :=
  let (num, den) := b.fraction
  let unit := if 0 ≤ b.exponent then Nat.pow 2 b.exponent.toNat else 1
  let narrow := b.significand = Nat.pow 2 52 ∧ b.exponent ≠ -1074
  { low := 4 * num - (if narrow then unit else 2 * unit)
    value := 4 * num
    high := 4 * num + 2 * unit
    den := 4 * den
    closed := b.significand % 2 == 0 }

/-- Whether `n` units of `10 ^ power` lie in the interval. -/
def Interval.holds (i : Interval) (n : Nat) (power : Int) : Bool :=
  let (up, down) :=
    if 0 ≤ power then (Nat.pow 10 power.toNat, 1) else (1, Nat.pow 10 (-power).toNat)
  let point := n * up * i.den
  let low := i.low * down
  let high := i.high * down
  if i.closed then decide (low ≤ point ∧ point ≤ high) else decide (low < point ∧ point < high)

/-- The nearest of the two neighbours of the value with `count` digits that reads back. -/
def Interval.candidate (i : Interval) (power : Int) (count : Nat) : Option Nat :=
  let unit := power - (count : Int) + 1
  let (n, d) := inUnits i.value i.den unit
  let below := n / d
  let near := roundHalfEven n d
  let far := if near = below then below + 1 else below
  if i.holds near unit then some near else if i.holds far unit then some far else none

/-- Tries one digit more until the result reads back. -/
def Interval.search (i : Interval) (power : Int) : Nat → Nat → Digits
  | 0, count => leadingDigits count i.value i.den
  | fuel + 1, count =>
    match i.candidate power count with
    | some n =>
      let text := (toString n).toList
      ⟨dropTrailingZeros text, power - (count : Int) + 1 + (text.length : Int)⟩
    | none => i.search power fuel (count + 1)

/-- The fewest digits that read back as the same double, and of those the nearest. -/
def Binary.shortest (b : Binary) : Digits :=
  let i := b.interval
  i.search (leadingPower i.value i.den) 17 1

private def signed (negative : Bool) (text : List Char) : String :=
  String.ofList (if negative then '-' :: text else text)

/-- The shortest exact text: `1.0`, `1e-05`, `1e+16`, `inf`, `nan`. -/
def exactText (x : Float) : String :=
  match Double.ofFloat x with
  | .nan => "nan"
  | .infinite negative => signed negative ['i', 'n', 'f']
  | .finite b =>
    signed b.negative (if b.significand = 0 then Style.exact.zero else Style.exact.write b.shortest)

/-- A fraction to six leading digits. -/
def generalFraction (negative : Bool) (num den : Nat) : String :=
  signed negative
    (if num = 0 then Style.general.zero else Style.general.write (leadingDigits 6 num den))

/-- Six leading digits: `2`, `0.25`, `1e-05`, `1e+06`, `inf`, `nan`. -/
def generalText (x : Float) : String :=
  match Double.ofFloat x with
  | .nan => "nan"
  | .infinite negative => signed negative ['i', 'n', 'f']
  | .finite b => generalFraction b.negative b.fraction.1 b.fraction.2

end Testbed.Decimal
