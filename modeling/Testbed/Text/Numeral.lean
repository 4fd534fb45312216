import Testbed.Text.Blank
import Testbed.Decimal.Binary

/-!
Numerals: whole numbers in a base and decimal fractions, read from text.

Two spellings are read. The liberal one takes the decimal digits of every script, single
underscores between digits and blanks around; the plain one takes the digits of ASCII alone.
-/

namespace Testbed.Text

/-- The zeros of the decimal digits of the character database; nine digits follow each. -/
def digitZeros : List Nat :=
  [0x30, 0x660, 0x6F0, 0x7C0, 0x966, 0x9E6, 0xA66, 0xAE6, 0xB66, 0xBE6, 0xC66, 0xCE6, 0xD66,
   0xDE6, 0xE50, 0xED0, 0xF20, 0x1040, 0x1090, 0x17E0, 0x1810, 0x1946, 0x19D0, 0x1A80, 0x1A90,
   0x1B50, 0x1BB0, 0x1C40, 0x1C50, 0xA620, 0xA8D0, 0xA900, 0xA9D0, 0xA9F0, 0xAA50, 0xABF0,
   0xFF10, 0x104A0, 0x10D30, 0x11066, 0x110F0, 0x11136, 0x111D0, 0x112F0, 0x11450, 0x114D0,
   0x11650, 0x116C0, 0x11730, 0x118E0, 0x11950, 0x11C50, 0x11D50, 0x11DA0, 0x16A60, 0x16AC0,
   0x16B50, 0x1D7CE, 0x1D7D8, 0x1D7E2, 0x1D7EC, 0x1D7F6, 0x1E140, 0x1E2F0, 0x1E950, 0x1FBF0]

/-- The blanks of ASCII that may stand around a number; the separators below the space may not. -/
def padsNumber (c : Char) : Bool :=
  c == ' ' || (0x09 ≤ c.toNat && c.toNat ≤ 0x0D)

/-- Digits of any script become those of ASCII, blanks become spaces. -/
def plainDigit (c : Char) : Char :=
  if c.toNat < 128 then (if padsNumber c then ' ' else c)
  else if isBlank c then ' '
  else
    match digitZeros.find? (fun first => first ≤ c.toNat && c.toNat ≤ first + 9) with
    | some first => Char.ofNat (0x30 + (c.toNat - first))
    | none => c

/-- The value of a digit or letter as a digit of a base up to thirty-six. -/
def digitValue? (base : Nat) (c : Char) : Option Nat :=
  let value :=
    if '0' ≤ c && c ≤ '9' then some (c.toNat - 0x30)
    else if 'a' ≤ c && c ≤ 'z' then some (c.toNat - 0x61 + 10)
    else if 'A' ≤ c && c ≤ 'Z' then some (c.toNat - 0x41 + 10)
    else none
  value.filter (· < base)

/-- The value of a non-empty run of digits. -/
def digits? (base : Nat) : List Char → Option Nat
  | [] => none
  | text => text.foldl (fun n? c => do return (← n?) * base + (← digitValue? base c)) (some 0)

/-- Removes underscores that stand singly between two characters; others are refused. -/
def joinGroups? : List Char → Option (List Char)
  | [] => some []
  | ['_'] => none
  | '_' :: _ => none
  | [c] => some [c]
  | c :: '_' :: d :: rest =>
    if d = '_' then none else (joinGroups? (d :: rest)).map (c :: ·)
  | c :: d :: rest => (joinGroups? (d :: rest)).map (c :: ·)

/-- The sign and what follows it. -/
def splitSign : List Char → Bool × List Char
  | '-' :: rest => (true, rest)
  | '+' :: rest => (false, rest)
  | text => (false, text)

/-- The letter that marks a base after a leading zero. -/
def baseMark (base : Nat) (c : Char) : Bool :=
  (base == 16 && (c == 'x' || c == 'X')) || (base == 8 && (c == 'o' || c == 'O'))
    || (base == 2 && (c == 'b' || c == 'B'))

/-- A base mark, if there is one, and one underscore after it are skipped. -/
def skipBaseMark (base : Nat) : List Char → List Char
  | '0' :: mark :: rest =>
    if baseMark base mark then (match rest with | '_' :: rest => rest | _ => rest)
    else '0' :: mark :: rest
  | text => text

/-- Decimal numerals longer than this are refused. -/
def longestNumeral : Nat := 4300

/-- A whole number in the liberal spelling. -/
def whole? (base : Nat) (text : List Char) : Option Int := do
  let (negative, body) := splitSign (trim (· == ' ') (text.map plainDigit))
  let body ← joinGroups? (skipBaseMark base body)
  let n ← digits? base body
  if base = 10 ∧ longestNumeral < body.length then none
  else return if negative then -(n : Int) else n

/-- A decimal number `digits * 10 ^ exponent`, correctly rounded. -/
def scaled (negative : Bool) (digits : Nat) (exponent : Int) : Float :=
  let size : Int := (toString digits).length
  if digits = 0 then Decimal.nearest negative 0 1
  else if 310 < size + exponent then Decimal.nearest negative (Nat.pow 10 400) 1
  else if size + exponent < -330 then Decimal.nearest negative 0 1
  else if 0 ≤ exponent then Decimal.nearest negative (digits * Nat.pow 10 exponent.toNat) 1
  else Decimal.nearest negative digits (Nat.pow 10 (-exponent).toNat)

private def lower (text : List Char) : List Char := text.map Char.toLower

/-- Digits, an optional point and an optional exponent; at least one digit before the exponent. -/
def fraction? (negative : Bool) (text : List Char) : Option Float := do
  let before := text.takeWhile Char.isDigit
  let rest := text.dropWhile Char.isDigit
  let (after, rest) :=
    match rest with
    | '.' :: rest => (rest.takeWhile Char.isDigit, rest.dropWhile Char.isDigit)
    | _ => ([], rest)
  let n ← digits? 10 (before ++ after)
  let exponent ←
    match rest with
    | [] => some (0 : Int)
    | mark :: rest =>
      if mark == 'e' || mark == 'E' then do
        let (down, digits) := splitSign rest
        let e ← digits? 10 digits
        some (if down then -(e : Int) else e)
      else none
  return scaled negative n (exponent - (after.length : Int))

/-- A number in the plain spelling: a fraction, or an infinity or not-a-number by name. -/
def number? (text : List Char) : Option Float :=
  let (negative, body) := splitSign text
  if lower body = "inf".toList ∨ lower body = "infinity".toList then
    some (if negative then -Decimal.infinity else Decimal.infinity)
  else if lower body = "nan".toList then some Decimal.notANumber
  else fraction? negative body

/-- An underscore stands between two digits. -/
def groupsDigits : Option Char → List Char → Bool
  | _, [] => true
  | before, '_' :: rest =>
    (before.any Char.isDigit) && (rest.head?.any Char.isDigit) && groupsDigits (some '_') rest
  | _, c :: rest => groupsDigits (some c) rest

/-- A number in the liberal spelling. -/
def liberalNumber? (text : List Char) : Option Float :=
  let text := trim (· == ' ') (text.map plainDigit)
  if groupsDigits none text then number? (text.filter (· ≠ '_')) else none

end Testbed.Text
