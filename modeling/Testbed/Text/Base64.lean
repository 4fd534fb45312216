/-!
Bytes as text in base sixty-four.

Reading passes over every character that is no digit, stops at the padding that completes a
group, and refuses a text that ends inside a group. Writing breaks lines after 76 characters.
-/

namespace Testbed.Text.Base64

def alphabet : List Char :=
  "ABCDEFGHIJKLMNOPQRSTUVWXYZabcdefghijklmnopqrstuvwxyz0123456789+/".toList

def value? (c : Char) : Option Nat := alphabet.idxOf? c

/-- What is carried between two digits: how many digits of the group are read, how many paddings
follow them, and the bits that wait for more. -/
structure Group where
  count : Nat
  padding : Nat
  carry : Nat

/-- A digit adds six bits; from the second digit of a group on, eight are ready. -/
def digit (g : Group) (v : Nat) : Option UInt8 × Group :=
  match g.count with
  | 0 => (none, ⟨1, 0, v⟩)
  | 1 => (some (UInt8.ofNat (g.carry * 4 + v / 16)), ⟨2, 0, v % 16⟩)
  | 2 => (some (UInt8.ofNat (g.carry * 16 + v / 4)), ⟨3, 0, v % 4⟩)
  | _ => (some (UInt8.ofNat (g.carry * 64 + v)), ⟨0, 0, 0⟩)

def decodeFrom (g : Group) : List Char → Option (List UInt8)
  | [] => if g.count = 0 then some [] else none
  | c :: rest =>
    if c == '=' then
      if 2 ≤ g.count && 4 ≤ g.count + g.padding + 1 then some []
      else decodeFrom (if 2 ≤ g.count then { g with padding := g.padding + 1 } else g) rest
    else
      match value? c with
      | none => decodeFrom g rest
      | some v =>
        let (byte, g) := digit g v
        (decodeFrom g rest).map (byte.toList ++ ·)

def decode? (text : List Char) : Option (List UInt8) := decodeFrom ⟨0, 0, 0⟩ text

def letter (n : Nat) : Char := (alphabet[n % 64]?).getD 'A'

def encode : List UInt8 → List Char
  | [] => []
  | [a] =>
    let n := a.toNat * 16
    [letter (n / 64), letter n, '=', '=']
  | [a, b] =>
    let n := (a.toNat * 256 + b.toNat) * 4
    [letter (n / 4096), letter (n / 64), letter n, '=']
  | a :: b :: c :: rest =>
    let n := (a.toNat * 256 + b.toNat) * 256 + c.toNat
    letter (n / 262144) :: letter (n / 4096) :: letter (n / 64) :: letter n :: encode rest

/-- Lines of fifty-seven bytes, each with its break. -/
def lines : Nat → List UInt8 → List Char
  | 0, _ => []
  | fuel + 1, bytes =>
    if bytes.isEmpty then []
    else encode (bytes.take 57) ++ '\n' :: lines fuel (bytes.drop 57)

end Testbed.Text.Base64
