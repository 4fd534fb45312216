import Mathlib
import Testbed.Text.Numeral
import Testbed.Yaml.Reading

/-!
The texts of JSON, and what they mean.

A text is given with its layout: the white space between its tokens, the escapes of its strings and
the spelling of its numbers. What it means does not depend on these. Not every layout can be read
as YAML too; those that can are the legible ones.
-/

namespace Testbed.Json

open Yaml (Value)

/-! ### White space -/

def isSpace (c : Char) : Bool := c == ' ' || c == '\t' || c == '\n' || c == '\r'

/-- White space between tokens. -/
abbrev Space := { w : List Char // ∀ c ∈ w, isSpace c = true }

/-! ### Strings -/

/-- The escapes of one letter. -/
inductive Letter where
  | quote | backslash | slash | backspace | formFeed | lineFeed | carriageReturn | tab

namespace Letter

def spelling : Letter → Char
  | quote => '\x22'
  | backslash => '\\'
  | slash => '/'
  | backspace => 'b'
  | formFeed => 'f'
  | lineFeed => 'n'
  | carriageReturn => 'r'
  | tab => 't'

def meaning : Letter → Char
  | quote => '\x22'
  | backslash => '\\'
  | slash => '/'
  | backspace => '\x08'
  | formFeed => '\x0c'
  | lineFeed => '\n'
  | carriageReturn => '\r'
  | tab => '\t'

end Letter

/-- The value of a hexadecimal digit, in either case. -/
def hexDigit? (c : Char) : Option Nat :=
  if '0' ≤ c ∧ c ≤ '9' then some (c.toNat - 0x30)
  else if 'a' ≤ c ∧ c ≤ 'f' then some (c.toNat - 0x61 + 10)
  else if 'A' ≤ c ∧ c ≤ 'F' then some (c.toNat - 0x41 + 10)
  else none

/-- Four hexadecimal digits. -/
structure Code where
  digits : List Char
  four : digits.length = 4
  hex : ∀ c ∈ digits, (hexDigit? c).isSome = true

def Code.value (u : Code) : Nat := u.digits.foldl (fun n c => n * 16 + (hexDigit? c).getD 0) 0

/-- What stands for one character of a string: the character itself, an escape of one letter, its
code, or the codes of a surrogate pair. -/
inductive Piece where
  | char (c : Char) (h : 0x20 ≤ c.toNat ∧ c ≠ '\x22' ∧ c ≠ '\\')
  | letter (l : Letter)
  | code (u : Code) (h : u.value.isValidChar)
  | pair (high low : Code) (hhigh : 0xD800 ≤ high.value ∧ high.value < 0xDC00)
    (hlow : 0xDC00 ≤ low.value ∧ low.value < 0xE000)

namespace Piece

def chars : Piece → List Char
  | char c _ => [c]
  | letter l => ['\\', l.spelling]
  | code u _ => '\\' :: 'u' :: u.digits
  | pair high low _ _ => '\\' :: 'u' :: high.digits ++ '\\' :: 'u' :: low.digits

def meaning : Piece → Char
  | char c _ => c
  | letter l => l.meaning
  | code u _ => Char.ofNat u.value
  | pair high low _ _ =>
    Char.ofNat (0x10000 + (high.value - 0xD800) * 0x400 + (low.value - 0xDC00))

end Piece

/-- The characters of a string between its quotes. -/
def spelled (pieces : List Piece) : List Char := pieces.flatMap Piece.chars

/-- The string that they stand for. -/
def meant (pieces : List Piece) : String := String.ofList (pieces.map Piece.meaning)

/-! ### Numbers -/

/-- A run of digits. -/
structure Digits where
  chars : List Char
  nonempty : chars ≠ []
  digits : ∀ c ∈ chars, c.isDigit = true

def natOf (digits : List Char) : Nat := digits.foldl (fun n c => n * 10 + (c.toNat - 0x30)) 0

structure Exponent where
  capital : Bool
  /-- The sign that is written, if any. -/
  sign : Option Bool
  digits : Digits

namespace Exponent

def chars (e : Exponent) : List Char :=
  (if e.capital then 'E' else 'e') ::
    (match e.sign with | none => [] | some true => ['-'] | some false => ['+']) ++ e.digits.chars

def value (e : Exponent) : Int :=
  if e.sign = some true then -(natOf e.digits.chars : Int) else natOf e.digits.chars

end Exponent

/-- A number; its whole part has no leading zero. -/
structure Number where
  negative : Bool
  whole : Digits
  noPadding : whole.chars.head? = some '0' → whole.chars.length = 1
  fraction : Option Digits
  exponent : Option Exponent

namespace Number

def chars (n : Number) : List Char :=
  (if n.negative then ['-'] else []) ++ n.whole.chars ++
    (match n.fraction with | none => [] | some f => '.' :: f.chars) ++
    (match n.exponent with | none => [] | some e => e.chars)

/-- Its digits, as if there were no point. -/
def digits (n : Number) : List Char :=
  n.whole.chars ++ (match n.fraction with | none => [] | some f => f.chars)

/-- The power of ten that its digits count. -/
def scale (n : Number) : Int :=
  (match n.exponent with | none => 0 | some e => e.value) -
    (match n.fraction with | none => 0 | some f => f.chars.length)

/-- A whole number, or the nearest double when a fraction or an exponent is written. -/
def value (n : Number) : Value :=
  if n.fraction.isNone && n.exponent.isNone then
    .int (if n.negative then -(natOf n.whole.chars : Int) else natOf n.whole.chars)
  else
    let x := Text.scaled false (natOf n.digits) n.scale
    .float (if n.negative then -x else x)

end Number

/-! ### Documents -/

/-- The key of a member, up to its colon. -/
structure Name where
  before : Space
  pieces : List Piece
  after : Space

mutual

inductive Doc where
  | null
  | bool (b : Bool)
  | number (n : Number)
  | string (pieces : List Piece)
  | emptyArray (w : Space)
  | array (items : Items)
  | emptyObject (w : Space)
  | object (members : Members)

/-- The items of an array, each with the white space around it. -/
inductive Items where
  | one (before : Space) (d : Doc) (after : Space)
  | more (before : Space) (d : Doc) (after : Space) (rest : Items)

/-- The members of an object. -/
inductive Members where
  | one (name : Name) (before : Space) (d : Doc) (after : Space)
  | more (name : Name) (before : Space) (d : Doc) (after : Space) (rest : Members)

end

/-- A string between its quotes. -/
def quoted (pieces : List Piece) : List Char := '\x22' :: spelled pieces ++ ['\x22']

def Name.chars (k : Name) : List Char := k.before.1 ++ quoted k.pieces ++ k.after.1

mutual

def Doc.chars : Doc → List Char
  | .null => "null".toList
  | .bool b => if b then "true".toList else "false".toList
  | .number n => n.chars
  | .string pieces => quoted pieces
  | .emptyArray w => '[' :: w.1 ++ [']']
  | .array items => '[' :: items.chars ++ [']']
  | .emptyObject w => '\x7b' :: w.1 ++ ['\x7d']
  | .object members => '\x7b' :: members.chars ++ ['\x7d']

def Items.chars : Items → List Char
  | .one before d after => before.1 ++ d.chars ++ after.1
  | .more before d after rest => before.1 ++ d.chars ++ after.1 ++ ',' :: rest.chars

def Members.chars : Members → List Char
  | .one name before d after => name.chars ++ ':' :: before.1 ++ d.chars ++ after.1
  | .more name before d after rest =>
    name.chars ++ ':' :: before.1 ++ d.chars ++ after.1 ++ ',' :: rest.chars

end

/-- A text that holds one object. -/
structure ObjectText where
  before : Space
  members : Members
  after : Space

namespace ObjectText

def doc (t : ObjectText) : Doc := .object t.members

def chars (t : ObjectText) : List Char := t.before.1 ++ t.doc.chars ++ t.after.1

def text (t : ObjectText) : String := String.ofList t.chars

end ObjectText

/-! ### Meaning -/

mutual

def Doc.value : Doc → Value
  | .null => .null
  | .bool b => .bool b
  | .number n => n.value
  | .string pieces => .text (meant pieces)
  | .emptyArray _ => .list none []
  | .array items => .list none items.values
  | .emptyObject _ => .map none []
  | .object members => .map none members.entries

def Items.values : Items → List Value
  | .one _ d _ => [d.value]
  | .more _ d _ rest => d.value :: rest.values

def Members.entries : Members → List (Value × Value)
  | .one name _ d _ => [(.text (meant name.pieces), d.value)]
  | .more name _ d _ rest => (.text (meant name.pieces), d.value) :: rest.entries

end

def Members.keys : Members → List String
  | .one name _ _ _ => [meant name.pieces]
  | .more name _ _ _ rest => meant name.pieces :: rest.keys

mutual

/-- No object has two members with the same key. -/
def Doc.Distinct : Doc → Prop
  | .array items => items.Distinct
  | .object members => members.keys.Nodup ∧ members.Distinct
  | _ => True

def Items.Distinct : Items → Prop
  | .one _ d _ => d.Distinct
  | .more _ d _ rest => d.Distinct ∧ rest.Distinct

def Members.Distinct : Members → Prop
  | .one _ _ d _ => d.Distinct
  | .more _ _ d _ rest => d.Distinct ∧ rest.Distinct

end

/-! ### Legible layouts -/

/-- White space without tabs. -/
def Untabbed (w : Space) : Prop := '\t' ∉ w.1

/-- The character may stand in a document and does not end a line, and no pair is escaped. -/
def Piece.Legible : Piece → Prop
  | char c _ => Yaml.isAllowed c = true ∧ Yaml.isBreak c = false
  | pair _ _ _ _ => False
  | _ => True

/-- A whole number is not too long, and an exponent has its sign and a point before it. -/
structure Number.Legible (n : Number) : Prop where
  whole : n.fraction = none → n.exponent = none → n.whole.chars.length ≤ Text.longestNumeral
  exponent : ∀ e ∈ n.exponent, n.fraction.isSome = true ∧ e.sign.isSome = true

/-- The colon stands on the line of the key, not too far from where it begins. -/
structure Name.Legible (k : Name) : Prop where
  before : Untabbed k.before
  pieces : ∀ p ∈ k.pieces, p.Legible
  after : ∀ c ∈ k.after.1, c = ' '
  short : (quoted k.pieces).length + k.after.1.length ≤ 1024

mutual

/-- The document can be read as YAML. -/
def Doc.Legible : Doc → Prop
  | .number n => n.Legible
  | .string pieces => ∀ p ∈ pieces, p.Legible
  | .emptyArray w => Untabbed w
  | .array items => items.Legible
  | .emptyObject w => Untabbed w
  | .object members => members.Legible
  | _ => True

def Items.Legible : Items → Prop
  | .one before d after => Untabbed before ∧ d.Legible ∧ Untabbed after
  | .more before d after rest => (Untabbed before ∧ d.Legible ∧ Untabbed after) ∧ rest.Legible

def Members.Legible : Members → Prop
  | .one name before d after => name.Legible ∧ Untabbed before ∧ d.Legible ∧ Untabbed after
  | .more name before d after rest =>
    (name.Legible ∧ Untabbed before ∧ d.Legible ∧ Untabbed after) ∧ rest.Legible

end

/-- The text can be read as YAML. -/
structure ObjectText.Legible (t : ObjectText) : Prop where
  before : Untabbed t.before
  doc : t.doc.Legible
  after : Untabbed t.after

end Testbed.Json
