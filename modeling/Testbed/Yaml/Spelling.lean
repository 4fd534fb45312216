import Testbed.Decimal.Written
import Testbed.Text.Base64
import Testbed.Yaml.Cursor
import Testbed.Yaml.Schema
import Testbed.Yaml.Value

/-!
How a scalar is spelled.

Text stands plain when it reads back as the same text that way, else between apostrophes, else
between double quotes with escapes. The other scalars are plain, but for bytes, which are lines
in base sixty-four.
-/

namespace Testbed.Yaml

/-- The text of a scalar before quoting, with its kind. -/
structure Scalar.Content where
  tag : Tag
  text : List Char
  deriving Repr

inductive Scalar.Style where
  | plain | single | double | lines
  deriving Repr, DecidableEq

namespace Spelling

open Scalar (Content Style)

def isTextBreak (c : Char) : Bool :=
  c == '\n' || c == '\u0085' || c == '\u2028' || c == '\u2029'

/-- Anything but a line feed and the printable characters of ASCII is escaped. -/
def isSpecial (c : Char) : Bool :=
  c != '\n' && !(0x20 ≤ c.toNat && c.toNat ≤ 0x7E)

/-- Whether two neighbours are of the given classes. -/
def adjacent (p q : Char → Bool) : List Char → Bool
  | a :: b :: rest => (p a && q b) || adjacent p q (b :: rest)
  | _ => false

def isSpaceOrBreak (c : Char) : Bool := c == ' ' || isTextBreak c

/-- Indicators within a text: a colon before the end of a word, a hash sign after one. -/
def hasInnerIndicator : List Char → Bool
  | a :: b :: rest =>
    (b == ':' && wordEnd rest.head?) || (b == '#' && endsWord a) || hasInnerIndicator (b :: rest)
  | _ => false

/-- Whether the first characters would be taken for an indicator. -/
def startsWithIndicator : List Char → Bool
  | [] => false
  | c :: rest =>
    "#,[]\x7b\x7d&*!|>\x27\x22%@\x60".toList.contains c
      || ((c == '?' || c == ':' || c == '-') && wordEnd rest.head?)
      || (c :: rest).take 3 == ['-', '-', '-'] || (c :: rest).take 3 == ['.', '.', '.']

/-- Whether a text keeps its line breaks and blanks between apostrophes. -/
def allowsSingle (text : List Char) : Bool :=
  !(text.any isSpecial || adjacent isTextBreak (· == ' ') text
    || adjacent (· == ' ') isTextBreak text)

def isMultiline (text : List Char) : Bool := text.any isTextBreak

def allowsPlain (text : List Char) : Bool :=
  allowsSingle text && !isMultiline text
    && !(text.head?.any isSpaceOrBreak || text.getLast?.any isSpaceOrBreak)
    && !(startsWithIndicator text || hasInnerIndicator text)

/-- The style of a text. A key on one line holds no breaks and is not empty. -/
def styleOf (simpleKey : Bool) (content : Content) : Style :=
  let text := content.text
  match content.tag with
  | .text =>
    if Schema.resolve (String.ofList text) = .text && allowsPlain text
        && !(simpleKey && (text.isEmpty || isMultiline text)) then .plain
    else if allowsSingle text && !(simpleKey && isMultiline text) then .single
    else .double
  | .binary => if text.isEmpty then .double else .lines
  | _ => .plain

/-- A fraction as a document writes it: an exponent has a point before it. -/
def fractionText (x : Float) : String :=
  match Decimal.Double.ofFloat x with
  | .nan => ".nan"
  | .infinite negative => if negative then "-.inf" else ".inf"
  | .finite _ =>
    let text := (Decimal.exactText x).toList
    if text.contains 'e' && !text.contains '.' then
      String.ofList (text.takeWhile (· != 'e') ++ '.' :: '0' :: text.dropWhile (· != 'e'))
    else String.ofList text

/-- The content of a value that is a scalar. -/
def content? : Value → Option Content
  | .null => some ⟨.null, "null".toList⟩
  | .bool b => some ⟨.bool, (if b then "true" else "false").toList⟩
  | .int n => some ⟨.int, (toString n).toList⟩
  | .float x => some ⟨.float, (fractionText x).toList⟩
  | .text s => some ⟨.text, s.toList⟩
  | .bytes b => some ⟨.binary, Text.Base64.lines (b.length + 1) b⟩
  | .date _ d => some ⟨.timestamp, d.text.toList⟩
  | .moment _ m => some ⟨.timestamp, (m.text " ").toList⟩
  | _ => none

/-- The standard tag of a kind of scalar, in short form. -/
def shortTag : Tag → String
  | .null => "!!null"
  | .bool => "!!bool"
  | .int => "!!int"
  | .float => "!!float"
  | .binary => "!!binary"
  | .timestamp => "!!timestamp"
  | _ => "!!str"

end Spelling

end Testbed.Yaml
