import Testbed.Text.Printable

/-!
Text between quotes, for messages: apostrophes unless the text holds apostrophes and no double
quote. The quote, the backslash and whatever cannot be shown are escaped.
-/

namespace Testbed.Text

def hexDigit (n : Nat) : Char :=
  if n < 10 then Char.ofNat (0x30 + n) else Char.ofNat (0x61 + n - 10)

/-- The last `width` hexadecimal digits of a number. -/
def hex (width n : Nat) : List Char :=
  match width with
  | 0 => []
  | width + 1 => hex width (n / 16) ++ [hexDigit (n % 16)]

/-- A character by its code point, in the shortest of the three widths. -/
def escapeCode (c : Char) : List Char :=
  let n := c.toNat
  if n ≤ 0xFF then '\\' :: 'x' :: hex 2 n
  else if n ≤ 0xFFFF then '\\' :: 'u' :: hex 4 n
  else '\\' :: 'U' :: hex 8 n

def quoteChar (quote c : Char) : List Char :=
  if c == quote || c == '\\' then ['\\', c]
  else if c == '\t' then ['\\', 't']
  else if c == '\n' then ['\\', 'n']
  else if c == '\r' then ['\\', 'r']
  else if isPrintable c then [c]
  else escapeCode c

/-- The quote used around a text. -/
def quoteFor (text : List Char) : Char :=
  if text.contains '\x27' && !text.contains '\x22' then '\x22' else '\x27'

def quoted (text : String) : String :=
  let quote := quoteFor text.toList
  String.ofList (quote :: text.toList.flatMap (quoteChar quote) ++ [quote])

/-- Bytes between quotes with a leading `b`; bytes beyond ASCII by their code. -/
def quotedBytes (bytes : List UInt8) : String :=
  let text := bytes.map (fun b => Char.ofNat b.toNat)
  let quote := quoteFor text
  let one (c : Char) : List Char :=
    if c == quote || c == '\\' then ['\\', c]
    else if c == '\t' then ['\\', 't']
    else if c == '\n' then ['\\', 'n']
    else if c == '\r' then ['\\', 'r']
    else if 0x20 ≤ c.toNat && c.toNat ≤ 0x7E then [c]
    else '\\' :: 'x' :: hex 2 c.toNat
  String.ofList ('b' :: quote :: text.flatMap one ++ [quote])

end Testbed.Text
