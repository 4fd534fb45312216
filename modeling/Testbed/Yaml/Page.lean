import Testbed.Text.Quoted
import Testbed.Yaml.Spelling

/-!
A page of text being written, with what the next piece depends on: the column, and whether the
line so far ends in a space or holds nothing but indentation.

Words go to a new line when the page is wider than eighty columns there.
-/

namespace Testbed.Yaml

structure Page where
  text : String
  column : Nat
  /-- The text ends in a space, or the line is empty. -/
  spaced : Bool
  /-- The line holds only indentation and marks of nesting. -/
  fresh : Bool
  /-- The text ends in a scalar that only a document mark ends. -/
  openEnded : Bool
  deriving Repr

namespace Page

def empty : Page := ⟨"", 0, true, true, false⟩

/-- The width beyond which lines are folded. -/
def width : Nat := 80

def put (chars : List Char) (p : Page) : Page :=
  { p with text := p.text ++ String.ofList chars, column := p.column + chars.length }

def lineBreak (p : Page) : Page :=
  { p with text := p.text.push '\n', column := 0, spaced := true, fresh := true }

/-- Goes to a column of a line that holds nothing else, a new one if necessary. -/
def newLine (indent : Nat) (p : Page) : Page :=
  let p :=
    if !p.fresh || indent < p.column || (p.column == indent && !p.spaced) then p.lineBreak else p
  if p.column < indent then
    { p.put (List.replicate (indent - p.column) ' ') with spaced := true }
  else p

/-- A mark, after a space if it has to stand apart. A mark of nesting keeps the line fresh. -/
def mark (chars : List Char) (apart nesting spaced : Bool) (p : Page) : Page :=
  { p.put (if p.spaced || !apart then chars else ' ' :: chars) with
    spaced := spaced, fresh := p.fresh && nesting, openEnded := false }

/-- Goes on in the middle of a scalar. -/
def within (p : Page) : Page := { p with spaced := false, fresh := false }

/-! ### Scalars -/

/-- A space that stands alone between two words may be replaced by a line break. -/
def foldsHere (split : Bool) (before : Option Char) (rest : List Char) (p : Page) : Bool :=
  split && width < p.column && before.any (· != ' ') && rest.head?.any (· != ' ')

/-- Plain words, folded. -/
def plainWords (indent : Nat) (split : Bool) : Option Char → List Char → Page → Page
  | _, [], p => p
  | before, c :: rest, p =>
    let p :=
      if c == ' ' && foldsHere split before rest p then (p.newLine indent).within
      else p.put [c]
    plainWords indent split (some c) rest p

def plain (indent : Nat) (split root : Bool) (text : List Char) (p : Page) : Page :=
  let p := if root then { p with openEnded := true } else p
  if text.isEmpty then p
  else
    let p := if p.spaced then p else p.put [' ']
    plainWords indent split none text p.within

/-- Text between apostrophes: an apostrophe is doubled, a break is an empty line. -/
def singleWords (indent : Nat) (split : Bool) : Option Char → List Char → Page → Page
  | _, [], p => p
  | before, c :: rest, p =>
    let p :=
      if c == ' ' then
        if foldsHere split before rest p then p.newLine indent else p.put [c]
      else if c == '\n' then
        let p := if before == some '\n' then p else p.lineBreak
        let p := p.lineBreak
        if rest.head? == some '\n' then p else p.newLine indent
      else if c == '\x27' then p.put ['\x27', '\x27']
      else p.put [c]
    singleWords indent split (some c) rest p

def single (indent : Nat) (split : Bool) (text : List Char) (p : Page) : Page :=
  (singleWords indent split none text (p.mark ['\x27'] true false false)).mark ['\x27'] false false
    false

def upperHex (width n : Nat) : List Char := (Text.hex width n).map Char.toUpper

/-- The escape of a character between double quotes, if it needs one. -/
def escape? (c : Char) : Option (List Char) :=
  let n := c.toNat
  if c == '\x22' then some ['\\', '\x22']
  else if c == '\\' then some ['\\', '\\']
  else if 0x20 ≤ n && n ≤ 0x7E then none
  else if n == 0 then some ['\\', '0']
  else if n == 7 then some ['\\', 'a']
  else if n == 8 then some ['\\', 'b']
  else if n == 9 then some ['\\', 't']
  else if n == 0xA then some ['\\', 'n']
  else if n == 0xB then some ['\\', 'v']
  else if n == 0xC then some ['\\', 'f']
  else if n == 0xD then some ['\\', 'r']
  else if n == 0x1B then some ['\\', 'e']
  else if n == 0x85 then some ['\\', 'N']
  else if n == 0xA0 then some ['\\', '_']
  else if n == 0x2028 then some ['\\', 'L']
  else if n == 0x2029 then some ['\\', 'P']
  else if n ≤ 0xFF then some ('\\' :: 'x' :: upperHex 2 n)
  else if n ≤ 0xFFFF then some ('\\' :: 'u' :: upperHex 4 n)
  else some ('\\' :: 'U' :: upperHex 8 n)

/-- Breaks the line inside double quotes; a space that follows is escaped. -/
def breakDouble (indent : Nat) (next : Option Char) (p : Page) : Page :=
  let p := ((p.put ['\\']).newLine indent).within
  if next == some ' ' then p.put ['\\'] else p

/-- Text between double quotes. Lines are broken before spaces and around escapes; neither the
first nor the last character is a place for it. -/
def doubleWords (indent : Nat) (split : Bool) : (first escaped : Bool) → List Char → Page → Page
  | _, _, [], p => p
  | first, escaped, c :: rest, p =>
    let inner := split && !first && !rest.isEmpty
    match escape? c with
    | some e =>
      let p := p.put e
      let p := if inner && width < p.column - 1 then p.breakDouble indent rest.head? else p
      doubleWords indent split false true rest p
    | none =>
      let p :=
        if inner && (c == ' ' || escaped) && width < p.column then p.breakDouble indent (some c)
        else p
      doubleWords indent split false false rest (p.put [c])

def double (indent : Nat) (split : Bool) (text : List Char) (p : Page) : Page :=
  (doubleWords indent split true false text (p.mark ['\x22'] true false false)).mark ['\x22'] false
    false false

/-- Lines of a block, each ended by a break. -/
def blockLines (indent : Nat) : List Char → Page → Page
  | [], p => p
  | '\n' :: [], p => p.lineBreak
  | '\n' :: rest, p => blockLines indent rest (p.lineBreak.newLine indent)
  | c :: rest, p => blockLines indent rest (p.put [c])

def block (indent : Nat) (text : List Char) (p : Page) : Page :=
  blockLines indent text (((p.mark ['|'] true false false).lineBreak).newLine indent)

end Page

end Testbed.Yaml
