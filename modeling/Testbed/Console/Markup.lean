import Testbed.Console.Emoji
import Testbed.Console.Style

/-!
Text with tags in square brackets, which style what they enclose and are not printed.

A tag starts with a lower-case letter, a hash sign, a slash or an at sign. A backslash before it
makes it plain text. A closing tag ends the last open tag of its name, or without a name the last
one; one that ends nothing is a fault. A tag may have a value, which is part of the style it names.
The value of a tag with an at sign is a handler, with what it is called with in parentheses:
parameters other than none at all are not read, and taken for a fault.
-/

namespace Testbed.Console

namespace Markup

inductive Piece where
  | text (chars : List Char)
  | tag (position : Nat) (chars : List Char)
  deriving Repr, DecidableEq

/-- The text after the last tag, latest character first, and a tag that has begun after it. -/
structure Scan where
  index : Nat
  plain : List Char
  begun : Option (List Char)
  pieces : List Piece

/-- Characters that a tag may start with. -/
def startsTag (c : Char) : Bool := c.isLower || c == '#' || c == '/' || c == '@'

/-- Text up to here, if there is any. -/
def textPiece (plain : List Char) : List Piece :=
  if plain.isEmpty then [] else [.text plain.reverse]

/-- A tag that was begun is plain text after all. -/
def Scan.abandon (s : Scan) : Scan :=
  match s.begun with
  | none => s
  | some tag => { s with plain := tag ++ '[' :: s.plain, begun := none }

/-- Ends a tag. Of the backslashes before it two stand for one, and an odd one makes it text. -/
def Scan.finish (s : Scan) (tag : List Char) : Scan :=
  let slashes := (s.plain.takeWhile (· == '\\')).length
  let start := s.index - tag.length - 1 - slashes
  let pairs := slashes / 2
  let escape := if pairs = 0 then [] else [Piece.text (List.replicate pairs '\\')]
  let piece :=
    if slashes % 2 = 1 then Piece.text ('[' :: tag.reverse ++ [']'])
    else .tag (start + pairs * 2) tag.reverse
  { s with
    plain := []
    begun := none
    pieces := s.pieces ++ textPiece (s.plain.drop slashes) ++ escape ++ [piece] }

def Scan.step (s : Scan) (c : Char) : Scan :=
  let s :=
    match s.begun with
    | none => if c == '[' then { s with begun := some [] } else { s with plain := c :: s.plain }
    | some tag =>
      if c == '[' then { s.abandon with begun := some [] }
      else if c == ']' && !tag.isEmpty then s.finish tag
      else if tag.isEmpty && !startsTag c then
        { s.abandon with plain := c :: s.abandon.plain }
      else { s with begun := some (c :: tag) }
  { s with index := s.index + 1 }

def scan (markup : List Char) : List Piece :=
  let s := (markup.foldl Scan.step ⟨0, [], none, []⟩).abandon
  s.pieces ++ textPiece s.plain

/-- A backslash before an opening bracket is left out. -/
def unescape : List Char → List Char
  | '\\' :: '[' :: rest => '[' :: unescape rest
  | c :: rest => c :: unescape rest
  | [] => []

/-- A tag that is open, by the canonical form of its name. -/
structure Tag where
  name : String
  value : Option (List Char)

/-- The style that a tag names. -/
def Tag.style (t : Tag) : List Char :=
  match t.value with
  | none => t.name.toList
  | some value => t.name.toList ++ ' ' :: value

/-- What stands before the first equals sign, and what stands after it. -/
def nameAndValue (chars : List Char) : List Char × Option (List Char) :=
  match chars.dropWhile (· != '=') with
  | [] => (chars, none)
  | _ :: value => (chars.takeWhile (· != '='), some value)

/-- The value of a tag with an at sign is the name of a handler, which is called without
parameters. -/
def handler (value : List Char) : Except Misprint Unit :=
  let text := Text.trim Text.isBlank value
  let rest := text.dropWhile fun c => c.isAlphanum || c == '_' || c == '.'
  if rest = [] ∨ rest = ['(', ')'] then .ok ()
  else
    let parameters := if rest.head? = some '(' && rest.getLast? = some ')' then rest else text
    .error (.noParameters (String.ofList parameters) (String.ofList value))

/-- What a tag that is closed comes to: the style of its text, if it is no handler. -/
def Tag.close (t : Tag) : Except Misprint (List Tag) :=
  if t.name.toList.head? = some '@' then do
    handler (t.value.getD [])
    return []
  else return [t]

/-- Removes the latest of the open tags with a name. -/
def close (name : String) : List Tag → Option (Tag × List Tag)
  | [] => none
  | open_ :: rest =>
    if open_.name = name then some (open_, rest)
    else (close name rest).map fun (tag, rest) => (tag, open_ :: rest)

/-- What is to be shown: the text and the tags that style it. -/
structure Styled where
  text : List Char
  tags : List Tag

/-- The text of pieces and the tags in it, given the tags that are open, latest first. -/
def plainText : List Tag → List Piece → Except Misprint Styled
  | opened, [] => .ok ⟨[], opened⟩
  | opened, .text chars :: rest => do
    let shown ← plainText opened rest
    return { shown with text := Emoji.replace (unescape chars) ++ shown.text }
  | opened, .tag position chars :: rest => do
    let (name, value) := nameAndValue chars
    match name with
    | '/' :: name =>
      if name.all Text.isBlank then
        match opened with
        | [] => .error (.nothingOpen position)
        | tag :: opened =>
          let closed ← tag.close
          let shown ← plainText opened rest
          return { shown with tags := closed ++ shown.tags }
      else
        match close (← Style.canonical name) opened with
        | none => .error (.unmatched (String.ofList chars) position)
        | some (tag, opened) =>
          let closed ← tag.close
          let shown ← plainText opened rest
          return { shown with tags := closed ++ shown.tags }
    | _ => plainText (⟨← Style.canonical name, value⟩ :: opened) rest

/-- Characters that move the place of printing. -/
def isControl (c : Char) : Bool :=
  c == '\x07' || c == '\x08' || c == '\x0b' || c == '\x0c' || c == '\r'

/-- The text that is printed. The style of each tag is read for it, with the value of the tag, also
where no text stands within the tag. -/
def render (markup : List Char) : Except Misprint (List Char) := do
  let shown ← plainText [] (scan markup)
  shown.tags.forM fun tag => discard (Style.canonical tag.style)
  return shown.text.filter (!isControl ·)

end Markup

end Testbed.Console
