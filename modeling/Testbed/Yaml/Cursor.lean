/-!
A place in a text: what is still to be read, and how far it is from the start in characters and
in lines and columns.
-/

namespace Testbed.Yaml

/-- Why a text is not a document. -/
inductive Problem where
  | malformed (why : String)
  /-- An escape names a number that is no character. -/
  | noSuchCharacter (code : Nat)
  | notANumber (text : String)
  /-- Nothing stands where the digits of a number should. -/
  | emptyNumber
  | numberTooLarge
  | notATruthValue (text : String)
  | notATimestamp (text : String)
  /-- A date that the calendar does not have, or a time that the day does not. -/
  | noSuchMoment (text : String)
  /-- Any other exception, by its name. -/
  | raised (exception : String)
  deriving Repr, DecidableEq

def isBreak (c : Char) : Bool :=
  c == '\n' || c == '\r' || c == '\u0085' || c == '\u2028' || c == '\u2029'

/-- A character that ends a word: a space, a tab or a line break. -/
def endsWord (c : Char) : Bool :=
  c == ' ' || c == '\t' || isBreak c

/-- The end of the text ends a word too. -/
def wordEnd : Option Char → Bool
  | none => true
  | some c => endsWord c

def lineEnd : Option Char → Bool
  | none => true
  | some c => isBreak c

structure Cursor where
  rest : List Char
  index : Nat
  line : Nat
  column : Nat
  deriving Repr

namespace Cursor

def start (text : List Char) : Cursor := ⟨text, 0, 0, 0⟩

/-- One character further. A carriage return before a line feed is part of that break, and a
byte order mark has no width. -/
def next (c : Cursor) : Cursor :=
  match c.rest with
  | [] => c
  | ch :: rest =>
    if isBreak ch && !(ch == '\r' && rest.head? == some '\n') then
      ⟨rest, c.index + 1, c.line + 1, 0⟩
    else ⟨rest, c.index + 1, c.line, if ch == '\ufeff' then c.column else c.column + 1⟩

def advance : Nat → Cursor → Cursor
  | 0, c => c
  | n + 1, c => advance n c.next

def peek (c : Cursor) (n : Nat) : Option Char := c.rest[n]?

/-- The longest run of characters of a class, and the place after it. -/
def span (p : Char → Bool) (c : Cursor) : List Char × Cursor :=
  let taken := c.rest.takeWhile p
  (taken, c.advance taken.length)

def skip (p : Char → Bool) (c : Cursor) : Cursor := (c.span p).2

/-- A line break as it counts in a text: a line feed, unless it is one of the two separators. -/
def lineBreak? (c : Cursor) : Option (Char × Cursor) :=
  match c.rest with
  | '\r' :: '\n' :: _ => some ('\n', c.advance 2)
  | ch :: _ =>
    if ch == '\u2028' || ch == '\u2029' then some (ch, c.next)
    else if isBreak ch then some ('\n', c.next)
    else none
  | [] => none

/-- Three characters that separate documents, followed by the end of a word. -/
def atMark (mark : Char) (c : Cursor) : Bool :=
  c.rest.take 3 == [mark, mark, mark] && wordEnd (c.peek 3)

def atDocumentMark (c : Cursor) : Bool := c.atMark '-' || c.atMark '.'

/-- The rest of a line that may hold only spaces and a comment, with its break. -/
def commentLine (c : Cursor) : Except Problem Cursor :=
  let c := c.skip (· == ' ')
  let c := if c.peek 0 == some '#' then c.skip (!isBreak ·) else c
  if lineEnd (c.peek 0) then
    .ok (match c.lineBreak? with | some (_, c) => c | none => c)
  else .error (.malformed "expected a comment or a line break")

end Cursor

end Testbed.Yaml
