import Testbed.Text.Numeral
import Testbed.Yaml.Scalar

/-!
A text as a sequence of tokens.

Whoever asks for a token gets it as soon as it is settled, that is when no key can start before it.
So a text that cannot be scanned to its end still has the tokens that are settled by then.

Indentation becomes tokens that open and close block collections. A key without an indicator of
its own is only known when the colon after it is met, so the scan remembers, for each open flow
collection, where such a key may have started, and puts the missing tokens there. A key of that
kind stands on one line and is no longer than 1024 characters.
-/

namespace Testbed.Yaml

inductive Directive where
  | version (major minor : Nat)
  | tagHandle (handle uri : String)
  | other (name : String)
  deriving Repr, DecidableEq

inductive Token where
  | directive (d : Directive)
  | documentStart
  | documentEnd
  | blockSequenceStart
  | blockMappingStart
  | blockEnd
  | flowSequenceStart
  | flowSequenceEnd
  | flowMappingStart
  | flowMappingEnd
  | blockEntry
  | flowEntry
  | key
  | value
  | alias (name : String)
  | anchor (name : String)
  | tag (handle : Option String) (suffix : String)
  | scalar (text : String) (plain : Bool)
  /-- No token: here the text cannot be scanned. -/
  | stuck (p : Problem)
  deriving Repr, DecidableEq

/-! ### Names, tags and directives -/

/-- The characters of anchors, directives and tag handles. -/
def isNameChar (c : Char) : Bool :=
  ('0' ≤ c && c ≤ '9') || ('A' ≤ c && c ≤ 'Z') || ('a' ≤ c && c ≤ 'z') || c == '-' || c == '_'

def isUriChar (c : Char) : Bool :=
  isNameChar c || ";/?:@&=+$,.!~*\x27()[]%".toList.contains c

/-- An anchor or alias, from the character after its indicator. -/
def anchorName (c : Cursor) : Except Problem (String × Cursor) :=
  let (name, c) := c.span isNameChar
  let closes :=
    match c.peek 0 with
    | none => true
    | some ch => endsWord ch || "?:,]\x7d%@\x60".toList.contains ch
  if name.isEmpty || !closes then .error (.malformed "expected the name of an anchor")
  else .ok (String.ofList name, c)

/-- A run of percent escapes, decoded as bytes of UTF-8. -/
def uriEscapes : Nat → Cursor → Except Problem (List UInt8 × Cursor)
  | 0, c => .ok ([], c)
  | fuel + 1, c =>
    match c.rest with
    | '%' :: rest =>
      match rest.take 2 with
      | [a, b] =>
        match Scalar.hexNumber? [a, b] with
        | some n => do
          let (more, c) ← uriEscapes fuel (c.advance 3)
          return (UInt8.ofNat n :: more, c)
        | none => .error (.malformed "expected two hexadecimal digits in a tag")
      | _ => .error (.malformed "expected two hexadecimal digits in a tag")
    | _ => .ok ([], c)

/-- The characters of a tag, with its escapes decoded. -/
def uriChars : Nat → Cursor → Except Problem (List Char × Cursor)
  | 0, c => .ok ([], c)
  | fuel + 1, c =>
    match c.rest with
    | [] => .ok ([], c)
    | ch :: _ =>
      if ch == '%' then do
        let (bytes, c) ← uriEscapes (c.rest.length + 1) c
        match String.fromUTF8? ⟨bytes.toArray⟩ with
        | some text =>
          let (more, c) ← uriChars fuel c
          return (text.toList ++ more, c)
        | none => .error (.malformed "found bytes that are no text in a tag")
      else if isUriChar ch then do
        let (more, c) ← uriChars fuel c.next
        return (ch :: more, c)
      else .ok ([], c)

def tagUri (c : Cursor) : Except Problem (String × Cursor) := do
  if (c.peek 0).any isUriChar then
    let (text, c) ← uriChars (c.rest.length + 1) c
    return (String.ofList text, c)
  else .error (.malformed "expected a tag")

/-- An exclamation mark alone, or two with a name between them. -/
def tagHandle (c : Cursor) : Except Problem (String × Cursor) :=
  match c.rest with
  | '!' :: rest =>
    if rest.head? == some ' ' then .ok ("!", c.next)
    else
      let name := rest.takeWhile isNameChar
      if rest[name.length]? == some '!' then
        .ok (String.ofList ('!' :: name ++ ['!']), c.advance (name.length + 2))
      else .error (.malformed "expected a tag handle")
  | _ => .error (.malformed "expected a tag handle")

/-- A tag, from its exclamation mark: verbatim, the non-specific one, or a handle with a
suffix. -/
def tag (c : Cursor) : Except Problem (Token × Cursor) := do
  let (token, c) ←
    match c.peek 1 with
    | some '<' => do
      let (uri, c) ← tagUri (c.advance 2)
      if c.peek 0 == some '>' then pure (Token.tag none uri, c.next)
      else .error (.malformed "expected the end of a tag")
    | other =>
      if wordEnd other then pure (Token.tag none "!", c.next)
      else do
        let (handle, c) ←
          if (c.next.rest.takeWhile (fun ch => !(ch == ' ' || isBreak ch))).contains '!' then
            tagHandle c
          else pure ("!", c.next)
        let (suffix, c) ← tagUri c
        pure (Token.tag (some handle) suffix, c)
  if c.peek 0 == some ' ' || lineEnd (c.peek 0) then return (token, c)
  else .error (.malformed "expected a blank after a tag")

/-- A space or the end of the line follows. -/
def atGap (c : Cursor) : Bool := c.peek 0 == some ' ' || lineEnd (c.peek 0)

def versionNumber (c : Cursor) : Except Problem (Nat × Cursor) :=
  let (digits, c) := c.span (fun ch => '0' ≤ ch && ch ≤ '9')
  if digits.isEmpty then .error (.malformed "expected a digit of a version")
  else if Text.longestNumeral < digits.length then .error (.notANumber (String.ofList digits))
  else .ok (digits.foldl (fun n d => n * 10 + (d.toNat - 0x30)) 0, c)

/-- A directive, from the character after its percent sign, with the rest of its line. -/
def directive (c : Cursor) : Except Problem (Directive × Cursor) := do
  let (name, c) := c.span isNameChar
  if name.isEmpty || !atGap c then throw (.malformed "expected the name of a directive")
  let name := String.ofList name
  let (d, c) ←
    if name == "YAML" then do
      let (major, c) ← versionNumber (c.skip (· == ' '))
      if c.peek 0 != some '.' then throw (.malformed "expected a point in a version")
      let (minor, c) ← versionNumber c.next
      if !atGap c then throw (.malformed "expected the end of a version")
      pure (Directive.version major minor, c)
    else if name == "TAG" then do
      let (handle, c) ← tagHandle (c.skip (· == ' '))
      if c.peek 0 != some ' ' then throw (.malformed "expected a space after a tag handle")
      let (uri, c) ← tagUri (c.skip (· == ' '))
      if !atGap c then throw (.malformed "expected the end of a tag")
      pure (Directive.tagHandle handle uri, c)
    else pure (Directive.other name, c.skip (!isBreak ·))
  return (d, ← c.commentLine)

/-! ### The scan -/

/-- Where a key may have started. A required one is the first of its line at the indentation of
its collection: it cannot be anything else. -/
structure PossibleKey where
  /-- The number of tokens before it. -/
  position : Nat
  required : Bool
  index : Nat
  line : Nat
  column : Nat
  deriving Repr

structure Scan where
  cursor : Cursor
  tokens : Array Token
  /-- The column of the innermost block collection, and those around it. -/
  indent : Int
  indents : List Int
  /-- Whether a key may start here. -/
  keyAllowed : Bool
  /-- The possible key of the innermost flow collection, and those of the collections around. -/
  possible : Option PossibleKey
  outer : List (Option PossibleKey)

namespace Scan

def start (text : List Char) : Scan where
  cursor := Cursor.start text
  tokens := #[]
  indent := -1
  indents := []
  keyAllowed := true
  possible := none
  outer := []

def inFlow (s : Scan) : Bool := !s.outer.isEmpty

def emit (t : Token) (s : Scan) : Scan := { s with tokens := s.tokens.push t }

/-- Skips spaces, comments and line breaks; in block style a key may start on a new line. -/
def skipGap (flow : Bool) : Nat → Bool → Cursor → Bool × Cursor
  | 0, allowed, c => (allowed, c)
  | fuel + 1, allowed, c =>
    let c := c.skip (· == ' ')
    let c := if c.peek 0 == some '#' then c.skip (!isBreak ·) else c
    match c.lineBreak? with
    | some (_, c) => skipGap flow fuel (allowed || !flow) c
    | none => (allowed, c)

def toNextToken (s : Scan) : Scan :=
  let c := s.cursor
  let c := if c.index == 0 && c.peek 0 == some '\ufeff' then c.next else c
  let (allowed, c) := skipGap s.inFlow (c.rest.length + 1) s.keyAllowed c
  { s with keyAllowed := allowed, cursor := c }

/-- A possible key that a colon can no longer follow is forgotten; a required one is an error. -/
def forget (key : Option PossibleKey) : Except Problem (Option PossibleKey) :=
  match key with
  | none => .ok none
  | some key => if key.required then .error (.malformed "could not find the colon of a key")
    else .ok none

def refresh (c : Cursor) (key : Option PossibleKey) : Except Problem (Option PossibleKey) :=
  match key with
  | none => .ok none
  | some k => if k.line != c.line || 1024 < c.index - k.index then forget key else .ok key

def dropStale (s : Scan) : Except Problem Scan := do
  return { s with
    possible := ← refresh s.cursor s.possible
    outer := ← s.outer.mapM (refresh s.cursor) }

/-- Closes the block collections whose column is beyond the given one. -/
def unwindTo (column : Int) : List Int → Int → Array Token → Int × List Int × Array Token
  | [], indent, tokens => (indent, [], tokens)
  | outer :: indents, indent, tokens =>
    if column < indent then unwindTo column indents outer (tokens.push .blockEnd)
    else (indent, outer :: indents, tokens)

def unwind (column : Int) (s : Scan) : Scan :=
  if s.inFlow then s
  else
    let (indent, indents, tokens) := unwindTo column s.indents s.indent s.tokens
    { s with indent, indents, tokens }

/-- A key that may start here. -/
def keyHere (s : Scan) : PossibleKey where
  position := s.tokens.size
  required := !s.inFlow && s.indent == (s.cursor.column : Int)
  index := s.cursor.index
  line := s.cursor.line
  column := s.cursor.column

/-- Remembers that a key may start here. -/
def saveKey (s : Scan) : Except Problem Scan := do
  if s.keyAllowed then
    let _ ← forget s.possible
    return { s with possible := some s.keyHere }
  else return s

def dropKey (s : Scan) : Except Problem Scan := do
  return { s with possible := ← forget s.possible }

/-- Opens a block collection at a column unless one is open there. -/
def openBlock (column : Nat) (position : Nat) (t : Token) (s : Scan) : Scan :=
  if s.indent < (column : Int) then
    { s with
      indents := s.indent :: s.indents
      indent := column
      tokens := s.tokens.insertIdxIfInBounds position t }
  else s

/-- Passes over an indicator of the given length. -/
def pass (n : Nat) (t : Token) (s : Scan) : Scan :=
  { s with cursor := s.cursor.advance n, tokens := s.tokens.push t }

/-- What stands alone on its line: directives and document marks. -/
def closeAll (s : Scan) : Except Problem Scan := do
  let s ← dropKey (s.unwind (-1))
  return { s with keyAllowed := false }

def openFlow (t : Token) (s : Scan) : Except Problem Scan := do
  let s ← s.saveKey
  return { s.pass 1 t with keyAllowed := true, possible := none, outer := s.possible :: s.outer }

def closeFlow (t : Token) (s : Scan) : Except Problem Scan :=
  match s.outer with
  | [] => .error (.malformed "found the end of a collection that is not open")
  | possible :: outer => .ok { s.pass 1 t with keyAllowed := false, possible, outer }

def flowEntry (s : Scan) : Except Problem Scan := do
  let s ← dropKey (s.pass 1 .flowEntry)
  return { s with keyAllowed := true }

def blockEntry (s : Scan) : Except Problem Scan := do
  let s ←
    if s.inFlow then pure s
    else if !s.keyAllowed then throw (.malformed "sequence entries are not allowed here")
    else pure (s.openBlock s.cursor.column s.tokens.size .blockSequenceStart)
  let s ← dropKey (s.pass 1 .blockEntry)
  return { s with keyAllowed := true }

def keyMark (s : Scan) : Except Problem Scan := do
  let s ←
    if s.inFlow then pure s
    else if !s.keyAllowed then throw (.malformed "mapping keys are not allowed here")
    else pure (s.openBlock s.cursor.column s.tokens.size .blockMappingStart)
  let s ← dropKey (s.pass 1 .key)
  return { s with keyAllowed := !s.inFlow }

/-- A colon: the value of the possible key, if there is one, which becomes a key. -/
def valueMark (s : Scan) : Except Problem Scan :=
  match s.possible with
  | some key =>
    let s := { s with
      possible := none
      keyAllowed := false
      tokens := s.tokens.insertIdxIfInBounds key.position .key }
    let s := if s.inFlow then s else s.openBlock key.column key.position .blockMappingStart
    .ok (s.pass 1 .value)
  | none => do
    let s ←
      if s.inFlow then pure s
      else if !s.keyAllowed then throw (.malformed "mapping values are not allowed here")
      else pure (s.openBlock s.cursor.column s.tokens.size .blockMappingStart)
    return { s.pass 1 .value with keyAllowed := !s.inFlow }

def named (make : String → Token) (s : Scan) : Except Problem Scan := do
  let s ← s.saveKey
  let (name, c) ← anchorName s.cursor.next
  return { s.emit (make name) with cursor := c, keyAllowed := false }

def tagged (s : Scan) : Except Problem Scan := do
  let s ← s.saveKey
  let (t, c) ← tag s.cursor
  return { s.emit t with cursor := c, keyAllowed := false }

def quotedScalar (quote : Char) (s : Scan) : Except Problem Scan := do
  let s ← s.saveKey
  let (text, c) ← Scalar.quoted quote (s.cursor.rest.length + 1) s.cursor.next
  return { s.emit (.scalar (String.ofList text) false) with cursor := c, keyAllowed := false }

def blockScalar (folded : Bool) (s : Scan) : Except Problem Scan := do
  let s ← s.dropKey
  let (text, c) ← Scalar.block folded s.indent s.cursor.next
  return { s.emit (.scalar (String.ofList text) false) with cursor := c, keyAllowed := true }

def plainScalar (s : Scan) : Except Problem Scan := do
  let s ← s.saveKey
  let read := Scalar.plain s.inFlow (s.indent + 1) (s.cursor.rest.length + 1) [] false s.cursor
  return { s.emit (.scalar (String.ofList read.text) true) with
    cursor := read.after, keyAllowed := read.lineEnded }

def directiveLine (s : Scan) : Except Problem Scan := do
  let s ← s.closeAll
  let (d, c) ← directive s.cursor.next
  return { s.emit (.directive d) with cursor := c }

/-- Whether a plain text may start with this character. -/
def startsPlain (flow : Bool) (c : Char) (after : Option Char) : Bool :=
  !(endsWord c || "-?:,[]\x7b\x7d#&*!|>\x27\x22%@\x60".toList.contains c)
    || (!wordEnd after && (c == '-' || (!flow && (c == '?' || c == ':'))))

/-- The next token, which starts with the given character. -/
def token (ch : Char) (s : Scan) : Except Problem Scan :=
  let c := s.cursor
  let after := c.peek 1
  if ch == '%' && c.column == 0 then s.directiveLine
  else if c.column == 0 && c.atMark '-' then do return (← s.closeAll).pass 3 .documentStart
  else if c.column == 0 && c.atMark '.' then do return (← s.closeAll).pass 3 .documentEnd
  else if ch == '[' then s.openFlow .flowSequenceStart
  else if ch == '\x7b' then s.openFlow .flowMappingStart
  else if ch == ']' then s.closeFlow .flowSequenceEnd
  else if ch == '\x7d' then s.closeFlow .flowMappingEnd
  else if ch == ',' then s.flowEntry
  else if ch == '-' && wordEnd after then s.blockEntry
  else if ch == '?' && (s.inFlow || wordEnd after) then s.keyMark
  else if ch == ':' && (s.inFlow || wordEnd after) then s.valueMark
  else if ch == '*' then s.named .alias
  else if ch == '&' then s.named .anchor
  else if ch == '!' then s.tagged
  else if ch == '|' && !s.inFlow then s.blockScalar false
  else if ch == '>' && !s.inFlow then s.blockScalar true
  else if ch == '\x27' || ch == '\x22' then s.quotedScalar ch
  else if startsPlain s.inFlow ch after then s.plainScalar
  else .error (.malformed "found a character that cannot start any token")

/-- Comes to the next token, and closes what ends before it. -/
def prepare (s : Scan) : Except Problem Scan := do
  let s ← s.toNextToken.dropStale
  return s.unwind s.cursor.column

/-- The tokens before the first place where a key may still have to be put. -/
def settled (s : Scan) : List Token :=
  let places := (s.possible :: s.outer).filterMap fun key =>
    (refresh s.cursor key).toOption.join.map (·.position)
  s.tokens.toList.take (places.foldl min s.tokens.size)

end Scan

/-- Where a scan stops short: the tokens that are settled by then, and why it goes no further. -/
structure Stop where
  settled : List Token
  problem : Problem

namespace Scan

/-- A problem on the way to the next token stops the scan. -/
def orStop {α : Type} (s : Scan) : Except Problem α → Except Stop α
  | .ok a => .ok a
  | .error p => .error ⟨s.settled, p⟩

/-- Every token takes at least one character, so the length of the text bounds their number. -/
def run : Nat → Scan → Except Stop (Array Token)
  | 0, s => .ok s.tokens
  | fuel + 1, s => do
    let t ← s.orStop s.prepare
    match t.cursor.rest with
    | [] => return (← s.orStop (t.unwind (-1)).dropKey).tokens
    | ch :: _ => run fuel (← s.orStop (t.token ch))

end Scan

/-- The tokens of a text. -/
def tokens (text : List Char) : Except Stop (List Token) := do
  return (← Scan.run (text.length + 1) (Scan.start text)).toList

end Testbed.Yaml
