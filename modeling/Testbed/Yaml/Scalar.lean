import Testbed.Yaml.Cursor

/-!
The three spellings of a scalar: between quotes, plain, and as a block of lines.

Each reader starts at a place in the text and gives the characters of the scalar with the place
after it. Line breaks fold: one break is a space, and of several the first is dropped.
-/

namespace Testbed.Yaml.Scalar

/-- A break followed by further breaks, folded. -/
def fold (first : Char) (more : List Char) : List Char :=
  if first != '\n' then first :: more else if more.isEmpty then [' '] else more

/-! ### Between quotes -/

/-- The breaks after a break, and the blanks among them. -/
def quotedBreaks : Nat → Cursor → Except Problem (List Char × Cursor)
  | 0, c => .ok ([], c)
  | fuel + 1, c =>
    if c.atDocumentMark then .error (.malformed "found a document separator in a quoted text")
    else
      let c := c.skip (fun ch => ch == ' ' || ch == '\t')
      match c.lineBreak? with
      | none => .ok ([], c)
      | some (b, c) => do
        let (more, c) ← quotedBreaks fuel c
        return (b :: more, c)

/-- The character that a one-letter escape stands for. -/
def escaped? (c : Char) : Option Char :=
  match c with
  | '0' => some '\x00'
  | 'a' => some '\x07'
  | 'b' => some '\x08'
  | 't' => some '\t'
  | '\t' => some '\t'
  | 'n' => some '\n'
  | 'v' => some '\x0b'
  | 'f' => some '\x0c'
  | 'r' => some '\r'
  | 'e' => some '\x1b'
  | ' ' => some ' '
  | '\x22' => some '\x22'
  | '\\' => some '\\'
  | '/' => some '/'
  | 'N' => some '\u0085'
  | '_' => some '\u00a0'
  | 'L' => some '\u2028'
  | 'P' => some '\u2029'
  | _ => none

/-- How many hexadecimal digits follow the letter of an escape. -/
def escapeWidth? (c : Char) : Option Nat :=
  match c with
  | 'x' => some 2
  | 'u' => some 4
  | 'U' => some 8
  | _ => none

def hexValue? (c : Char) : Option Nat :=
  if '0' ≤ c && c ≤ '9' then some (c.toNat - 0x30)
  else if 'a' ≤ c && c ≤ 'f' then some (c.toNat - 0x61 + 10)
  else if 'A' ≤ c && c ≤ 'F' then some (c.toNat - 0x41 + 10)
  else none

def hexNumber? (digits : List Char) : Option Nat :=
  digits.foldl (fun n? c => do return (← n?) * 16 + (← hexValue? c)) (some 0)

/-- The character of a code point; half of a surrogate pair becomes the replacement character. -/
def character (code : Nat) : Except Problem Char :=
  if 0x110000 ≤ code then .error (.noSuchCharacter code)
  else if 0xD800 ≤ code && code ≤ 0xDFFF then .ok '\ufffd'
  else .ok (Char.ofNat code)

/-- What stands after a backslash. -/
def escape (c : Cursor) : Except Problem (List Char × Cursor) :=
  match c.rest with
  | [] => .error (.malformed "found an unfinished escape")
  | ch :: rest =>
    match escaped? ch, escapeWidth? ch with
    | some e, _ => .ok ([e], c.next)
    | none, some width => do
      let digits := rest.take width
      match if digits.length = width then hexNumber? digits else none with
      | some code => return ([← character code], c.advance (width + 1))
      | none => .error (.malformed "expected an escape of hexadecimal digits")
    | none, none =>
      match c.lineBreak? with
      | some (_, c) => quotedBreaks (c.rest.length + 1) c
      | none => .error (.malformed "found an unknown escape")

/-- The text up to the closing quote, which is taken too. Between apostrophes, two of them stand
for one; between double quotes, a backslash escapes. -/
def quoted (quote : Char) : Nat → Cursor → Except Problem (List Char × Cursor)
  | 0, _ => .error (.malformed "found the end of the text in a quoted text")
  | fuel + 1, c =>
    match c.rest with
    | [] => .error (.malformed "found the end of the text in a quoted text")
    | ch :: rest =>
      if ch == quote then
        if quote == '\x27' && rest.head? == some '\x27' then do
          let (more, c) ← quoted quote fuel (c.advance 2)
          return ('\x27' :: more, c)
        else .ok ([], c.next)
      else if ch == '\\' && quote == '\x22' then do
        let (chars, c) ← escape c.next
        let (more, c) ← quoted quote fuel c
        return (chars ++ more, c)
      else if endsWord ch then
        let (blanks, c) := c.span (fun ch => ch == ' ' || ch == '\t')
        match c.lineBreak? with
        | some (b, c) => do
          let (breaks, c) ← quotedBreaks (c.rest.length + 1) c
          let (more, c) ← quoted quote fuel c
          return (fold b breaks ++ more, c)
        | none => do
          let (more, c) ← quoted quote fuel c
          return (blanks ++ more, c)
      else do
        let (more, c) ← quoted quote fuel c.next
        return (ch :: more, c)

/-! ### Plain -/

/-- What separates or ends collections in flow style. -/
def isFlowEnd (c : Char) : Bool :=
  c == ',' || c == '[' || c == ']' || c == '\x7b' || c == '\x7d'

/-- A colon ends a plain text when a word ends after it, in flow style also before an end of a
collection. -/
def endsKey (flow : Bool) : Option Char → Bool
  | none => true
  | some c => endsWord c || (flow && isFlowEnd c)

/-- How many characters a plain text has before a blank or an indicator. -/
def plainLength (flow : Bool) : List Char → Nat
  | [] => 0
  | c :: rest =>
    if endsWord c || (c == ':' && endsKey flow rest.head?)
        || (flow && (c == '?' || isFlowEnd c)) then 0
    else plainLength flow rest + 1

/-- The breaks and spaces after a break in a plain text; none at a document separator. -/
def plainBreaks : Nat → Cursor → Option (List Char) × Cursor
  | 0, c => (some [], c)
  | fuel + 1, c =>
    match c.lineBreak? with
    | some (b, c) =>
      if c.atDocumentMark then (none, c)
      else
        let (more, c) := plainBreaks fuel c
        (more.map (b :: ·), c)
    | none => if c.peek 0 == some ' ' then plainBreaks fuel c.next else (some [], c)

/-- The blanks between two words of a plain text, folded, and whether a line ended. -/
def plainBlanks (c : Cursor) : List Char × Bool × Cursor :=
  let (spaces, c) := c.span (· == ' ')
  match c.lineBreak? with
  | none => (spaces, false, c)
  | some (b, c) =>
    if c.atDocumentMark then ([], true, c)
    else
      match plainBreaks (c.rest.length + 1) c with
      | (some more, c) => (fold b more, true, c)
      | (none, c) => ([], true, c)

/-- The result of reading a plain text: its characters, the place after it and the blanks, and
whether the line ended there. -/
structure Plain where
  text : List Char
  lineEnded : Bool
  after : Cursor

/-- Words of a plain text, with the blanks before the next one. A line that is indented less than
`indent` ends it in block style. -/
def plain (flow : Bool) (indent : Int) : Nat → List Char → Bool → Cursor → Plain
  | 0, _, lineEnded, c => ⟨[], lineEnded, c⟩
  | fuel + 1, blanks, lineEnded, c =>
    let count := plainLength flow c.rest
    if c.peek 0 == some '#' || count == 0 then ⟨[], lineEnded, c⟩
    else
      let word := c.rest.take count
      let (gap, ended, c) := plainBlanks (c.advance count)
      if gap.isEmpty || c.peek 0 == some '#' || (!flow && (c.column : Int) < indent) then
        ⟨blanks ++ word, ended, c⟩
      else
        let more := plain flow indent fuel gap ended c
        { more with text := blanks ++ word ++ more.text }

/-! ### Blocks of lines -/

/-- What happens to the line breaks at the end of a block. -/
inductive Chomping where
  | clip | strip | keep
  deriving DecidableEq, Repr

def chomping? : Option Char → Option Chomping
  | some '+' => some .keep
  | some '-' => some .strip
  | _ => none

/-- The digit of an indentation that is given explicitly. -/
def increment? (c : Cursor) : Except Problem (Option Nat × Cursor) :=
  match c.peek 0 with
  | some ch =>
    if '1' ≤ ch && ch ≤ '9' then .ok (some (ch.toNat - 0x30), c.next)
    else if ch == '0' then .error (.malformed "expected an indentation of at least one")
    else .ok (none, c)
  | none => .ok (none, c)

/-- Chomping and indentation, in either order. -/
def blockHeader (c : Cursor) : Except Problem (Chomping × Option Nat × Cursor) := do
  let (chomping, increment, c) ←
    match chomping? (c.peek 0) with
    | some chomping => do
      let (increment, c) ← increment? c.next
      pure (chomping, increment, c)
    | none => do
      let (increment, c) ← increment? c
      if increment.isSome then
        match chomping? (c.peek 0) with
        | some chomping => pure (chomping, increment, c.next)
        | none => pure (Chomping.clip, increment, c)
      else pure (Chomping.clip, increment, c)
  if lineEnd (c.peek 0) || c.peek 0 == some ' ' then
    return (chomping, increment, ← c.commentLine)
  else .error (.malformed "expected chomping or indentation of a block")

/-- Leading lines of spaces, with the widest of them. -/
def leadingLines : Nat → Nat → Cursor → List Char × Nat × Cursor
  | 0, widest, c => ([], widest, c)
  | fuel + 1, widest, c =>
    match c.lineBreak? with
    | some (b, c) =>
      let (more, widest, c) := leadingLines fuel widest c
      (b :: more, widest, c)
    | none =>
      if c.peek 0 == some ' ' then leadingLines fuel (max widest c.next.column) c.next
      else ([], widest, c)

/-- Skips spaces up to a column. -/
def indentTo (column : Nat) : Nat → Cursor → Cursor
  | 0, c => c
  | fuel + 1, c =>
    if c.column < column && c.peek 0 == some ' ' then indentTo column fuel c.next else c

/-- Empty lines, and the indentation of the line after them. -/
def blockBreaks (column : Nat) : Nat → Cursor → List Char × Cursor
  | 0, c => ([], c)
  | fuel + 1, c =>
    let c := indentTo column column c
    match c.lineBreak? with
    | some (b, c) =>
      let (more, c) := blockBreaks column fuel c
      (b :: more, c)
    | none => ([], c)

def atBlank (c : Cursor) : Bool := c.peek 0 == some ' ' || c.peek 0 == some '\t'

/-- The lines of a block from the first that is not empty, given the empty lines before it; with
the last break and the empty lines after it. -/
def blockLines (folded : Bool) (column : Nat) :
    Nat → List Char → Cursor → List Char × Option Char × List Char × Cursor
  | 0, breaks, c => ([], none, breaks, c)
  | fuel + 1, breaks, c =>
    let flush := !atBlank c
    let (line, c) := c.span (!isBreak ·)
    let (ended, c) :=
      match c.lineBreak? with
      | some (b, c) => (some b, c)
      | none => (none, c)
    let (after, c) := blockBreaks column (c.rest.length + 1) c
    if c.column == column && !c.rest.isEmpty then
      let joint :=
        if folded && ended == some '\n' && flush && !atBlank c then
          (if after.isEmpty then [' '] else [])
        else ended.toList
      let (text, last, tail, c) := blockLines folded column fuel after c
      (breaks ++ line ++ joint ++ text, last, tail, c)
    else (breaks ++ line, ended, after, c)

/-- A block of lines, from the character after its indicator. `indent` is the column of the
collection around it. -/
def block (folded : Bool) (indent : Int) (c : Cursor) :
    Except Problem (List Char × Cursor) := do
  let (chomping, increment, c) ← blockHeader c
  let least := (max (indent + 1) 1).toNat
  let (breaks, column, c) :=
    match increment with
    | some n =>
      let column := least + n - 1
      let (breaks, c) := blockBreaks column (c.rest.length + 1) c
      (breaks, column, c)
    | none =>
      let (breaks, widest, c) := leadingLines (c.rest.length + 1) 0 c
      (breaks, max least widest, c)
  let (text, last, tail, c) :=
    if c.column == column && !c.rest.isEmpty then
      blockLines folded column (c.rest.length + 1) breaks c
    else ([], none, breaks, c)
  return (match chomping with
    | .strip => text
    | .clip => text ++ last.toList
    | .keep => text ++ last.toList ++ tail, c)

end Testbed.Yaml.Scalar
