/-!
The kinds of scalars, and which kind a plain text has.

A text without quotes and without a tag is a null, a truth value, a number or a date when it is
spelled like one; any other text is a string.
-/

namespace Testbed.Yaml

/-- What a node is. -/
inductive Tag where
  | null | bool | int | float | text | binary | timestamp
  | sequence | mapping | set | orderedMap | pairs
  /-- The key under which other mappings are merged in. -/
  | merge
  /-- The key of a mapping that stands for its value. -/
  | default
  | other (uri : String)
  deriving Repr, DecidableEq

namespace Tag

/-- What the standard tags begin with. -/
def standard : String := "tag:yaml.org,2002:"

def isCollection : Tag → Bool
  | sequence | mapping | set | orderedMap | pairs => true
  | _ => false

def ofName? (name : String) : Option Tag :=
  match name with
  | "null" => some .null
  | "bool" => some .bool
  | "int" => some .int
  | "float" => some .float
  | "str" => some .text
  | "binary" => some .binary
  | "timestamp" => some .timestamp
  | "seq" => some .sequence
  | "map" => some .mapping
  | "set" => some .set
  | "omap" => some .orderedMap
  | "pairs" => some .pairs
  | "merge" => some .merge
  | "value" => some .default
  | _ => none

def ofUri (uri : String) : Tag :=
  match uri.dropPrefix? standard with
  | some name => (ofName? name.toString).getD (.other uri)
  | none => .other uri

end Tag

namespace Schema

def isDigit (c : Char) : Bool := '0' ≤ c && c ≤ '9'
def isDigitOrGap (c : Char) : Bool := isDigit c || c == '_'

def dropSign : List Char → List Char
  | '-' :: rest => rest
  | '+' :: rest => rest
  | text => text

def isNull (text : List Char) : Bool :=
  ["", "~", "null", "Null", "NULL"].contains (String.ofList text)

def isBool (text : List Char) : Bool :=
  ["yes", "Yes", "YES", "no", "No", "NO", "true", "True", "TRUE", "false", "False", "FALSE",
   "on", "On", "ON", "off", "Off", "OFF"].contains (String.ofList text)

/-- Groups to base sixty after the first: a colon and one digit, or two below sixty. -/
def sixties : List Char → Option (List Char)
  | ':' :: tens :: ones :: rest =>
    if isDigit tens then
      if isDigit ones then (if tens ≤ '5' then sixties rest else none)
      else sixties (ones :: rest)
    else none
  | [':', ones] => if isDigit ones then some [] else none
  | [':'] => none
  | text => some text

/-- A decimal numeral that does not start with zero, or does if `zero` allows it; and the groups
to base sixty after it. -/
def sexagesimal? (text : List Char) : Option (List Char) :=
  match text.dropWhile isDigitOrGap with
  | ':' :: rest => sixties (':' :: rest)
  | _ => none

def isInt (text : List Char) : Bool :=
  match dropSign text with
  | [] => false
  | '0' :: 'b' :: rest => !rest.isEmpty && rest.all (fun c => c == '0' || c == '1' || c == '_')
  | '0' :: 'x' :: rest =>
    !rest.isEmpty && rest.all fun c =>
      isDigitOrGap c || ('a' ≤ c && c ≤ 'f') || ('A' ≤ c && c ≤ 'F')
  | ['0'] => true
  | '0' :: rest => rest.all (fun c => ('0' ≤ c && c ≤ '7') || c == '_')
  | first :: rest =>
    isDigit first && (rest.all isDigitOrGap || sexagesimal? (first :: rest) == some [])

/-- An exponent with its sign, or nothing. -/
def isExponent : List Char → Bool
  | [] => true
  | mark :: sign :: digits =>
    (mark == 'e' || mark == 'E') && (sign == '+' || sign == '-') && !digits.isEmpty
      && digits.all isDigit
  | _ => false

def isInfinity (text : List Char) : Bool :=
  [".inf", ".Inf", ".INF"].contains (String.ofList (dropSign text))

def isNotANumber (text : List Char) : Bool :=
  [".nan", ".NaN", ".NAN"].contains (String.ofList text)

def isFloat (text : List Char) : Bool :=
  isInfinity text || isNotANumber text ||
  match text with
  | '.' :: first :: rest => isDigit first && isExponent (rest.dropWhile isDigitOrGap)
  | _ =>
    match dropSign text with
    | [] => false
    | first :: rest =>
      isDigit first &&
      match rest.dropWhile isDigitOrGap with
      | '.' :: rest => isExponent (rest.dropWhile isDigitOrGap)
      | ':' :: _ =>
        match sexagesimal? (first :: rest) with
        | some ('.' :: rest) => rest.all isDigitOrGap
        | _ => false
      | _ => false

/-- The parts of a date with an optional time, as digits. -/
structure Moment where
  year : List Char
  month : List Char
  day : List Char
  time : Option (List Char × List Char × List Char)
  fraction : List Char
  /-- The sign, hours and minutes of the offset; without them it is universal time. -/
  zone : Option (Option (Char × List Char × List Char))
  deriving Repr, DecidableEq

/-- Between `least` and `most` digits, as many as there are. -/
def takeDigits? (least most : Nat) (text : List Char) : Option (List Char × List Char) :=
  let digits := (text.take most).takeWhile isDigit
  if digits.length < least then none else some (digits, text.drop digits.length)

def skipChar? (c : Char) : List Char → Option (List Char)
  | [] => none
  | d :: rest => if d == c then some rest else none

def isSpaceOrTab (c : Char) : Bool := c == ' ' || c == '\t'

def zone? (text : List Char) : Option (Option (Option (Char × List Char × List Char))) :=
  match text with
  | [] => some none
  | _ =>
    match text.dropWhile isSpaceOrTab with
    | ['Z'] => some (some none)
    | sign :: rest =>
      if sign == '+' || sign == '-' then do
        let (hours, rest) ← takeDigits? 1 2 rest
        match rest with
        | [] => some (some (some (sign, hours, [])))
        | _ => do
          let (minutes, rest) ← takeDigits? 2 2 (← skipChar? ':' rest)
          if rest.isEmpty then some (some (some (sign, hours, minutes))) else none
      else none
    | [] => none

/-- A date, or a date and a time of day, by its spelling alone. -/
def moment? (text : List Char) : Option Moment := do
  let (year, rest) ← takeDigits? 4 4 text
  let (month, rest) ← takeDigits? 1 2 (← skipChar? '-' rest)
  let (day, rest) ← takeDigits? 1 2 (← skipChar? '-' rest)
  match rest with
  | [] => return ⟨year, month, day, none, [], none⟩
  | c :: after =>
    let rest ←
      if c == 'T' || c == 't' then some after
      else if isSpaceOrTab c then some (after.dropWhile isSpaceOrTab)
      else none
    let (hour, rest) ← takeDigits? 1 2 rest
    let (minute, rest) ← takeDigits? 2 2 (← skipChar? ':' rest)
    let (second, rest) ← takeDigits? 2 2 (← skipChar? ':' rest)
    let (fraction, rest) :=
      match rest with
      | '.' :: rest => (rest.takeWhile isDigit, rest.dropWhile isDigit)
      | _ => ([], rest)
    return ⟨year, month, day, some (hour, minute, second), fraction, ← zone? rest⟩

/-- A date alone needs two digits for the month and the day. -/
def isTimestamp (text : List Char) : Bool :=
  match moment? text with
  | none => false
  | some m => m.time.isSome || (m.month.length == 2 && m.day.length == 2)

/-- The kind of a plain text. -/
def resolve (text : String) : Tag :=
  let chars := text.toList
  if isBool chars then .bool
  else if isFloat chars then .float
  else if isInt chars then .int
  else if text == "<<" then .merge
  else if isNull chars then .null
  else if isTimestamp chars then .timestamp
  else if text == "=" then .default
  else .text

end Schema

end Testbed.Yaml
