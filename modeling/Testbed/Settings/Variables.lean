import Testbed.Text.Blank

/-!
Files of variables: a name and a value on each line.

A value stands between quotes or goes to the end of the line, less a comment. It may refer to
variables that are known before it. A line that is none of this is left out.
-/

namespace Testbed.Variables

open Text (isBlank)

/-- Line breaks of all kinds become line feeds. -/
def lineFeeds : List Char → List Char
  | '\r' :: '\n' :: rest => '\n' :: lineFeeds rest
  | '\r' :: rest => '\n' :: lineFeeds rest
  | c :: rest => c :: lineFeeds rest
  | [] => []

/-- A blank that does not end the line. -/
def isGap (c : Char) : Bool := isBlank c && c != '\n'

def skipGap (text : List Char) : List Char := text.dropWhile isGap

/-! ### Values -/

/-- What stands before a closing quote, and what follows it. A backslash keeps a quote from
closing, unless none follows that could. -/
def untilQuote (quote : Char) : List Char → Option (List Char × List Char)
  | [] => none
  | '\\' :: c :: rest =>
    if c == quote then
      match untilQuote quote rest with
      | some (value, rest) => some ('\\' :: c :: value, rest)
      | none => some (['\\'], rest)
    else (untilQuote quote (c :: rest)).map fun (value, rest) => ('\\' :: value, rest)
  | c :: rest =>
    if c == quote then some ([], rest)
    else (untilQuote quote rest).map fun (value, rest) => (c :: value, rest)

/-- Replaces a backslash and the character after it, if that has a meaning there. -/
def unescape (meaning : Char → Option Char) : List Char → List Char
  | '\\' :: c :: rest =>
    match meaning c with
    | some d => d :: unescape meaning rest
    | none => '\\' :: unescape meaning (c :: rest)
  | c :: rest => c :: unescape meaning rest
  | [] => []

def singleEscape (c : Char) : Option Char :=
  if c == '\\' || c == '\x27' then some c else none

def doubleEscape (c : Char) : Option Char :=
  match c with
  | '\\' | '\x27' | '\x22' => some c
  | 'a' => some '\x07'
  | 'b' => some '\x08'
  | 'f' => some '\x0c'
  | 'n' => some '\n'
  | 'r' => some '\r'
  | 't' => some '\t'
  | 'v' => some '\x0b'
  | _ => none

/-- The text before a hash sign that follows a blank. -/
def dropComment : List Char → List Char
  | [] => []
  | c :: rest =>
    if isBlank c && (rest.dropWhile isBlank).head? == some '#' then [] else c :: dropComment rest

def dropTrailing (text : List Char) : List Char := (text.reverse.dropWhile isBlank).reverse

/-- A value and the rest of the text; none when a quote is not closed. -/
def value : List Char → Option (List Char × List Char)
  | '\x27' :: rest => (untilQuote '\x27' rest).map fun (v, rest) => (unescape singleEscape v, rest)
  | '\x22' :: rest => (untilQuote '\x22' rest).map fun (v, rest) => (unescape doubleEscape v, rest)
  | text =>
    some (dropTrailing (dropComment (text.takeWhile (· != '\n'))), text.dropWhile (· != '\n'))

/-! ### Lines -/

/-- The word in front of a name that says that it is to be passed on. -/
def skipExport (text : List Char) : List Char :=
  match text with
  | 'e' :: 'x' :: 'p' :: 'o' :: 'r' :: 't' :: c :: rest =>
    if isGap c then skipGap rest else text
  | _ => text

/-- A name, which may stand between apostrophes. -/
def name (text : List Char) : Option (List Char × List Char) :=
  match text with
  | '\x27' :: rest =>
    let inner := rest.takeWhile (· != '\x27')
    match rest.dropWhile (· != '\x27') with
    | _ :: rest => if inner.isEmpty then none else some (inner, rest)
    | [] => none
  | _ =>
    let isPart := fun c => !(c == '=' || c == '#' || isBlank c)
    let word := text.takeWhile isPart
    if word.isEmpty then none else some (word, text.dropWhile isPart)

def skipComment (text : List Char) : List Char :=
  match skipGap text with
  | '#' :: rest => rest.dropWhile (· != '\n')
  | rest => rest

/-- A name with its value, if it has one. -/
abbrev Binding := String × Option String

/-- A name and what follows it on its line, or a comment; on failure, how far it was read. -/
def binding (text : List Char) : Except (List Char) (Option Binding × List Char) := do
  let (found, rest) ←
    match text with
    | '#' :: _ => pure (none, text)
    | _ =>
      match name text with
      | none => throw text
      | some (word, rest) =>
        match skipGap rest with
        | '=' :: after =>
          match value (skipGap after) with
          | none => throw (skipGap after)
          | some (v, rest) => pure (some (String.ofList word, some (String.ofList v)), rest)
        | rest => pure (some (String.ofList word, none), rest)
  match skipComment rest with
  | [] => return (found, [])
  | '\n' :: rest => return (found, rest)
  | rest => throw rest

/-- The rest of the text after the line that it starts with. -/
def nextLine (text : List Char) : List Char := (text.dropWhile (· != '\n')).drop 1

/-- The bindings of a text, line by line. -/
def bindings : Nat → List Char → List Binding
  | 0, _ => []
  | fuel + 1, text =>
    match text.dropWhile isBlank with
    | [] => []
    | text =>
      match binding (skipExport text) with
      | .ok (found, rest) => found.toList ++ bindings fuel rest
      | .error rest => bindings fuel (nextLine rest)

/-! ### References -/

/-- A reference to a variable, with the text to use when it is not known. -/
def reference (text : List Char) : Option ((String × String) × List Char) :=
  let name := text.takeWhile fun c => c != '\x7d' && c != ':'
  match text.dropWhile fun c => c != '\x7d' && c != ':' with
  | '\x7d' :: rest => some ((String.ofList name, ""), rest)
  | ':' :: '-' :: rest =>
    match rest.dropWhile (· != '\x7d') with
    | _ :: after =>
      some ((String.ofList name, String.ofList (rest.takeWhile (· != '\x7d'))), after)
    | [] => none
  | _ => none

/-- Replaces references by what they stand for. -/
def expand (known : List Binding) : Nat → List Char → List Char
  | 0, text => text
  | fuel + 1, text =>
    match text with
    | [] => []
    | '$' :: '\x7b' :: rest =>
      match reference rest with
      | some ((name, usual), rest) =>
        let text :=
          match known.lookup name with
          | some v => v.getD ""
          | none => usual
        text.toList ++ expand known fuel rest
      | none => '$' :: expand known fuel ('\x7b' :: rest)
    | c :: rest => c :: expand known fuel rest

/-- Puts a binding into a list; a name that is there keeps its place. -/
def insert (b : Binding) : List Binding → List Binding
  | [] => [b]
  | a :: rest => if a.1 = b.1 then b :: rest else a :: insert b rest

/-- The variables of a file. Those of the environment can be referred to in it. -/
def ofText (environment : List Binding) (text : String) : List Binding :=
  let chars := lineFeeds text.toList
  (bindings (chars.length + 1) chars).foldl (fun known (name, v) =>
    insert (name, v.map fun v =>
      String.ofList (expand (known ++ environment) v.length v.toList)) known) []

end Testbed.Variables
