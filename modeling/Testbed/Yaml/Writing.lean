import Testbed.Yaml.Page

/-!
Documents as text.

Collections are written in block style, two columns deeper each; a sequence in a mapping is not
indented. A collection that is met at several places is written at the first of them with an
anchor and as an alias at the others. Documents are independent of each other.
-/

namespace Testbed.Yaml.Writing

open Scalar (Content Style)

/-! ### Anchors -/

/-- The labels met so far, and those met again, in order. -/
structure Census where
  met : List Label
  shared : List Label
  deriving Repr

def Census.share (l : Label) (c : Census) : Census :=
  if c.shared.contains l then c else { c with shared := c.shared ++ [l] }

mutual

/-- Counts the labels of a value. What is met again is not entered again. -/
def census : Value → Census → Census
  | .again l, c => c.share l
  | .date (some l) _, c | .moment (some l) _, c =>
    if c.met.contains l then c.share l else { c with met := l :: c.met }
  | .list label items, c =>
    match label with
    | none => censusItems items c
    | some l =>
      if c.met.contains l then c.share l else censusItems items { c with met := l :: c.met }
  | .set label items, c =>
    match label with
    | none => censusItems items c
    | some l =>
      if c.met.contains l then c.share l else censusItems items { c with met := l :: c.met }
  | .map label entries, c =>
    match label with
    | none => censusEntries entries c
    | some l =>
      if c.met.contains l then c.share l else censusEntries entries { c with met := l :: c.met }
  | .pair a b, c => census b (census a c)
  | _, c => c

def censusItems : List Value → Census → Census
  | [], c => c
  | v :: rest, c => censusItems rest (census v c)

def censusEntries : List (Value × Value) → Census → Census
  | [], c => c
  | (k, v) :: rest, c => censusEntries rest (census v (census k c))

end

def label? : Value → Option Label
  | .again l => some l
  | .date label _ => label
  | .moment label _ => label
  | .list label _ => label
  | .map label _ => label
  | .set label _ => label
  | _ => none

/-- The anchor of a shared label: numbered in the order in which they are met again. -/
def anchorName (shared : List Label) (l : Label) : Option (List Char) :=
  (shared.idxOf? l).map fun n => 'i' :: 'd' :: (padded 3 (n + 1)).toList

/-! ### Nodes -/

/-- A page, and the labels whose collections stand on it. -/
structure Draft where
  page : Page
  written : List Label

/-- Where a node stands. -/
inductive Role where
  | root | item | part
  /-- A key that stands on one line with its value. -/
  | simpleKey
  deriving DecidableEq, Repr

/-- The next deeper column; the outermost collection is not indented. -/
def deeper (indent : Option Nat) : Nat :=
  match indent with
  | none => 0
  | some n => n + 2

def scalarIndent (indent : Option Nat) : Nat := indent.getD 0 + 2

def writeContent (role : Role) (indent : Option Nat) (content : Content) (p : Page) : Page :=
  let simple := role == .simpleKey
  let style := Spelling.styleOf simple content
  let p :=
    if content.tag = .binary then p.mark (Spelling.shortTag .binary).toList true false false else p
  match style with
  | .plain => p.plain (scalarIndent indent) (!simple) (role == .root) content.text
  | .single => p.single (scalarIndent indent) (!simple) content.text
  | .double => p.double (scalarIndent indent) (!simple) content.text
  | .lines => p.block (scalarIndent indent) content.text

/-- Whether a key can stand on one line with its value: its tag, anchor and text together are
short, and the text is not empty and has no breaks. -/
def isSimpleKey (shared written : List Label) (key : Value) : Bool :=
  let anchor := (label? key).bind (anchorName shared)
  let isAlias := (label? key).any written.contains
  let width := (anchor.getD []).length
  if isAlias && anchor.isSome then width < 128
  else
    match Spelling.content? key with
    | none => false
    | some content =>
      width + (Spelling.shortTag content.tag).length + content.text.length < 128
        && !content.text.isEmpty && !Spelling.isMultiline content.text

/-- A node under a label: an alias if it stands on the page already, else its anchor and content. -/
def anchored (shared : List Label) (label : Option Label) (write : Draft → Draft) (d : Draft) :
    Draft :=
  match label.bind fun l => (anchorName shared l).map (l, ·) with
  | none => write d
  | some (l, name) =>
    if d.written.contains l then { d with page := d.page.mark ('*' :: name) true false false }
    else write ⟨d.page.mark ('&' :: name) true false false, l :: d.written⟩

/-- A collection without elements, on one line. -/
def emptyBrackets (opening closing : Char) (p : Page) : Page :=
  (p.mark [opening] true false true).mark [closing] false false false

/-- The column of a sequence: that of the mapping around it, if it stands on lines of its own
there. -/
def sequenceColumn (role : Role) (indent : Option Nat) (p : Page) : Nat :=
  if (role == .part || role == .simpleKey) && !p.fresh then indent.getD 0 else deeper indent

/-- An item of a sequence. -/
def item (column : Nat) (write : Role → Option Nat → Draft → Draft) (d : Draft) : Draft :=
  write .item (some column) { d with page := (d.page.newLine column).mark ['-'] true true false }

/-- A key with the mark that its value follows. -/
def key (shared : List Label) (column : Nat) (k : Value)
    (write : Role → Option Nat → Draft → Draft) (d : Draft) : Draft :=
  let d := { d with page := d.page.newLine column }
  if isSimpleKey shared d.written k then
    let d := write .simpleKey (some column) d
    { d with page := d.page.mark [':'] false false false }
  else
    let d := write .part (some column) { d with page := d.page.mark ['?'] true true false }
    { d with page := (d.page.newLine column).mark [':'] true true false }

mutual

def node (shared : List Label) : Value → Role → Option Nat → Draft → Draft
  | .list label items, role, indent, d =>
    anchored shared label (fun d =>
      if items.isEmpty then { d with page := emptyBrackets '[' ']' d.page }
      else nodes shared (sequenceColumn role indent d.page) items d) d
  | .pair a b, role, indent, d =>
    let column := sequenceColumn role indent d.page
    item column (node shared b) (item column (node shared a) d)
  | .map label entries, _, indent, d =>
    anchored shared label (fun d =>
      if entries.isEmpty then { d with page := emptyBrackets '\x7b' '\x7d' d.page }
      else pairs shared (deeper indent) entries d) d
  | .set label items, _, indent, d =>
    anchored shared label (fun d =>
      let d := { d with page := d.page.mark "!!set".toList true false false }
      if items.isEmpty then { d with page := emptyBrackets '\x7b' '\x7d' d.page }
      else members shared (deeper indent) items d) d
  | v, role, indent, d =>
    anchored shared (label? v) (fun d =>
      match Spelling.content? v with
      | some c => { d with page := writeContent role indent c d.page }
      | none => d) d

/-- The items of a sequence. -/
def nodes (shared : List Label) (column : Nat) : List Value → Draft → Draft
  | [], d => d
  | v :: rest, d => nodes shared column rest (item column (node shared v) d)

/-- The entries of a mapping. -/
def pairs (shared : List Label) (column : Nat) : List (Value × Value) → Draft → Draft
  | [], d => d
  | (k, v) :: rest, d =>
    pairs shared column rest
      (node shared v .part (some column) (key shared column k (node shared k) d))

/-- The members of a set, as keys without values. -/
def members (shared : List Label) (column : Nat) : List Value → Draft → Draft
  | [], d => d
  | v :: rest, d =>
    members shared column rest
      (let d := key shared column v (node shared v) d
       { d with page := writeContent .part (some column) ⟨.null, "null".toList⟩ d.page })

end

/-- A document after its mark, and whether only a document mark can end it. -/
def document (v : Value) : String × Bool :=
  let shared := (census v ⟨[], []⟩).shared
  let start := Page.empty.mark ['-', '-', '-'] true false false
  let d := node shared v .root none ⟨start, []⟩
  ((d.page.newLine 0).text, d.page.openEnded)

/-- A stream of documents. -/
def stream (values : List Value) : String :=
  let documents := values.map document
  String.join (documents.map (·.1))
    ++ (match documents.getLast? with | some (_, true) => "...\n" | _ => "")

end Testbed.Yaml.Writing
