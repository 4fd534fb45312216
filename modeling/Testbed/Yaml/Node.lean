import Testbed.Yaml.Token
import Testbed.Yaml.Schema

/-!
A document as a tree of nodes, and the tree that a sequence of tokens denotes.

A node that is met again stands in the tree as an alias of its anchor. An anchor is unique in its
document and comes before its aliases.
-/

namespace Testbed.Yaml

inductive Node where
  | scalar (anchor : Option String) (tag : Tag) (text : String)
  | sequence (anchor : Option String) (tag : Tag) (items : List Node)
  | mapping (anchor : Option String) (tag : Tag) (entries : List (Node × Node))
  | alias (name : String)
  deriving Repr

namespace Node

/-- What stands before the content of a node. -/
structure Properties where
  anchor : Option String
  tag : Option String
  deriving Repr

/-- A node without any text. -/
def empty : Node := .scalar none (Schema.resolve "") ""

/-- The text without a line break at its end. A line break alone stays. -/
def withoutLastBreak (text : String) : String :=
  let chars := text.toList
  if chars.length ≠ 1 ∧ chars.getLast? = some '\n' then String.ofList chars.dropLast else text

/-- The tag of a scalar. A plain text and one with the non-specific tag have the kind that they
are spelled like; a line break at the end of the latter is no part of the spelling. -/
def scalarTag (tag : Option String) (plain : Bool) (text : String) : Tag :=
  match tag with
  | none => if plain then Schema.resolve text else .text
  | some "!" => Schema.resolve (withoutLastBreak text)
  | some uri => Tag.ofUri uri

def collectionTag (tag : Option String) (usual : Tag) : Tag :=
  match tag with
  | none => usual
  | some "!" => usual
  | some uri => Tag.ofUri uri

/-- The tag handles of a document with what they stand for. -/
abbrev Handles := List (String × String)

def standardHandles : Handles := [("!", "!"), ("!!", Tag.standard)]

def tagOf (handles : Handles) : Token → Except Problem String
  | .tag none suffix => .ok suffix
  | .tag (some handle) suffix =>
    match handles.lookup handle with
    | some uri => .ok (uri ++ suffix)
    | none => .error (.malformed "found an undefined tag handle")
  | _ => .error (.malformed "expected a tag")

/-- An anchor and a tag, in either order. The handle of a tag is looked up when it is known whether
an anchor follows. -/
def properties (handles : Handles) :
    List Token → Except Problem (Properties × List Token)
  | .anchor name :: .tag handle suffix :: rest => do
    return (⟨some name, some (← tagOf handles (.tag handle suffix))⟩, rest)
  | .tag handle suffix :: .anchor name :: rest => do
    return (⟨some name, some (← tagOf handles (.tag handle suffix))⟩, rest)
  | .anchor name :: rest => .ok (⟨some name, none⟩, rest)
  | .tag _ _ :: .stuck p :: _ => .error p
  | .tag handle suffix :: rest => do
    return (⟨none, some (← tagOf handles (.tag handle suffix))⟩, rest)
  | rest => .ok (⟨none, none⟩, rest)

/-- Where a node stands: in flow style, in block style, or as the value of a block mapping, where
a sequence need not be indented. -/
inductive Place where
  | flow | block | blockValue
  deriving DecidableEq, Repr

def endsEntry : List Token → Bool
  | .blockEntry :: _ => true
  | .blockEnd :: _ => true
  | _ => false

def endsPart : List Token → Bool
  | .key :: _ => true
  | .value :: _ => true
  | .blockEnd :: _ => true
  | _ => false

def endsInSequence : List Token → Bool
  | .flowEntry :: _ => true
  | .flowSequenceEnd :: _ => true
  | _ => false

def endsInMapping : List Token → Bool
  | .flowEntry :: _ => true
  | .flowMappingEnd :: _ => true
  | _ => false

def unfinished {α : Type} (what : String) : Except Problem α :=
  .error (.malformed ("expected " ++ what))

/-- Something else than these tokens is expected. A token that cannot be scanned is no token. -/
def unexpected {α : Type} (what : String) : List Token → Except Problem α
  | .stuck p :: _ => .error p
  | _ => unfinished what

mutual

/-- One node. -/
def parse (handles : Handles) (place : Place) :
    Nat → List Token → Except Problem (Node × List Token)
  | 0, _ => unfinished "the content of a node"
  | fuel + 1, tokens =>
    match tokens with
    | .alias name :: rest => .ok (.alias name, rest)
    | _ => do
      let (p, tokens) ← properties handles tokens
      match tokens with
      | .scalar text plain :: rest =>
        return (.scalar p.anchor (scalarTag p.tag plain text) text, rest)
      | .flowSequenceStart :: rest => do
        let (items, rest) ← flowItems handles true fuel rest
        return (.sequence p.anchor (collectionTag p.tag .sequence) items, rest)
      | .flowMappingStart :: rest => do
        let (entries, rest) ← flowEntries handles true fuel rest
        return (.mapping p.anchor (collectionTag p.tag .mapping) entries, rest)
      | .blockSequenceStart :: rest =>
        if place = .flow then bare p tokens
        else do
          let (items, rest) ← blockItems handles fuel rest
          return (.sequence p.anchor (collectionTag p.tag .sequence) items, rest)
      | .blockMappingStart :: rest =>
        if place = .flow then bare p tokens
        else do
          let (entries, rest) ← blockEntries handles fuel rest
          return (.mapping p.anchor (collectionTag p.tag .mapping) entries, rest)
      | .blockEntry :: _ =>
        if place = .blockValue then do
          let (items, rest) ← plainItems handles fuel tokens
          return (.sequence p.anchor (collectionTag p.tag .sequence) items, rest)
        else bare p tokens
      | _ => bare p tokens

/-- Properties without content make an empty scalar. -/
def bare (p : Properties) (tokens : List Token) : Except Problem (Node × List Token) :=
  if p.anchor.isNone && p.tag.isNone then unexpected "the content of a node" tokens
  else .ok (.scalar p.anchor (scalarTag p.tag true "") "", tokens)

/-- The entries of a block sequence and its end. -/
def blockItems (handles : Handles) :
    Nat → List Token → Except Problem (List Node × List Token)
  | 0, _ => unfinished "the end of a block"
  | fuel + 1, tokens =>
    match tokens with
    | .blockEntry :: rest => do
      let (item, rest) ←
        if endsEntry rest then pure (empty, rest) else parse handles .block fuel rest
      let (items, rest) ← blockItems handles fuel rest
      return (item :: items, rest)
    | .blockEnd :: rest => .ok ([], rest)
    | _ => unexpected "the end of a block" tokens

/-- The entries of a sequence that is not indented; what follows ends it. -/
def plainItems (handles : Handles) :
    Nat → List Token → Except Problem (List Node × List Token)
  | 0, _ => unfinished "the end of a block"
  | fuel + 1, tokens =>
    match tokens with
    | .blockEntry :: rest => do
      let (item, rest) ←
        if endsEntry rest || endsPart rest then pure (empty, rest)
        else parse handles .block fuel rest
      let (items, rest) ← plainItems handles fuel rest
      return (item :: items, rest)
    | _ => .ok ([], tokens)

/-- The entries of a block mapping and its end. -/
def blockEntries (handles : Handles) :
    Nat → List Token → Except Problem (List (Node × Node) × List Token)
  | 0, _ => unfinished "the end of a block"
  | fuel + 1, tokens =>
    match tokens with
    | .key :: rest => do
      let (key, rest) ←
        if endsPart rest then pure (empty, rest) else parse handles .blockValue fuel rest
      let (value, rest) ← blockValue handles fuel rest
      let (entries, rest) ← blockEntries handles fuel rest
      return ((key, value) :: entries, rest)
    | .blockEnd :: rest => .ok ([], rest)
    | _ => unexpected "the end of a block" tokens

def blockValue (handles : Handles) :
    Nat → List Token → Except Problem (Node × List Token)
  | 0, _ => unfinished "the end of a block"
  | fuel + 1, tokens =>
    match tokens with
    | .value :: rest =>
      if endsPart rest then .ok (empty, rest) else parse handles .blockValue fuel rest
    | _ => .ok (empty, tokens)

/-- The items of a flow sequence and its end. A key among them makes a mapping of one entry. -/
def flowItems (handles : Handles) (first : Bool) :
    Nat → List Token → Except Problem (List Node × List Token)
  | 0, _ => unfinished "the end of a sequence"
  | fuel + 1, tokens =>
    match tokens with
    | .flowSequenceEnd :: rest => .ok ([], rest)
    | _ => do
      let tokens ←
        if first then pure tokens
        else
          match tokens with
          | .flowEntry :: rest => pure rest
          | _ => unexpected "a comma or the end of a sequence" tokens
      match tokens with
      | .key :: rest => do
        let (key, rest) ←
          match rest with
          | .value :: _ => pure (empty, rest)
          | _ => if endsInSequence rest then pure (empty, rest) else parse handles .flow fuel rest
        let (value, rest) ←
          match rest with
          | .value :: rest =>
            if endsInSequence rest then pure (empty, rest) else parse handles .flow fuel rest
          | _ => pure (empty, rest)
        let (items, rest) ← flowItems handles false fuel rest
        return (.mapping none .mapping [(key, value)] :: items, rest)
      | .flowSequenceEnd :: rest => return ([], rest)
      | _ => do
        let (item, rest) ← parse handles .flow fuel tokens
        let (items, rest) ← flowItems handles false fuel rest
        return (item :: items, rest)

/-- The entries of a flow mapping and its end. A node without a key mark has no value. -/
def flowEntries (handles : Handles) (first : Bool) :
    Nat → List Token → Except Problem (List (Node × Node) × List Token)
  | 0, _ => unfinished "the end of a mapping"
  | fuel + 1, tokens =>
    match tokens with
    | .flowMappingEnd :: rest => .ok ([], rest)
    | _ => do
      let tokens ←
        if first then pure tokens
        else
          match tokens with
          | .flowEntry :: rest => pure rest
          | _ => unexpected "a comma or the end of a mapping" tokens
      match tokens with
      | .key :: rest => do
        let (key, rest) ←
          match rest with
          | .value :: _ => pure (empty, rest)
          | _ => if endsInMapping rest then pure (empty, rest) else parse handles .flow fuel rest
        let (value, rest) ←
          match rest with
          | .value :: rest =>
            if endsInMapping rest then pure (empty, rest) else parse handles .flow fuel rest
          | _ => pure (empty, rest)
        let (entries, rest) ← flowEntries handles false fuel rest
        return ((key, value) :: entries, rest)
      | .flowMappingEnd :: rest => return ([], rest)
      | _ => do
        let (key, rest) ← parse handles .flow fuel tokens
        let (entries, rest) ← flowEntries handles false fuel rest
        return ((key, empty) :: entries, rest)

end

/-! ### Documents -/

/-- The tag handles that the directives of a document define. One version is allowed, and each
handle once. -/
def directives : Option (Nat × Nat) → Handles → List Token →
    Except Problem (Handles × List Token)
  | version, handles, .directive d :: rest =>
    match d with
    | .version major minor =>
      if version.isSome then .error (.malformed "found a second version directive")
      else if major != 1 then .error (.malformed "found an incompatible version")
      else directives (some (major, minor)) handles rest
    | .tagHandle handle uri =>
      if (handles.lookup handle).isSome then .error (.malformed "found a second tag handle")
      else directives version (handles ++ [(handle, uri)]) rest
    | .other _ => directives version handles rest
  | _, handles, rest => .ok (handles ++ standardHandles, rest)

def endsDocument : List Token → Bool
  | [] => true
  | .directive _ :: _ => true
  | .documentStart :: _ => true
  | .documentEnd :: _ => true
  | _ => false

/-- A stream of at most one document. -/
def ofTokens? (tokens : List Token) : Except Problem (Option Node) := do
  let fuel := 4 * tokens.length + 8
  let (node, rest) ←
    match tokens with
    | [] => return none
    | .directive _ :: _ | .documentStart :: _ => do
      let (handles, rest) ← directives none [] tokens
      match rest with
      | .documentStart :: rest =>
        if endsDocument rest then pure (empty, rest) else parse handles .block fuel rest
      | _ => unexpected "the start of a document" rest
    | _ => parse standardHandles .block fuel tokens
  match rest.dropWhile (· == .documentEnd) with
  | [] => return some node
  | rest => do
    let (_, rest) ← directives none [] rest
    unexpected "a single document" rest

/-! ### Anchors -/

def anchor? : Node → Option String
  | .scalar a _ _ => a
  | .sequence a _ _ => a
  | .mapping a _ _ => a
  | .alias _ => none

/-- Enters an anchor among those met so far. -/
def enter (anchor : Option String) (met : List String) : Except Problem (List String) :=
  match anchor with
  | none => .ok met
  | some name =>
    if met.contains name then .error (.malformed "found a second anchor of the same name")
    else .ok (name :: met)

mutual

/-- Checks that anchors are unique and come before their aliases; gives the anchors met. -/
def checkAnchors (met : List String) : Node → Except Problem (List String)
  | .alias name =>
    if met.contains name then .ok met else .error (.malformed "found an undefined alias")
  | .scalar a _ _ => enter a met
  | .sequence a _ items => do checkItems (← enter a met) items
  | .mapping a _ entries => do checkEntries (← enter a met) entries

def checkItems (met : List String) : List Node → Except Problem (List String)
  | [] => .ok met
  | item :: items => do checkItems (← checkAnchors met item) items

def checkEntries (met : List String) : List (Node × Node) → Except Problem (List String)
  | [] => .ok met
  | (key, value) :: entries => do
    checkEntries (← checkAnchors (← checkAnchors met key) value) entries

end

/-- Checks the anchors and aliases of the nodes that begin among tokens. -/
def checkNames (met : List String) : List Token → Except Problem Unit
  | .alias name :: rest =>
    if met.contains name then checkNames met rest
    else .error (.malformed "found an undefined alias")
  | .anchor _ :: .stuck p :: _ => .error p
  | .anchor _ :: .tag _ _ :: .stuck p :: _ => .error p
  | .anchor name :: rest => do checkNames (← enter (some name) met) rest
  | .stuck p :: _ => .error p
  | _ :: rest => checkNames met rest
  | [] => .ok ()

/-- The problem of a text that cannot be scanned to its end. Those of the tokens that are settled
come first. -/
def firstProblem (s : Stop) : Problem :=
  let tokens := s.settled ++ [.stuck s.problem]
  match ofTokens? tokens with
  | .error (.malformed why) => .malformed why
  | _ =>
    match checkNames [] tokens with
    | .error p => p
    | .ok () => s.problem

/-- The document that a text holds, if it holds one. -/
def ofText (text : List Char) : Except Problem (Option Node) :=
  match tokens text with
  | .error s => .error (firstProblem s)
  | .ok tokens => do
    match ← ofTokens? tokens with
    | none => return none
    | some node =>
      let _ ← checkAnchors [] node
      return some node

end Node

end Testbed.Yaml
