import Mathlib
import Testbed.Proofs.Folding
import Testbed.Proofs.JsonReading

/-!
Trees of mappings, lists and scalars, in block style.

A tree has a value. In block style its nodes are found by indicators and by indentation; a list
that is the value of a key on the same line is not indented, so its tokens depend on where it
stands. The tokens of a tree make its nodes, and their value is that of the tree.
-/

namespace Testbed.Trees

open Nodes
open Scanning (bind_of_ok)
open Yaml
open Yaml.Scalar (Content)

/-- Texts, whole numbers, truth values and null. -/
inductive Leaf where
  | null
  | bool (b : Bool)
  | int (n : Int)
  | text (s : String)

namespace Leaf

def value : Leaf → Value
  | null => .null
  | bool b => .bool b
  | int n => .int n
  | text s => .text s

def tag : Leaf → Tag
  | null => .null
  | bool _ => .bool
  | int _ => .int
  | text _ => .text

def spelling : Leaf → String
  | null => "null"
  | bool b => if b then "true" else "false"
  | int n => toString n
  | text s => s

def content (l : Leaf) : Content := ⟨l.tag, l.spelling.toList⟩

def style (l : Leaf) : Scalar.Style := Spelling.styleOf false l.content

def token (l : Leaf) : Token := .scalar l.spelling (l.style == .plain)

def node (l : Leaf) : Node := .scalar none l.tag l.spelling

end Leaf

/-- A tree, with the fields of its mappings in order. -/
inductive Tree where
  | leaf (l : Leaf)
  | list (items : List Tree)
  | map (fields : List (String × Tree))

mutual

def Tree.value : Tree → Value
  | .leaf l => l.value
  | .list items => .list none (values items)
  | .map fields => .map none (entries fields)

def values : List Tree → List Value
  | [] => []
  | t :: rest => t.value :: values rest

def entries : List (String × Tree) → List (Value × Value)
  | [] => []
  | (key, t) :: rest => (.text key, t.value) :: entries rest

end

mutual

/-- All keys of a mapping are different. -/
def Tree.Distinct : Tree → Prop
  | .leaf _ => True
  | .list items => DistinctItems items
  | .map fields => (fields.map (·.1)).Nodup ∧ DistinctFields fields

def DistinctItems : List Tree → Prop
  | [] => True
  | t :: rest => t.Distinct ∧ DistinctItems rest

def DistinctFields : List (String × Tree) → Prop
  | [] => True
  | (_, t) :: rest => t.Distinct ∧ DistinctFields rest

end

mutual

def Tree.node : Tree → Node
  | .leaf l => l.node
  | .list items => .sequence none .sequence (itemNodes items)
  | .map fields => .mapping none .mapping (fieldNodes fields)

def itemNodes : List Tree → List Node
  | [] => []
  | t :: rest => t.node :: itemNodes rest

def fieldNodes : List (String × Tree) → List (Node × Node)
  | [] => []
  | (key, t) :: rest => ((Leaf.text key).node, t.node) :: fieldNodes rest

end

/-- The key can stand on one line with its value. -/
def isSimple (key : String) : Bool := Writing.isSimpleKey [] [] (.text key)

mutual

/-- The tokens of a tree. In a fresh place, after an indicator of its own, a list is indented. -/
def Tree.tokens (fresh : Bool) : Tree → List Token
  | .leaf l => [l.token]
  | .list [] => [.flowSequenceStart, .flowSequenceEnd]
  | .list (t :: rest) =>
    if fresh then .blockSequenceStart :: itemTokens (t :: rest) ++ [.blockEnd]
    else itemTokens (t :: rest)
  | .map [] => [.flowMappingStart, .flowMappingEnd]
  | .map (x :: rest) => .blockMappingStart :: fieldTokens (x :: rest) ++ [.blockEnd]

def itemTokens : List Tree → List Token
  | [] => []
  | t :: rest => .blockEntry :: t.tokens true ++ itemTokens rest

def fieldTokens : List (String × Tree) → List Token
  | [] => []
  | (key, t) :: rest =>
    .key :: (Leaf.text key).token :: .value :: t.tokens (!isSimple key) ++ fieldTokens rest

end

/-! ### Whole numbers -/

lemma head_toDigits {n : Nat} (h : 0 < n) : (Nat.toDigits 10 n).head? ≠ some '0' := by
  induction n using Nat.strong_induction_on with
  | _ n ih =>
    by_cases hlt : n < 10
    · rw [Nat.toDigits_of_lt_base hlt]
      interval_cases n <;> decide
    · rw [Nat.toDigits_of_base_le (by decide) (by omega),
        List.head?_append_of_ne_nil _ Nat.toDigits_ne_nil]
      exact ih (n / 10) (by omega) (by omega)

/-- A whole number as it is written in JSON. -/
def numeral (n : Int) : Json.Number where
  negative := decide (n < 0)
  whole := ⟨Nat.toDigits 10 n.natAbs, Nat.toDigits_ne_nil,
    fun _ hc => Nat.isDigit_of_mem_toDigits (by decide) (by decide) hc⟩
  noPadding h := by
    by_cases hn : n.natAbs = 0
    · rw [hn]
      rfl
    · exact absurd h (head_toDigits (Nat.pos_of_ne_zero hn))
  fraction := none
  exponent := none

lemma numeral_chars (n : Int) : String.ofList (numeral n).chars = toString n := by
  rw [Int.toString_eq_repr, Int.repr_eq_if]
  by_cases h : 0 ≤ n
  · have hneg : decide (n < 0) = false := decide_eq_false (by omega)
    have habs : n.natAbs = n.toNat := by omega
    rw [if_pos h, Nat.repr_eq_ofList_toDigits]
    simp [Json.Number.chars, numeral, hneg, habs]
  · have hneg : decide (n < 0) = true := decide_eq_true (by omega)
    have habs : n.natAbs = (-n).toNat := by omega
    rw [if_neg h, Nat.repr_eq_ofList_toDigits]
    simp [Json.Number.chars, numeral, hneg, habs]

lemma numeral_value (n : Int) : (numeral n).value = .int n := by
  have hnat : Json.natOf (Nat.toDigits 10 n.natAbs) = n.natAbs := by
    have hfold : Json.natOf = fun w => Nat.ofDigitChars 10 w 0 := by
      funext w
      unfold Json.natOf Nat.ofDigitChars
      congr 1
      funext m c
      rw [Nat.mul_comm]
      rfl
    rw [hfold]
    exact Nat.ofDigitChars_toDigits (by decide) (by decide)
  show Value.int (if decide (n < 0) = true then
    -(Json.natOf (Nat.toDigits 10 n.natAbs) : Int) else Json.natOf (Nat.toDigits 10 n.natAbs)) = _
  rw [hnat]
  by_cases h : n < 0
  · rw [if_pos (decide_eq_true h)]
    congr 1
    omega
  · rw [if_neg (by simpa using h)]
    congr 1
    omega

/-! ### Scalars -/

namespace Leaf

/-- A whole number is not longer than those that are read. -/
def Fits : Leaf → Prop
  | int n => (Nat.toDigits 10 n.natAbs).length ≤ Text.longestNumeral
  | _ => True

/-- The scalar can be read again where it is written in a block at this column: a line between
double quotes that is broken after an escape has room for the space after it. -/
structure Legible (column : Nat) (l : Leaf) : Prop where
  fits : l.Fits
  room : l.style = .double →
    column + 2 < Page.width ∨ Folding.brittle l.spelling.toList.tail = false

variable {l : Leaf}

lemma numeral_legible {n : Int} (h : (Leaf.int n).Fits) : (numeral n).Legible :=
  ⟨fun _ _ => h, nofun⟩

lemma style_text (s : String) : (text s).style =
    if Schema.resolve s = .text ∧ Spelling.allowsPlain s.toList = true then .plain
    else if Spelling.allowsSingle s.toList = true then .single else .double := by
  simp [style, content, tag, spelling, Spelling.styleOf]

lemma of_style_plain {s : String} (h : (text s).style = .plain) :
    Schema.resolve s = .text ∧ Spelling.allowsPlain s.toList = true := by
  rw [style_text] at h
  split_ifs at h with hplain
  exact hplain

lemma of_style_single {s : String} (h : (text s).style = .single) :
    Spelling.allowsSingle s.toList = true := by
  rw [style_text] at h
  split_ifs at h with hplain hsingle
  exact hsingle

/-- What is written is resolved to the kind of the scalar. -/
lemma scalarTag_eq (fits : l.Fits) : Node.scalarTag none (l.style == .plain) l.spelling = l.tag := by
  cases l with
  | null => exact Json.resolve_null
  | bool b => exact Json.resolve_bool b
  | int n =>
    have h := Json.Number.resolve_eq (numeral_legible fits)
    rw [numeral_chars] at h
    exact h
  | text s =>
    show (if (style (text s) == .plain) = true then Schema.resolve s else .text) = Tag.text
    split
    · rename_i h
      exact (of_style_plain (beq_iff_eq.1 h)).1
    · rfl

/-- The value of a scalar is read from what is written. -/
lemma plain_node (fits : l.Fits) : plainValue l.node = some l.value := by
  cases l with
  | null => rfl
  | bool b => exact Json.Doc.plain (.bool b) trivial trivial
  | int n =>
    have h := Json.Doc.plain (.number (numeral n)) (numeral_legible fits) trivial
    rw [Json.Doc.node, Json.Doc.value, numeral_value, numeral_chars] at h
    exact h
  | text s => rfl

end Leaf

/-! ### Legible and short trees -/

/-- How long a key is between double quotes. -/
def quotedWidth (key : String) : Nat := (key.toList.flatMap Folding.escaped).length + 2

/-- A key that does not stand on one line with its value can be read again in a mapping at this
column. -/
def LegibleKey (column : Nat) (key : String) : Prop :=
  isSimple key = false → (Leaf.text key).Legible column

/-- A key that stands on one line with its value is not too long for a key there. -/
def ShortKey (key : String) : Prop := isSimple key = true → quotedWidth key ≤ 1024

mutual

/-- All scalars of the tree can be read again where it is written in a block at this column. -/
def Tree.Legible (fresh : Bool) (column : Nat) : Tree → Prop
  | .leaf l => l.Legible column
  | .list items => LegibleItems (if fresh then column + 2 else column) items
  | .map fields => LegibleFields (column + 2) fields

def LegibleItems (column : Nat) : List Tree → Prop
  | [] => True
  | t :: rest => t.Legible true column ∧ LegibleItems column rest

def LegibleFields (column : Nat) : List (String × Tree) → Prop
  | [] => True
  | (key, t) :: rest =>
    LegibleKey column key ∧ t.Legible (!isSimple key) column ∧ LegibleFields column rest

end

mutual

/-- No key is too long to stand on one line with its value. -/
def Tree.Short : Tree → Prop
  | .leaf _ => True
  | .list items => ShortItems items
  | .map fields => ShortFields fields

def ShortItems : List Tree → Prop
  | [] => True
  | t :: rest => t.Short ∧ ShortItems rest

def ShortFields : List (String × Tree) → Prop
  | [] => True
  | (key, t) :: rest => ShortKey key ∧ t.Short ∧ ShortFields rest

end

mutual

/-- How many collections are around the innermost scalar. -/
def Tree.depth : Tree → Nat
  | .leaf _ => 0
  | .list items => depthItems items + 1
  | .map fields => depthFields fields + 1

def depthItems : List Tree → Nat
  | [] => 0
  | t :: rest => max t.depth (depthItems rest)

def depthFields : List (String × Tree) → Nat
  | [] => 0
  | (_, t) :: rest => max t.depth (depthFields rest)

end

mutual

/-- No whole number is longer than those that are read. -/
def Tree.Fits : Tree → Prop
  | .leaf l => l.Fits
  | .list items => FitsItems items
  | .map fields => FitsFields fields

def FitsItems : List Tree → Prop
  | [] => True
  | t :: rest => t.Fits ∧ FitsItems rest

def FitsFields : List (String × Tree) → Prop
  | [] => True
  | (_, t) :: rest => t.Fits ∧ FitsFields rest

end

mutual

/-- **A tree that is less deep than the page is wide is legible.** -/
lemma Tree.legible_of_depth : ∀ (t : Tree) {fresh : Bool} {column : Nat}, t.Fits →
    column + 2 * t.depth + 2 < Page.width → t.Legible fresh column
  | .leaf l, _, column, fits, h => ⟨fits, fun _ => .inl (by rw [Tree.depth] at h; omega)⟩
  | .list items, fresh, column, fits, h => by
    rw [Tree.depth] at h
    refine legible_items items fits ?_
    cases fresh with
    | true =>
      rw [if_pos rfl]
      omega
    | false =>
      rw [if_neg Bool.false_ne_true]
      omega
  | .map fields, _, column, fits, h => by
    rw [Tree.depth] at h
    exact legible_fields fields fits (by omega)

lemma legible_items : ∀ (items : List Tree) {column : Nat}, FitsItems items →
    column + 2 * depthItems items + 2 < Page.width → LegibleItems column items
  | [], _, _, _ => trivial
  | t :: rest, column, fits, h => by
    rw [depthItems] at h
    exact ⟨t.legible_of_depth fits.1 (by omega), legible_items rest fits.2 (by omega)⟩

lemma legible_fields : ∀ (fields : List (String × Tree)) {column : Nat}, FitsFields fields →
    column + 2 * depthFields fields + 2 < Page.width → LegibleFields column fields
  | [], _, _, _ => trivial
  | (key, t) :: rest, column, fits, h => by
    rw [depthFields] at h
    exact ⟨fun _ => ⟨trivial, fun _ => .inl (by omega)⟩, t.legible_of_depth fits.1 (by omega),
      legible_fields rest fits.2 (by omega)⟩

end

/-! ### The value of the nodes -/

/-- The fields of a mapping with their values. -/
def fieldValues : List (String × Tree) → List (String × Value) :=
  List.map fun (key, t) => (key, t.value)

lemma entries_eq (fields : List (String × Tree)) :
    entries fields = (fieldValues fields).map fun (name, v) => (.text name, v) := by
  induction fields with
  | nil => rfl
  | cons x fields ih =>
    obtain ⟨key, t⟩ := x
    rw [entries, ih]
    rfl

lemma keys_eq (fields : List (String × Tree)) :
    (fieldValues fields).map (·.1) = fields.map (·.1) := by
  rw [fieldValues, List.map_map]
  rfl

mutual

/-- **The value of the nodes is that of the tree.** -/
lemma Tree.plain : ∀ (t : Tree) {fresh : Bool} {column : Nat}, t.Legible fresh column →
    t.Distinct → plainValue t.node = some t.value
  | .leaf l, _, _, legible, _ => l.plain_node (Leaf.Legible.fits legible)
  | .list items, _, _, legible, distinct => by
    rw [Tree.node, plainValue, plain_items items legible distinct]
    rfl
  | .map fields, _, _, legible, distinct => by
    obtain ⟨hkeys, distinct⟩ := distinct
    rw [← keys_eq] at hkeys
    rw [Tree.node, plainValue, plain_fields fields legible distinct, Tree.value, entries_eq]
    exact if_pos hkeys

lemma plain_items : ∀ (items : List Tree) {column : Nat}, LegibleItems column items →
    DistinctItems items → plainItems (itemNodes items) = some (values items)
  | [], _, _, _ => rfl
  | t :: rest, _, legible, distinct => by
    rw [itemNodes, plainItems, t.plain legible.1 distinct.1, plain_items rest legible.2 distinct.2]
    rfl

lemma plain_fields : ∀ (fields : List (String × Tree)) {column : Nat},
    LegibleFields column fields → DistinctFields fields →
    plainFields (fieldNodes fields) = some (fieldValues fields)
  | [], _, _, _ => rfl
  | (key, t) :: rest, _, legible, distinct => by
    rw [fieldNodes, Leaf.node, Leaf.tag, plainFields, t.plain legible.2.1 distinct.1,
      plain_fields rest legible.2.2 distinct.2]
    rfl

end

/-! ### Making the nodes -/

section

variable {handles : Node.Handles} {place : Node.Place} {fuel : Nat} {fresh : Bool}
  {rest : List Token}

lemma endsEntry_tokens (t : Tree) : Node.endsEntry (t.tokens true ++ rest) = false := by
  rcases t with l | (_ | ⟨t, items⟩) | (_ | ⟨x, fields⟩) <;> rfl

lemma endsPart_tokens (t : Tree) : Node.endsPart (t.tokens fresh ++ rest) = false := by
  rcases t with l | (_ | ⟨t, items⟩) | (_ | ⟨x, fields⟩) <;> cases fresh <;> rfl

lemma tokens_pos (fresh : Bool) (t : Tree) : 0 < (t.tokens fresh).length := by
  rcases t with l | (_ | ⟨t, items⟩) | (_ | ⟨x, fields⟩) <;> cases fresh <;>
    simp [Tree.tokens, itemTokens]

/-- A node whose token is a scalar. -/
lemma parse_leaf {l : Leaf} (fits : l.Fits) :
    Node.parse handles place (fuel + 1) (l.token :: rest) = .ok (l.node, rest) := by
  refine Json.parse_scalar.trans ?_
  rw [l.scalarTag_eq fits]
  rfl

lemma parse_items (h : place ≠ .flow) : Node.parse handles place (fuel + 1)
    (.blockSequenceStart :: rest) = (do
      let (items, rest) ← Node.blockItems handles fuel rest
      return (.sequence none .sequence items, rest)) := by
  cases place with
  | flow => exact absurd rfl h
  | block | blockValue => rfl

lemma parse_fields (h : place ≠ .flow) : Node.parse handles place (fuel + 1)
    (.blockMappingStart :: rest) = (do
      let (entries, rest) ← Node.blockEntries handles fuel rest
      return (.mapping none .mapping entries, rest)) := by
  cases place with
  | flow => exact absurd rfl h
  | block | blockValue => rfl

lemma parse_plain : Node.parse handles .blockValue (fuel + 1) (.blockEntry :: rest) = (do
    let (items, rest) ← Node.plainItems handles fuel (.blockEntry :: rest)
    return (.sequence none .sequence items, rest)) := rfl

lemma blockItems_cons (t : Tree) : Node.blockItems handles (fuel + 1)
    (.blockEntry :: (t.tokens true ++ rest)) = (do
      let (item, rest) ← Node.parse handles .block fuel (t.tokens true ++ rest)
      let (items, rest) ← Node.blockItems handles fuel rest
      return (item :: items, rest)) := by
  rw [Node.blockItems, endsEntry_tokens]
  rfl

lemma plainItems_cons (t : Tree) : Node.plainItems handles (fuel + 1)
    (.blockEntry :: (t.tokens true ++ rest)) = (do
      let (item, rest) ← Node.parse handles .block fuel (t.tokens true ++ rest)
      let (items, rest) ← Node.plainItems handles fuel rest
      return (item :: items, rest)) := by
  rw [Node.plainItems, endsEntry_tokens, endsPart_tokens]
  rfl

lemma plainItems_end (h : Node.endsPart rest = true) :
    Node.plainItems handles (fuel + 1) rest = .ok ([], rest) := by
  cases rest with
  | nil => cases h
  | cons t rest => cases t <;> first | rfl | cases h

lemma blockEntries_cons (key : Leaf) (t : Tree) : Node.blockEntries handles (fuel + 2)
    (.key :: key.token :: .value :: (t.tokens fresh ++ rest)) = (do
      let (key, rest) ← Node.parse handles .blockValue (fuel + 1)
        (key.token :: .value :: (t.tokens fresh ++ rest))
      let (value, rest) ← Node.blockValue handles (fuel + 1) rest
      let (entries, rest) ← Node.blockEntries handles (fuel + 1) rest
      return ((key, value) :: entries, rest)) := rfl

lemma blockValue_cons (t : Tree) : Node.blockValue handles (fuel + 1)
    (.value :: (t.tokens fresh ++ rest)) =
      Node.parse handles .blockValue fuel (t.tokens fresh ++ rest) := by
  rw [Node.blockValue, endsPart_tokens]
  rfl

mutual

/-- **The tokens of a tree make its nodes**, with anything after them; a list that is not indented
ends where the next part of its mapping begins. -/
lemma Tree.parse (t : Tree) {handles : Node.Handles} {place : Node.Place} {fuel column : Nat}
    {fresh : Bool} {rest : List Token} (legible : t.Legible fresh column) (hplace : place ≠ .flow)
    (hfresh : fresh = false → place = .blockValue ∧ Node.endsPart rest = true)
    (h : 2 * (t.tokens fresh).length ≤ fuel) :
    Node.parse handles place fuel (t.tokens fresh ++ rest) = .ok (t.node, rest) := by
  have hpos := tokens_pos fresh t
  obtain ⟨fuel, rfl⟩ := Nat.exists_eq_add_of_le (show 2 ≤ fuel by omega)
  rw [Nat.add_comm]
  match t with
  | .leaf l => exact parse_leaf (Leaf.Legible.fits legible)
  | .list [] => rfl
  | .map [] => rfl
  | .map (x :: fields) =>
    simp only [Tree.tokens, List.length_append, List.length_cons, List.length_nil] at h
    have hfields : Node.blockEntries handles (fuel + 1)
        (fieldTokens (x :: fields) ++ .blockEnd :: rest) = .ok (fieldNodes (x :: fields), rest) :=
      parse_fieldTokens (x :: fields) legible (by omega)
    simp only [Tree.tokens, List.cons_append, List.append_assoc, List.nil_append]
    rw [parse_fields hplace]
    exact bind_of_ok _ hfields
  | .list (t :: items) =>
    cases fresh with
    | true =>
      simp only [Tree.tokens, if_true, List.length_append, List.length_cons, List.length_nil] at h
      have hitems : Node.blockItems handles (fuel + 1)
          (itemTokens (t :: items) ++ .blockEnd :: rest) = .ok (itemNodes (t :: items), rest) :=
        parse_itemTokens (t :: items) legible (by omega)
      simp only [Tree.tokens, if_true, List.cons_append, List.append_assoc, List.nil_append]
      rw [parse_items hplace]
      exact bind_of_ok _ hitems
    | false =>
      obtain ⟨rfl, hrest⟩ := hfresh rfl
      simp only [Tree.tokens, Bool.false_eq_true, if_false] at h
      have hitems : Node.plainItems handles (fuel + 1) (itemTokens (t :: items) ++ rest) =
          .ok (itemNodes (t :: items), rest) := parse_plainTokens (t :: items) hrest legible (by omega)
      simp only [Tree.tokens, Bool.false_eq_true, if_false]
      exact parse_plain.trans (bind_of_ok _ hitems)

lemma parse_itemTokens (items : List Tree) {handles : Node.Handles} {fuel column : Nat}
    {rest : List Token} (legible : LegibleItems column items)
    (h : 2 * (itemTokens items).length + 1 ≤ fuel) :
    Node.blockItems handles fuel (itemTokens items ++ .blockEnd :: rest) =
      .ok (itemNodes items, rest) := by
  obtain ⟨fuel, rfl⟩ := Nat.exists_eq_add_one_of_ne_zero (show fuel ≠ 0 by omega)
  match items with
  | [] => rfl
  | t :: items =>
    simp only [itemTokens, List.length_append, List.length_cons] at h
    simp only [itemTokens, List.cons_append, List.append_assoc]
    rw [blockItems_cons, t.parse legible.1 (by decide) nofun (by omega)]
    exact bind_of_ok _ (parse_itemTokens items legible.2 (by omega))

lemma parse_plainTokens (items : List Tree) {handles : Node.Handles} {fuel column : Nat}
    {rest : List Token} (hrest : Node.endsPart rest = true) (legible : LegibleItems column items)
    (h : 2 * (itemTokens items).length ≤ fuel + 2) :
    Node.plainItems handles (fuel + 1) (itemTokens items ++ rest) = .ok (itemNodes items, rest) := by
  match items with
  | [] => exact plainItems_end hrest
  | t :: items =>
    have hpos := tokens_pos true t
    simp only [itemTokens, List.length_append, List.length_cons] at h
    obtain ⟨fuel, rfl⟩ := Nat.exists_eq_add_one_of_ne_zero (show fuel ≠ 0 by omega)
    simp only [itemTokens, List.cons_append, List.append_assoc]
    rw [plainItems_cons, t.parse legible.1 (by decide) nofun (by omega)]
    exact bind_of_ok _ (parse_plainTokens items hrest legible.2 (by omega))

lemma parse_fieldTokens (fields : List (String × Tree)) {handles : Node.Handles}
    {fuel column : Nat} {rest : List Token} (legible : LegibleFields column fields)
    (h : 2 * (fieldTokens fields).length + 1 ≤ fuel) :
    Node.blockEntries handles fuel (fieldTokens fields ++ .blockEnd :: rest) =
      .ok (fieldNodes fields, rest) := by
  match fields with
  | [] =>
    obtain ⟨fuel, rfl⟩ := Nat.exists_eq_add_one_of_ne_zero (show fuel ≠ 0 by omega)
    rfl
  | (key, t) :: fields =>
    simp only [fieldTokens, List.length_append, List.length_cons] at h
    obtain ⟨fuel, rfl⟩ := Nat.exists_eq_add_of_le (show 2 ≤ fuel by omega)
    simp only [fieldTokens, List.cons_append, List.append_assoc]
    have hfields : Node.blockEntries handles (fuel + 1) (fieldTokens fields ++ .blockEnd :: rest) =
        .ok (fieldNodes fields, rest) := parse_fieldTokens fields legible.2.2 (by omega)
    have hends : Node.endsPart (fieldTokens fields ++ .blockEnd :: rest) = true := by
      rcases fields with _ | ⟨⟨key, t⟩, fields⟩ <;> rfl
    rw [Nat.add_comm, blockEntries_cons]
    refine (bind_of_ok _ (parse_leaf (l := .text key) trivial)).trans ?_
    refine (bind_of_ok _ ((blockValue_cons t).trans
      (t.parse legible.2.1 (by decide) (fun _ => ⟨rfl, hends⟩) (by omega)))).trans ?_
    exact bind_of_ok _ hfields

end

end

end Testbed.Trees
