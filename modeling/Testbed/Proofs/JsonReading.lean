import Mathlib
import Testbed.Proofs.JsonScan
import Testbed.Proofs.Nodes

/-!
A legible text of JSON, read as YAML.

Its tokens make the tree that its structure calls for, and the value of the tree is what the text
means.
-/

namespace Testbed.Json

open Nodes
open Scanning (bind_of_ok)
open Yaml

/-! ### The tree of a document -/

mutual

def Doc.node : Doc → Node
  | .null => .scalar none .null "null"
  | .bool b => .scalar none .bool (if b then "true" else "false")
  | .number n => .scalar none n.tag (String.ofList n.chars)
  | .string pieces => .scalar none .text (meant pieces)
  | .emptyArray _ => .sequence none .sequence []
  | .array items => .sequence none .sequence items.nodes
  | .emptyObject _ => .mapping none .mapping []
  | .object members => .mapping none .mapping members.nodes

def Items.nodes : Items → List Node
  | .one _ d _ => [d.node]
  | .more _ d _ rest => d.node :: rest.nodes

def Members.nodes : Members → List (Node × Node)
  | .one name _ d _ => [(.scalar none .text (meant name.pieces), d.node)]
  | .more name _ d _ rest => (.scalar none .text (meant name.pieces), d.node) :: rest.nodes

end

/-! ### Making the tree -/

section

variable {handles : Node.Handles} {place : Node.Place} {fuel : Nat} {rest : List Token}

lemma resolve_null : Schema.resolve "null" = .null := by
  decide +kernel

lemma resolve_bool (b : Bool) : Schema.resolve (if b then "true" else "false") = .bool := by
  cases b <;> decide +kernel

lemma parse_scalar {text : String} {plain : Bool} : Node.parse handles place (fuel + 1)
    (.scalar text plain :: rest) = .ok (.scalar none (Node.scalarTag none plain text) text, rest) :=
  rfl

/-- An item is a node and what follows it. -/
lemma flowItems_eq (first : Bool) (d : Doc) :
    Node.flowItems handles first (fuel + 1)
      ((if first then [] else [.flowEntry]) ++ (d.tokens ++ rest)) = (do
        let (item, rest) ← Node.parse handles .flow fuel (d.tokens ++ rest)
        let (items, rest) ← Node.flowItems handles false fuel rest
        return (item :: items, rest)) := by
  cases first <;> cases d <;> rfl

/-- An entry is a key, a node, and what follows it. -/
lemma flowEntries_eq (first : Bool) (key : String) (d : Doc) :
    Node.flowEntries handles first (fuel + 2)
      ((if first then [] else [.flowEntry]) ++
        (.key :: .scalar key false :: .value :: (d.tokens ++ rest))) = (do
        let (value, rest) ← Node.parse handles .flow (fuel + 1) (d.tokens ++ rest)
        let (entries, rest) ← Node.flowEntries handles false (fuel + 1) rest
        return ((.scalar none .text key, value) :: entries, rest)) := by
  cases first <;> cases d <;> rfl

lemma tokens_pos (d : Doc) : 1 ≤ d.tokens.length := by
  cases d <;> simp [Doc.tokens]

mutual

/-- **The tokens of a document make its tree**, whatever follows them. -/
lemma Doc.parse (d : Doc) (legible : d.Legible) {handles : Node.Handles} {place : Node.Place}
    {fuel : Nat} {rest : List Token} (h : d.tokens.length ≤ fuel) :
    Node.parse handles place fuel (d.tokens ++ rest) = .ok (d.node, rest) := by
  have hpos := tokens_pos d
  obtain ⟨fuel, rfl⟩ := Nat.exists_eq_add_one_of_ne_zero (show fuel ≠ 0 by omega)
  cases d with
  | null =>
    refine parse_scalar.trans ?_
    rw [Node.scalarTag, if_pos rfl, resolve_null]
    rfl
  | bool b =>
    refine parse_scalar.trans ?_
    rw [Node.scalarTag, if_pos rfl, resolve_bool]
    rfl
  | number n =>
    refine parse_scalar.trans ?_
    rw [Node.scalarTag, if_pos rfl, Number.resolve_eq legible]
    rfl
  | string pieces => exact parse_scalar
  | emptyArray w =>
    obtain ⟨fuel, rfl⟩ := Nat.exists_eq_add_one_of_ne_zero
      (show fuel ≠ 0 by simp [Doc.tokens] at h; omega)
    rfl
  | array items =>
    have hitems : Node.flowItems handles true fuel (items.tokens ++ .flowSequenceEnd :: rest) =
        .ok (items.nodes, rest) := items.parse legible true (by simp [Doc.tokens] at h; omega)
    simp only [Doc.tokens, List.cons_append, List.append_assoc, List.nil_append]
    exact bind_of_ok _ hitems
  | emptyObject w =>
    obtain ⟨fuel, rfl⟩ := Nat.exists_eq_add_one_of_ne_zero
      (show fuel ≠ 0 by simp [Doc.tokens] at h; omega)
    rfl
  | object members =>
    have hmembers : Node.flowEntries handles true fuel
        (members.tokens ++ .flowMappingEnd :: rest) = .ok (members.nodes, rest) :=
      members.parse legible true (by simp [Doc.tokens] at h; omega)
    simp only [Doc.tokens, List.cons_append, List.append_assoc, List.nil_append]
    exact bind_of_ok _ hmembers

lemma Items.parse (items : Items) (legible : items.Legible) {handles : Node.Handles}
    {fuel : Nat} {rest : List Token} (first : Bool) (h : items.tokens.length + 1 ≤ fuel) :
    Node.flowItems handles first fuel ((if first then [] else [.flowEntry]) ++
      (items.tokens ++ .flowSequenceEnd :: rest)) = .ok (items.nodes, rest) := by
  cases items with
  | one before d after =>
    have hpos := tokens_pos d
    simp only [Items.tokens] at h ⊢
    obtain ⟨fuel, rfl⟩ := Nat.exists_eq_add_one_of_ne_zero (show fuel ≠ 0 by omega)
    rw [flowItems_eq, d.parse legible.2.1 (by omega)]
    obtain ⟨fuel, rfl⟩ := Nat.exists_eq_add_one_of_ne_zero (show fuel ≠ 0 by omega)
    rfl
  | more before d after items =>
    have hpos := tokens_pos d
    simp only [Items.tokens, List.length_append, List.length_cons] at h
    simp only [Items.tokens, List.append_assoc, List.cons_append]
    obtain ⟨fuel, rfl⟩ := Nat.exists_eq_add_one_of_ne_zero (show fuel ≠ 0 by omega)
    have hrest : Node.flowItems handles false fuel
        (.flowEntry :: (items.tokens ++ .flowSequenceEnd :: rest)) = .ok (items.nodes, rest) :=
      items.parse legible.2 false (by omega)
    rw [flowItems_eq, d.parse legible.1.2.1 (by omega)]
    exact bind_of_ok _ hrest

lemma Members.parse (members : Members) (legible : members.Legible) {handles : Node.Handles}
    {fuel : Nat} {rest : List Token} (first : Bool) (h : members.tokens.length + 1 ≤ fuel) :
    Node.flowEntries handles first fuel ((if first then [] else [.flowEntry]) ++
      (members.tokens ++ .flowMappingEnd :: rest)) = .ok (members.nodes, rest) := by
  cases members with
  | one name before d after =>
    have hpos := tokens_pos d
    simp only [Members.tokens, Name.tokens, List.length_append, List.length_cons] at h
    simp only [Members.tokens, Name.tokens, List.cons_append, List.nil_append]
    obtain ⟨fuel, rfl⟩ := Nat.exists_eq_add_of_le (show 2 ≤ fuel by omega)
    rw [Nat.add_comm, flowEntries_eq, d.parse legible.2.2.1 (by omega)]
    rfl
  | more name before d after members =>
    have hpos := tokens_pos d
    simp only [Members.tokens, Name.tokens, List.length_append, List.length_cons] at h
    simp only [Members.tokens, Name.tokens, List.append_assoc, List.cons_append, List.nil_append]
    obtain ⟨fuel, rfl⟩ := Nat.exists_eq_add_of_le (show 2 ≤ fuel by omega)
    have hrest : Node.flowEntries handles false (fuel + 1)
        (.flowEntry :: (members.tokens ++ .flowMappingEnd :: rest)) = .ok (members.nodes, rest) :=
      members.parse legible.2 false (by omega)
    rw [Nat.add_comm, flowEntries_eq, d.parse legible.1.2.2.1 (by omega)]
    exact bind_of_ok _ hrest

end

end

/-! ### The value of the tree -/

def Members.fields : Members → List (String × Value)
  | .one name _ d _ => [(meant name.pieces, d.value)]
  | .more name _ d _ rest => (meant name.pieces, d.value) :: rest.fields

lemma Members.entries_eq (members : Members) :
    members.entries = members.fields.map fun (name, v) => (.text name, v) := by
  cases members with
  | one => rfl
  | more name before d after rest =>
    rw [Members.entries, rest.entries_eq]
    rfl

lemma Members.keys_eq (members : Members) : members.keys = members.fields.map (·.1) := by
  cases members with
  | one => rfl
  | more name before d after rest =>
    rw [Members.keys, rest.keys_eq]
    rfl

lemma number_tag (n : Number) : n.tag.isCollection = false := by
  unfold Number.tag
  split <;> rfl

mutual

/-- **The value of the tree is what the document means.** -/
lemma Doc.plain (d : Doc) (legible : d.Legible) (distinct : d.Distinct) :
    plainValue d.node = some d.value := by
  cases d with
  | null => rfl
  | bool b =>
    have htrue : Reading.truth "true" = .ok true := by
      have h : "true".toLower = "true" := by decide +kernel
      simp [Reading.truth, h]
    have hfalse : Reading.truth "false" = .ok false := by
      have h : "false".toLower = "false" := by decide +kernel
      simp [Reading.truth, h]
    cases b with
    | true => simp [Doc.node, plainValue, Tag.isCollection, Reading.scalar, htrue]; rfl
    | false => simp [Doc.node, plainValue, Tag.isCollection, Reading.scalar, hfalse]; rfl
  | number n =>
    rw [Doc.node, plainValue, number_tag, Number.scalar_eq legible]
    rfl
  | string pieces => rfl
  | emptyArray w => rfl
  | array items =>
    rw [Doc.node, plainValue, items.plain legible distinct]
    rfl
  | emptyObject w => rfl
  | object members =>
    obtain ⟨hkeys, distinct⟩ := distinct
    rw [Members.keys_eq] at hkeys
    rw [Doc.node, plainValue, members.plain legible distinct, Doc.value, members.entries_eq]
    exact if_pos hkeys

lemma Items.plain (items : Items) (legible : items.Legible) (distinct : items.Distinct) :
    plainItems items.nodes = some items.values := by
  cases items with
  | one before d after =>
    rw [Items.nodes, plainItems, d.plain legible.2.1 distinct]
    rfl
  | more before d after rest =>
    rw [Items.nodes, plainItems, d.plain legible.1.2.1 distinct.1, rest.plain legible.2 distinct.2]
    rfl

lemma Members.plain (members : Members) (legible : members.Legible)
    (distinct : members.Distinct) : plainFields members.nodes = some members.fields := by
  cases members with
  | one name before d after =>
    rw [Members.nodes, plainFields, d.plain legible.2.2.1 distinct]
    rfl
  | more name before d after rest =>
    rw [Members.nodes, plainFields, d.plain legible.1.2.2.1 distinct.1,
      rest.plain legible.2 distinct.2]
    rfl

end

/-! ### The characters of a text -/

section

variable {c : Char}

lemma isAllowed_space {w : Space} : ∀ c ∈ w.1, isAllowed c = true := by
  intro c hc
  have hspace := w.2 c hc
  simp only [isSpace, Bool.or_eq_true, beq_iff_eq] at hspace
  rcases hspace with ((rfl | rfl) | rfl) | rfl <;> rfl

lemma isAllowed_number (n : Number) : ∀ c ∈ n.chars, isAllowed c = true := by
  intro c hc
  have hbounds := (n.numeric c hc).bounds
  exact (onLine_printed (by omega)).1

lemma isAllowed_quoted {pieces : List Piece} (legible : ∀ p ∈ pieces, p.Legible) :
    ∀ c ∈ quoted pieces, isAllowed c = true :=
  fun c hc => (onLine_quoted legible c hc).1

lemma isAllowed_name {name : Name} (legible : name.Legible) :
    ∀ c ∈ name.chars, isAllowed c = true := by
  intro c hc
  simp only [Name.chars, List.mem_append] at hc
  rcases hc with (hc | hc) | hc
  · exact isAllowed_space c hc
  · exact isAllowed_quoted legible.pieces c hc
  · exact isAllowed_space c hc

mutual

lemma Doc.allowed (d : Doc) (legible : d.Legible) : ∀ c ∈ d.chars, isAllowed c = true := by
  cases d with
  | null => simp [Doc.chars, isAllowed]
  | bool b => cases b <;> simp [Doc.chars, isAllowed]
  | number n => exact isAllowed_number n
  | string pieces => exact isAllowed_quoted legible
  | emptyArray w | emptyObject w =>
    simp only [Doc.chars, List.cons_append, List.forall_mem_cons, List.forall_mem_append]
    exact ⟨rfl, isAllowed_space, rfl, nofun⟩
  | array items =>
    simp only [Doc.chars, List.cons_append, List.forall_mem_cons, List.forall_mem_append]
    exact ⟨rfl, items.allowed legible, rfl, nofun⟩
  | object members =>
    simp only [Doc.chars, List.cons_append, List.forall_mem_cons, List.forall_mem_append]
    exact ⟨rfl, members.allowed legible, rfl, nofun⟩

lemma Items.allowed (items : Items) (legible : items.Legible) :
    ∀ c ∈ items.chars, isAllowed c = true := by
  cases items with
  | one before d after =>
    simp only [Items.chars, List.forall_mem_append]
    exact ⟨⟨isAllowed_space, d.allowed legible.2.1⟩, isAllowed_space⟩
  | more before d after rest =>
    simp only [Items.chars, List.forall_mem_append, List.forall_mem_cons]
    exact ⟨⟨⟨isAllowed_space, d.allowed legible.1.2.1⟩, isAllowed_space⟩, rfl,
      rest.allowed legible.2⟩

lemma Members.allowed (members : Members) (legible : members.Legible) :
    ∀ c ∈ members.chars, isAllowed c = true := by
  cases members with
  | one name before d after =>
    simp only [Members.chars, List.forall_mem_append, List.forall_mem_cons]
    exact ⟨⟨⟨isAllowed_name legible.1, rfl, isAllowed_space⟩, d.allowed legible.2.2.1⟩,
      isAllowed_space⟩
  | more name before d after rest =>
    simp only [Members.chars, List.forall_mem_append, List.forall_mem_cons]
    exact ⟨⟨⟨⟨isAllowed_name legible.1.1, rfl, isAllowed_space⟩, d.allowed legible.1.2.2.1⟩,
      isAllowed_space⟩, rfl, rest.allowed legible.2⟩

end

end

/-! ### Texts -/

/-- **A legible text of JSON, read as YAML, denotes what it means as JSON.** -/
theorem load_text {t : ObjectText} (legible : t.Legible) (distinct : t.doc.Distinct) :
    load t.text = .ok t.doc.value := by
  have allowed : ∀ c ∈ t.text.toList, isAllowed c = true := by
    rw [ObjectText.text, String.toList_ofList]
    simp only [ObjectText.chars, List.forall_mem_append]
    exact ⟨⟨isAllowed_space, t.doc.allowed legible.doc⟩, isAllowed_space⟩
  have scanned : Yaml.tokens t.text.toList = .ok t.doc.tokens := by
    rw [ObjectText.text, String.toList_ofList, tokens_text legible]
  have parsed : Node.ofTokens? t.doc.tokens = .ok (some t.doc.node) := by
    have hparse : Node.parse Node.standardHandles .block (4 * t.doc.tokens.length + 8)
        (t.doc.tokens ++ []) = .ok (t.doc.node, []) := t.doc.parse legible.doc (by omega)
    rw [List.append_nil] at hparse
    exact bind_of_ok _ hparse
  exact load_eq allowed scanned parsed (t.doc.plain legible.doc distinct)

end Testbed.Json
