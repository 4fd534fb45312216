import Mathlib
import Testbed.Proofs.Folding

/-!
Documents one after the other.

Only a scalar that is a whole document can be open at its end. A document of a mapping ends with
its last line, so the documents of a stream are written as they are written alone.
-/

namespace Testbed.Streams

open Folding
open Yaml
open Yaml.Writing

/-! ### Pages -/

section

variable {p : Page} {n : Nat}

@[simp] lemma newLine_openEnded (n : Nat) (p : Page) : (p.newLine n).openEnded = p.openEnded := by
  unfold Page.newLine
  dsimp only
  split <;> split <;> rfl

@[simp] lemma mark_openEnded (chars : List Char) (apart nesting spaced : Bool) (p : Page) :
    (p.mark chars apart nesting spaced).openEnded = false := rfl

@[simp] lemma plainWords_openEnded (n : Nat) (split : Bool) (before : Option Char) (text : List Char)
    (p : Page) : (Page.plainWords n split before text p).openEnded = p.openEnded := by
  induction text generalizing before p with
  | nil => rfl
  | cons ch text ih =>
    rw [Page.plainWords, ih]
    split <;> simp

lemma blockLines_openEnded (n : Nat) (text : List Char) (p : Page) :
    (Page.blockLines n text p).openEnded = p.openEnded := by
  induction text generalizing p with
  | nil => rfl
  | cons ch text ih =>
    unfold Page.blockLines
    split
    · rfl
    · rfl
    · cases ‹_ = _ :: _›
      rw [ih, newLine_openEnded]
      rfl
    · cases ‹_ = _ :: _›
      rw [ih]
      rfl

lemma plain_openEnded (n : Nat) (split : Bool) (text : List Char) (p : Page) :
    (p.plain n split false text).openEnded = p.openEnded := by
  unfold Page.plain
  simp only [Bool.false_eq_true, if_false]
  split
  · rfl
  · rw [plainWords_openEnded, within_openEnded]
    split <;> rfl

lemma block_openEnded (n : Nat) (text : List Char) (p : Page) :
    (p.block n text).openEnded = false := by
  rw [Page.block, blockLines_openEnded, newLine_openEnded]
  rfl

/-- A scalar that is no whole document leaves nothing open. -/
lemma writeContent_openEnded {role : Role} (hrole : role ≠ .root) (indent : Option Nat)
    (content : Scalar.Content) (hp : p.openEnded = false) :
    (writeContent role indent content p).openEnded = false := by
  have hroot : (role == .root) = false := beq_eq_false_iff_ne.2 hrole
  unfold writeContent
  simp only [hroot]
  split
  · rw [plain_openEnded]
    split
    · rfl
    · exact hp
  · rfl
  · rfl
  · exact block_openEnded ..

end

/-! ### Nodes -/

/-- If nothing is open, nothing is left open. -/
def Shuts (write : Draft → Draft) : Prop :=
  ∀ d, d.page.openEnded = false → (write d).page.openEnded = false

section

variable {write : Draft → Draft} {shared : List Label}

lemma shuts_anchored (label : Option Label) (h : Shuts write) :
    Shuts (anchored shared label write) := by
  intro d hd
  unfold anchored
  split
  · exact h d hd
  · split
    · rfl
    · exact h _ rfl

lemma shuts_item {column : Nat} {write : Role → Option Nat → Draft → Draft}
    (h : Shuts (write .item (some column))) : Shuts (item column write) := fun _ _ => h _ rfl

lemma shuts_key {column : Nat} {k : Value} {write : Role → Option Nat → Draft → Draft} :
    Shuts (key shared column k write) := by
  intro d hd
  unfold key
  dsimp only
  split <;> rfl

mutual

/-- A node that is no whole document leaves nothing open. -/
lemma shuts_node (v : Value) {role : Role} {indent : Option Nat} (hrole : role ≠ .root) :
    Shuts (Writing.node shared v role indent) := by
  cases v with
  | list label items =>
    intro d hd
    rw [Writing.node]
    refine shuts_anchored label (fun d hd => ?_) d hd
    split
    · rfl
    · exact shuts_nodes items d hd
  | pair a b =>
    intro d hd
    rw [Writing.node]
    exact shuts_item (shuts_node b (by decide)) _ (shuts_item (shuts_node a (by decide)) _ hd)
  | map label es => exact shuts_map label es
  | set label items =>
    intro d hd
    rw [Writing.node]
    refine shuts_anchored label (fun d hd => ?_) d hd
    dsimp only
    split
    · rfl
    · exact shuts_members items _ rfl
  | _ =>
    intro d hd
    rw [Writing.node]
    · refine shuts_anchored _ (fun d hd => ?_) d hd
      split
      · exact writeContent_openEnded hrole _ _ hd
      · exact hd
    all_goals nofun

/-- A mapping leaves nothing open, also as a whole document. -/
lemma shuts_map (label : Option Label) (es : List (Value × Value)) {role : Role}
    {indent : Option Nat} : Shuts (Writing.node shared (.map label es) role indent) := by
  intro d hd
  rw [Writing.node]
  refine shuts_anchored label (fun d hd => ?_) d hd
  split
  · rfl
  · exact shuts_pairs es d hd

lemma shuts_nodes : ∀ (items : List Value) {column : Nat}, Shuts (Writing.nodes shared column items)
  | [], _ => fun _ hd => hd
  | v :: rest, column => by
    intro d hd
    rw [Writing.nodes]
    exact shuts_nodes rest _ (shuts_item (shuts_node v (by decide)) _ hd)

lemma shuts_pairs : ∀ (es : List (Value × Value)) {column : Nat},
    Shuts (Writing.pairs shared column es)
  | [], _ => fun _ hd => hd
  | (k, v) :: rest, column => by
    intro d hd
    rw [Writing.pairs]
    exact shuts_pairs rest _ (shuts_node v (by decide) _ (shuts_key d hd))

lemma shuts_members : ∀ (items : List Value) {column : Nat},
    Shuts (Writing.members shared column items)
  | [], _ => fun _ hd => hd
  | v :: rest, column => by
    intro d hd
    rw [Writing.members]
    exact shuts_members rest _ (writeContent_openEnded (by decide) _ _ (shuts_key d hd))

end

end

/-! ### Documents -/

/-- The value is a mapping. -/
def IsMap (v : Value) : Prop := ∃ label es, v = .map label es

lemma document_shuts {v : Value} (h : IsMap v) : (document v).2 = false := by
  obtain ⟨label, es, rfl⟩ := h
  exact shuts_map label es _ rfl

lemma stream_mappings {bodies : List Value} (h : ∀ b ∈ bodies, IsMap b) :
    stream bodies = String.join (bodies.map fun b => (document b).1) := by
  have hlast : ∀ x ∈ (bodies.map document).getLast?, x.2 = false := by
    intro x hx
    obtain ⟨b, hb, rfl⟩ := List.mem_map.1 (List.mem_of_getLast? hx)
    exact document_shuts (h b hb)
  unfold stream
  dsimp only
  rw [List.map_map]
  cases hx : (bodies.map document).getLast? with
  | none => exact String.append_empty
  | some x =>
    obtain ⟨text, ended⟩ := x
    obtain rfl := hlast _ hx
    exact String.append_empty

lemma stream_single {v : Value} (h : IsMap v) : stream [v] = (document v).1 := by
  rw [stream_mappings (by simpa using h)]
  simp [String.join]

/-- **The stream of mappings is that of each alone, one after the other.** -/
theorem stream_eq {bodies : List Value} (h : ∀ b ∈ bodies, IsMap b) :
    stream bodies = String.join (bodies.map fun b => stream [b]) := by
  rw [stream_mappings h]
  congr 1
  exact List.map_congr_left fun b hb => (stream_single (h b hb)).symm

end Testbed.Streams
