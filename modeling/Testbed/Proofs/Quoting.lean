import Mathlib
import Testbed.Proofs.Scanning

/-!
Reading between quotes.

A text is read character by character: most stand for themselves, an escape stands for another
one, and a line break with the blanks around it is folded. Each of these is a step from one place
to the next, and a text that ends with its quote is read by as many steps as it takes.
-/

namespace Testbed.Quoting

open Scanning
open Yaml

/-- From this place on, the text up to the closing quote is read. -/
def Reads (quote : Char) (c : Cursor) (text : List Char) (after : Cursor) : Prop :=
  ∀ fuel, c.rest.length ≤ fuel → Scalar.quoted quote fuel c = .ok (text, after)

def isBlank (ch : Char) : Bool := ch == ' ' || ch == '\t'

/-- What follows the blanks here is no line break, so they belong to the text. -/
def Clear (c : Cursor) : Prop := (c.skip isBlank).lineBreak? = none

section

variable {quote ch : Char} {c after : Cursor} {text r : List Char}

lemma exists_fuel {fuel : Nat} (h : c.rest = ch :: r) (hf : c.rest.length ≤ fuel) :
    ∃ f, fuel = f + 1 ∧ r.length ≤ f := by
  rw [h, List.length_cons] at hf
  exact ⟨fuel - 1, by omega, by omega⟩

lemma clear_of_stop (h : ∀ ch ∈ c.rest.head?, isBlank ch = false ∧ isBreak ch = false) :
    Clear c := by
  unfold Clear
  rw [skip_self fun ch hch => (h ch hch).1]
  exact lineBreak_eq_none fun ch hch => (h ch hch).2

lemma Clear.blank (h : Clear c.next) (hc : c.rest = ch :: r) (hch : isBlank ch = true) :
    Clear c := by
  unfold Clear
  rw [skip_next hc hch]
  exact h

/-- The quote ends the text. -/
lemma Reads.close (h : c.rest = quote :: r) (hr : quote = '\x27' → r.head? ≠ some '\x27') :
    Reads quote c [] c.next := by
  intro fuel hf
  obtain ⟨f, rfl, -⟩ := exists_fuel h hf
  rw [Scalar.quoted, h]
  by_cases hq : quote = '\x27'
  · have hhead := hr hq
    subst hq
    simp [hhead]
  · simp [hq]

/-- A character that stands for itself. -/
lemma Reads.ordinary (more : Reads quote c.next text after) (h : c.rest = ch :: r)
    (hq : ch ≠ quote) (hb : ch = '\\' → quote ≠ '\x22') (hw : endsWord ch = false) :
    Reads quote c (ch :: text) after := by
  intro fuel hf
  obtain ⟨f, rfl, hf'⟩ := exists_fuel h hf
  have hescape : (ch == '\\' && quote == '\x22') = false := by
    by_cases hch : ch = '\\'
    · simp [hb hch]
    · simp [hch]
  rw [Scalar.quoted, h]
  simp only [beq_eq_false_iff_ne.2 hq, hescape, hw, Bool.false_eq_true, if_false]
  rw [more f (by rwa [next_rest h])]
  rfl

lemma quoted_blank (h : c.rest = ch :: r) (hch : isBlank ch = true) (hq : isBlank quote = false)
    (hc : Clear c) (fuel : Nat) : Scalar.quoted quote (fuel + 1) c = (do
      let (more, c') ← Scalar.quoted quote fuel (c.skip isBlank)
      return ((c.span isBlank).1 ++ more, c')) := by
  have hne : (ch == quote) = false := by
    rw [beq_eq_false_iff_ne]
    rintro rfl
    exact absurd (hch.symm.trans hq) (by decide)
  have hword : endsWord ch = true := by
    rcases Bool.or_eq_true_iff.1 hch with h | h <;> rw [beq_iff_eq.1 h] <;> rfl
  have hescape : (ch == '\\' && quote == '\x22') = false := by
    rcases Bool.or_eq_true_iff.1 hch with h | h <;> rw [beq_iff_eq.1 h] <;> rfl
  rw [Scalar.quoted, h]
  simp only [hne, hescape, hword, Bool.false_eq_true, if_false, if_true]
  rw [show (c.span fun ch => ch == ' ' || ch == '\t').2.lineBreak? = none from hc]
  rfl

/-- A blank within a line. -/
lemma Reads.blank (more : Reads quote c.next text after) (h : c.rest = ch :: r)
    (hch : isBlank ch = true) (hq : isBlank quote = false) (hc : Clear c.next) :
    Reads quote c (ch :: text) after := by
  intro fuel hf
  obtain ⟨f, rfl, hf'⟩ := exists_fuel h hf
  have hnext := next_rest h
  rw [quoted_blank h hch hq (hc.blank h hch), skip_next h hch, span_next h hch]
  by_cases hd : ∃ d r', r = d :: r' ∧ isBlank d = true
  · -- the next blank is read in one go with this one
    obtain ⟨d, r', rfl, hd⟩ := hd
    have hread := more (f + 1) (by rw [hnext]; omega)
    rw [quoted_blank hnext hd hq hc] at hread
    cases hrest : Scalar.quoted quote f (c.next.skip isBlank) with
    | error e =>
      rw [hrest] at hread
      cases hread
    | ok found =>
      rw [hrest] at hread
      cases hread
      rfl
  · have hstop : ∀ d ∈ c.next.rest.head?, isBlank d = false := by
      intro d hhead
      rw [hnext] at hhead
      cases r with
      | nil => cases hhead
      | cons e r' =>
        cases hhead
        by_contra hblank
        exact hd ⟨_, r', rfl, by simpa using hblank⟩
    rw [skip_self hstop, more f (by rwa [hnext]), span_eq (w := []) rfl (List.forall_mem_nil _) hstop]
    rfl

/-- Two apostrophes stand for one. -/
lemma Reads.apostrophe (more : Reads '\x27' (c.advance 2) text after)
    (h : c.rest = '\x27' :: '\x27' :: r) : Reads '\x27' c ('\x27' :: text) after := by
  intro fuel hf
  obtain ⟨f, rfl, hf'⟩ := exists_fuel h hf
  have hrest : (c.advance 2).rest = r := advance_rest (w := ['\x27', '\x27']) h
  rw [Scalar.quoted, h]
  simp only [BEq.rfl, if_true, List.head?_cons, Bool.and_self]
  rw [more f (by rw [hrest]; simp at hf'; omega)]
  rfl

/-- A backslash and what it escapes. -/
lemma Reads.escape {c' : Cursor} {chars : List Char} (more : Reads '\x22' c' text after)
    (h : c.rest = '\\' :: r) (hescape : Scalar.escape c.next = .ok (chars, c'))
    (hlen : c'.rest.length ≤ r.length) : Reads '\x22' c (chars ++ text) after := by
  intro fuel hf
  obtain ⟨f, rfl, hf'⟩ := exists_fuel h hf
  rw [Scalar.quoted, h]
  have hne : ('\\' == '\x22') = false := rfl
  simp only [hne, BEq.rfl, Bool.and_self, Bool.false_eq_true, if_false, if_true]
  refine (bind_of_ok _ hescape).trans ?_
  exact bind_of_ok _ (more f (by omega))

/-! ### Escapes -/

lemma escape_letter {e : Char} (h : c.rest = ch :: r) (he : Scalar.escaped? ch = some e) :
    Scalar.escape c = .ok ([e], c.next) := by
  unfold Scalar.escape
  rw [h]
  simp only [he]

/-- Hexadecimal digits after their letter. -/
lemma escape_code {digits : List Char} {code : Nat} {e : Char} (h : c.rest = ch :: digits ++ r)
    (hletter : Scalar.escaped? ch = none) (hwidth : Scalar.escapeWidth? ch = some digits.length)
    (hcode : Scalar.hexNumber? digits = some code) (he : Scalar.character code = .ok e) :
    Scalar.escape c = .ok ([e], c.advance (digits.length + 1)) := by
  unfold Scalar.escape
  rw [h, List.cons_append]
  have htake : (digits ++ r).take digits.length = digits := List.take_left' rfl
  simp only [hletter, hwidth, htake, if_true, hcode, he]
  rfl

end

end Testbed.Quoting
