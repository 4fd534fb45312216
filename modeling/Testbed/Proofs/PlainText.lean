import Mathlib
import Testbed.Proofs.Scanning

/-!
Reading plain texts.

A plain text is a sequence of words with blanks between them. It ends where a blank is followed by
something that cannot go on with it: an indicator, or a line that is not indented enough.
-/

namespace Testbed.PlainText

open Scanning
open Yaml

/-- No document mark stands at the start of this text. -/
def MarkFree (rest : List Char) : Prop := ∀ c : Cursor, c.rest = rest → c.atDocumentMark = false

section

variable {c : Cursor} {ch : Char} {g r rest : List Char}

lemma markFree_cons (hminus : ch ≠ '-') (hpoint : ch ≠ '.') : MarkFree (ch :: r) := by
  intro c hc
  unfold Cursor.atDocumentMark Cursor.atMark
  rw [hc]
  simp [hminus, hpoint]

lemma IsGap.markFree (hg : IsGap g) (hr : MarkFree rest) : MarkFree (g ++ rest) := by
  cases g with
  | nil => exact hr
  | cons ch g =>
    rcases hg ch (List.mem_cons_self ..) with rfl | rfl | rfl <;>
      exact markFree_cons (by decide) (by decide)

lemma plainBreaks_space {fuel : Nat} (h : c.rest = ' ' :: r) :
    Scalar.plainBreaks (fuel + 1) c = Scalar.plainBreaks fuel c.next := by
  have hpeek : c.peek 0 = some ' ' := by
    unfold Cursor.peek
    rw [h]
    rfl
  rw [Scalar.plainBreaks, lineBreak_eq_none (by rw [h]; simp [isBreak])]
  simp [hpeek]

lemma plainBreaks_line {fuel : Nat} {b : List Char} (hb : IsLineBreak r b)
    (h : c.rest = b ++ r) (hm : MarkFree r) : Scalar.plainBreaks (fuel + 1) c =
      ((Scalar.plainBreaks fuel (c.advance b.length)).1.map ('\n' :: ·),
        (Scalar.plainBreaks fuel (c.advance b.length)).2) := by
  rw [Scalar.plainBreaks, lineBreak_eq hb h]
  simp [hm _ (advance_rest h)]

lemma plainBreaks_stop {fuel : Nat} (h : Stops c.rest) :
    Scalar.plainBreaks (fuel + 1) c = (some [], c) := by
  have hpeek : (c.peek 0 == some ' ') = false := by
    unfold Cursor.peek
    cases hc : c.rest with
    | nil => rfl
    | cons ch r => simpa using (h ch (by rw [hc]; rfl)).1
  rw [Scalar.plainBreaks, lineBreak_eq_none fun ch hch => (h ch hch).2.2.2]
  simp [hpeek]

/-- After a break, all blanks and breaks are taken. -/
lemma exists_plainBreaks (hg : IsGap g) (hr : Stops rest) (hm : MarkFree rest)
    (h : c.rest = g ++ rest) {fuel : Nat} (hf : g.length < fuel) :
    ∃ breaks, Scalar.plainBreaks fuel c = (some breaks, c.advance g.length) ∧
      ((∀ ch ∈ g, isBreak ch = false) → breaks = []) := by
  induction gap_of_isGap hr hg generalizing fuel c with
  | nil =>
    obtain ⟨fuel, rfl⟩ := Nat.exists_eq_add_one_of_ne_zero (by omega : fuel ≠ 0)
    exact ⟨[], plainBreaks_stop (by rwa [h]), fun _ => rfl⟩
  | @space g more ih =>
    obtain ⟨fuel, rfl⟩ := Nat.exists_eq_add_one_of_ne_zero (by omega : fuel ≠ 0)
    have hf' : g.length < fuel := by
      simp at hf
      omega
    obtain ⟨breaks, hbreaks, hnone⟩ := ih (List.forall_mem_cons.1 hg).2 (next_rest h) hf'
    exact ⟨breaks, (plainBreaks_space h).trans hbreaks, fun hall =>
      hnone fun ch hch => hall ch (List.mem_cons_of_mem _ hch)⟩
  | @line b g hb more ih =>
    obtain ⟨fuel, rfl⟩ := Nat.exists_eq_add_one_of_ne_zero (by omega : fuel ≠ 0)
    rw [List.append_assoc] at h
    have hgap : IsGap g := fun ch hch => hg ch (List.mem_append_right _ hch)
    obtain ⟨ch, b', rfl, hch, -⟩ := hb.head
    have hf' : g.length < fuel := by
      simp at hf
      omega
    obtain ⟨breaks, hbreaks, -⟩ := ih hgap (advance_rest h) hf'
    refine ⟨'\n' :: breaks, ?_, fun hall => ?_⟩
    · rw [plainBreaks_line hb h (IsGap.markFree hgap hm), hbreaks, List.length_append, advance_add]
      rfl
    · rw [hall ch (by simp)] at hch
      cases hch

/-- Spaces in a line stand for themselves. -/
lemma plainBlanks_spaces (hg : ∀ ch ∈ g, ch = ' ') (hr : Stops rest) (h : c.rest = g ++ rest) :
    Scalar.plainBlanks c = (g, false, c.advance g.length) := by
  have hspan : c.span (· == ' ') = (g, c.advance g.length) :=
    span_eq h (fun ch hch => by simp [hg ch hch]) fun ch hch => by simp [(hr ch hch).1]
  have hbreak : (c.advance g.length).lineBreak? = none := by
    apply lineBreak_eq_none
    rw [advance_rest h]
    exact fun ch hch => (hr ch hch).2.2.2
  unfold Scalar.plainBlanks
  rw [hspan]
  simp only [hbreak]

/-- A line break takes all blanks around it. -/
lemma exists_plainBlanks_line {b spaces : List Char} (hspaces : ∀ ch ∈ spaces, ch = ' ')
    (hb : IsLineBreak (g ++ rest) b) (hg : IsGap g) (hr : Stops rest) (hm : MarkFree rest)
    (h : c.rest = spaces ++ (b ++ (g ++ rest))) : ∃ breaks, Scalar.plainBlanks c =
      (Scalar.fold '\n' breaks, true, c.advance (spaces ++ (b ++ g)).length) ∧
      ((∀ ch ∈ g, isBreak ch = false) → breaks = []) := by
  have hspan : c.span (· == ' ') = (spaces, c.advance spaces.length) := by
    obtain ⟨ch, b', rfl, -, hspace, -⟩ := hb.head
    exact span_eq h (fun ch hch => by simp [hspaces ch hch]) fun d hd => by
      cases hd
      simp [hspace]
  have hrest := advance_rest h
  have hrest' := advance_rest hrest
  have hf : g.length < ((c.advance spaces.length).advance b.length).rest.length + 1 := by
    rw [hrest', List.length_append]
    omega
  obtain ⟨breaks, hbreaks, hnone⟩ := exists_plainBreaks hg hr hm hrest' hf
  refine ⟨breaks, ?_, hnone⟩
  unfold Scalar.plainBlanks
  rw [hspan]
  simp only [lineBreak_eq hb hrest, (IsGap.markFree hg hm) _ hrest',
    Bool.false_eq_true, if_false, hbreaks]
  simp only [List.length_append, advance_add]

/-- All blanks after a word are taken. -/
lemma exists_plainBlanks (hg : IsGap g) (hr : Stops rest) (hm : MarkFree rest)
    (h : c.rest = g ++ rest) :
    ∃ gap ended, Scalar.plainBlanks c = (gap, ended, c.advance g.length) := by
  obtain ⟨spaces, g', rfl, hspaces, hhead⟩ : ∃ spaces g', g = spaces ++ g' ∧
      (∀ ch ∈ spaces, ch = ' ') ∧ ∀ ch ∈ g'.head?, ch ≠ ' ' := by
    refine ⟨g.takeWhile (· == ' '), g.dropWhile (· == ' '),
      (List.takeWhile_append_dropWhile ..).symm, fun ch hch => ?_, fun ch hch => ?_⟩
    · simpa using List.mem_takeWhile_imp hch
    · have hnot := List.head?_dropWhile_not (· == ' ') g
      rw [Option.mem_def.1 hch] at hnot
      simpa using hnot
  have hg' : IsGap g' := fun ch hch => hg ch (List.mem_append_right _ hch)
  cases gap_of_isGap hr hg' with
  | nil =>
    rw [List.append_nil] at h ⊢
    exact ⟨spaces, false, plainBlanks_spaces hspaces hr h⟩
  | space more => exact absurd rfl (hhead ' ' rfl)
  | @line b g'' hb more =>
    rw [List.append_assoc, List.append_assoc] at h
    obtain ⟨breaks, hbreaks, -⟩ := exists_plainBlanks_line hspaces hb
      (fun ch hch => hg' ch (List.mem_append_right _ hch)) hr hm h
    exact ⟨_, _, hbreaks⟩

/-! ### Words -/

/-- The characters of a word: up to a blank, a colon that ends a key, and within brackets up to
what separates or ends the collection. -/
def IsWord (flow : Bool) (w r : List Char) : Prop :=
  w ≠ [] ∧ w.head? ≠ some '#' ∧ Scalar.plainLength flow (w ++ r) = w.length

/-- A word, and what follows it. -/
lemma plain_word {flow : Bool} {indent : Int} {fuel : Nat} {blanks w gap : List Char}
    {lineEnded ended : Bool} {c' : Cursor} (hw : IsWord flow w r) (h : c.rest = w ++ r)
    (hblanks : Scalar.plainBlanks (c.advance w.length) = (gap, ended, c')) :
    Scalar.plain flow indent (fuel + 1) blanks lineEnded c =
      if gap.isEmpty || c'.peek 0 == some '#' || (!flow && (c'.column : Int) < indent) then
        ⟨blanks ++ w, ended, c'⟩
      else
        let more := Scalar.plain flow indent fuel gap ended c'
        { more with text := blanks ++ w ++ more.text } := by
  obtain ⟨hne, hhash, hlength⟩ := hw
  have hpeek : (c.peek 0 == some '#') = false := by
    unfold Cursor.peek
    rw [h]
    cases w with
    | nil => exact absurd rfl hne
    | cons ch w => simpa using hhash
  have hcount : (w.length == 0) = false := by simpa using hne
  have htake : (w ++ r).take w.length = w := List.take_left' rfl
  rw [Scalar.plain]
  simp only [h, hcount, hpeek, hlength, htake, hblanks, Bool.or_self, Bool.false_eq_true, if_false]

/-- Nothing but a word starts here. -/
lemma plain_stop {flow : Bool} {indent : Int} {fuel : Nat} {blanks : List Char} {lineEnded : Bool}
    (h : Scalar.plainLength flow c.rest = 0) :
    Scalar.plain flow indent (fuel + 1) blanks lineEnded c = ⟨[], lineEnded, c⟩ := by
  rw [Scalar.plain]
  simp [h]

end

end Testbed.PlainText
