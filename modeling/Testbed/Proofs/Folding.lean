import Mathlib
import Testbed.Proofs.BlockScan
import Testbed.Yaml.Reading
import Testbed.Yaml.Writing

/-!
How texts are folded, and read back.

A text that is written may go on in the next line. Between apostrophes and in a plain text a line
break takes the place of a space, between double quotes it is escaped; in each of the three styles
the characters that are written are read as the text.
-/

namespace Testbed.Folding

open BlockScan
open PlainText
open Quoting
open Scanning
open Yaml

/-! ### Pages -/

section

variable {p q : Page} {n : Nat} {chars : List Char}

@[simp] lemma put_text (chars : List Char) (p : Page) :
    (p.put chars).text.toList = p.text.toList ++ chars := by
  simp [Page.put]

@[simp] lemma put_column (chars : List Char) (p : Page) :
    (p.put chars).column = p.column + chars.length := rfl

@[simp] lemma put_fresh (chars : List Char) (p : Page) : (p.put chars).fresh = p.fresh := rfl

@[simp] lemma put_spaced (chars : List Char) (p : Page) : (p.put chars).spaced = p.spaced := rfl

@[simp] lemma put_openEnded (chars : List Char) (p : Page) :
    (p.put chars).openEnded = p.openEnded := rfl

@[simp] lemma within_text (p : Page) : p.within.text = p.text := rfl

@[simp] lemma within_column (p : Page) : p.within.column = p.column := rfl

@[simp] lemma within_fresh (p : Page) : p.within.fresh = false := rfl

@[simp] lemma within_openEnded (p : Page) : p.within.openEnded = p.openEnded := rfl

@[simp] lemma lineBreak_text (p : Page) : p.lineBreak.text.toList = p.text.toList ++ ['\n'] := by
  simp [Page.lineBreak]

lemma mark_text (chars : List Char) (apart nesting spaced : Bool) (p : Page) :
    (p.mark chars apart nesting spaced).text.toList =
      p.text.toList ++ if p.spaced || !apart then chars else ' ' :: chars :=
  put_text _ p

/-- The page goes on with these characters, and is at a column of a line that holds nothing else. -/
structure Starts (n : Nat) (p : Page) (w : List Char) (q : Page) : Prop where
  text : q.text.toList = p.text.toList ++ w
  column : q.column = n
  spaced : q.spaced = true
  fresh : q.fresh = true
  openEnded : q.openEnded = p.openEnded

/-- The indentation of a line that holds only what it may be after. -/
lemma newLine_indent (hfresh : p.fresh = true) (hn : p.column ≤ n)
    (hspaced : p.column = n → p.spaced = true) :
    Starts n p (List.replicate (n - p.column) ' ') (p.newLine n) := by
  have hstay : (!p.fresh || decide (n < p.column) || (p.column == n && !p.spaced)) = false := by
    simpa [hfresh, hn] using hspaced
  unfold Page.newLine
  simp only [hstay, Bool.false_eq_true, if_false]
  by_cases hlt : p.column < n
  · rw [if_pos hlt]
    exact ⟨put_text _ p, by simp; omega, rfl, hfresh, rfl⟩
  · rw [if_neg hlt, Nat.sub_eq_zero_of_le (by omega)]
    exact ⟨(List.append_nil _).symm, by omega, hspaced (by omega), hfresh, rfl⟩

/-- A new line. -/
lemma newLine_break (h : p.fresh = false ∨ n < p.column) :
    Starts n p (nextLine n []) (p.newLine n) := by
  have hbreak : (!p.fresh || decide (n < p.column) || (p.column == n && !p.spaced)) = true := by
    rcases h with h | h <;> simp [h]
  have hline : p.newLine n = p.lineBreak.newLine n := by
    unfold Page.newLine
    simp [hbreak, Page.lineBreak]
  have hstarts := newLine_indent (p := p.lineBreak) (n := n) rfl (Nat.zero_le _) fun _ => rfl
  rw [hline]
  refine ⟨?_, hstarts.column, hstarts.spaced, hstarts.fresh, hstarts.openEnded⟩
  rw [hstarts.text]
  simp [nextLine, Page.lineBreak]

end

/-! ### Line breaks between quotes -/

/-- Neither a blank nor a line break follows. -/
def Solid (c : Cursor) : Prop := ∀ ch ∈ c.rest.head?, isBlank ch = false ∧ isBreak ch = false

/-- After a line break, further ones are read from here, and then the text. -/
structure Resumes (quote : Char) (c : Cursor) (breaks text : List Char) (after : Cursor) :
    Prop where
  exists_after : ∃ c', c'.rest.length ≤ c.rest.length ∧ Reads quote c' text after ∧
    ∀ fuel, c.rest.length < fuel → Scalar.quotedBreaks fuel c = .ok (breaks, c')

section

variable {c after : Cursor} {quote : Char} {n : Nat} {breaks text r : List Char}

lemma quotedBreaks_succ (hmark : c.atDocumentMark = false) (fuel : Nat) :
    Scalar.quotedBreaks (fuel + 1) c =
      match (c.skip isBlank).lineBreak? with
      | none => .ok ([], c.skip isBlank)
      | some (b, c) => (do
        let (more, c) ← Scalar.quotedBreaks fuel c
        return (b :: more, c)) := by
  rw [Scalar.quotedBreaks, hmark, if_neg Bool.false_ne_true]
  rfl

/-- The indentation of a line is no part of the text. -/
lemma quotedBreaks_indent (hn : 0 < n) (h : c.rest = List.replicate n ' ' ++ r)
    (solid : Solid (c.advance n)) (fuel : Nat) :
    Scalar.quotedBreaks (fuel + 1) c = .ok ([], c.advance n) := by
  have hrest : (c.advance n).rest = r := by
    have := advance_rest h
    rwa [List.length_replicate] at this
  have hmark : c.atDocumentMark = false := by
    obtain ⟨n, rfl⟩ := Nat.exists_eq_add_one_of_ne_zero (Nat.pos_iff_ne_zero.1 hn)
    exact markFree_cons (show ' ' ≠ '-' by decide) (by decide) c h
  have hskip : c.skip isBlank = c.advance n := by
    have hall : ∀ ch ∈ List.replicate n ' ', isBlank ch = true := by
      intro ch hch
      rw [List.eq_of_mem_replicate hch]
      rfl
    have := skip_eq (p := isBlank) h hall fun ch hch => (solid ch (by rwa [hrest])).1
    rwa [List.length_replicate] at this
  have hbreak : (c.advance n).lineBreak? = none :=
    lineBreak_eq_none fun ch hch => (solid ch hch).2
  rw [quotedBreaks_succ hmark, hskip, hbreak]

lemma Resumes.indent (more : Reads quote (c.advance n) text after) (hn : 0 < n)
    (h : c.rest = List.replicate n ' ' ++ r) (solid : Solid (c.advance n)) :
    Resumes quote c [] text after := by
  refine ⟨c.advance n, ?_, more, fun fuel hf => ?_⟩
  · have hrest := advance_rest h
    rw [List.length_replicate] at hrest
    rw [hrest, h]
    simp
  · obtain ⟨fuel, rfl⟩ := Nat.exists_eq_add_one_of_ne_zero (show fuel ≠ 0 by omega)
    exact quotedBreaks_indent hn h solid fuel

lemma Resumes.line (more : Resumes quote c.next breaks text after) (h : c.rest = '\n' :: r) :
    Resumes quote c ('\n' :: breaks) text after := by
  obtain ⟨c', hlen, reads, hbreaks⟩ := more.exists_after
  have hrest : c.next.rest = r := next_rest h
  have hmark : c.atDocumentMark = false :=
    markFree_cons (show '\n' ≠ '-' by decide) (by decide) c h
  have hskip : c.skip isBlank = c := by
    refine skip_self fun ch hch => ?_
    rw [h] at hch
    cases hch
    rfl
  refine ⟨c', ?_, reads, fun fuel hf => ?_⟩
  · rw [hrest] at hlen
    rw [h, List.length_cons]
    omega
  · obtain ⟨fuel, rfl⟩ := Nat.exists_eq_add_one_of_ne_zero (show fuel ≠ 0 by omega)
    rw [quotedBreaks_succ hmark, hskip, lineBreak_eq (w := ['\n']) .lineFeed h]
    exact bind_of_ok _ (hbreaks fuel (by rw [h] at hf; rw [hrest]; simp at hf; omega))

/-- A line break, and what is read after it. -/
lemma quoted_break (hquote : quote = '\x27' ∨ quote = '\x22') (h : c.rest = '\n' :: r)
    (fuel : Nat) : Scalar.quoted quote (fuel + 1) c = (do
      let (breaks, c) ← Scalar.quotedBreaks (c.next.rest.length + 1) c.next
      let (more, c) ← Scalar.quoted quote fuel c
      return (Scalar.fold '\n' breaks ++ more, c)) := by
  have hspan : c.span isBlank = ([], c) := by
    refine span_eq (w := []) h (List.forall_mem_nil _) ?_
    rintro ch ⟨⟩
    rfl
  have hne : ('\n' == quote) = false := by rcases hquote with rfl | rfl <;> rfl
  have hescape : ('\n' == '\\' && quote == '\x22') = false := rfl
  have hword : endsWord '\n' = true := rfl
  rw [Scalar.quoted, h]
  simp only [hne, hescape, hword, Bool.false_eq_true, if_false, if_true]
  have hbreak := lineBreak_eq (w := ['\n']) .lineFeed h
  rw [show (c.span fun ch => ch == ' ' || ch == '\t') = ([], c) from hspan]
  simp only [hbreak]
  rfl

/-- One line break is a space. -/
lemma Reads.fold (more : Reads quote (c.next.advance n) text after)
    (hquote : quote = '\x27' ∨ quote = '\x22') (hn : 0 < n) (h : c.rest = nextLine n r)
    (solid : Solid (c.next.advance n)) : Reads quote c (' ' :: text) after := by
  intro fuel hf
  obtain ⟨f, rfl, hf'⟩ := exists_fuel h hf
  have hrest : c.next.rest = List.replicate n ' ' ++ r := next_rest h
  have hlen : (c.next.advance n).rest.length ≤ f := by
    have := advance_rest hrest
    rw [List.length_replicate] at this
    rw [this]
    simp at hf'
    omega
  rw [quoted_break hquote h]
  refine (bind_of_ok _ (quotedBreaks_indent hn hrest solid _)).trans ?_
  exact bind_of_ok _ (more f hlen)

/-- Of several line breaks the first is dropped. -/
lemma Reads.lines (more : Resumes quote c.next.next breaks text after)
    (hquote : quote = '\x27' ∨ quote = '\x22') (h : c.rest = '\n' :: '\n' :: r) :
    Reads quote c ('\n' :: (breaks ++ text)) after := by
  intro fuel hf
  obtain ⟨f, rfl, hf'⟩ := exists_fuel h hf
  have hrest : c.next.rest = '\n' :: r := next_rest h
  obtain ⟨c', hlen, reads, hbreaks⟩ := (more.line hrest).exists_after
  rw [quoted_break hquote h]
  refine (bind_of_ok _ (hbreaks _ (Nat.lt_succ_self _))).trans ?_
  exact bind_of_ok _ (reads f (by rw [hrest] at hlen; omega))

/-- Between double quotes an escaped line break is no part of the text. -/
lemma Reads.broken (more : Reads '\x22' (c.next.next.advance n) text after) (hn : 0 < n)
    (h : c.rest = '\\' :: nextLine n r) (solid : Solid (c.next.next.advance n)) :
    Reads '\x22' c text after := by
  have hnext : c.next.rest = nextLine n r := next_rest h
  have hrest : c.next.next.rest = List.replicate n ' ' ++ r := next_rest hnext
  have hescape : Scalar.escape c.next = .ok ([], c.next.next.advance n) := by
    have hbreak := lineBreak_eq (w := ['\n']) .lineFeed hnext
    unfold Scalar.escape
    rw [hnext]
    simp only [nextLine, show Scalar.escaped? '\n' = none from rfl,
      show Scalar.escapeWidth? '\n' = none from rfl, hbreak]
    exact quotedBreaks_indent hn hrest solid _
  have hlen : (c.next.next.advance n).rest.length ≤ (nextLine n r).length := by
    have := advance_rest hrest
    rw [List.length_replicate] at this
    rw [this]
    simp [nextLine]
    omega
  exact Reads.escape more h hescape hlen

end

/-! ### Pieces of a text between quotes -/

/-- The characters begin with neither a blank nor a line break. -/
def Firm (w : List Char) : Prop := ∀ ch ∈ w.head?, isBlank ch = false ∧ isBreak ch = false

/-- No line break follows the blanks that the characters begin with. -/
def Clears (w : List Char) : Prop := ∀ ch ∈ (w.dropWhile isBlank).head?, isBreak ch = false

section

variable {c : Cursor} {quote ch : Char} {n : Nat} {w breaks text r : List Char}

lemma firm_nil : Firm [] := by
  rintro _ ⟨⟩

lemma Firm.clears (h : Firm w) : Clears w := by
  cases w with
  | nil => rintro _ ⟨⟩
  | cons d w =>
    have hd := h d rfl
    unfold Clears
    rw [List.dropWhile_cons_of_neg (by simp [hd.1])]
    rintro e ⟨⟩
    exact hd.2

lemma Clears.space (h : Clears w) : Clears (' ' :: w) := by
  unfold Clears
  rwa [List.dropWhile_cons_of_pos rfl]

lemma quote_firm (hquote : quote = '\x27' ∨ quote = '\x22') :
    isBlank quote = false ∧ isBreak quote = false := by
  rcases hquote with rfl | rfl <;> decide

lemma Firm.solid (h : Firm w) (hquote : quote = '\x27' ∨ quote = '\x22')
    (hrest : c.rest = w ++ quote :: r) : Solid c := by
  intro d hd
  rw [hrest] at hd
  cases w with
  | nil =>
    cases hd
    exact quote_firm hquote
  | cons e w => exact h d hd

lemma Clears.clear (h : Clears w) (hquote : quote = '\x27' ∨ quote = '\x22')
    (hrest : c.rest = w ++ quote :: r) : Clear c := by
  induction w generalizing c with
  | nil => exact clear_of_stop (firm_nil.solid hquote hrest)
  | cons d w ih =>
    by_cases hd : isBlank d = true
    · unfold Clears at h
      rw [List.dropWhile_cons_of_pos hd] at h
      exact (ih h (next_rest hrest)).blank hrest hd
    · unfold Clears at h
      rw [List.dropWhile_cons_of_neg hd] at h
      refine clear_of_stop fun e he => ?_
      rw [hrest] at he
      cases he
      exact ⟨by simpa using hd, h _ rfl⟩

lemma Quoted.nil : Quoted quote [] [] :=
  fun _ _ hrest hr => Reads.close hrest fun h => h ▸ hr

lemma Quoted.ordinary (more : Quoted quote w text) (hq : ch ≠ quote)
    (hb : ch = '\\' → quote ≠ '\x22') (hw : endsWord ch = false) :
    Quoted quote (ch :: w) (ch :: text) :=
  fun c r hrest hr => (more c.next r (next_rest hrest) hr).ordinary hrest hq hb hw

lemma Quoted.space (more : Quoted quote w text) (hquote : quote = '\x27' ∨ quote = '\x22')
    (clears : Clears w) : Quoted quote (' ' :: w) (' ' :: text) :=
  fun c r hrest hr => (more c.next r (next_rest hrest) hr).blank hrest rfl (quote_firm hquote).1
    (clears.clear hquote (next_rest hrest))

lemma Quoted.apostrophe (more : Quoted '\x27' w text) :
    Quoted '\x27' ('\x27' :: '\x27' :: w) ('\x27' :: text) := fun c r hrest hr =>
  (more (c.advance 2) r (advance_rest (w := ['\x27', '\x27']) hrest) hr).apostrophe hrest

lemma advance_line_rest (hrest : c.rest = nextLine n r) : (c.next.advance n).rest = r := by
  have h := advance_rest (w := '\n' :: List.replicate n ' ') (r := r) hrest
  rwa [List.length_cons, advance_succ, List.length_replicate] at h

lemma advance_line_length (c : Cursor) :
    (c.next.advance n).advance (w.length + 1) = c.advance ((nextLine n w).length + 1) := by
  rw [← advance_succ, ← advance_add]
  congr 1
  simp [nextLine]
  omega

lemma Quoted.fold (more : Quoted quote w text) (hquote : quote = '\x27' ∨ quote = '\x22')
    (hn : 0 < n) (firm : Firm w) : Quoted quote (nextLine n w) (' ' :: text) := by
  intro c r hrest hr
  rw [nextLine_append] at hrest
  have hline := advance_line_rest hrest
  have hread := more _ r hline hr
  rw [advance_line_length] at hread
  exact Reads.fold hread hquote hn hrest (firm.solid hquote hline)

/-- After a line break, the characters are read as further ones and a text. -/
def Continued (w breaks text : List Char) : Prop :=
  ∀ (c : Cursor) (r : List Char), c.rest = w ++ '\x27' :: r → r.head? ≠ some '\x27' →
    Resumes '\x27' c breaks text (c.advance (w.length + 1))

lemma Quoted.continued (more : Quoted '\x27' w text) (hn : 0 < n) (firm : Firm w) :
    Continued (List.replicate n ' ' ++ w) [] text := by
  intro c r hrest hr
  rw [List.append_assoc] at hrest
  have hrest' := advance_rest hrest
  rw [List.length_replicate] at hrest'
  have hread := more _ r hrest' hr
  rw [← advance_add, ← Nat.add_assoc] at hread
  rw [List.length_append, List.length_replicate]
  exact Resumes.indent hread hn hrest (firm.solid (.inl rfl) hrest')

lemma Continued.line (more : Continued w breaks text) :
    Continued ('\n' :: w) ('\n' :: breaks) text :=
  fun c r hrest hr => (more c.next r (next_rest hrest) hr).line hrest

lemma Continued.quoted (more : Continued w breaks text) :
    Quoted '\x27' ('\n' :: '\n' :: w) ('\n' :: (breaks ++ text)) := fun c r hrest hr =>
  Reads.lines (more c.next.next r (next_rest (next_rest hrest)) hr) (.inl rfl) hrest

/-! ### Between apostrophes -/

/-- A printable character of ASCII. -/
def Printed (ch : Char) : Prop := Spelling.isSpecial ch = false ∧ ch ≠ '\n'

instance : DecidablePred Printed := fun _ => inferInstanceAs (Decidable (_ ∧ _))

lemma Printed.line (h : Printed ch) : isBreak ch = false ∧ ch ≠ '\ufeff' := by
  obtain ⟨hplain, hline⟩ := h
  simp [Spelling.isSpecial, hline] at hplain
  constructor
  · rw [Bool.eq_false_iff]
    intro hb
    simp [isBreak, hline] at hb
    rcases hb with ((rfl | rfl) | rfl) | rfl <;> revert hplain <;> decide
  · rintro rfl
    revert hplain
    decide

lemma isAllowed_of_plain (h : Spelling.isSpecial ch = false) : isAllowed ch = true := by
  simp only [Spelling.isSpecial, Bool.and_eq_false_iff, bne_eq_false_iff_eq, Bool.not_eq_false',
    Bool.and_eq_true, decide_eq_true_eq] at h
  rcases h with rfl | h
  · rfl
  · simp [isAllowed, h]

/-- The next character goes on with a run of line breaks. -/
def InRun (before : Option Char) (text : List Char) : Prop :=
  before = some '\n' ∧ text.head? = some '\n'

/-- How the characters of a text between apostrophes are read, by the character before. -/
structure Singles (before : Option Char) (text w : List Char) : Prop where
  quoted : ¬ InRun before text → Quoted '\x27' w text
  continued : InRun before text → ∃ breaks more, text = breaks ++ more ∧ Continued w breaks more
  clears : before = some ' ' → Clears w
  firm : text.head? ≠ some ' ' → text.head? ≠ some '\n' → Firm w
  allowed : ∀ ch ∈ w, isAllowed ch = true

/-- No line break stands beside a space. -/
structure Apart (text : List Char) : Prop where
  ordinary : ∀ ch ∈ text, Spelling.isSpecial ch = false
  after : Spelling.adjacent Spelling.isTextBreak (· == ' ') text = false
  before : Spelling.adjacent (· == ' ') Spelling.isTextBreak text = false

lemma Apart.tail (h : Apart (ch :: text)) : Apart text := by
  refine ⟨fun d hd => h.ordinary d (List.mem_cons_of_mem _ hd), ?_, ?_⟩
  · have := h.after
    cases text with
    | nil => rfl
    | cons d text => exact (Bool.or_eq_false_iff.1 this).2
  · have := h.before
    cases text with
    | nil => rfl
    | cons d text => exact (Bool.or_eq_false_iff.1 this).2

lemma Apart.not_space (h : Apart ('\n' :: text)) : text.head? ≠ some ' ' := by
  cases text with
  | nil => simp
  | cons d text =>
    rintro ⟨⟩
    exact absurd h.after (by simp [Spelling.adjacent, Spelling.isTextBreak])

lemma Apart.not_break (h : Apart (' ' :: text)) : text.head? ≠ some '\n' := by
  cases text with
  | nil => simp
  | cons d text =>
    rintro ⟨⟩
    exact absurd h.before (by simp [Spelling.adjacent, Spelling.isTextBreak])

/-- The page can go on in a new line. -/
structure Roomy (n : Nat) (before : Option Char) (text : List Char) (p : Page) : Prop where
  wide : ¬ InRun before text → p.fresh = false ∨ n ≤ p.column
  beyond : ∀ b ∈ before, b ≠ ' ' → b ≠ '\n' → p.fresh = false ∨ n < p.column

lemma isAllowed_nextLine {w : List Char} (h : ∀ ch ∈ w, isAllowed ch = true) :
    ∀ ch ∈ nextLine n w, isAllowed ch = true := by
  unfold nextLine
  simp only [List.forall_mem_cons, List.forall_mem_append]
  refine ⟨rfl, fun d hd => ?_, h⟩
  rw [List.eq_of_mem_replicate hd]
  rfl

lemma endsWord_of_plain (h : Spelling.isSpecial ch = false) (hspace : ch ≠ ' ')
    (hline : ch ≠ '\n') : isBlank ch = false ∧ isBreak ch = false := by
  refine ⟨?_, (Printed.line ⟨h, hline⟩).1⟩
  rw [Bool.eq_false_iff]
  intro hb
  simp [isBlank, hspace] at hb
  subst hb
  cases h

namespace Singles

variable {before : Option Char}

lemma nil : Singles before [] [] where
  quoted _ := Quoted.nil
  continued h := by cases h.2
  clears _ := firm_nil.clears
  firm _ _ := firm_nil
  allowed := List.forall_mem_nil _

/-- A character on the line. -/
lemma cons {d : Char} (hline : ch ≠ '\n') (quoted : Quoted '\x27' (d :: w) (ch :: text))
    (clears : Clears (d :: w)) (firm : ch ≠ ' ' → Firm (d :: w))
    (allowed : ∀ e ∈ d :: w, isAllowed e = true) : Singles before (ch :: text) (d :: w) where
  quoted _ := quoted
  continued h := absurd (Option.some.inj h.2) hline
  clears _ := clears
  firm h _ := firm fun he => h (congrArg some he)
  allowed := allowed

lemma space (more : Singles (some ' ') text w) : Singles before (' ' :: text) (' ' :: w) :=
  cons (by decide) (Quoted.space (more.quoted fun h => nomatch h.1) (.inl rfl) (more.clears rfl))
    (more.clears rfl).space (fun h => absurd rfl h) (List.forall_mem_cons.2 ⟨rfl, more.allowed⟩)

lemma fold (more : Singles (some ' ') text w) (hn : 0 < n) (hbefore : before ≠ some ' ')
    (hspace : text.head? ≠ some ' ') (hline : text.head? ≠ some '\n') :
    Singles before (' ' :: text) (nextLine n w) where
  quoted _ := Quoted.fold (more.quoted fun h => nomatch h.1) (.inl rfl) hn (more.firm hspace hline)
  continued h := nomatch h.2
  clears h := absurd h hbefore
  firm h := absurd rfl h
  allowed := isAllowed_nextLine more.allowed

lemma apostrophe (more : Singles (some '\x27') text w) :
    Singles before ('\x27' :: text) ('\x27' :: '\x27' :: w) := by
  have firm : Firm ('\x27' :: '\x27' :: w) := by
    rintro d ⟨⟩
    decide
  exact cons (by decide) (Quoted.apostrophe (more.quoted fun h => nomatch h.1)) firm.clears
    (fun _ => firm)
    (List.forall_mem_cons.2 ⟨rfl, List.forall_mem_cons.2 ⟨rfl, more.allowed⟩⟩)

lemma ordinary (more : Singles (some ch) text w) (hch : Spelling.isSpecial ch = false)
    (hspace : ch ≠ ' ') (hline : ch ≠ '\n') (hquote : ch ≠ '\x27') :
    Singles before (ch :: text) (ch :: w) := by
  have hfirm := endsWord_of_plain hch hspace hline
  have firm : Firm (ch :: w) := by
    rintro d ⟨⟩
    exact hfirm
  have hword : endsWord ch = false := by
    have hblank : (ch == ' ' || ch == '\t') = false := hfirm.1
    simp [endsWord, hblank, hfirm.2]
  have hrun : ¬ InRun (some ch) text := fun h => hline (Option.some.inj h.1)
  have quoted := Quoted.ordinary (more.quoted hrun) hquote (fun _ => by decide) hword
  exact cons hline quoted firm.clears (fun _ => firm) (List.forall_mem_cons.2 ⟨isAllowed_of_plain hch, more.allowed⟩)

/-- What follows a line break is further ones or a line with its indentation. -/
lemma continues (more : Singles (some '\n') text w) (hn : 0 < n) (hspace : text.head? ≠ some ' ') :
    ∃ breaks rest, text = breaks ++ rest ∧
      Continued (if text.head? = some '\n' then w else List.replicate n ' ' ++ w) breaks rest := by
  split
  · rename_i h
    exact more.continued ⟨rfl, h⟩
  · rename_i h
    have quoted := more.quoted fun hrun => h hrun.2
    exact ⟨[], text, rfl, Quoted.continued quoted hn (more.firm hspace h)⟩

/-- A run of line breaks has one more when it is written. -/
lemma line {v breaks rest : List Char} (more : Continued v breaks rest)
    (allowed : ∀ d ∈ v, isAllowed d = true) (hbefore : before ≠ some ' ') :
    Singles before ('\n' :: (breaks ++ rest))
      (if before = some '\n' then '\n' :: v else '\n' :: '\n' :: v) where
  quoted h := by
    rw [if_neg fun hb => h ⟨hb, rfl⟩]
    exact more.quoted
  continued h := by
    rw [if_pos h.1]
    exact ⟨'\n' :: breaks, rest, rfl, more.line⟩
  clears h := absurd h hbefore
  firm _ h := absurd rfl h
  allowed := by
    split <;> simpa [isAllowed] using allowed

end Singles

/-- After a line break the page is at the next one, or past the indentation. -/
lemma room_break (n : Nat) (text : List Char) (p : Page) :
    (if text.head? == some '\n' then p.lineBreak else p.lineBreak.newLine n).text.toList =
      p.text.toList ++ '\n' :: (if text.head? = some '\n' then [] else List.replicate n ' ') ∧
    Roomy n (some '\n') text
      (if text.head? == some '\n' then p.lineBreak else p.lineBreak.newLine n) := by
  have starts := newLine_indent (p := p.lineBreak) (n := n) rfl (Nat.zero_le _) fun _ => rfl
  have hbefore : ∀ b ∈ some '\n', b ≠ ' ' → b ≠ '\n' → False := by
    rintro b ⟨⟩ - h
    exact h rfl
  by_cases hhead : text.head? = some '\n'
  · simp only [hhead, BEq.rfl, if_true]
    exact ⟨lineBreak_text p, fun h => absurd ⟨rfl, hhead⟩ h,
      fun b hb h h' => (hbefore b hb h h').elim⟩
  · have hne : (text.head? == some '\n') = false := beq_eq_false_iff_ne.2 hhead
    simp only [hne, hhead, Bool.false_eq_true, if_false]
    refine ⟨?_, fun _ => .inr (le_of_eq starts.column.symm),
      fun b hb h h' => (hbefore b hb h h').elim⟩
    rw [starts.text, lineBreak_text, List.append_assoc]
    rfl

/-- A character is written, and the page goes on: whatever is written there for the rest of the text
completes what is written for the text. -/
structure Puts (n : Nat) (before : Option Char) (ch : Char) (text : List Char) (p q : Page) :
    Prop where
  room : Roomy n (some ch) text q
  complete : ∀ w, Singles (some ch) text w →
    ∃ w', q.text.toList ++ w = p.text.toList ++ w' ∧ Singles before (ch :: text) w'

section

variable {before : Option Char} {p : Page}

lemma Roomy.put (room : Roomy n before (ch :: text) p) (hline : ch ≠ '\n') {chars : List Char}
    (hne : chars ≠ []) : Roomy n (some ch) text (p.put chars) := by
  have hwide := room.wide fun h => hline (Option.some.inj h.2)
  have hpos := List.length_pos_iff.2 hne
  exact ⟨fun _ => hwide.imp_right fun h => h.trans (Nat.le_add_right _ _),
    fun _ _ _ _ => hwide.imp_right fun h => Nat.lt_of_le_of_lt h (Nat.lt_add_of_pos_right hpos)⟩

/-- Characters on the line. -/
lemma Puts.put {chars : List Char} (room : Roomy n before (ch :: text) p) (hline : ch ≠ '\n')
    (hne : chars ≠ [])
    (more : ∀ w, Singles (some ch) text w → Singles before (ch :: text) (chars ++ w)) :
    Puts n before ch text p (p.put chars) := by
  refine ⟨room.put hline hne, fun w hw => ⟨chars ++ w, ?_, more w hw⟩⟩
  rw [put_text, List.append_assoc]

/-- A space that stands alone becomes a line break. -/
lemma puts_fold {split : Bool} (hn : 0 < n) (apart : Apart (before.toList ++ ' ' :: text))
    (apart' : Apart (' ' :: text)) (room : Roomy n before (' ' :: text) p)
    (hfold : Page.foldsHere split before text p = true) :
    Puts n before ' ' text p (p.newLine n) := by
  simp only [Page.foldsHere, Bool.and_eq_true, Option.any_eq_true] at hfold
  obtain ⟨⟨-, b, rfl, hbspace⟩, d, hd, hdspace⟩ := hfold
  have hbne : b ≠ ' ' := by simpa using hbspace
  have hbline : b ≠ '\n' := by
    rintro rfl
    exact apart.not_space rfl
  have hspace : text.head? ≠ some ' ' := by
    rw [hd]
    exact fun h => by simp [Option.some.inj h] at hdspace
  have starts := newLine_break (room.beyond b rfl hbne hbline)
  refine ⟨⟨fun _ => .inr (le_of_eq starts.column.symm), fun b hb hne => ?_⟩, fun w more => ?_⟩
  · cases hb
    exact absurd rfl hne
  · refine ⟨nextLine n w, ?_, ?_⟩
    · rw [starts.text, List.append_assoc, nextLine_append]
      rfl
    · exact more.fold hn (fun h => hbne (Option.some.inj h)) hspace apart'.not_break

/-- A line break is written twice where a run of them begins. -/
lemma puts_line (hn : 0 < n) (apart : Apart (before.toList ++ '\n' :: text))
    (apart' : Apart ('\n' :: text)) {q : Page}
    (hq : q = if before == some '\n' then p else p.lineBreak) :
    Puts n before '\n' text p
      (if text.head? == some '\n' then q.lineBreak else q.lineBreak.newLine n) := by
  obtain ⟨htext, room⟩ := room_break n text q
  refine ⟨room, fun w more => ?_⟩
  obtain ⟨breaks, rest, heq, continued⟩ := more.continues hn apart'.not_space
  have hbefore : before ≠ some ' ' := by
    rintro rfl
    exact apart.not_break rfl
  have allowed : ∀ d ∈ if text.head? = some '\n' then w else List.replicate n ' ' ++ w,
      isAllowed d = true := by
    split
    · exact more.allowed
    · refine List.forall_mem_append.2 ⟨fun d hd => ?_, more.allowed⟩
      rw [List.eq_of_mem_replicate hd]
      rfl
  have hsingles := Singles.line continued allowed hbefore
  rw [← heq] at hsingles
  refine ⟨_, ?_, hsingles⟩
  rw [htext, hq]
  by_cases hb : before = some '\n' <;> by_cases hhead : text.head? = some '\n' <;>
    simp [hb, hhead]

end

/-- **What is written for a text between apostrophes is read as the text.** -/
lemma exists_singleWords (hn : 0 < n) (split : Bool) (before : Option Char) (p : Page)
    (apart : Apart (before.toList ++ text)) (room : Roomy n before text p) :
    ∃ w, (Page.singleWords n split before text p).text.toList = p.text.toList ++ w ∧
      Singles before text w := by
  induction text generalizing before p with
  | nil => exact ⟨[], (List.append_nil _).symm, .nil⟩
  | cons ch text ih =>
    have apart' : Apart (ch :: text) := by
      cases before with
      | none => exact apart
      | some b => exact apart.tail
    have step {q : Page} (puts : Puts n before ch text p q) :
        ∃ w, (Page.singleWords n split (some ch) text q).text.toList = p.text.toList ++ w ∧
          Singles before (ch :: text) w := by
      obtain ⟨w, hw, more⟩ := ih (some ch) q apart' puts.room
      obtain ⟨w', hw', singles⟩ := puts.complete w more
      exact ⟨w', hw.trans hw', singles⟩
    rw [Page.singleWords]
    refine step ?_
    by_cases hspace : ch = ' '
    · subst hspace
      rw [if_pos BEq.rfl]
      split
      · rename_i hfold
        exact puts_fold hn apart apart' room hfold
      · exact .put room (by decide) (List.cons_ne_nil _ _) fun w => Singles.space
    rw [if_neg (beq_iff_eq.not.2 hspace)]
    by_cases hline : ch = '\n'
    · subst hline
      rw [if_pos BEq.rfl]
      exact puts_line hn apart apart' rfl
    rw [if_neg (beq_iff_eq.not.2 hline)]
    by_cases hquote : ch = '\x27'
    · subst hquote
      rw [if_pos BEq.rfl]
      exact .put room hline (List.cons_ne_nil _ _) fun w => Singles.apostrophe
    · rw [if_neg (beq_iff_eq.not.2 hquote)]
      exact .put room hline (List.cons_ne_nil _ _) fun w more =>
        more.ordinary (apart'.ordinary ch (List.mem_cons_self ..)) hspace hline hquote

end

/-! ### Escapes -/

section

variable {c : Cursor} {ch : Char} {n : Nat} {e w text r : List Char}

lemma hexValue_upper {d : Nat} (h : d < 16) :
    Scalar.hexValue? (Text.hexDigit d).toUpper = some d := by
  interval_cases d <;> decide

/-- Hexadecimal digits are read as the number that they were written for. -/
lemma hexNumber_upper (width n : Nat) :
    Scalar.hexNumber? (Page.upperHex width n) = some (n % 16 ^ width) := by
  induction width generalizing n with
  | zero => simp [Page.upperHex, Text.hex, Scalar.hexNumber?, Nat.mod_one]
  | succ width ih =>
    have hsplit : Page.upperHex (width + 1) n =
        Page.upperHex width (n / 16) ++ [(Text.hexDigit (n % 16)).toUpper] := by
      simp [Page.upperHex, Text.hex]
    have hvalue := hexValue_upper (Nat.mod_lt n (show 0 < 16 by decide))
    have hread := ih (n / 16)
    unfold Scalar.hexNumber? at hread ⊢
    rw [hsplit, List.foldl_append, hread]
    simp only [List.foldl_cons, List.foldl_nil, hvalue]
    show some (n / 16 % 16 ^ width * 16 + n % 16) = _
    rw [Nat.pow_succ', Nat.mod_mul]
    congr 1
    omega

lemma length_upperHex (width n : Nat) : (Page.upperHex width n).length = width := by
  induction width generalizing n with
  | zero => rfl
  | succ width ih =>
    have := ih (n / 16)
    simp only [Page.upperHex, List.length_map] at this ⊢
    simp [Text.hex, this]

lemma character_eq (ch : Char) : Scalar.character ch.toNat = .ok ch := by
  have hvalid : ch.toNat < 0xD800 ∨ 0xDFFF < ch.toNat ∧ ch.toNat < 0x110000 := ch.valid
  unfold Scalar.character
  rw [if_neg (by omega), if_neg (by simp; omega), Char.ofNat_toNat]

lemma upperHex_printed (width n : Nat) : ∀ d ∈ Page.upperHex width n, Printed d := by
  have hdigit : ∀ k < 16, Printed (Text.hexDigit k).toUpper := by decide
  induction width generalizing n with
  | zero => exact List.forall_mem_nil _
  | succ width ih =>
    simp only [Page.upperHex, Text.hex, List.map_append, List.forall_mem_append]
    refine ⟨ih (n / 16), ?_⟩
    simpa using hdigit _ (Nat.mod_lt n (by decide))

/-- The characters after a backslash stand for this one. -/
structure Escapes (ch : Char) (e : List Char) : Prop where
  reads : ∀ (c : Cursor) (r : List Char), c.rest = e ++ r →
    Scalar.escape c = .ok ([ch], c.advance e.length)
  printed : ∀ d ∈ e, Printed d

lemma escapes_letter {d : Char} (h : Scalar.escaped? d = some ch) (hd : Printed d) :
    Escapes ch [d] :=
  ⟨fun _ _ hrest => escape_letter hrest h, by simpa using hd⟩

lemma escapes_code {d : Char} {width : Nat} (hletter : Scalar.escaped? d = none)
    (hwidth : Scalar.escapeWidth? d = some width) (hd : Printed d)
    (hch : ch.toNat < 16 ^ width) : Escapes ch (d :: Page.upperHex width ch.toNat) := by
  have hlen := length_upperHex width ch.toNat
  refine ⟨fun c r hrest => ?_, List.forall_mem_cons.2 ⟨hd, upperHex_printed _ _⟩⟩
  refine escape_code hrest hletter (by rw [hlen]; exact hwidth) (hexNumber_upper _ _) ?_
  rw [Nat.mod_eq_of_lt hch, character_eq]

lemma of_ite {α : Type} {p : Prop} [Decidable p] {a b x : α} (h : (if p then a else b) = x) :
    p ∧ a = x ∨ b = x := by
  split at h
  · exact .inl ⟨‹_›, h⟩
  · exact .inr h

/-- **An escape that is written is read as its character.** -/
lemma exists_escapes (h : Page.escape? ch = some e) : ∃ e', e = '\\' :: e' ∧ Escapes ch e' := by
  have hchar {d : Char} (hk : (ch == d) = true) : ch = d := beq_iff_eq.1 hk
  have hcode {k : Nat} (hk : (ch.toNat == k) = true) : ch = Char.ofNat k := by
    rw [← beq_iff_eq.1 hk, Char.ofNat_toNat]
  have hvalid : ch.toNat < 16 ^ 8 := by
    have hvalid : ch.toNat < 0xD800 ∨ 0xDFFF < ch.toNat ∧ ch.toNat < 0x110000 := ch.valid
    omega
  unfold Page.escape? at h
  iterate 2
    rcases of_ite h with ⟨hk, h'⟩ | h
    · cases h'
      obtain rfl := hchar hk
      exact ⟨_, rfl, escapes_letter rfl (by decide)⟩
  rcases of_ite h with ⟨-, h'⟩ | h
  · cases h'
  iterate 13
    rcases of_ite h with ⟨hk, h'⟩ | h
    · cases h'
      obtain rfl := hcode hk
      exact ⟨_, rfl, escapes_letter rfl (by decide)⟩
  iterate 2
    rcases of_ite h with ⟨hk, h'⟩ | h
    · cases h'
      exact ⟨_, rfl, escapes_code rfl rfl (by decide) (Nat.lt_succ_of_le hk)⟩
  cases h
  exact ⟨_, rfl, escapes_code rfl rfl (by decide) hvalid⟩

lemma Quoted.escape {e : List Char} (more : Quoted '\x22' w text) (escapes : Escapes ch e) :
    Quoted '\x22' ('\\' :: (e ++ w)) (ch :: text) := by
  intro c r hrest hr
  have hrest' : c.rest = '\\' :: (e ++ (w ++ '\x22' :: r)) := by simpa using hrest
  have hnext : c.next.rest = e ++ (w ++ '\x22' :: r) := next_rest hrest'
  have hread := more _ r (advance_rest hnext) hr
  have hlen : (c.next.advance e.length).rest.length ≤ (e ++ (w ++ '\x22' :: r)).length := by
    simp only [advance_rest hnext, List.length_append]
    omega
  have hcount : ('\\' :: (e ++ w)).length + 1 = e.length + (w.length + 1) + 1 := by
    simp
    omega
  rw [hcount, advance_succ, advance_add]
  exact Reads.escape hread hrest' (escapes.reads c.next _ hnext) hlen

lemma Quoted.broken (more : Quoted '\x22' w text) (hn : 0 < n) (firm : Firm w) :
    Quoted '\x22' ('\\' :: nextLine n w) text := by
  intro c r hrest hr
  have hrest' : c.rest = '\\' :: nextLine n (w ++ '\x22' :: r) := by simpa using hrest
  have hline := advance_line_rest (next_rest hrest')
  have hread := more _ r hline hr
  rw [advance_line_length, ← advance_succ] at hread
  exact Reads.broken hread hn hrest' (firm.solid (.inr rfl) hline)

/-- A character without an escape is printable, and no quote or backslash. -/
lemma escape_eq_none (h : Page.escape? ch = none) :
    ch ≠ '\x22' ∧ ch ≠ '\\' ∧ Spelling.isSpecial ch = false := by
  have hne {d : Char} (hd : (Page.escape? d).isSome = true) : ch ≠ d := by
    rintro rfl
    rw [h] at hd
    cases hd
  refine ⟨hne rfl, hne rfl, ?_⟩
  unfold Page.escape? at h
  iterate 2
    rcases of_ite h with ⟨-, h'⟩ | h
    · cases h'
  rcases of_ite h with ⟨hk, -⟩ | h
  · simp only [Spelling.isSpecial, Bool.and_eq_false_iff, Bool.not_eq_false']
    exact .inr hk
  iterate 15
    rcases of_ite h with ⟨-, h'⟩ | h
    · cases h'
  cases h

/-! ### Between double quotes -/

/-- A character as it stands between double quotes. -/
def escaped (ch : Char) : List Char := (Page.escape? ch).getD [ch]

/-- A character that is escaped stands before a space that is not the last character. -/
def brittle : List Char → Bool
  | c :: ' ' :: d :: rest => (Page.escape? c).isSome || brittle (' ' :: d :: rest)
  | _ :: rest => brittle rest
  | [] => false

lemma brittle_tail (h : brittle (ch :: text) = false) : brittle text = false := by
  unfold brittle at h
  split at h
  · cases ‹_ = _ :: _›
    exact (Bool.or_eq_false_iff.1 h).2
  · cases ‹_ = _ :: _›
    exact h
  · contradiction

/-- How the characters of a text between double quotes are read. -/
structure Doubles (text w : List Char) : Prop where
  quoted : Quoted '\x22' w text
  clears : Clears w
  firm : text.head? ≠ some ' ' → Firm w
  allowed : ∀ ch ∈ w, isAllowed ch = true

namespace Doubles

lemma firm_backslash (w : List Char) : Firm ('\\' :: w) := by
  rintro d ⟨⟩
  decide

lemma escape {e : List Char} (more : Doubles text w) (escapes : Escapes ch e) :
    Doubles (ch :: text) ('\\' :: (e ++ w)) where
  quoted := Quoted.escape more.quoted escapes
  clears := (firm_backslash _).clears
  firm _ := firm_backslash _
  allowed := List.forall_mem_cons.2 ⟨rfl, List.forall_mem_append.2
    ⟨fun d hd => isAllowed_of_plain (escapes.printed d hd).1, more.allowed⟩⟩

/-- A line is broken before something that is no space. -/
lemma broken (more : Doubles text w) (hn : 0 < n) (hspace : text.head? ≠ some ' ') :
    Doubles text ('\\' :: nextLine n w) where
  quoted := Quoted.broken more.quoted hn (more.firm hspace)
  clears := (firm_backslash _).clears
  firm _ := firm_backslash _
  allowed := List.forall_mem_cons.2 ⟨rfl, isAllowed_nextLine more.allowed⟩

/-- A line is broken before a space, which is escaped. -/
lemma broken_space (more : Doubles text w) (hn : 0 < n) :
    Doubles (' ' :: text) ('\\' :: nextLine n ('\\' :: ' ' :: w)) where
  quoted := Quoted.broken
    (Quoted.escape (e := [' ']) more.quoted (escapes_letter rfl (by decide))) hn (firm_backslash _)
  clears := (firm_backslash _).clears
  firm h := absurd rfl h
  allowed := List.forall_mem_cons.2 ⟨rfl, isAllowed_nextLine
    (List.forall_mem_cons.2 ⟨rfl, List.forall_mem_cons.2 ⟨rfl, more.allowed⟩⟩)⟩

lemma space (more : Doubles text w) : Doubles (' ' :: text) (' ' :: w) where
  quoted := Quoted.space more.quoted (.inr rfl) more.clears
  clears := more.clears.space
  firm h := absurd rfl h
  allowed := List.forall_mem_cons.2 ⟨rfl, more.allowed⟩

lemma ordinary (more : Doubles text w) (hch : Page.escape? ch = none) (hspace : ch ≠ ' ') :
    Doubles (ch :: text) (ch :: w) := by
  obtain ⟨hquote, hslash, hplain⟩ := escape_eq_none hch
  have hfirm := endsWord_of_plain hplain hspace fun h => by subst h; cases hch
  have firm : Firm (ch :: w) := by
    rintro d ⟨⟩
    exact hfirm
  have hword : endsWord ch = false := by
    have hblank : (ch == ' ' || ch == '\t') = false := hfirm.1
    simp [endsWord, hblank, hfirm.2]
  exact ⟨Quoted.ordinary more.quoted hquote (fun h => absurd h hslash) hword, firm.clears,
    fun _ => firm, List.forall_mem_cons.2 ⟨isAllowed_of_plain hplain, more.allowed⟩⟩

end Doubles

lemma breakDouble_text (n : Nat) (next : Option Char) (p : Page) (hp : p.fresh = false) :
    (Page.breakDouble n next p).text.toList = p.text.toList ++
      '\\' :: nextLine n (if next = some ' ' then ['\\'] else []) ∧
    (Page.breakDouble n next p).fresh = false ∧
    (Page.breakDouble n next p).column = if next = some ' ' then n + 1 else n := by
  have starts := newLine_break (p := p.put ['\\']) (n := n) (.inl hp)
  unfold Page.breakDouble
  by_cases hnext : next = some ' '
  · simp only [hnext, BEq.rfl, if_true]
    refine ⟨?_, rfl, congrArg (· + 1) starts.column⟩
    rw [put_text, within_text, starts.text, put_text]
    simp
  · have hfalse : (next == some ' ') = false := beq_eq_false_iff_ne.2 hnext
    simp only [hfalse, hnext, Bool.false_eq_true, if_false]
    refine ⟨?_, rfl, starts.column⟩
    rw [within_text, starts.text, put_text]
    simp

/-- Characters are written, and the page goes on: whatever is written there for the rest of the text
completes what is written for the text. -/
structure Inscribes (taken text : List Char) (p q : Page) : Prop where
  fresh : q.fresh = false
  complete : ∀ w, Doubles text w →
    ∃ w', q.text.toList ++ w = p.text.toList ++ w' ∧ Doubles (taken ++ text) w'

section

variable {p : Page}

/-- An escape. -/
lemma inscribes_escape (hp : p.fresh = false) (escapes : Escapes ch e) :
    Inscribes [ch] text p (p.put ('\\' :: e)) := by
  refine ⟨hp, fun w more => ⟨_, ?_, more.escape escapes⟩⟩
  simp

/-- An escape after which the line is broken. -/
lemma inscribes_break (hn : 0 < n) (hp : p.fresh = false) (escapes : Escapes ch e)
    (hspace : text.head? ≠ some ' ') :
    Inscribes [ch] text p (Page.breakDouble n text.head? (p.put ('\\' :: e))) := by
  obtain ⟨htext, hfresh, -⟩ := breakDouble_text n text.head? (p.put ('\\' :: e)) hp
  refine ⟨hfresh, fun w more => ⟨_, ?_, (more.broken hn hspace).escape escapes⟩⟩
  rw [htext, put_text, if_neg hspace]
  simp

/-- An escape after which the line is broken before a space: the backslash at the start of the line
waits for the space. -/
lemma inscribes_space (hn : 0 < n) (hp : p.fresh = false) (escapes : Escapes ch e) :
    Inscribes [ch, ' '] text p ((Page.breakDouble n (some ' ') (p.put ('\\' :: e))).put [' ']) := by
  obtain ⟨htext, hfresh, -⟩ := breakDouble_text n (some ' ') (p.put ('\\' :: e)) hp
  refine ⟨hfresh, fun w more => ⟨_, ?_, (more.broken_space hn).escape escapes⟩⟩
  rw [put_text, htext, put_text, if_pos rfl]
  simp

/-- A character that stands for itself. -/
lemma inscribes_ordinary (hp : p.fresh = false) (hch : Page.escape? ch = none) :
    Inscribes [ch] text p (p.put [ch]) := by
  refine ⟨hp, fun w more => ⟨ch :: w, by simp, ?_⟩⟩
  by_cases hspace : ch = ' '
  · subst hspace
    exact more.space
  · exact more.ordinary hch hspace

/-- A character that stands for itself, in a new line. -/
lemma inscribes_ordinary_break (hn : 0 < n) (hp : p.fresh = false) (hch : Page.escape? ch = none) :
    Inscribes [ch] text p ((Page.breakDouble n (some ch) p).put [ch]) := by
  obtain ⟨htext, hfresh, -⟩ := breakDouble_text n (some ch) p hp
  refine ⟨hfresh, fun w more => ?_⟩
  by_cases hspace : ch = ' '
  · subst hspace
    refine ⟨_, ?_, more.broken_space hn⟩
    rw [put_text, htext]
    simp
  · refine ⟨_, ?_, (more.ordinary hch hspace).broken hn (by simpa using hspace)⟩
    rw [put_text, htext, if_neg fun h => hspace (Option.some.inj h)]
    simp

/-- A space after an escape stays on a line that has room for it. -/
lemma doubleWords_space {split : Bool} (h : text ≠ [] → p.column ≤ Page.width) :
    Page.doubleWords n split false true (' ' :: text) p =
      Page.doubleWords n split false false text (p.put [' ']) := by
  have hstay : (split && !false && !text.isEmpty && (' ' == ' ' || true) &&
      decide (Page.width < p.column)) = false := by
    cases text with
    | nil => simp
    | cons d text =>
      have hle : ¬ Page.width < p.column := Nat.not_lt.2 (h (List.cons_ne_nil _ _))
      simp [hle]
  rw [Page.doubleWords]
  dsimp only
  rw [show Page.escape? ' ' = none from rfl]
  dsimp only
  rw [hstay, if_neg Bool.false_ne_true]

/-- The line on which a space waits has room for it, if the text is not brittle. -/
lemma column_breakDouble {split first : Bool} (hp : p.fresh = false)
    (he : Page.escape? ch = some e) (hinner : (split && !first) = true)
    (short : split = true → n < Page.width ∨
      brittle (if first then (' ' :: text) else ch :: ' ' :: text) = false) (hne : text ≠ []) :
    (Page.breakDouble n (some ' ') (p.put e)).column ≤ Page.width := by
  obtain ⟨-, -, hcolumn⟩ := breakDouble_text n (some ' ') (p.put e) hp
  obtain ⟨d, text, rfl⟩ := List.exists_cons_of_ne_nil hne
  simp only [Bool.and_eq_true, Bool.not_eq_true'] at hinner
  have hshort := short hinner.1
  rw [hinner.2] at hshort
  simp only [Bool.false_eq_true, if_false, brittle, he, Option.isSome_some, Bool.true_or,
    Bool.true_eq_false, or_false] at hshort
  rw [hcolumn, if_pos rfl]
  exact hshort

end

/-- **What is written for a text between double quotes is read as the text**, if a line that is
broken after an escape can hold the space after it. -/
lemma exists_doubleWords (hn : 0 < n) (split : Bool) : ∀ (text : List Char) (first escaped : Bool)
    (p : Page), p.fresh = false →
    (split = true → n < Page.width ∨ brittle (if first then text.tail else text) = false) →
    ∃ w, (Page.doubleWords n split first escaped text p).text.toList = p.text.toList ++ w ∧
      Doubles text w
  | [], _, _, _, _, _ => ⟨[], (List.append_nil _).symm,
      ⟨Quoted.nil, firm_nil.clears, fun _ => firm_nil, List.forall_mem_nil _⟩⟩
  | ch :: text, first, escaped, p, hp, short => by
    have short' : split = true → n < Page.width ∨ brittle text = false := fun h =>
      (short h).imp_right fun hb => by
        cases first with
        | true => exact hb
        | false => exact brittle_tail hb
    have step {q : Page} {escaped : Bool} (puts : Inscribes [ch] text p q) :
        ∃ w, (Page.doubleWords n split false escaped text q).text.toList = p.text.toList ++ w ∧
          Doubles (ch :: text) w := by
      obtain ⟨w, hw, more⟩ := exists_doubleWords hn split text false escaped q puts.fresh short'
      obtain ⟨w', hw', doubles⟩ := puts.complete w more
      exact ⟨w', hw.trans hw', doubles⟩
    rw [Page.doubleWords]
    cases he : Page.escape? ch with
    | some e =>
      obtain ⟨e', rfl, escapes⟩ := exists_escapes he
      dsimp only
      split
      · rename_i hbreak
        by_cases hspace : text.head? = some ' '
        · obtain ⟨text, rfl⟩ := List.head?_eq_some_iff.1 hspace
          have puts : Inscribes [ch, ' '] text p _ := inscribes_space hn hp escapes
          obtain ⟨w, hw, more⟩ := exists_doubleWords hn split text false false _ puts.fresh
            fun h => (short' h).imp_right brittle_tail
          obtain ⟨w', hw', doubles⟩ := puts.complete w more
          refine ⟨w', ?_, doubles⟩
          simp only [Bool.and_eq_true, decide_eq_true_eq] at hbreak
          rw [List.head?_cons, doubleWords_space]
          · exact hw.trans hw'
          · exact column_breakDouble hp he (by simpa using hbreak.1.1) short
        · exact step (inscribes_break hn hp escapes hspace)
      · exact step (inscribes_escape hp escapes)
    | none =>
      dsimp only
      split
      · exact step (inscribes_ordinary_break hn hp he)
      · exact step (inscribes_ordinary hp he)

end

end Testbed.Folding
