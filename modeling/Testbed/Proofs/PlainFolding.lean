import Mathlib
import Testbed.Proofs.Folding

/-!
Plain texts that are folded.

A plain text is read word by word, so it is told in the same way what is written for it. A text may
be plain when no word of it can be taken for an indicator.
-/

namespace Testbed.Folding

open BlockScan
open PlainText
open Quoting
open Scanning
open Yaml

/-- No colon ends a word, and no hash sign begins one. -/
def settled : List Char → Bool
  | [] => true
  | ch :: rest =>
    !(ch == ':' && wordEnd rest.head?) && !(ch == ' ' && rest.head? == some '#') && settled rest

section

variable {c : Cursor} {p : Page} {ch : Char} {n : Nat} {split : Bool} {before : Option Char}
  {w v word text r : List Char}

lemma settled_tail (h : settled (ch :: text) = true) : settled text = true :=
  (Bool.and_eq_true_iff.1 h).2

lemma settled_append (h : settled (v ++ text) = true) : settled text = true := by
  induction v with
  | nil => exact h
  | cons ch v ih => exact ih (settled_tail h)

lemma plainLength_ends (h : EndsPlain r) : Scalar.plainLength false r = 0 := by
  rcases h with ⟨ch, r, rfl, hch⟩ | ⟨k, r, rfl⟩
  · simp [Scalar.plainLength, Scalar.endsKey, hch]
  · rfl

/-- A word ends where the text or a space ends it. -/
lemma plainLength_word (hword : ∀ ch ∈ word, endsWord ch = false)
    (hsettled : settled (word ++ text) = true) (hend : wordEnd text.head? = true)
    (hr : Scalar.plainLength false r = 0) : Scalar.plainLength false (word ++ r) = word.length := by
  induction word with
  | nil => exact hr
  | cons ch word ih =>
    obtain ⟨hch, hword'⟩ := List.forall_mem_cons.1 hword
    have hcolon : (ch == ':' && Scalar.endsKey false (word ++ r).head?) = false := by
      by_cases he : ch = ':'
      · subst he
        have hnot : wordEnd (word ++ text).head? = false := by
          simp only [List.cons_append, settled, BEq.rfl, Bool.true_and, Bool.and_eq_true,
            Bool.not_eq_true'] at hsettled
          exact hsettled.1.1
        cases word with
        | nil =>
          rw [List.nil_append, hend] at hnot
          cases hnot
        | cons d word =>
          simp [Scalar.endsKey, hword' d (List.mem_cons_self ..)]
      · simp [he]
    rw [List.cons_append, Scalar.plainLength, hch, hcolon, ih hword' (settled_tail hsettled)]
    rfl

@[simp] lemma put_put (a b : List Char) (p : Page) : (p.put a).put b = p.put (a ++ b) := by
  simp [Page.put, String.append_assoc, Nat.add_assoc]

/-- A word is written as it is. -/
lemma plainWords_word (n : Nat) (split : Bool) (text : List Char) (hne : word ≠ [])
    (hword : ∀ ch ∈ word, ch ≠ ' ') (before : Option Char) (p : Page) :
    ∃ before', Page.plainWords n split before (word ++ text) p =
      Page.plainWords n split before' text (p.put word) := by
  induction word generalizing before p with
  | nil => exact absurd rfl hne
  | cons ch word ih =>
    obtain ⟨hch, hword⟩ := List.forall_mem_cons.1 hword
    have hput : Page.plainWords n split before (ch :: word ++ text) p =
        Page.plainWords n split (some ch) (word ++ text) (p.put [ch]) := by
      rw [List.cons_append, Page.plainWords]
      simp [hch]
    cases word with
    | nil => exact ⟨some ch, hput⟩
    | cons d word =>
      obtain ⟨b, hrest⟩ := ih (List.cons_ne_nil _ _) hword (some ch) (p.put [ch])
      exact ⟨b, by rw [hput, hrest, put_put]; rfl⟩

lemma plainWords_cons (hfold : Page.foldsHere split before text p = false) :
    Page.plainWords n split before (ch :: text) p =
      Page.plainWords n split (some ch) text (p.put [ch]) := by
  rw [Page.plainWords, hfold, Bool.and_false, if_neg Bool.false_ne_true]

lemma plainWords_blanks (k : Nat) (p : Page) :
    Page.plainWords n split (some ' ') (List.replicate k ' ' ++ text) p =
      Page.plainWords n split (some ' ') text (p.put (List.replicate k ' ')) := by
  induction k generalizing p with
  | zero => simp [Page.put]
  | succ k ih =>
    rw [List.replicate_succ, List.cons_append, plainWords_cons (by simp [Page.foldsHere]), ih,
      put_put]
    rfl

/-- Spaces are written as they are, but one that stands alone may be replaced by a line break. -/
lemma plainWords_spaces (n : Nat) (split : Bool) (text : List Char) (m : Nat)
    (before : Option Char) (p : Page) :
    Page.plainWords n split before (List.replicate (m + 1) ' ' ++ text) p =
        Page.plainWords n split (some ' ') text (p.put (List.replicate (m + 1) ' ')) ∨
      m = 0 ∧ split = true ∧
      Page.plainWords n split before (List.replicate (m + 1) ' ' ++ text) p =
        Page.plainWords n split (some ' ') text (p.newLine n).within := by
  cases m with
  | zero =>
    show Page.plainWords n split before (' ' :: text) p = _ ∨ _ ∧ _ ∧
      Page.plainWords n split before (' ' :: text) p = _
    cases hfold : Page.foldsHere split before text p with
    | false => exact .inl (plainWords_cons hfold)
    | true =>
      refine .inr ⟨rfl, ?_, ?_⟩
      · simp only [Page.foldsHere, Bool.and_eq_true] at hfold
        exact hfold.1.1.1
      · rw [Page.plainWords, hfold]
        rfl
  | succ m =>
    refine .inl ?_
    have hstay : Page.foldsHere split before (List.replicate (m + 1) ' ' ++ text) p = false := by
      simp [Page.foldsHere, List.replicate_succ]
    rw [List.replicate_succ, List.cons_append, plainWords_cons hstay, plainWords_blanks, put_put]
    rfl

/-- At the start of a word, the characters are read as the text, up to where a plain text ends. -/
def ReadsPlain (indent : Int) (w text : List Char) : Prop :=
  ∀ (c : Cursor) (r gap : List Char) (ended : Bool) (after : Cursor) (fuel : Nat)
    (blanks : List Char) (lineEnded : Bool), c.rest = w ++ r → EndsPlain r → indent ≤ c.column + 1 →
    Scalar.plainBlanks (c.advance w.length) = (gap, ended, after) →
    (gap.isEmpty || (after.column : Int) < indent) = true → w.length < fuel →
    Scalar.plain false indent fuel blanks lineEnded c = ⟨blanks ++ text, ended, after⟩

/-- The characters of a word, which ends before this text. -/
structure Word (word text : List Char) : Prop where
  nonempty : word ≠ []
  hash : word.head? ≠ some '#'
  within : ∀ ch ∈ word, endsWord ch = false ∧ ch ≠ '\ufeff'
  settled : settled (word ++ text) = true
  ends : wordEnd text.head? = true

lemma Word.isWord (h : Word word text) (hr : Scalar.plainLength false r = 0) :
    IsWord false word r :=
  ⟨h.nonempty, h.hash, plainLength_word (fun ch hch => (h.within ch hch).1) h.settled h.ends hr⟩

/-- What stands between two words, and the blanks that it is read as. -/
structure Between (indent : Int) (g gap : List Char) : Prop where
  starts : ∃ ch g', g = ch :: g' ∧ endsWord ch = true
  nonempty : gap ≠ []
  blanks : ∀ (c : Cursor) (r : List Char), c.rest = g ++ r → Stops r →
    ∃ ended, Scalar.plainBlanks c = (gap, ended, c.advance g.length)
  column : ∀ (c : Cursor) (r : List Char), c.rest = g ++ r → indent ≤ c.column →
    indent ≤ (c.advance g.length).column

lemma between_spaces (indent : Int) (m : Nat) :
    Between indent (List.replicate (m + 1) ' ') (List.replicate (m + 1) ' ') := by
  have hall : ∀ ch ∈ List.replicate (m + 1) ' ', ch = ' ' := fun ch => List.eq_of_mem_replicate
  refine ⟨⟨' ', _, rfl, rfl⟩, by simp, fun c r hrest hr => ⟨_, plainBlanks_spaces hall hr hrest⟩,
    fun c r hrest hle => ?_⟩
  rw [advance_column hrest fun ch hch => by rw [hall ch hch]; decide]
  omega

lemma between_line {indent : Int} (hn : 0 < n) (hindent : indent ≤ (n : Int)) :
    Between indent (nextLine n []) [' '] := by
  have hlen : (nextLine n []).length = ('\n' :: List.replicate n ' ').length := by simp [nextLine]
  refine ⟨⟨'\n', _, rfl, rfl⟩, by simp, fun c r hrest hr => ⟨true, ?_⟩,
    fun c r hrest _ => ?_⟩
  · rw [nextLine_append] at hrest
    obtain ⟨n, rfl⟩ := Nat.exists_eq_add_one_of_ne_zero (Nat.pos_iff_ne_zero.1 hn)
    rw [hlen]
    exact plainBlanks_line hrest hr (markFree_cons (show ' ' ≠ '-' by decide) (by decide))
  · rw [nextLine_append] at hrest
    rw [hlen, column_line hrest]
    exact hindent

/-- The last word. -/
lemma Word.last {indent : Int} (h : Word word []) : ReadsPlain indent word word := by
  intro c r gap ended after fuel blanks lineEnded hrest hr _ hblanks hends hf
  obtain ⟨fuel, rfl⟩ := Nat.exists_eq_add_one_of_ne_zero (show fuel ≠ 0 by omega)
  rw [plain_word (h.isWord (plainLength_ends hr)) hrest hblanks, if_pos]
  simp only [Bool.or_eq_true, decide_eq_true_eq, Bool.not_false, Bool.true_and] at hends ⊢
  exact hends.imp_left .inl

/-- A word, and what follows after blanks. -/
lemma Word.more {indent : Int} {g gap : List Char} (h : Word word v)
    (between : Between indent g gap) (more : ReadsPlain indent w text)
    (hstops : ∀ r, Stops (w ++ r)) :
    ReadsPlain indent (word ++ (g ++ w)) (word ++ (gap ++ text)) := by
  intro c r gap' ended' after fuel blanks lineEnded hrest hr hindent hblanks' hends hf
  obtain ⟨fuel, rfl⟩ := Nat.exists_eq_add_one_of_ne_zero (show fuel ≠ 0 by omega)
  rw [List.append_assoc, List.append_assoc] at hrest
  have hword := advance_rest hrest
  have hgap := advance_rest hword
  obtain ⟨ended, hblanks⟩ := between.blanks _ _ hword (hstops r)
  have hzero : Scalar.plainLength false (g ++ (w ++ r)) = 0 := by
    obtain ⟨d, g', rfl, hd⟩ := between.starts
    simp [Scalar.plainLength, hd]
  have hlen : 0 < word.length := List.length_pos_iff.2 h.nonempty
  have hcolumn : (c.advance word.length).column = c.column + word.length :=
    advance_column hrest fun ch hch => by
      obtain ⟨hend, hmark⟩ := h.within ch hch
      exact ⟨(Bool.or_eq_false_iff.1 hend).2, hmark⟩
  have hwide := between.column _ _ hword (by rw [hcolumn]; omega)
  have hpeek : (((c.advance word.length).advance g.length).peek 0 == some '#') = false := by
    unfold Cursor.peek
    rw [hgap, ← List.head?_eq_getElem?, beq_eq_false_iff_ne]
    exact fun hhash => (hstops r _ hhash).2.1 rfl
  have hwhole : (word ++ (g ++ w)).length = word.length + g.length + w.length := by simp; omega
  rw [hwhole, advance_add, advance_add] at hblanks'
  rw [plain_word (h.isWord hzero) hrest hblanks, if_neg]
  · have hread := more _ r gap' ended' after fuel gap ended hgap hr (by omega) hblanks' hends
      (by omega)
    dsimp only
    rw [hread]
    simp
  · have hgap' : gap.isEmpty = false := by simpa using between.nonempty
    simp [hgap', hpeek]
    omega

/-- A text that begins and ends with a word. -/
structure Worded (text : List Char) : Prop where
  nonempty : text ≠ []
  head : ∀ ch ∈ text.head?, ch ≠ ' ' ∧ ch ≠ '#'
  last : text.getLast? ≠ some ' '
  settled : settled text = true
  printed : ∀ ch ∈ text, Printed ch

lemma endsWord_of_printed (h : Printed ch) (hspace : ch ≠ ' ') :
    endsWord ch = false ∧ ch ≠ '\ufeff' := by
  obtain ⟨hblank, hbreak⟩ := endsWord_of_plain h.1 hspace h.2
  refine ⟨?_, h.line.2⟩
  have hblank' : (ch == ' ' || ch == '\t') = false := hblank
  simp [endsWord, hblank', hbreak]

lemma Worded.stops (h : Worded (ch :: text)) : Stops (ch :: r) := by
  rintro d ⟨⟩
  obtain ⟨hspace, hhash⟩ := h.head ch rfl
  obtain ⟨hend, hmark⟩ := endsWord_of_printed (h.printed ch (List.mem_cons_self ..)) hspace
  exact ⟨hspace, hhash, hmark, (Bool.or_eq_false_iff.1 hend).2⟩

lemma exists_spaces (text : List Char) : ∃ m text', text = List.replicate m ' ' ++ text' ∧
    text'.head? ≠ some ' ' := by
  induction text with
  | nil => exact ⟨0, [], rfl, by simp⟩
  | cons ch text ih =>
    by_cases hch : ch = ' '
    · obtain ⟨m, text', rfl, hhead⟩ := ih
      exact ⟨m + 1, text', by rw [hch]; rfl, hhead⟩
    · exact ⟨0, ch :: text, rfl, by simpa using hch⟩

lemma exists_word (text : List Char) : ∃ word rest, text = word ++ rest ∧
    (∀ ch ∈ word, ch ≠ ' ') ∧ ∀ ch ∈ rest.head?, ch = ' ' := by
  refine ⟨text.takeWhile (· != ' '), text.dropWhile (· != ' '),
    (List.takeWhile_append_dropWhile ..).symm, fun ch hch => ?_, fun ch hch => ?_⟩
  · simpa using List.mem_takeWhile_imp hch
  · have hnot := List.head?_dropWhile_not (· != ' ') text
    rw [Option.mem_def.1 hch] at hnot
    simpa using hnot

/-- What follows spaces begins and ends with a word. -/
lemma Worded.rest {m : Nat} (h : Worded (word ++ (List.replicate (m + 1) ' ' ++ text)))
    (hhead : text.head? ≠ some ' ') : Worded text := by
  have hsettled := settled_append h.settled
  have hne : text ≠ [] := by
    rintro rfl
    exact h.last (by simp [List.getLast?_replicate])
  refine ⟨hne, fun ch hch => ⟨?_, ?_⟩, ?_, settled_append hsettled,
    fun ch hch => h.printed ch (by simp [hch])⟩
  · rintro rfl
    exact hhead hch
  · rintro rfl
    rw [List.replicate_succ', List.append_assoc] at hsettled
    have hspace := settled_append hsettled
    simp [Folding.settled, Option.mem_def.1 hch] at hspace
  · have hlast := h.last
    rw [List.getLast?_append_of_ne_nil _ (by simp), List.getLast?_append_of_ne_nil _ hne] at hlast
    exact hlast

/-- Such a text is a word, or a word and more after spaces. -/
lemma Worded.words (h : Worded text) : Word text [] ∨
    ∃ word m text', text = word ++ (List.replicate (m + 1) ' ' ++ text') ∧
      Word word (List.replicate (m + 1) ' ' ++ text') ∧ Worded text' := by
  obtain ⟨word, rest, rfl, hword, hrest⟩ := exists_word text
  have hne : word ≠ [] := by
    rintro rfl
    cases rest with
    | nil => exact h.nonempty rfl
    | cons ch rest => exact (h.head ch rfl).1 (hrest ch rfl)
  have word_of (hends : wordEnd rest.head? = true) : Word word rest := by
    refine ⟨hne, fun hhash => ?_, fun ch hch => ?_, h.settled, hends⟩
    · have hhead : (word ++ rest).head? = some '#' := by
        rw [List.head?_append_of_ne_nil _ hne, hhash]
      exact (h.head '#' hhead).2 rfl
    · exact endsWord_of_printed (h.printed ch (List.mem_append_left _ hch)) (hword ch hch)
  cases rest with
  | nil =>
    rw [List.append_nil]
    exact .inl (word_of rfl)
  | cons ch rest =>
    obtain rfl := hrest ch rfl
    obtain ⟨m, text', rfl, hhead⟩ := exists_spaces rest
    exact .inr ⟨word, m, text', rfl, word_of rfl, Worded.rest h hhead⟩

/-- How the characters of a plain text are read. -/
structure Plains (n : Nat) (split : Bool) (text w : List Char) : Prop where
  reads : ∀ indent : Int, (split = true → indent ≤ n) → ReadsPlain indent w text
  leads : ∃ word u v, text = word ++ u ∧ w = word ++ v ∧ word ≠ [] ∧ wordEnd u.head? = true ∧
    wordEnd v.head? = true
  allowed : ∀ ch ∈ w, isAllowed ch = true

lemma Plains.stops (h : Plains n split text w) (worded : Worded text) (r : List Char) :
    Stops (w ++ r) := by
  obtain ⟨word, u, v, rfl, rfl, hne, -⟩ := h.leads
  cases word with
  | nil => exact absurd rfl hne
  | cons ch word => exact worded.stops

lemma Word.plains (h : Word text []) (printed : ∀ ch ∈ text, Spelling.isSpecial ch = false) :
    Plains n split text text where
  reads _ _ := h.last
  leads := ⟨text, [], [], (List.append_nil _).symm, (List.append_nil _).symm, h.nonempty, rfl, rfl⟩
  allowed ch hch := isAllowed_of_plain (printed ch hch)

lemma Plains.after {g gap : List Char} {m : Nat} (more : Plains n split text w)
    (h : Word word (List.replicate (m + 1) ' ' ++ text)) (worded : Worded text)
    (printed : ∀ ch ∈ word, Spelling.isSpecial ch = false)
    (between : ∀ indent : Int, (split = true → indent ≤ n) → Between indent g gap)
    (allowed : ∀ ch ∈ g, isAllowed ch = true) (hgap : gap = List.replicate (m + 1) ' ') :
    Plains n split (word ++ (gap ++ text)) (word ++ (g ++ w)) where
  reads indent hindent := h.more (between indent hindent) (more.reads indent hindent)
    (more.stops worded)
  leads := by
    obtain ⟨d, g', rfl, hd⟩ := (between (min n 0) fun _ => min_le_left _ _).starts
    exact ⟨word, gap ++ text, d :: g' ++ w, rfl, rfl, h.nonempty, hgap ▸ h.ends, hd⟩
  allowed := by
    simp only [List.forall_mem_append]
    exact ⟨fun ch hch => isAllowed_of_plain (printed ch hch), allowed, more.allowed⟩

/-- **What is written for a plain text is read as the text.** -/
lemma exists_plainWords (hn : 0 < n) (split : Bool) (worded : Worded text) (before : Option Char)
    (p : Page) (hp : p.fresh = false) :
    ∃ w, (Page.plainWords n split before text p).text.toList = p.text.toList ++ w ∧
      (Page.plainWords n split before text p).fresh = false ∧
      (Page.plainWords n split before text p).openEnded = p.openEnded ∧
      Plains n split text w := by
  induction hlen : text.length using Nat.strong_induction_on generalizing text before p with
  | _ k ih =>
    subst hlen
    rcases worded.words with h | ⟨word, m, text, rfl, h, worded'⟩
    · obtain ⟨before', hwrite⟩ := plainWords_word n split [] h.nonempty
        (fun ch hch he => by subst he; exact absurd (h.within _ hch).1 (by decide)) before p
      rw [List.append_nil] at hwrite
      rw [hwrite]
      exact ⟨text, put_text _ _, hp, rfl, h.plains fun ch hch => (worded.printed ch hch).1⟩
    · have hlt : text.length < (word ++ (List.replicate (m + 1) ' ' ++ text)).length := by
        simp
        omega
      have printed : ∀ ch ∈ word, Spelling.isSpecial ch = false := fun ch hch =>
        (worded.printed ch (List.mem_append_left _ hch)).1
      obtain ⟨before', hwrite⟩ := plainWords_word n split (List.replicate (m + 1) ' ' ++ text)
        h.nonempty
        (fun ch hch he => by subst he; exact absurd (h.within _ hch).1 (by decide)) before p
      rw [hwrite]
      rcases plainWords_spaces n split text m before' (p.put word) with
        hspaces | ⟨rfl, rfl, hline⟩
      · obtain ⟨w, hw, hfresh, hopen, more⟩ := ih _ hlt worded' (some ' ')
          ((p.put word).put (List.replicate (m + 1) ' ')) hp rfl
        rw [hspaces]
        have allowed : ∀ ch ∈ List.replicate (m + 1) ' ', isAllowed ch = true := by
          intro ch hch
          rw [List.eq_of_mem_replicate hch]
          rfl
        refine ⟨_, ?_, hfresh, hopen,
          more.after h worded' printed (fun _ _ => between_spaces _ m) allowed rfl⟩
        rw [hw]
        simp
      · have starts := newLine_break (p := p.put word) (n := n) (.inl hp)
        obtain ⟨w, hw, hfresh, hopen, more⟩ := ih _ hlt worded' (some ' ')
          ((p.put word).newLine n).within rfl rfl
        rw [hline]
        have between : ∀ indent : Int, (true = true → indent ≤ n) →
            Between indent (nextLine n []) [' '] := fun _ hindent => between_line hn (hindent rfl)
        refine ⟨_, ?_, hfresh, hopen.trans starts.openEnded,
          more.after h worded' printed between (isAllowed_nextLine (List.forall_mem_nil _)) rfl⟩
        rw [hw, within_text, starts.text]
        simp

/-! ### Which texts may be plain -/

lemma settled_of_inner (h : Spelling.hasInnerIndicator (ch :: text) = false)
    (hch : (ch == ':' && wordEnd text.head?) = false) : settled (ch :: text) = true := by
  induction text generalizing ch with
  | nil =>
    rw [settled, hch]
    simp [settled]
  | cons d text ih =>
    simp only [Spelling.hasInnerIndicator, Bool.or_eq_false_iff] at h
    obtain ⟨⟨hcolon, hhash⟩, hinner⟩ := h
    have hspace : (ch == ' ' && some d == some '#') = false := by
      by_cases he : ch = ' '
      · subst he
        simpa [endsWord] using hhash
      · simp [he]
    rw [settled, hch, ih hinner hcolon, List.head?_cons, hspace]
    rfl

lemma worded_of_allows (h : Spelling.allowsPlain text = true) (hne : text ≠ []) : Worded text := by
  simp only [Spelling.allowsPlain, Spelling.allowsSingle, Bool.and_eq_true, Bool.not_eq_true',
    Bool.or_eq_false_iff] at h
  obtain ⟨⟨⟨⟨⟨hspecial, -⟩, -⟩, hline⟩, hhead, hlast⟩, hstart, hinner⟩ := h
  cases text with
  | nil => exact absurd rfl hne
  | cons ch text =>
    simp only [Spelling.startsWithIndicator, Bool.or_eq_false_iff] at hstart
    obtain ⟨⟨⟨hlist, hmark⟩, -⟩, -⟩ := hstart
    refine ⟨hne, ?_, ?_, settled_of_inner hinner ?_, fun d hd => ⟨?_, ?_⟩⟩
    · rintro d ⟨⟩
      constructor
      · rintro rfl
        simp [Spelling.isSpaceOrBreak] at hhead
      · rintro rfl
        exact absurd hlist (by decide)
    · intro hl
      rw [hl] at hlast
      simp [Spelling.isSpaceOrBreak] at hlast
    · by_cases he : ch = ':'
      · subst he
        simpa using hmark
      · simp [he]
    · simpa using List.any_eq_false.1 hspecial d hd
    · rintro rfl
      exact absurd rfl (List.any_eq_false.1 hline _ hd)

lemma endsPlain_head (h : EndsPlain r) : ∃ ch r', r = ch :: r' ∧ (ch = ':' ∨ ch = '\n') := by
  rcases h with ⟨ch, r, rfl, -⟩ | ⟨k, r, rfl⟩
  · exact ⟨_, _, rfl, .inl rfl⟩
  · exact ⟨_, _, rfl, .inr rfl⟩

/-- A first word that is no document mark does not begin one. -/
lemma markFree_word (hne : word ≠ []) (hv : ∃ ch v', v = ch :: v' ∧ ch ≠ '-' ∧ ch ≠ '.')
    (hminus : word.take 3 ≠ ['-', '-', '-']) (hpoint : word.take 3 ≠ ['.', '.', '.']) :
    MarkFree (word ++ v) := by
  obtain ⟨ch, v', rfl, hv⟩ := hv
  have hnot {mark : Char} (hmark : ch ≠ mark) (hword : word.take 3 ≠ [mark, mark, mark]) :
      (word ++ ch :: v').take 3 ≠ [mark, mark, mark] := by
    match word, hne, hword with
    | [a], _, _ => simp [hmark]
    | [a, b], _, _ => simp [hmark]
    | a :: b :: d :: word, _, hword => simpa using hword
  intro c hc
  unfold Cursor.atDocumentMark Cursor.atMark
  rw [hc, beq_eq_false_iff_ne.2 (hnot hv.1 hminus), beq_eq_false_iff_ne.2 (hnot hv.2 hpoint)]
  rfl

/-- What a text does not begin with, its first word does not begin with. -/
lemma take_ne {mark : List Char} (text : List Char) (hlen : mark.length = 3)
    (h : ((word ++ text).take 3 == mark) = false) : word.take 3 ≠ mark := by
  intro he
  have hlong : 3 ≤ word.length := by
    have := congrArg List.length he
    rw [hlen, List.length_take] at this
    omega
  refine beq_eq_false_iff_ne.1 h ?_
  rw [List.take_append_of_le_length hlong, he]

/-- The first word begins a plain text whatever follows it: an indicator does not stand alone. -/
lemma startsPlain_word (hch : endsWord ch = false) (hends : wordEnd text.head? = true)
    (hstart : Spelling.startsWithIndicator (ch :: (word ++ text)) = false) (v : List Char) :
    Scan.startsPlain false ch (word ++ v).head? = true := by
  simp only [Spelling.startsWithIndicator, Bool.or_eq_false_iff] at hstart
  obtain ⟨⟨⟨hlist, hmark⟩, -⟩, -⟩ := hstart
  by_cases hmarks : (ch == '?' || ch == ':' || ch == '-') = true
  · rw [hmarks, Bool.true_and] at hmark
    cases word with
    | nil =>
      rw [List.nil_append, hends] at hmark
      cases hmark
    | cons d word =>
      simp only [Scan.startsPlain, List.cons_append, List.head?_cons] at hmark ⊢
      simp only [Bool.or_eq_true, beq_iff_eq] at hmarks
      rcases hmarks with (rfl | rfl) | rfl <;> simp [hmark]
  · simp at hlist hmarks
    simp [Scan.startsPlain, hch, hlist, hmarks]

/-- **A text that may be plain is read as it is written.** -/
lemma Plains.folds {indent : Int} (h : Plains n split text w)
    (allows : Spelling.allowsPlain text = true) (hne : text ≠ [])
    (hindent : split = true → indent ≤ n) : Folds indent w text := by
  have worded := worded_of_allows allows hne
  obtain ⟨word, u, v, rfl, rfl, hword, hu, hv⟩ := h.leads
  obtain ⟨ch, word, rfl⟩ := List.exists_cons_of_ne_nil hword
  have hstart : Spelling.startsWithIndicator (ch :: (word ++ u)) = false := by
    simp only [Spelling.allowsPlain, Bool.and_eq_true, Bool.not_eq_true', Bool.or_eq_false_iff]
      at allows
    exact allows.2.1
  have hend := (endsWord_of_printed (worded.printed ch (by simp)) (worded.head ch rfl).1).1
  refine ⟨h.stops worded, ⟨ch, word ++ v, rfl, fun r hr => ?_⟩, fun r hr => ?_, ?_⟩
  · rw [List.append_assoc]
    exact startsPlain_word hend hu hstart _
  · have hfirst : ∃ d v', v ++ r = d :: v' ∧ d ≠ '-' ∧ d ≠ '.' := by
      cases v with
      | nil =>
        obtain ⟨d, r', rfl, hd⟩ := endsPlain_head hr
        exact ⟨d, r', rfl, by rcases hd with rfl | rfl <;> decide⟩
      | cons d v =>
        refine ⟨d, v ++ r, rfl, ?_⟩
        constructor <;>
        · rintro rfl
          cases hv
    simp only [Spelling.startsWithIndicator, Bool.or_eq_false_iff] at hstart
    rw [List.append_assoc]
    exact markFree_word (List.cons_ne_nil _ _) hfirst (take_ne u rfl hstart.1.2)
      (take_ne u rfl hstart.2)
  · intro c r gap ended after fuel hrest hr hle hblanks hends hf
    exact h.reads indent hindent c r gap ended after fuel [] false hrest hr hle hblanks hends hf

end

end Testbed.Folding
