import Mathlib
import Testbed.Proofs.FlowScan
import Testbed.Proofs.JsonNumbers

/-!
The tokens of a text of JSON.

Where a document is legible, the scan finds in it the tokens that its structure calls for, whatever
the layout.
-/

namespace Testbed.Json

open FlowScan
open PlainText
open Quoting
open Scanning
open Yaml

/-! ### The tokens of a document -/

def Name.tokens (k : Name) : List Token := [.key, .scalar (meant k.pieces) false, .value]

mutual

def Doc.tokens : Doc → List Token
  | .null => [.scalar "null" true]
  | .bool b => [.scalar (if b then "true" else "false") true]
  | .number n => [.scalar (String.ofList n.chars) true]
  | .string pieces => [.scalar (meant pieces) false]
  | .emptyArray _ => [.flowSequenceStart, .flowSequenceEnd]
  | .array items => .flowSequenceStart :: items.tokens ++ [.flowSequenceEnd]
  | .emptyObject _ => [.flowMappingStart, .flowMappingEnd]
  | .object members => .flowMappingStart :: members.tokens ++ [.flowMappingEnd]

def Items.tokens : Items → List Token
  | .one _ d _ => d.tokens
  | .more _ d _ rest => d.tokens ++ .flowEntry :: rest.tokens

def Members.tokens : Members → List Token
  | .one name _ d _ => name.tokens ++ d.tokens
  | .more name _ d _ rest => name.tokens ++ d.tokens ++ .flowEntry :: rest.tokens

end

/-! ### Strings -/

section

variable {c after : Cursor} {r w text : List Char}

lemma hexValue_eq (ch : Char) : Scalar.hexValue? ch = hexDigit? ch := by
  unfold Scalar.hexValue? hexDigit?
  simp only [Bool.and_eq_true, decide_eq_true_eq]

lemma hexNumber_eq (u : Code) : Scalar.hexNumber? u.digits = some u.value := by
  have fold (digits : List Char) (hex : ∀ ch ∈ digits, (hexDigit? ch).isSome = true) (n : Nat) :
      digits.foldl (fun n? ch => do return (← n?) * 16 + (← Scalar.hexValue? ch)) (some n) =
        some (digits.foldl (fun n ch => n * 16 + (hexDigit? ch).getD 0) n) := by
    induction digits generalizing n with
    | nil => rfl
    | cons ch digits ih =>
      obtain ⟨hch, hex⟩ := List.forall_mem_cons.1 hex
      obtain ⟨v, hv⟩ := Option.isSome_iff_exists.1 hch
      rw [List.foldl_cons, List.foldl_cons, ← ih hex, hexValue_eq, hv]
      rfl
  exact fold u.digits u.hex 0

lemma character_eq {n : Nat} (h : n.isValidChar) : Scalar.character n = .ok (Char.ofNat n) := by
  unfold Scalar.character
  rcases h with h | ⟨hlow, hhigh⟩
  · rw [if_neg (by omega), if_neg (by simp; omega)]
  · rw [if_neg (by omega), if_neg (by simp; omega)]

lemma escaped_letter (l : Letter) : Scalar.escaped? l.spelling = some l.meaning := by
  cases l <;> rfl

/-- A string that goes on like this is read as the text; no line break follows the blanks that it
begins with. -/
def Goes (c : Cursor) (text : List Char) (after : Cursor) : Prop :=
  Reads '\x22' c text after ∧ Clear c

lemma clear_backslash (h : c.rest = '\\' :: w) : Clear c := by
  apply clear_of_stop
  rw [h]
  rintro ch ⟨⟩
  decide

/-- A character that stands for itself. -/
lemma Goes.char {ch : Char} (more : Goes c.next text after) (h : c.rest = ch :: w)
    (hch : 0x20 ≤ ch.toNat ∧ ch ≠ '\x22' ∧ ch ≠ '\\') (hbreak : isBreak ch = false) :
    Goes c (ch :: text) after := by
  obtain ⟨reads, clear⟩ := more
  obtain ⟨hlow, hquote, hslash⟩ := hch
  by_cases hspace : ch = ' '
  · subst hspace
    exact ⟨reads.blank h rfl rfl clear, clear.blank h rfl⟩
  · have htab : ch ≠ '\t' := by
      rintro rfl
      exact absurd hlow (by decide)
    have hword : endsWord ch = false := by simp [endsWord, hspace, htab, hbreak]
    refine ⟨reads.ordinary h hquote (fun he => absurd he hslash) hword, clear_of_stop ?_⟩
    rw [h]
    rintro d ⟨⟩
    exact ⟨by simp [isBlank, hspace, htab], hbreak⟩

/-- A letter after a backslash. -/
lemma Goes.letter {l : Letter} (more : Goes (c.advance 2) text after)
    (h : c.rest = '\\' :: l.spelling :: w) : Goes c (l.meaning :: text) after := by
  refine ⟨more.1.escape h (escape_letter (next_rest h) (escaped_letter l)) ?_, clear_backslash h⟩
  have hrest : (c.advance 2).rest = w := advance_rest (w := ['\\', l.spelling]) h
  rw [hrest, List.length_cons]
  exact Nat.le_succ _

/-- The code of a character. -/
lemma Goes.code {u : Code} (more : Goes (c.advance (u.digits.length + 2)) text after)
    (hu : u.value.isValidChar) (h : c.rest = '\\' :: 'u' :: (u.digits ++ w)) :
    Goes c (Char.ofNat u.value :: text) after := by
  have hletter : Scalar.escaped? 'u' = none := rfl
  have hwidth : Scalar.escapeWidth? 'u' = some u.digits.length := by
    rw [u.four]
    rfl
  refine ⟨more.1.escape h (escape_code (next_rest h) hletter hwidth (hexNumber_eq u)
    (character_eq hu)) ?_, clear_backslash h⟩
  have hrest : (c.advance (u.digits.length + 2)).rest = w :=
    advance_rest (w := '\\' :: 'u' :: u.digits) h
  rw [hrest, List.length_cons, List.length_append]
  omega

/-- **A legible string is read as what it means.** -/
lemma reads_spelled {pieces : List Piece} (legible : ∀ p ∈ pieces, p.Legible)
    (h : c.rest = spelled pieces ++ '\x22' :: r) :
    Goes c (pieces.map Piece.meaning) (c.advance ((spelled pieces).length + 1)) := by
  induction pieces generalizing c with
  | nil =>
    refine ⟨.close h nofun, clear_of_stop ?_⟩
    rw [h]
    rintro ch ⟨⟩
    decide
  | cons p pieces ih =>
    obtain ⟨hp, legible⟩ := List.forall_mem_cons.1 legible
    have hspelled : spelled (p :: pieces) = p.chars ++ spelled pieces := rfl
    rw [hspelled, List.append_assoc] at h
    rw [hspelled, List.length_append, Nat.add_assoc, advance_add]
    have more := ih legible (advance_rest h)
    cases p with
    | char ch hch => exact more.char h hch hp.2
    | letter l => exact more.letter h
    | code u hu => exact more.code hu h
    | pair high low hhigh hlow => cases hp

end

/-! ### Words -/

/-- How the words of JSON begin: with a letter of a literal, or a digit that may have a sign. -/
inductive Begins : List Char → Prop
  | letter {ch : Char} {w : List Char} (h : ch ∈ ['n', 't', 'f']) : Begins (ch :: w)
  | digit {ch : Char} {w : List Char} (h : ch ∈ decimal) : Begins (ch :: w)
  | minus {ch : Char} {w : List Char} (h : ch ∈ decimal) : Begins ('-' :: ch :: w)

section

variable {s : Scan} {ch : Char} {w r : List Char}

/-- A character that no indicator, blank or document mark begins with. -/
def IsCommon (ch : Char) : Prop :=
  (ch ≠ ' ' ∧ ch ≠ '#' ∧ ch ≠ '\ufeff' ∧ isBreak ch = false) ∧ ch ≠ '-' ∧ ch ≠ '.' ∧
    Scan.startsPlain true ch none = true

lemma startsPlain_of_none {flow : Bool} {after : Option Char}
    (h : Scan.startsPlain flow ch none = true) : Scan.startsPlain flow ch after = true := by
  unfold Scan.startsPlain at h ⊢
  simp only [wordEnd, Bool.not_true, Bool.false_and, Bool.or_false] at h
  rw [h, Bool.true_or]

lemma IsCommon.word (h : IsCommon ch) (r : List Char) :
    Stops (ch :: r) ∧ MarkFree (ch :: r) ∧ (ch :: w).head? ≠ some '#' := by
  obtain ⟨hstop, hminus, hpoint, -⟩ := h
  refine ⟨?_, markFree_cons hminus hpoint, fun he => hstop.2.1 (Option.some.inj he)⟩
  rintro d ⟨⟩
  exact hstop

lemma isCommon_letter : ∀ ch ∈ ['n', 't', 'f'], IsCommon ch := by
  simp [IsCommon, isBreak, endsWord, Scan.startsPlain]

lemma isCommon_decimal : ∀ ch ∈ decimal, IsCommon ch := by
  simp [decimal, IsCommon, isBreak, endsWord, Scan.startsPlain]

lemma Begins.word (h : Begins w) (r : List Char) :
    Stops (w ++ r) ∧ MarkFree (w ++ r) ∧ w.head? ≠ some '#' := by
  cases h with
  | letter h => exact (isCommon_letter _ h).word _
  | digit h => exact (isCommon_decimal _ h).word _
  | @minus ch w h =>
    obtain ⟨-, hminus, -⟩ := isCommon_decimal _ h
    refine ⟨?_, ?_, by simp⟩
    · rintro d ⟨⟩
      decide +kernel
    · intro c hc
      unfold Cursor.atDocumentMark Cursor.atMark
      rw [hc]
      simp [hminus]

lemma Begins.token (h : Begins w) (inside : Inside s) (hrest : s.cursor.rest = w ++ r) :
    ∃ ch w', w = ch :: w' ∧ s.token ch = s.plainScalar := by
  have hmark := (h.word r).2.1 _ hrest
  cases h with
  | letter h =>
    refine ⟨_, _, rfl, token_plain hrest hmark ?_⟩
    rw [inside.inFlow]
    exact startsPlain_of_none (isCommon_letter _ h).2.2.2
  | digit h =>
    refine ⟨_, _, rfl, token_plain hrest hmark ?_⟩
    rw [inside.inFlow]
    exact startsPlain_of_none (isCommon_decimal _ h).2.2.2
  | @minus ch w h =>
    refine ⟨_, _, rfl, token_plain hrest hmark ?_⟩
    have hpeek : s.cursor.peek 1 = some ch := by
      unfold Cursor.peek
      rw [hrest]
      rfl
    have hend : ∀ ch ∈ decimal, endsWord ch = false := by simp [decimal, endsWord, isBreak]
    rw [inside.inFlow, hpeek]
    simp [Scan.startsPlain, wordEnd, hend ch h]

/-- From the scan, what stands before the rest is read as these tokens. -/
def ReadsTo (s : Scan) (rest : List Char) (new : List Token) : Prop :=
  ∃ t, Comes s t ∧ t.cursor.rest = rest ∧ Inside t ∧ Extends s t new

lemma isGap_of_untabbed {w : Space} (h : Untabbed w) : IsGap w.1 := by
  intro ch hch
  have hspace := w.2 ch hch
  have htab : ch ≠ '\t' := by
    rintro rfl
    exact h hch
  simpa [isSpace, htab, or_assoc] using hspace

lemma word_readsTo {before after : Space} {rest : List Char} (h : Inside s)
    (hbefore : Untabbed before) (hafter : Untabbed after) (hw : ∀ ch ∈ w, inWord ch = true)
    (begins : Begins w) (hr : Closes rest)
    (hrest : s.cursor.rest = before.1 ++ (w ++ (after.1 ++ rest))) :
    ReadsTo s rest [.scalar (String.ofList w) true] := by
  obtain ⟨hstop, -, hhash⟩ := begins.word (after.1 ++ rest)
  have hcome := h.comes (isGap_of_untabbed hbefore) hstop hrest
  have hrest' : (skipped before.1 s).cursor.rest = w ++ (after.1 ++ rest) := advance_rest hrest
  obtain ⟨ch, w', rfl, htoken⟩ := begins.token (h.skipped _) hrest'
  obtain ⟨t, ht, hcursor, hinside, hextends⟩ := exists_plainScalar (h.skipped _) hw
    (List.cons_ne_nil _ _) hhash (isGap_of_untabbed hafter) hr hrest'
  have hdone : t.cursor.rest = [] ++ rest := by
    rw [hcursor]
    exact advance_rest (by rw [hrest', List.append_assoc]; rfl)
  have hcome' : Comes t (skipped [] t) := hinside.comes (by simp [IsGap]) hr.stops hdone
  refine ⟨skipped [] t, hcome.step hrest' (htoken.trans ht) ?_ hcome', advance_rest hdone,
    hinside.skipped _, ?_⟩
  · rw [hdone]
    simp
    omega
  · exact ((extends_skipped s _).trans hextends).trans (extends_skipped t _)

lemma inWord_null : ∀ ch ∈ "null".toList, inWord ch = true := by
  simp [inWord, endsWord, isBreak, Scalar.isFlowEnd]

lemma inWord_true : ∀ ch ∈ "true".toList, inWord ch = true := by
  simp [inWord, endsWord, isBreak, Scalar.isFlowEnd]

lemma inWord_false : ∀ ch ∈ "false".toList, inWord ch = true := by
  simp [inWord, endsWord, isBreak, Scalar.isFlowEnd]

lemma Numeric.inWord {ch : Char} (h : Numeric ch) : inWord ch = true := by
  have hdecimal : ∀ ch ∈ decimal, FlowScan.inWord ch = true := by
    simp [decimal, FlowScan.inWord, endsWord, isBreak, Scalar.isFlowEnd]
  have hmarks : ∀ ch ∈ ['-', '+', '.', 'e', 'E'], FlowScan.inWord ch = true := by
    simp [FlowScan.inWord, endsWord, isBreak, Scalar.isFlowEnd]
  rcases h with h | h
  · exact hdecimal ch (mem_decimal h)
  · exact hmarks ch h

lemma begins_number (n : Number) : Begins n.chars := by
  obtain ⟨negative, ⟨whole, nonempty, digits⟩, noPadding, fraction, exponent⟩ := n
  cases whole with
  | nil => exact absurd rfl nonempty
  | cons ch whole =>
    have hch := mem_decimal (digits ch (List.mem_cons_self ..))
    cases negative with
    | true => exact .minus hch
    | false => exact .digit hch

lemma stops_quoted (pieces : List Piece) (r : List Char) : Stops (quoted pieces ++ r) := by
  rintro ch ⟨⟩
  decide

lemma quoted_append (pieces : List Piece) (r : List Char) :
    quoted pieces ++ r = '\x22' :: (spelled pieces ++ '\x22' :: r) := by
  simp [quoted]

/-- A string, and the place after its closing quote. -/
lemma exists_string {pieces : List Piece} (h : Inside s) (legible : ∀ p ∈ pieces, p.Legible)
    (hrest : s.cursor.rest = quoted pieces ++ r) : ∃ t, s.token '\x22' = .ok t ∧
      t.cursor = s.cursor.advance (quoted pieces).length ∧ Inside t ∧
      Extends s t [.scalar (meant pieces) false] ∧
      (s.keyAllowed = true → t.possible = some s.keyHere) := by
  rw [quoted_append] at hrest
  obtain ⟨reads, -⟩ := reads_spelled legible (next_rest hrest)
  obtain ⟨t, ht, hcursor, hinside, hextends, hkey⟩ := exists_quoted h hrest reads
  refine ⟨t, ht, ?_, hinside, hextends, hkey⟩
  rw [hcursor]
  simp only [quoted, List.length_cons, List.length_append, List.cons_append, List.length_nil]
  rfl

lemma string_readsTo {pieces : List Piece} {before after : Space} {rest : List Char}
    (h : Inside s) (hbefore : Untabbed before) (hafter : Untabbed after)
    (legible : ∀ p ∈ pieces, p.Legible) (hr : Closes rest)
    (hrest : s.cursor.rest = before.1 ++ (quoted pieces ++ (after.1 ++ rest))) :
    ReadsTo s rest [.scalar (meant pieces) false] := by
  have hcome := h.comes (isGap_of_untabbed hbefore) (stops_quoted _ _) hrest
  have hrest' : (skipped before.1 s).cursor.rest = quoted pieces ++ (after.1 ++ rest) :=
    advance_rest hrest
  obtain ⟨t, ht, hcursor, hinside, hextends, -⟩ := exists_string (h.skipped _) legible hrest'
  have hdone : t.cursor.rest = after.1 ++ rest := by
    rw [hcursor]
    exact advance_rest hrest'
  rw [quoted_append] at hrest'
  have hcome' : Comes t (skipped after.1 t) :=
    hinside.comes (isGap_of_untabbed hafter) hr.stops hdone
  refine ⟨skipped after.1 t, hcome.step hrest' ht ?_ hcome', advance_rest hdone,
    hinside.skipped _, ?_⟩
  · rw [hdone]
    simp
    omega
  · exact ((extends_skipped s _).trans hextends).trans (extends_skipped t _)

/-- A character that a line of a document may hold. -/
def OnLine (ch : Char) : Prop := isAllowed ch = true ∧ isBreak ch = false

lemma onLine_printed (h : 0x20 ≤ ch.toNat ∧ ch.toNat ≤ 0x7E) : OnLine ch := by
  refine ⟨by simp [isAllowed, h], ?_⟩
  by_contra hbreak
  simp only [isBreak, Bool.not_eq_false, Bool.or_eq_true, beq_iff_eq] at hbreak
  rcases hbreak with (((rfl | rfl) | rfl) | rfl) | rfl <;> exact absurd h (by decide)

lemma onLine_hex (h : (hexDigit? ch).isSome = true) : OnLine ch := by
  apply onLine_printed
  have hrange : ('0' ≤ ch ∧ ch ≤ '9') ∨ ('a' ≤ ch ∧ ch ≤ 'f') ∨ ('A' ≤ ch ∧ ch ≤ 'F') := by
    by_contra hnot
    simp only [not_or] at hnot
    simp [hexDigit?, hnot] at h
  simp only [Char.le_def, UInt32.le_iff_toNat_le] at hrange
  rcases hrange with h | h | h
  · exact ⟨le_trans (by decide) h.1, le_trans h.2 (by decide)⟩
  · exact ⟨le_trans (by decide) h.1, le_trans h.2 (by decide)⟩
  · exact ⟨le_trans (by decide) h.1, le_trans h.2 (by decide)⟩

lemma onLine_quoted {pieces : List Piece} (legible : ∀ p ∈ pieces, p.Legible) :
    ∀ ch ∈ quoted pieces, OnLine ch := by
  have hpieces : ∀ p ∈ pieces, ∀ ch ∈ p.chars, OnLine ch := by
    intro p hp ch hch
    have hlegible := legible p hp
    cases p with
    | char c hc =>
      obtain rfl := List.mem_singleton.1 hch
      exact hlegible
    | letter l =>
      rcases List.mem_cons.1 hch with rfl | hch
      · exact onLine_printed (by decide)
      · obtain rfl := List.mem_singleton.1 hch
        cases l <;> exact onLine_printed (by decide)
    | code u hu =>
      rcases List.mem_cons.1 hch with rfl | hch
      · exact onLine_printed (by decide)
      · rcases List.mem_cons.1 hch with rfl | hch
        · exact onLine_printed (by decide)
        · exact onLine_hex (u.hex ch hch)
    | pair high low hhigh hlow => cases hlegible
  intro ch hch
  simp only [quoted, spelled, List.mem_cons, List.mem_append, List.mem_flatMap,
    List.cons_append, List.not_mem_nil, or_false] at hch
  rcases hch with rfl | ⟨p, hp, hch⟩ | rfl
  · exact onLine_printed (by decide)
  · exact hpieces p hp ch hch
  · exact onLine_printed (by decide)

/-- The colon stands on the line of the key, and not too far from its beginning. -/
lemma isFresh_name {name : Name} (legible : name.Legible)
    (hrest : s.cursor.rest = quoted name.pieces ++ (name.after.1 ++ ':' :: r)) :
    isFresh ((s.cursor.advance (quoted name.pieces).length).advance name.after.1.length)
      s.keyHere = true := by
  have hrest' := advance_rest hrest
  have hspaces : ∀ ch ∈ name.after.1, isBreak ch = false := by
    intro ch hch
    rw [legible.after ch hch]
    rfl
  have hquoted : ∀ ch ∈ quoted name.pieces, isBreak ch = false := fun ch hch =>
    (onLine_quoted legible.pieces ch hch).2
  have hshort := legible.short
  unfold isFresh
  rw [advance_line hrest' hspaces, advance_line hrest hquoted, advance_index hrest',
    advance_index hrest]
  simp [Scan.keyHere]
  omega

/-- A key is known by its colon, which has to be near. -/
lemma exists_key {name : Name} (h : Inside s) (allowed : s.keyAllowed = true)
    (legible : name.Legible) (hrest : s.cursor.rest = name.chars ++ ':' :: r) :
    ∃ t u, Comes s t ∧ t.cursor.rest = ':' :: r ∧ t.token ':' = .ok u ∧ u.cursor.rest = r ∧
      Inside u ∧ Extends s u name.tokens := by
  have hstops : Stops (':' :: r) := by
    rintro ch ⟨⟩
    decide
  have hgap : IsGap name.after.1 := fun ch hch => Or.inl (legible.after ch hch)
  simp only [Name.chars, List.append_assoc] at hrest
  have hcome := h.comes (isGap_of_untabbed legible.before) (stops_quoted _ _) hrest
  generalize hv : skipped name.before.1 s = v at hcome
  have hrest' : v.cursor.rest = quoted name.pieces ++ (name.after.1 ++ ':' :: r) := by
    rw [← hv]
    exact advance_rest hrest
  have hinside : Inside v := hv ▸ h.skipped _
  obtain ⟨w, hw, hcursor, hinside', hextends, hkey⟩ := exists_string hinside legible.pieces hrest'
  have hrest'' : w.cursor.rest = name.after.1 ++ ':' :: r := by
    rw [hcursor]
    exact advance_rest hrest'
  have hcome' := hinside'.comes hgap hstops hrest''
  have hfresh : isFresh (w.cursor.advance name.after.1.length) v.keyHere = true := by
    rw [hcursor]
    exact isFresh_name legible hrest'
  have hpossible : (skipped name.after.1 w).possible = some v.keyHere := by
    have hallowed : v.keyAllowed = true := by
      rw [← hv]
      simp [skipped, allowed]
    unfold skipped
    rw [hkey hallowed]
    exact Option.filter_some_pos hfresh
  have hread : Extends v (skipped name.after.1 w) [.scalar (meant name.pieces) false] :=
    hextends.trans (extends_skipped w _)
  have hcolon : (skipped name.after.1 w).cursor.rest = ':' :: r := advance_rest hrest''
  obtain ⟨u, hu, hucursor, huinside, huextends⟩ :=
    exists_valueMark (hinside'.skipped _) hread hpossible hcolon
  have hvextends : Extends s v [] := hv ▸ extends_skipped s _
  refine ⟨_, u, hcome.step hrest' hw ?_ hcome', hcolon, hu, ?_, huinside, hvextends.trans huextends⟩
  · rw [hrest'']
    simp
    omega
  · rw [hucursor]
    exact next_rest hcolon

end

/-! ### Collections -/

/-- The brackets of a kind of collection, with their tokens. -/
structure Brackets where
  left : Char
  right : Char
  opened : Token
  closed : Token

namespace Brackets

def square : Brackets := ⟨'[', ']', .flowSequenceStart, .flowSequenceEnd⟩

def curly : Brackets := ⟨'\x7b', '\x7d', .flowMappingStart, .flowMappingEnd⟩

/-- Brackets that the scan knows. -/
structure Known (b : Brackets) : Prop where
  stops : ∀ r, Stops (b.left :: r)
  closes : ∀ r, Closes (b.right :: r)
  opens : ∀ {s : Scan} {r : List Char}, s.cursor.rest = b.left :: r →
    s.token b.left = s.openFlow b.opened
  ends : ∀ {s : Scan} {r : List Char}, s.cursor.rest = b.right :: r →
    s.token b.right = s.closeFlow b.closed

lemma known_square : square.Known where
  stops r := by
    rintro ch ⟨⟩
    decide
  closes r := ⟨_, r, rfl, Or.inr (Or.inl rfl)⟩
  opens := token_sequenceStart
  ends := token_sequenceEnd

lemma known_curly : curly.Known where
  stops r := by
    rintro ch ⟨⟩
    decide
  closes r := ⟨_, r, rfl, Or.inr (Or.inr rfl)⟩
  opens := token_mappingStart
  ends := token_mappingEnd

end Brackets

section

variable {s t : Scan} {b : Brackets} {body r : List Char} {inner : List Token}

/-- From inside brackets, what stands before the closing one is read as these tokens. -/
def Fills (b : Brackets) (body r : List Char) (inner : List Token) : Prop :=
  ∀ s, Inside s → s.keyAllowed = true → s.cursor.rest = body → ReadsTo s (b.right :: r) inner

/-- A collection is read once what stands between its brackets is. -/
lemma exists_brackets (hb : b.Known) (free : Free t) (here : t.keyHere.required = false)
    (hrest : t.cursor.rest = b.left :: body) (fills : Fills b body r inner) :
    ∃ u v w, t.token b.left = .ok u ∧ u.cursor.rest = body ∧ Comes u v ∧
      v.cursor.rest = b.right :: r ∧ v.token b.right = .ok w ∧ w.cursor.rest = r ∧ Free w ∧
      Extends t w (b.opened :: inner ++ [b.closed]) := by
  obtain ⟨u, hu, opens⟩ := exists_openFlow free here b.opened
  have hubody : u.cursor.rest = body := by
    rw [opens.cursor]
    exact next_rest hrest
  obtain ⟨v, hcome, hv, hinside, hextends⟩ :=
    fills u (opens.inside free) opens.keyAllowed hubody
  obtain ⟨w, hw, hcursor, hfree, hextends'⟩ := exists_closeFlow opens hextends hinside.toFree
  refine ⟨u, v, w, (hb.opens hrest).trans hu, hubody, hcome, hv, (hb.ends hv).trans hw, ?_, hfree,
    hextends'⟩
  rw [hcursor]
  exact next_rest hv

lemma brackets_readsTo {before after : Space} {rest : List Char} (hb : b.Known) (h : Inside s)
    (hbefore : Untabbed before) (hafter : Untabbed after) (hr : Closes rest)
    (hrest : s.cursor.rest = before.1 ++ (b.left :: body))
    (fills : Fills b body (after.1 ++ rest) inner) :
    ReadsTo s rest (b.opened :: inner ++ [b.closed]) := by
  have hcome := h.comes (isGap_of_untabbed hbefore) (hb.stops _) hrest
  have hrest' : (skipped before.1 s).cursor.rest = b.left :: body := advance_rest hrest
  have hinside := h.skipped before.1
  obtain ⟨u, v, w, hu, hubody, hcomes, hv, hw, hwrest, hfree, hextends⟩ :=
    exists_brackets hb hinside.toFree hinside.keyHere hrest' fills
  have hwinside : Inside w := hinside.of_depth hfree hextends.depth
  have hcome' : Comes w (skipped after.1 w) :=
    hwinside.comes (isGap_of_untabbed hafter) hr.stops hwrest
  refine ⟨skipped after.1 w, ?_, advance_rest hwrest, hwinside.skipped _, ?_⟩
  · exact hcome.step hrest' hu (by rw [hubody]) (hcomes.step hv hw (by rw [hwrest]) hcome')
  · simpa using ((extends_skipped s before.1).trans hextends).trans (extends_skipped w after.1)

/-- Nothing but white space stands between the brackets. -/
lemma fills_nil {w : Space} (hb : b.Known) (hw : Untabbed w) :
    Fills b (w.1 ++ b.right :: r) r [] := by
  intro s h allowed hrest
  refine ⟨skipped w.1 s, h.comes (isGap_of_untabbed hw) (hb.closes r).stops hrest, ?_,
    h.skipped _, extends_skipped s _⟩
  exact advance_rest hrest

end

/-! ### Documents -/

section

lemma closes_comma (r : List Char) : Closes (',' :: r) := ⟨_, r, rfl, Or.inl rfl⟩

/-- A comma leads on to what is next. -/
lemma ReadsTo.comma {s : Scan} {r rest : List Char} {new more : List Token}
    (h : ReadsTo s (',' :: r) new)
    (next : ∀ t, Inside t → t.keyAllowed = true → t.cursor.rest = r → ReadsTo t rest more) :
    ReadsTo s rest (new ++ .flowEntry :: more) := by
  obtain ⟨t, hcome, hrest, hinside, hextends⟩ := h
  obtain ⟨u, hu, hcursor, huinside, huextends, allowed⟩ := exists_flowEntry hinside
  have hurest : u.cursor.rest = r := by
    rw [hcursor]
    exact next_rest hrest
  obtain ⟨v, hcome', hvrest, hvinside, hvextends⟩ := next u huinside allowed hurest
  refine ⟨v, ?_, hvrest, hvinside, hextends.trans (huextends.trans hvextends)⟩
  exact hcome.step hrest ((token_entry hrest).trans hu) (by rw [hurest]) hcome'

/-- A member is read once its value is. -/
lemma member_readsTo {s : Scan} {name : Name} {r rest : List Char} {new : List Token}
    (h : Inside s) (allowed : s.keyAllowed = true) (legible : name.Legible)
    (hrest : s.cursor.rest = name.chars ++ ':' :: r)
    (next : ∀ t, Inside t → t.cursor.rest = r → ReadsTo t rest new) :
    ReadsTo s rest (name.tokens ++ new) := by
  obtain ⟨t, u, hcome, htrest, hu, hurest, huinside, huextends⟩ := exists_key h allowed legible hrest
  obtain ⟨v, hcome', hvrest, hvinside, hvextends⟩ := next u huinside hurest
  exact ⟨v, hcome.step htrest hu (by rw [hurest]) hcome', hvrest, hvinside,
    huextends.trans hvextends⟩

mutual

/-- **A legible document is read as its tokens**, within brackets and whatever white space is
around it. -/
lemma Doc.readsTo (d : Doc) (legible : d.Legible) {s : Scan} {before after : Space}
    {rest : List Char} (h : Inside s) (hbefore : Untabbed before) (hafter : Untabbed after)
    (hr : Closes rest) (hrest : s.cursor.rest = before.1 ++ (d.chars ++ (after.1 ++ rest))) :
    ReadsTo s rest d.tokens := by
  cases d with
  | null => exact word_readsTo h hbefore hafter inWord_null (.letter (by decide)) hr hrest
  | bool b =>
    cases b with
    | true => exact word_readsTo h hbefore hafter inWord_true (.letter (by decide)) hr hrest
    | false => exact word_readsTo h hbefore hafter inWord_false (.letter (by decide)) hr hrest
  | number n =>
    exact word_readsTo h hbefore hafter (fun ch hch => (n.numeric ch hch).inWord) (begins_number n)
      hr hrest
  | string pieces => exact string_readsTo h hbefore hafter legible hr hrest
  | emptyArray w =>
    simp only [Doc.chars, List.cons_append, List.append_assoc, List.nil_append] at hrest
    exact brackets_readsTo Brackets.known_square h hbefore hafter hr hrest
      (fills_nil Brackets.known_square legible)
  | array items =>
    simp only [Doc.chars, List.cons_append, List.append_assoc, List.nil_append] at hrest
    exact brackets_readsTo Brackets.known_square h hbefore hafter hr hrest
      (items.fills legible _)
  | emptyObject w =>
    simp only [Doc.chars, List.cons_append, List.append_assoc, List.nil_append] at hrest
    exact brackets_readsTo Brackets.known_curly h hbefore hafter hr hrest
      (fills_nil Brackets.known_curly legible)
  | object members =>
    simp only [Doc.chars, List.cons_append, List.append_assoc, List.nil_append] at hrest
    exact brackets_readsTo Brackets.known_curly h hbefore hafter hr hrest
      (members.fills legible _)

lemma Items.fills (items : Items) (legible : items.Legible) (r : List Char) :
    Fills Brackets.square (items.chars ++ ']' :: r) r items.tokens := by
  intro s h allowed hrest
  cases items with
  | one before d after =>
    obtain ⟨hbefore, hd, hafter⟩ := legible
    simp only [Items.chars, List.append_assoc] at hrest
    exact d.readsTo hd h hbefore hafter (Brackets.known_square.closes r) hrest
  | more before d after items =>
    obtain ⟨⟨hbefore, hd, hafter⟩, hitems⟩ := legible
    simp only [Items.chars, List.append_assoc, List.cons_append] at hrest
    exact (d.readsTo hd h hbefore hafter (closes_comma _) hrest).comma (items.fills hitems r)

lemma Members.fills (members : Members) (legible : members.Legible) (r : List Char) :
    Fills Brackets.curly (members.chars ++ '\x7d' :: r) r members.tokens := by
  intro s h allowed hrest
  cases members with
  | one name before d after =>
    obtain ⟨hname, hbefore, hd, hafter⟩ := legible
    simp only [Members.chars, List.append_assoc, List.cons_append] at hrest
    refine member_readsTo h allowed hname hrest fun t ht htrest => ?_
    exact d.readsTo hd ht hbefore hafter (Brackets.known_curly.closes r) htrest
  | more name before d after members =>
    obtain ⟨⟨hname, hbefore, hd, hafter⟩, hmembers⟩ := legible
    simp only [Members.chars, List.append_assoc, List.cons_append] at hrest
    rw [Members.tokens, List.append_assoc]
    refine member_readsTo h allowed hname hrest fun t ht htrest => ?_
    exact (d.readsTo hd ht hbefore hafter (closes_comma _) htrest).comma
      (members.fills hmembers r)

end

end

/-! ### Texts -/

section

variable {s : Scan} {w r : List Char}

lemma unwind_outermost (h : s.indents = []) (column : Int) : s.unwind column = s := by
  obtain ⟨cursor, tokens, indent, indents, keyAllowed, possible, outer⟩ := s
  subst h
  unfold Scan.unwind
  split <;> rfl

lemma comes_outermost (free : Free s) (h : s.indents = []) (hw : IsGap w) (hr : Stops r)
    (hrest : s.cursor.rest = w ++ r) : Comes s (skipped w s) := by
  have hcome := Comes.of_gap hw hr hrest (free.holds _)
  rwa [unwind_outermost (show (skipped w s).indents = [] from h)] at hcome

/-- **The tokens of a legible text** are those of its document. -/
theorem tokens_text {t : ObjectText} (legible : t.Legible) :
    Yaml.tokens t.chars = .ok t.doc.tokens := by
  have free : Free (Scan.start t.chars) := ⟨nofun, nofun⟩
  have hrest : (Scan.start t.chars).cursor.rest =
      t.before.1 ++ ('\x7b' :: (t.members.chars ++ '\x7d' :: t.after.1)) := by
    show t.before.1 ++ t.doc.chars ++ t.after.1 = _
    simp [ObjectText.doc, Doc.chars]
  have hcome := comes_outermost free rfl (isGap_of_untabbed legible.before)
    (Brackets.known_curly.stops _) hrest
  have hrest' := advance_rest hrest
  have here : (skipped t.before.1 (Scan.start t.chars)).keyHere.required = false := by
    simp [Scan.keyHere, skipped, Scan.start]
  obtain ⟨u, v, x, hu, hubody, hcomes, hv, hx, hxrest, hfree, hextends⟩ :=
    exists_brackets Brackets.known_curly (free.skipped _) here hrest'
      (t.members.fills legible.doc t.after.1)
  have hindents : x.indents = [] := hextends.indents
  have hend : x.cursor.rest = t.after.1 ++ [] := by rw [hxrest, List.append_nil]
  have hcome' : Comes x (skipped t.after.1 x) :=
    comes_outermost hfree hindents (isGap_of_untabbed legible.after) (by simp [Stops]) hend
  have hall := hcome.step hrest' hu (by rw [hubody])
    (hcomes.step hv hx (by rw [hxrest]) hcome')
  have hclosed : ((skipped t.after.1 x).unwind (-1)).dropKey =
      .ok { skipped t.after.1 x with possible := none } := by
    rw [unwind_outermost (show (skipped t.after.1 x).indents = [] from hindents)]
    unfold Scan.dropKey
    rw [forget_eq (hfree.skipped _).possible]
    rfl
  have hrun : Scan.run (t.chars.length + 1) (Scan.start t.chars) = .ok x.tokens :=
    hall.run (advance_rest hend) hclosed (Nat.lt_succ_self t.chars.length)
  unfold Yaml.tokens
  rw [hrun]
  exact congrArg Except.ok hextends.tokens

end

end Testbed.Json
