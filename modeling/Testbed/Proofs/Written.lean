import Mathlib
import Testbed.Proofs.PlainFolding
import Testbed.Proofs.Trees

/-!
Trees as they are written.

A node is written after an indicator, an entry of a block in a line of its own. What is written is
read there as the tokens of the node or the entry, so the text of a tree fills its place.
-/

namespace Testbed.Trees

open BlockScan
open Folding
open Quoting
open Scanning
open Yaml
open Yaml.Writing

/-! ### Pages between nodes -/

/-- The space before what has to stand apart. -/
def space (p : Page) : List Char := if p.spaced then [] else [' ']

/-- The page goes on with these characters and is past a node. -/
structure Wrote (p : Page) (w : List Char) (q : Page) : Prop where
  text : q.text.toList = p.text.toList ++ w
  fresh : q.fresh = false
  openEnded : q.openEnded = false
  allowed : ∀ ch ∈ w, isAllowed ch = true

section

variable {p q : Page} {n : Nat} {ch : Char} {text v w : List Char}

lemma isAllowed_space (p : Page) : ∀ ch ∈ space p, isAllowed ch = true := by
  unfold space
  split <;> simp [isAllowed]

lemma isAllowed_snoc (allowed : ∀ d ∈ w, isAllowed d = true) (hch : isAllowed ch = true) :
    ∀ d ∈ w ++ [ch], isAllowed d = true :=
  List.forall_mem_append.2 ⟨allowed, by simpa using hch⟩

lemma Wrote.after {r : Page} (h : Wrote q w r) (htext : q.text.toList = p.text.toList ++ v)
    (allowed : ∀ ch ∈ v, isAllowed ch = true) : Wrote p (v ++ w) r where
  text := by rw [h.text, htext, List.append_assoc]
  fresh := h.fresh
  openEnded := h.openEnded
  allowed := List.forall_mem_append.2 ⟨allowed, h.allowed⟩

/-- A mark that ends a node. -/
lemma wrote_mark (ch : Char) (spaced : Bool) (htext : q.text.toList = p.text.toList ++ w)
    (allowed : ∀ ch ∈ w, isAllowed ch = true) (hch : isAllowed ch = true) :
    Wrote p (w ++ [ch]) (q.mark [ch] false false spaced) where
  text := by simp [mark_text, htext]
  fresh := Bool.and_false _
  openEnded := rfl
  allowed := isAllowed_snoc allowed hch

lemma mark_apart (chars : List Char) (nesting spaced : Bool) (p : Page) :
    (p.mark chars true nesting spaced).text.toList = p.text.toList ++ (space p ++ chars) := by
  rw [mark_text, space]
  cases p.spaced <;> rfl

/-! ### Scalars on a page -/

lemma plain_eq (n : Nat) (split : Bool) (hne : text ≠ []) (p : Page) :
    p.plain n split false text = Page.plainWords n split none text (p.put (space p)).within := by
  unfold Page.plain space
  simp only [Bool.false_eq_true, if_false, List.isEmpty_iff, hne]
  cases p.spaced <;> simp [Page.put]

/-- A plain text on a page. -/
lemma exists_plain (split : Bool) (hn : 0 < n) (hopen : p.openEnded = false)
    (allows : Spelling.allowsPlain text = true) (hne : text ≠ []) :
    ∃ w, Wrote p (space p ++ w) (p.plain n split false text) ∧ Plains n split text w := by
  obtain ⟨w, hw, hfresh, hopen', plains⟩ := exists_plainWords hn split
    (worded_of_allows allows hne) none (p.put (space p)).within rfl
  rw [plain_eq n split hne]
  exact ⟨w, ⟨by simp [hw], hfresh, hopen'.trans hopen,
    List.forall_mem_append.2 ⟨isAllowed_space p, plains.allowed⟩⟩, plains⟩

lemma apart_of_allows (h : Spelling.allowsSingle text = true) : Apart text := by
  simp only [Spelling.allowsSingle, Bool.not_eq_true', Bool.or_eq_false_iff] at h
  obtain ⟨⟨hspecial, hafter⟩, hbefore⟩ := h
  exact ⟨fun ch hch => by simpa using List.any_eq_false.1 hspecial ch hch, hafter, hbefore⟩

/-- What stands between two quotes. -/
lemma wrote_quotes (quote : Char) (hquote : isAllowed quote = true) (words : Page → Page)
    (htext : (words (p.mark [quote] true false false)).text.toList =
      (p.mark [quote] true false false).text.toList ++ w)
    (allowed : ∀ ch ∈ w, isAllowed ch = true) :
    Wrote p (space p ++ quote :: (w ++ [quote]))
      ((words (p.mark [quote] true false false)).mark [quote] false false false) := by
  rw [mark_apart, List.append_assoc, List.append_assoc] at htext
  have hwrote := wrote_mark quote false htext (List.forall_mem_append.2
    ⟨isAllowed_space p, List.forall_mem_cons.2 ⟨hquote, allowed⟩⟩) hquote
  rwa [List.append_assoc] at hwrote

/-- A text between apostrophes on a page. -/
lemma exists_single (split : Bool) (hn : 0 < n) (allows : Spelling.allowsSingle text = true) :
    ∃ w, Wrote p (space p ++ '\x27' :: (w ++ ['\x27'])) (p.single n split text) ∧
      Quoted '\x27' w text := by
  obtain ⟨w, hw, singles⟩ := exists_singleWords hn split none (p.mark ['\x27'] true false false)
    (apart_of_allows allows) ⟨fun _ => .inl (Bool.and_false _), nofun⟩
  exact ⟨w, wrote_quotes '\x27' rfl _ hw singles.allowed, singles.quoted (fun h => nomatch h.1)⟩

/-- A text between double quotes on a page. -/
lemma exists_double (split : Bool) (hn : 0 < n)
    (room : split = true → n < Page.width ∨ brittle text.tail = false) :
    ∃ w, Wrote p (space p ++ '\x22' :: (w ++ ['\x22'])) (p.double n split text) ∧
      Quoted '\x22' w text := by
  obtain ⟨w, hw, doubles⟩ := exists_doubleWords hn split text true false
    (p.mark ['\x22'] true false false) (Bool.and_false _) room
  exact ⟨w, wrote_quotes '\x22' rfl _ hw doubles.allowed, doubles.quoted⟩

/-! ### Scalars on one line -/

lemma plainWords_straight (n : Nat) (before : Option Char) (text : List Char) (p : Page) :
    Page.plainWords n false before text p = p.put text := by
  induction text generalizing before p with
  | nil => simp [Page.plainWords, Page.put]
  | cons ch text ih =>
    rw [plainWords_cons rfl, ih, put_put]
    rfl

/-- A character as it stands between apostrophes. -/
def doubled (ch : Char) : List Char := if ch = '\x27' then ['\x27', '\x27'] else [ch]

lemma singleWords_straight (n : Nat) (hline : '\n' ∉ text) (before : Option Char) (p : Page) :
    Page.singleWords n false before text p = p.put (text.flatMap doubled) := by
  induction text generalizing before p with
  | nil => simp [Page.singleWords, Page.put]
  | cons ch text ih =>
    obtain ⟨hch, hline⟩ := not_or.1 (List.mem_cons.not.1 hline)
    have hne : (ch == '\n') = false := beq_eq_false_iff_ne.2 (Ne.symm hch)
    rw [Page.singleWords, ih hline, List.flatMap_cons, ← put_put]
    congr 1
    by_cases hquote : ch = '\x27'
    · simp [hquote, doubled]
    · simp [hne, hquote, doubled, Page.foldsHere]

lemma doubleWords_straight (n : Nat) (first escapedBefore : Bool) (text : List Char) (p : Page) :
    Page.doubleWords n false first escapedBefore text p = p.put (text.flatMap escaped) := by
  induction text generalizing first escapedBefore p with
  | nil => simp [Page.doubleWords, Page.put]
  | cons ch text ih =>
    rw [Page.doubleWords, List.flatMap_cons, ← put_put]
    cases he : Page.escape? ch with
    | some e => simp [ih, escaped, he]
    | none => simp [ih, escaped, he]

lemma printed_of_single (allows : Spelling.allowsSingle text = true)
    (hline : Spelling.isMultiline text = false) : ∀ ch ∈ text, Printed ch := by
  refine fun ch hch => ⟨(apart_of_allows allows).ordinary ch hch, ?_⟩
  rintro rfl
  exact absurd rfl (List.any_eq_false.1 hline _ hch)

lemma printed_doubled {ch : Char} (h : Printed ch) : ∀ d ∈ doubled ch, Printed d := by
  unfold doubled
  split
  · simp only [List.forall_mem_cons]
    exact ⟨by decide, by decide, List.forall_mem_nil _⟩
  · simpa using h

lemma printed_escaped (ch : Char) : ∀ d ∈ escaped ch, Printed d := by
  unfold escaped
  cases he : Page.escape? ch with
  | some e =>
    obtain ⟨e, rfl, escapes⟩ := exists_escapes he
    exact List.forall_mem_cons.2 ⟨by decide, escapes.printed⟩
  | none =>
    have hplain := (escape_eq_none he).2.2
    simp only [Option.getD_none, List.forall_mem_singleton]
    exact ⟨hplain, by rintro rfl; cases he⟩

lemma printed_flatMap {f : Char → List Char} (h : ∀ ch ∈ text, ∀ d ∈ f ch, Printed d) :
    ∀ d ∈ text.flatMap f, Printed d := by
  intro d hd
  obtain ⟨ch, hch, hd⟩ := List.mem_flatMap.1 hd
  exact h ch hch d hd

lemma length_doubled (ch : Char) : (doubled ch).length ≤ 2 := by
  unfold doubled
  split <;> simp

lemma isAllowed_of_printed (h : ∀ ch ∈ text, Printed ch) : ∀ ch ∈ text, isAllowed ch = true :=
  fun ch hch => isAllowed_of_plain (h ch hch).1

lemma wrote_plain (n : Nat) (hopen : p.openEnded = false) (hne : text ≠ [])
    (hprinted : ∀ ch ∈ text, Printed ch) :
    Wrote p (space p ++ text) (p.plain n false false text) := by
  rw [plain_eq n false hne, plainWords_straight]
  refine ⟨by simp, rfl, hopen, List.forall_mem_append.2
    ⟨isAllowed_space p, isAllowed_of_printed hprinted⟩⟩

lemma wrote_single (n : Nat) (p : Page) (hprinted : ∀ ch ∈ text, Printed ch) :
    Wrote p (space p ++ '\x27' :: (text.flatMap doubled ++ ['\x27'])) (p.single n false text) := by
  have printed := printed_flatMap fun ch hch => printed_doubled (hprinted ch hch)
  refine wrote_quotes '\x27' rfl (Page.singleWords n false none text) ?_
    (isAllowed_of_printed printed)
  rw [singleWords_straight n (fun hmem => (hprinted _ hmem).2 rfl), put_text]

lemma wrote_double (n : Nat) (text : List Char) (p : Page) :
    Wrote p (space p ++ '\x22' :: (text.flatMap escaped ++ ['\x22'])) (p.double n false text) := by
  refine wrote_quotes '\x22' rfl (Page.doubleWords n false true false text) ?_
    (isAllowed_of_printed (printed_flatMap fun ch _ => printed_escaped ch))
  rw [doubleWords_straight, put_text]

lemma plains_straight (allows : Spelling.allowsPlain text = true) (hne : text ≠ []) :
    Plains 1 false text text := by
  obtain ⟨w, hw, -, -, plains⟩ := exists_plainWords Nat.one_pos false (worded_of_allows allows hne)
    none Page.empty.within rfl
  rw [plainWords_straight, put_text] at hw
  rwa [← List.append_cancel_left hw] at plains

lemma quoted_doubled (allows : Spelling.allowsSingle text = true) (hline : '\n' ∉ text) :
    Quoted '\x27' (text.flatMap doubled) text := by
  obtain ⟨w, hw, singles⟩ := exists_singleWords Nat.one_pos false none Page.empty.within
    (apart_of_allows allows) ⟨fun _ => .inl rfl, nofun⟩
  rw [singleWords_straight 1 hline, put_text] at hw
  rw [List.append_cancel_left hw]
  exact singles.quoted (fun h => nomatch h.1)

lemma quoted_escaped (text : List Char) : Quoted '\x22' (text.flatMap escaped) text := by
  obtain ⟨w, hw, doubles⟩ :=
    exists_doubleWords Nat.one_pos false text true false Page.empty.within rfl nofun
  rw [doubleWords_straight, put_text] at hw
  rw [List.append_cancel_left hw]
  exact doubles.quoted

end

/-! ### Nodes and entries -/

/-- The page is past an indicator, in a fresh place one of nesting at this column. -/
structure Place (fresh : Bool) (column : Nat) (p : Page) : Prop where
  spaced : p.spaced = false
  fresh_eq : p.fresh = fresh
  column_eq : fresh = true → p.column = column + 1
  openEnded : p.openEnded = false

/-- At such a place a node is written that is read there as these tokens on this condition. -/
def Writes (ok : Prop) (fresh : Bool) (column : Nat) (write : Role → Option Nat → Draft → Draft)
    (new : List Token) : Prop :=
  ∀ (role : Role) (p : Page) (written : List Label),
    role = .part ∨ role = .item ∧ fresh = true → Place fresh column p →
    ∃ w q, write role (some column) ⟨p, written⟩ = ⟨q, written⟩ ∧ Wrote p w q ∧
      Fills ok fresh column w new

/-- At the start of a line a key is written as these characters. -/
def Names (column : Nat) (write : Role → Option Nat → Draft → Draft) (w : List Char) : Prop :=
  ∀ (p : Page) (written : List Label), p.spaced = true → p.openEnded = false →
    ∃ q, write .simpleKey (some column) ⟨p, written⟩ = ⟨q, written⟩ ∧ Wrote p w q

/-- Entries are written in lines at this column, and are read there as these tokens on this
condition. -/
def Adds (ok : Prop) (start : Token) (column : Nat) (write : Draft → Draft) (new : List Token) :
    Prop :=
  ∀ (p : Page) (written : List Label) (lead : List Char), p.openEnded = false →
    Starts column p lead (p.newLine column) → (∀ ch ∈ lead, isAllowed ch = true) →
    ∃ w q, write ⟨p, written⟩ = ⟨q, written⟩ ∧ Wrote p (lead ++ w) q ∧
      Entries ok start column w new

section

variable {ok ok' : Prop} {p q : Page} {fresh : Bool} {column : Nat} {start token : Token}
  {lead v w : List Char} {new new' ks vs : List Token}
  {write write' : Role → Option Nat → Draft → Draft}

lemma Place.space_eq (h : Place fresh column p) : space p = [' '] := if_neg (by simp [h.spaced])

/-- On the line of an indicator, a block is indented by one more space. -/
lemma Place.starts (h : Place true column p) :
    Starts (column + 2) p [' '] (p.newLine (column + 2)) := by
  have hcolumn := h.column_eq rfl
  have starts := newLine_indent (n := column + 2) h.fresh_eq (by omega) (by omega)
  rwa [hcolumn, show column + 2 - (column + 1) = 1 by omega] at starts

/-- An indicator of nesting at the start of a line. -/
lemma place_indicator (h : Starts column p lead q) (ch : Char) :
    Place true column (q.mark [ch] true true false) ∧
      (q.mark [ch] true true false).text.toList = p.text.toList ++ (lead ++ [ch]) := by
  refine ⟨⟨rfl, ?_, fun _ => ?_, rfl⟩, ?_⟩
  · simp [Page.mark, h.fresh]
  · simp [Page.mark, h.spaced, h.column]
  · rw [mark_text, h.text, h.spaced, List.append_assoc]
    rfl

/-- The colon after a key on its line. -/
lemma Wrote.colon (h : Wrote p w q) (column : Nat) :
    Place false column (q.mark [':'] false false false) ∧
      (q.mark [':'] false false false).text.toList = p.text.toList ++ (w ++ [':']) := by
  refine ⟨⟨rfl, Bool.and_false _, nofun, rfl⟩, ?_⟩
  simp [mark_text, h.text]

lemma Adds.append {write write' : Draft → Draft} (h : Adds ok start column write new)
    (h' : Adds ok' start column write' new') :
    Adds (ok ∧ ok') start column (fun d => write' (write d)) (new ++ new') := by
  intro p written lead hopen starts allowed
  obtain ⟨w, q, hw, wrote, entries⟩ := h p written lead hopen starts allowed
  obtain ⟨w', q', hw', wrote', entries'⟩ := h' q written _ wrote.openEnded
    (newLine_break (.inl wrote.fresh)) (isAllowed_nextLine (List.forall_mem_nil _))
  refine ⟨w ++ nextLine column w', q', (congrArg write' hw).trans hw', ?_, entries.append entries'⟩
  simpa using wrote'.after wrote.text wrote.allowed

/-- An item after its indicator. -/
lemma Writes.item (h : Writes ok true column write new) :
    Adds ok .blockSequenceStart column (Writing.item column write) (.blockEntry :: new) := by
  intro p written lead _ starts allowed
  obtain ⟨place, htext⟩ := place_indicator starts '-'
  obtain ⟨w, q, hw, wrote, fills⟩ := h .item _ written (.inr ⟨rfl, rfl⟩) place
  refine ⟨'-' :: w, q, hw, ?_, fills.item⟩
  simpa using wrote.after htext (isAllowed_snoc allowed rfl)

/-- An entry whose key has an indicator of its own. -/
lemma Writes.field {k : Value} (hkey : Writes ok true column write ks)
    (hvalue : Writes ok' true column write' vs)
    (hk : ∀ written, isSimpleKey [] written k = false) :
    Adds (ok ∧ ok') .blockMappingStart column
      (fun d => write' .part (some column) (Writing.key [] column k write d))
      (.key :: (ks ++ .value :: vs)) := by
  intro p written lead _ starts allowed
  obtain ⟨place, htext⟩ := place_indicator starts '?'
  obtain ⟨w, q, hw, wrote, fills⟩ := hkey .part _ written (.inl rfl) place
  have starts' := newLine_break (n := column) (.inl wrote.fresh)
  obtain ⟨place', htext'⟩ := place_indicator starts' ':'
  obtain ⟨w', q', hw', wrote', fills'⟩ := hvalue .part _ written (.inl rfl) place'
  refine ⟨_, q', ?_, ?_, fills.entry fills'⟩
  · unfold Writing.key
    simp only [hk, Bool.false_eq_true, if_false]
    rw [hw]
    exact hw'
  · have hkeyed := wrote.after htext (isAllowed_snoc allowed rfl)
    have hvalued := wrote'.after htext' (isAllowed_snoc
      (isAllowed_nextLine (List.forall_mem_nil _)) rfl)
    simpa using hvalued.after hkeyed.text hkeyed.allowed

/-- An entry whose key stands on the line of its value. -/
lemma Names.field {k : Value} (hkey : Names column write w) (keyed : Keyed w token)
    (hvalue : Writes ok false column write' vs)
    (hk : ∀ written, isSimpleKey [] written k = true) :
    Adds (w.length ≤ 1024 ∧ ok) .blockMappingStart column
      (fun d => write' .part (some column) (Writing.key [] column k write d))
      (.key :: token :: .value :: vs) := by
  intro p written lead hopen starts allowed
  obtain ⟨q, hw, wrote⟩ :=
    hkey (p.newLine column) written starts.spaced (starts.openEnded.trans hopen)
  have wrote := wrote.after starts.text allowed
  obtain ⟨place, htext⟩ := wrote.colon column
  obtain ⟨w', q', hw', wrote', fills⟩ := hvalue .part _ written (.inl rfl) place
  refine ⟨w ++ ':' :: w', q', ?_, ?_, keyed.entry fills⟩
  · unfold Writing.key
    simp only [hk, if_true]
    rw [hw]
    exact hw'
  · simpa using wrote'.after htext (isAllowed_snoc wrote.allowed rfl)

/-- Entries that are indented more than the block around them. -/
lemma Adds.deeper {write : Draft → Draft} (h : Adds ok start (column + 2) write new)
    (place : Place fresh column p) (written : List Label) :
    ∃ w q, write ⟨p, written⟩ = ⟨q, written⟩ ∧ Wrote p w q ∧
      Fills ok fresh column w (start :: new ++ [.blockEnd]) := by
  cases fresh with
  | true =>
    obtain ⟨w, q, hw, wrote, entries⟩ :=
      h p written _ place.openEnded place.starts (by simp [isAllowed])
    exact ⟨_, q, hw, wrote, entries.fills_fresh⟩
  | false =>
    obtain ⟨w, q, hw, wrote, entries⟩ := h p written _ place.openEnded
      (newLine_break (.inl place.fresh_eq)) (isAllowed_nextLine (List.forall_mem_nil _))
    rw [nextLine_append] at wrote
    exact ⟨_, q, hw, wrote, entries.fills_deeper⟩

/-- Entries in the lines of the block around them. -/
lemma Adds.level {write : Draft → Draft} (h : Adds ok start column write new)
    (place : Place false column p) (written : List Label) :
    ∃ w q, write ⟨p, written⟩ = ⟨q, written⟩ ∧ Wrote p w q ∧ Fills ok false column w new := by
  obtain ⟨w, q, hw, wrote, entries⟩ := h p written _ place.openEnded
    (newLine_break (.inl place.fresh_eq)) (isAllowed_nextLine (List.forall_mem_nil _))
  rw [nextLine_append] at wrote
  exact ⟨_, q, hw, wrote, entries.fills_level⟩

/-- A collection without elements, on the line of an indicator. -/
lemma writes_brackets {opening closing : Char} {opened closed : Token} (hplace : Place fresh column p)
    (fills : Fills ok fresh column [' ', opening, closing] [opened, closed])
    (allowed : isAllowed opening = true ∧ isAllowed closing = true) :
    ∃ w, Wrote p w (emptyBrackets opening closing p) ∧ Fills ok fresh column w [opened, closed] := by
  refine ⟨_, wrote_mark closing false (mark_apart [opening] false true p)
    (isAllowed_snoc (isAllowed_space p) allowed.1) allowed.2, ?_⟩
  rwa [hplace.space_eq]

end

/-! ### Scalars -/

section

variable {ch : Char} {text w : List Char} {column : Nat} {fresh : Bool}

lemma adjacent_eq_false {p q : Char → Bool} (h : ∀ ch ∈ text, p ch = false) :
    Spelling.adjacent p q text = false := by
  induction text with
  | nil => rfl
  | cons a text ih =>
    cases text with
    | nil => rfl
    | cons b text =>
      rw [Spelling.adjacent, h a (List.mem_cons_self ..), ih fun ch hch =>
        h ch (List.mem_cons_of_mem _ hch)]
      rfl

lemma hasInnerIndicator_eq_false (h : ∀ ch ∈ text, ch ≠ ':' ∧ ch ≠ '#') :
    Spelling.hasInnerIndicator text = false := by
  induction text with
  | nil => rfl
  | cons a text ih =>
    cases text with
    | nil => rfl
    | cons b text =>
      obtain ⟨hcolon, hhash⟩ := h b (by simp)
      rw [Spelling.hasInnerIndicator, ih fun ch hch => h ch (List.mem_cons_of_mem _ hch)]
      simp [hcolon, hhash]

/-- A character with no meaning inside a plain text. -/
structure Mild (ch : Char) : Prop where
  printed : Spelling.isSpecial ch = false
  line : Spelling.isTextBreak ch = false
  space : (ch == ' ') = false
  inner : ch ≠ ':' ∧ ch ≠ '#'

lemma mild_figure (hch : ch ∈ '-' :: Json.decimal) : Mild ch := by
  simp only [Json.decimal, List.mem_cons, List.not_mem_nil, or_false] at hch
  rcases hch with rfl | rfl | rfl | rfl | rfl | rfl | rfl | rfl | rfl | rfl | rfl <;>
    exact ⟨rfl, rfl, rfl, by decide⟩

lemma any_eq_false {p : Char → Bool} {o : Option Char} (h : ∀ ch ∈ o, p ch = false) :
    o.any p = false := by
  cases o with
  | none => rfl
  | some ch => exact h ch rfl

/-- A text of such characters may be plain if nothing takes its start for an indicator. -/
lemma allowsPlain_mild (h : ∀ ch ∈ text, Mild ch)
    (hstart : Spelling.startsWithIndicator text = false) : Spelling.allowsPlain text = true := by
  have hblank {ch : Char} (hch : ch ∈ text) : Spelling.isSpaceOrBreak ch = false := by
    rw [Spelling.isSpaceOrBreak, (h ch hch).space, (h ch hch).line]
    rfl
  have hspecial : text.any Spelling.isSpecial = false :=
    List.any_eq_false.2 fun ch hch => by simp [(h ch hch).printed]
  have hline : Spelling.isMultiline text = false :=
    List.any_eq_false.2 fun ch hch => by simp [(h ch hch).line]
  have hhead : text.head?.any Spelling.isSpaceOrBreak = false :=
    any_eq_false fun ch hch => hblank (List.mem_of_head? hch)
  have hlast : text.getLast?.any Spelling.isSpaceOrBreak = false :=
    any_eq_false fun ch hch => hblank (List.mem_of_getLast? hch)
  have hafter : Spelling.adjacent Spelling.isTextBreak (· == ' ') text = false :=
    adjacent_eq_false fun ch hch => (h ch hch).line
  have hbefore : Spelling.adjacent (· == ' ') Spelling.isTextBreak text = false :=
    adjacent_eq_false fun ch hch => (h ch hch).space
  have hinner := hasInnerIndicator_eq_false fun ch hch => (h ch hch).inner
  simp [Spelling.allowsPlain, Spelling.allowsSingle, hspecial, hafter, hbefore, hline, hhead, hlast,
    hstart, hinner]

lemma startsWithIndicator_digit (hch : ch ∈ Json.decimal) :
    Spelling.startsWithIndicator (ch :: text) = false := by
  simp only [Json.decimal, List.mem_cons, List.not_mem_nil, or_false] at hch
  rcases hch with rfl | rfl | rfl | rfl | rfl | rfl | rfl | rfl | rfl | rfl <;>
    simp [Spelling.startsWithIndicator]

lemma startsWithIndicator_minus (hch : ch ∈ Json.decimal) :
    Spelling.startsWithIndicator ('-' :: ch :: text) = false := by
  simp only [Json.decimal, List.mem_cons, List.not_mem_nil, or_false] at hch
  rcases hch with rfl | rfl | rfl | rfl | rfl | rfl | rfl | rfl | rfl | rfl <;>
    simp [Spelling.startsWithIndicator, wordEnd, endsWord, isBreak]

lemma allowsPlain_int (n : Int) : Spelling.allowsPlain (toString n).toList = true := by
  have hdigits : ∀ ch ∈ Nat.toDigits 10 n.natAbs, ch ∈ Json.decimal :=
    fun ch hch => Json.mem_decimal ((numeral n).whole.digits ch hch)
  obtain ⟨d, digits, heq⟩ := List.exists_cons_of_ne_nil (Nat.toDigits_ne_nil (n := n.natAbs) (b := 10))
  have hd : d ∈ Json.decimal := hdigits d (by simp [heq])
  have hchars : (toString n).toList = (if n < 0 then ['-'] else []) ++ (d :: digits) := by
    rw [← numeral_chars, String.toList_ofList, ← heq]
    simp [Json.Number.chars, numeral]
  rw [hchars]
  refine allowsPlain_mild (fun ch hch => ?_) ?_
  · refine mild_figure ?_
    rw [← heq] at hch
    rcases List.mem_append.1 hch with h | h
    · split at h
      · simp_all
      · cases h
    · exact List.mem_cons_of_mem _ (hdigits ch h)
  · split
    · exact startsWithIndicator_minus hd
    · exact startsWithIndicator_digit hd

/-- The characters of a scalar may be written in its style, which is not that of lines. -/
structure Leaf.Styled (l : Leaf) : Prop where
  plain : l.style = .plain →
    Spelling.allowsPlain l.spelling.toList = true ∧ l.spelling.toList ≠ []
  single : l.style = .single → Spelling.allowsSingle l.spelling.toList = true
  inline : l.style ≠ .lines

lemma Leaf.Styled.of_plain {l : Leaf} (h : l.style = .plain)
    (allows : Spelling.allowsPlain l.spelling.toList = true) (hne : l.spelling.toList ≠ []) :
    l.Styled where
  plain _ := ⟨allows, hne⟩
  single hsingle := by
    rw [h] at hsingle
    cases hsingle
  inline := by
    rw [h]
    decide

lemma Leaf.styled (l : Leaf) : l.Styled := by
  cases l with
  | null => exact .of_plain rfl (by decide) (by decide)
  | bool b => cases b <;> exact .of_plain rfl (by decide) (by decide)
  | int n =>
    refine .of_plain rfl (allowsPlain_int n) fun h => ?_
    have hchars := congrArg String.toList (numeral_chars n)
    rw [String.toList_ofList, show (toString n).toList = [] from h] at hchars
    simp [Json.Number.chars, numeral, Nat.toDigits_ne_nil] at hchars
  | text s =>
    refine ⟨fun hstyle => ?_, Leaf.of_style_single, fun hstyle => ?_⟩
    · obtain ⟨hresolve, allows⟩ := Leaf.of_style_plain hstyle
      refine ⟨allows, fun hempty => ?_⟩
      rw [show s = "" from String.toList_eq_nil_iff.1 hempty] at hresolve
      exact absurd hresolve (by decide)
    · rw [Leaf.style_text] at hstyle
      split_ifs at hstyle

lemma writeContent_eq (l : Leaf) {role : Role} (hroot : role ≠ .root) (p : Page) :
    writeContent role (some column) l.content p =
      match Spelling.styleOf (role == .simpleKey) l.content with
      | .plain => p.plain (column + 2) (role != .simpleKey) false l.spelling.toList
      | .single => p.single (column + 2) (role != .simpleKey) l.spelling.toList
      | .double => p.double (column + 2) (role != .simpleKey) l.spelling.toList
      | .lines => p.block (column + 2) l.spelling.toList := by
  have hbinary : l.content.tag ≠ .binary := by cases l <;> exact nofun
  unfold writeContent
  simp only [hbinary, if_false, beq_eq_false_iff_ne.2 hroot]
  rfl

lemma node_leaf (l : Leaf) (role : Role) (indent : Option Nat) (d : Draft) :
    Writing.node [] l.value role indent d =
      { d with page := writeContent role indent l.content d.page } := by
  cases l <;> simp [Leaf.value, Writing.node, anchored, label?, Spelling.content?] <;> rfl

/-- **A scalar is read where it is written.** -/
lemma Leaf.writes (l : Leaf) (legible : l.Legible column) :
    Writes True fresh column (Writing.node [] l.value) [l.token] := by
  intro role p written hrole place
  have hroot : role ≠ .root := by rcases hrole with rfl | ⟨rfl, -⟩ <;> decide
  have hkey : (role == .simpleKey) = false := by rcases hrole with rfl | ⟨rfl, -⟩ <;> rfl
  have hsplit : (role != .simpleKey) = true := by rw [bne, hkey]; rfl
  have hroom := legible.room
  rw [node_leaf]
  simp only [writeContent_eq l hroot, hkey, hsplit]
  rw [show Spelling.styleOf false l.content = l.style from rfl]
  unfold Leaf.token
  cases hstyle : l.style with
  | plain =>
    obtain ⟨allows, hne⟩ := l.styled.plain hstyle
    obtain ⟨w, wrote, plains⟩ :=
      exists_plain true (Nat.succ_pos (column + 1)) place.openEnded allows hne
    rw [place.space_eq] at wrote
    have folds : Folds ((column : Int) + 1) w l.spelling.toList :=
      plains.folds allows hne fun _ => by push_cast; omega
    have fills : Fills True fresh column _ _ := folds.fills
    rw [String.ofList_toList] at fills
    exact ⟨_, _, rfl, wrote, fills⟩
  | single =>
    obtain ⟨w, wrote, quoted⟩ :=
      exists_single true (Nat.succ_pos (column + 1)) (l.styled.single hstyle)
    rw [place.space_eq] at wrote
    have fills : Fills True fresh column _ _ := quoted.fills (.inl rfl)
    rw [String.ofList_toList] at fills
    exact ⟨_, _, rfl, wrote, fills⟩
  | double =>
    obtain ⟨w, wrote, quoted⟩ := exists_double true (Nat.succ_pos _) fun _ => hroom hstyle
    rw [place.space_eq] at wrote
    have fills : Fills True fresh column _ _ := quoted.fills (.inr rfl)
    rw [String.ofList_toList] at fills
    exact ⟨_, _, rfl, wrote, fills⟩
  | lines => exact absurd hstyle l.styled.inline

end

/-! ### Keys on the line of their value -/

section

variable {key : String} {column : Nat} {text : List Char}

lemma isSimple_eq (key : String) : isSimple key = (decide (5 + key.toList.length < 128) &&
    !key.toList.isEmpty && !Spelling.isMultiline key.toList) := by
  have hlen : (Spelling.shortTag .text).length = 5 := rfl
  simp [isSimple, isSimpleKey, label?, Spelling.content?, hlen]

lemma of_isSimple (h : isSimple key = true) : key.toList ≠ [] ∧
    Spelling.isMultiline key.toList = false ∧ key.toList.length ≤ 122 := by
  rw [isSimple_eq] at h
  simp only [Bool.and_eq_true, decide_eq_true_eq, Bool.not_eq_true', List.isEmpty_eq_false_iff] at h
  exact ⟨h.1.2, h.2, by omega⟩

lemma styleOf_key (h : isSimple key = true) :
    Spelling.styleOf true (Leaf.text key).content = (Leaf.text key).style := by
  obtain ⟨hne, hline, -⟩ := of_isSimple h
  have hempty : key.toList.isEmpty = false := by simpa using hne
  simp only [Leaf.style, Spelling.styleOf, Leaf.content, Leaf.tag, Leaf.spelling, hline, hempty]
  simp

/-- A key as it stands on the line of its value. -/
def keyText (key : String) : List Char :=
  match (Leaf.text key).style with
  | .plain => key.toList
  | .single => '\x27' :: (key.toList.flatMap doubled ++ ['\x27'])
  | .double => '\x22' :: (key.toList.flatMap escaped ++ ['\x22'])
  | .lines => []

lemma names_key (h : isSimple key = true) :
    Names column (Writing.node [] (.text key)) (keyText key) := by
  obtain ⟨hne, hline, -⟩ := of_isSimple h
  intro p written hspaced hopen
  have hspace : space p = [] := if_pos hspaced
  rw [show Value.text key = (Leaf.text key).value from rfl, node_leaf]
  simp only [writeContent_eq (Leaf.text key) (show Role.simpleKey ≠ .root by decide), BEq.rfl,
    styleOf_key h, show (Role.simpleKey != .simpleKey) = false from rfl]
  refine ⟨_, rfl, ?_⟩
  unfold keyText
  cases hstyle : (Leaf.text key).style with
  | plain =>
    have allows := ((Leaf.text key).styled.plain hstyle).1
    have hwrote := wrote_plain (column + 2) hopen hne (worded_of_allows allows hne).printed
    rwa [hspace] at hwrote
  | single =>
    have hwrote := wrote_single (column + 2) p
      (printed_of_single ((Leaf.text key).styled.single hstyle) hline)
    rwa [hspace] at hwrote
  | double =>
    have hwrote := wrote_double (column + 2) key.toList p
    rwa [hspace] at hwrote
  | lines => exact absurd hstyle (Leaf.text key).styled.inline

lemma length_escaped {ch : Char} (h : Spelling.isSpecial ch = false) : (escaped ch).length ≤ 2 := by
  simp only [Spelling.isSpecial, Bool.and_eq_false_iff, bne_eq_false_iff_eq, Bool.not_eq_false',
    decide_eq_true_eq, Bool.and_eq_true] at h
  rcases h with rfl | ⟨hlow, hhigh⟩
  · decide
  · by_cases hquote : ch = '\x22'
    · subst hquote
      decide
    · by_cases hback : ch = '\\'
      · subst hback
        decide
      · have hplain : Page.escape? ch = none := by
          unfold Page.escape?
          simp [hquote, hback, hlow, hhigh]
        rw [escaped, hplain]
        simp

lemma length_flatMap {f : Char → List Char} (h : ∀ ch ∈ text, (f ch).length ≤ 2) :
    (text.flatMap f).length ≤ 2 * text.length := by
  induction text with
  | nil => exact Nat.le_refl _
  | cons ch text ih =>
    obtain ⟨hch, htext⟩ := List.forall_mem_cons.1 h
    have := ih htext
    rw [List.flatMap_cons, List.length_append, List.length_cons]
    omega

/-- Only between double quotes, a key can be too long for the line of its value. -/
lemma length_keyText (h : isSimple key = true) :
    (keyText key).length ≤ 1024 ↔ quotedWidth key ≤ 1024 := by
  obtain ⟨hne, hline, hlen⟩ := of_isSimple h
  have hshort (ordinary : ∀ ch ∈ key.toList, Spelling.isSpecial ch = false) :
      quotedWidth key ≤ 1024 := by
    have := length_flatMap (f := escaped) fun ch hch => length_escaped (ordinary ch hch)
    unfold quotedWidth
    omega
  unfold keyText
  cases hstyle : (Leaf.text key).style with
  | plain =>
    have allows := ((Leaf.text key).styled.plain hstyle).1
    exact iff_of_true (hlen.trans (by decide))
      (hshort fun ch hch => ((worded_of_allows allows hne).printed ch hch).1)
  | single =>
    have allows : Spelling.allowsSingle key.toList = true := (Leaf.text key).styled.single hstyle
    have := length_flatMap (f := doubled) fun ch (_ : ch ∈ key.toList) => length_doubled ch
    refine iff_of_true ?_ (hshort (apart_of_allows allows).ordinary)
    simp only [List.length_cons, List.length_append, List.length_nil]
    omega
  | double => simp only [quotedWidth, List.length_cons, List.length_append, List.length_nil]
  | lines => exact absurd hstyle (Leaf.text key).styled.inline

/-- **A key that stands on the line of its value is read there**, however long it is. -/
lemma keyed_key (h : isSimple key = true) : Keyed (keyText key) (Leaf.text key).token := by
  obtain ⟨hne, hline, hlen⟩ := of_isSimple h
  unfold keyText Leaf.token
  cases hstyle : (Leaf.text key).style with
  | plain =>
    have allows := ((Leaf.text key).styled.plain hstyle).1
    have keyed := Folds.keyed (fun _ => (plains_straight allows hne).folds allows hne nofun)
      (fun ch hch => ((worded_of_allows allows hne).printed ch hch).line)
    rwa [String.ofList_toList] at keyed
  | single =>
    have allows : Spelling.allowsSingle key.toList = true := (Leaf.text key).styled.single hstyle
    have hprinted := printed_of_single allows hline
    have keyed := (quoted_doubled allows fun hmem => (hprinted _ hmem).2 rfl).keyed (.inl rfl)
      (fun d hd => (printed_flatMap (fun ch hch => printed_doubled (hprinted ch hch)) d hd).line)
    rwa [String.ofList_toList] at keyed
  | double =>
    have keyed := (quoted_escaped key.toList).keyed (.inr rfl)
      (fun d hd => (printed_flatMap (fun ch _ => printed_escaped ch) d hd).line)
    rwa [String.ofList_toList] at keyed
  | lines => exact absurd hstyle (Leaf.text key).styled.inline

end

/-! ### Trees -/

lemma fills_emptyList {fresh : Bool} {column : Nat} :
    Fills True fresh column [' ', '[', ']'] [.flowSequenceStart, .flowSequenceEnd] :=
  fills_brackets (fun _ _ => FlowScan.token_sequenceStart) (fun _ _ => FlowScan.token_sequenceEnd)
    fun r => by constructor <;> rintro ch ⟨⟩ <;> decide

lemma fills_emptyMap {fresh : Bool} {column : Nat} :
    Fills True fresh column [' ', '\x7b', '\x7d'] [.flowMappingStart, .flowMappingEnd] :=
  fills_brackets (fun _ _ => FlowScan.token_mappingStart) (fun _ _ => FlowScan.token_mappingEnd)
    fun r => by constructor <;> rintro ch ⟨⟩ <;> decide

/-- An entry of a mapping, by its key and what is written for its value. -/
lemma adds_field {ok : Prop} {key : String} {column : Nat} {t : Tree}
    (legible : LegibleKey column key)
    (hvalue : Writes ok (!isSimple key) column (Writing.node [] t.value)
      (t.tokens (!isSimple key))) :
    Adds (ShortKey key ∧ ok) .blockMappingStart column
      (fun d => Writing.node [] t.value .part (some column)
        (Writing.key [] column (.text key) (Writing.node [] (.text key)) d))
      (.key :: (Leaf.text key).token :: .value :: t.tokens (!isSimple key)) := by
  cases h : isSimple key with
  | true =>
    rw [h] at hvalue
    have hshort : ShortKey key ↔ (keyText key).length ≤ 1024 :=
      (forall_prop_of_true h).trans (length_keyText h).symm
    rw [hshort]
    exact (names_key h).field (keyed_key h) hvalue fun written => h
  | false =>
    rw [h] at hvalue
    have hshort : ShortKey key ↔ True := iff_true_intro fun h' => absurd (h.symm.trans h') (by decide)
    rw [hshort]
    exact ((Leaf.text key).writes (legible h)).field hvalue fun written => h

mutual

/-- **A tree is read where it is written.** -/
lemma Tree.writes : ∀ (t : Tree) {fresh : Bool} {column : Nat}, t.Legible fresh column →
    Writes t.Short fresh column (Writing.node [] t.value) (t.tokens fresh)
  | .leaf l, _, _, legible => l.writes legible
  | .list [], fresh, column, _ => fun role p written _ place => by
    obtain ⟨w, wrote, fills⟩ := writes_brackets place fills_emptyList ⟨rfl, rfl⟩
    exact ⟨w, _, by rw [Tree.value, Writing.node]; rfl, wrote, fills⟩
  | .map [], fresh, column, _ => fun role p written _ place => by
    obtain ⟨w, wrote, fills⟩ := writes_brackets place fills_emptyMap ⟨rfl, rfl⟩
    exact ⟨w, _, by rw [Tree.value, Writing.node]; rfl, wrote, fills⟩
  | .map (x :: fields), fresh, column, legible => fun role p written _ place => by
    rw [Tree.value, Writing.node]
    exact (adds_fields (x :: fields) (List.cons_ne_nil _ _) legible).deeper place written
  | .list (t :: items), fresh, column, legible => fun role p written hrole place => by
    have adds := adds_items (t :: items) (List.cons_ne_nil _ _) legible
    have hcolumn : sequenceColumn role (some column) p = if fresh then column + 2 else column := by
      rcases hrole with rfl | ⟨rfl, rfl⟩
      · cases fresh <;> simp [sequenceColumn, place.fresh_eq, deeper]
      · rfl
    have hnode : Writing.node [] (Tree.list (t :: items)).value role (some column) ⟨p, written⟩ =
        Writing.nodes [] (if fresh then column + 2 else column) (values (t :: items))
          ⟨p, written⟩ := by
      rw [← hcolumn, Tree.value, Writing.node]
      rfl
    rw [hnode, Tree.tokens]
    cases fresh with
    | true => exact adds.deeper place written
    | false => exact adds.level place written

lemma adds_items : ∀ (items : List Tree) {column : Nat}, items ≠ [] → LegibleItems column items →
    Adds (ShortItems items) .blockSequenceStart column (Writing.nodes [] column (values items))
      (itemTokens items)
  | [], _, hne, _ => absurd rfl hne
  | [t], column, _, legible => by
    have h := (t.writes legible.1).item
    simpa [values, itemTokens, Writing.nodes, ShortItems] using h
  | t :: t' :: items, column, _, legible => by
    exact (t.writes legible.1).item.append (adds_items (t' :: items) (List.cons_ne_nil _ _) legible.2)

lemma adds_fields : ∀ (fields : List (String × Tree)) {column : Nat}, fields ≠ [] →
    LegibleFields column fields →
    Adds (ShortFields fields) .blockMappingStart column (Writing.pairs [] column (entries fields))
      (fieldTokens fields)
  | [], _, hne, _ => absurd rfl hne
  | [(key, t)], column, _, legible => by
    have h := adds_field legible.1 (t.writes legible.2.1)
    simpa [entries, fieldTokens, Writing.pairs, ShortFields] using h
  | (key, t) :: x :: fields, column, _, legible => by
    have h := adds_field legible.1 (t.writes legible.2.1)
    have hall := h.append (adds_fields (x :: fields) (List.cons_ne_nil _ _) legible.2.2)
    rwa [and_assoc] at hall

end

end Testbed.Trees
