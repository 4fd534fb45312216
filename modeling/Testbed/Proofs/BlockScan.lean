import Mathlib
import Testbed.Proofs.FlowScan

/-!
The scan in block style.

What the scan has found so far are its tokens and the open blocks. A text after an indicator fills
its place when it is read as certain tokens, up to a line that is not indented more than the block
around it; the blocks that were opened on the way are closed when it comes to that line. A key that
is too long for the line of its value ends the scan, so what fills a place is read on a condition.
-/

namespace Testbed.BlockScan

open FlowScan
open PlainText
open Quoting
open Scanning
open Yaml

/-! ### Open blocks -/

/-- The tokens so far, the column of the innermost block, and those of the blocks around it. -/
structure Blocks where
  tokens : List Token
  indent : Int
  indents : List Int

namespace Blocks

/-- Further tokens. -/
def read (new : List Token) (b : Blocks) : Blocks := { b with tokens := b.tokens ++ new }

/-- A block is open at the column, if need be a new one. -/
def opened (start : Token) (column : Nat) (b : Blocks) : Blocks :=
  if b.indent < (column : Int) then ⟨b.tokens ++ [start], column, b.indent :: b.indents⟩ else b

def closeAll (column : Int) : List Int → Int → List Token → Blocks
  | [], indent, tokens => ⟨tokens, indent, []⟩
  | outer :: indents, indent, tokens =>
    if column < indent then closeAll column indents outer (tokens ++ [.blockEnd])
    else ⟨tokens, indent, outer :: indents⟩

/-- The blocks beyond the column are closed. -/
def close (column : Int) (b : Blocks) : Blocks := closeAll column b.indents b.indent b.tokens

variable {b : Blocks} {column : Int}

lemma read_read (new more : List Token) : (b.read new).read more = b.read (new ++ more) := by
  simp [read]

lemma close_of_le (h : b.indent ≤ column) : b.close column = b := by
  obtain ⟨tokens, indent, indents⟩ := b
  have hnot : ¬ column < indent := not_lt.2 h
  cases indents with
  | nil => rfl
  | cons outer indents => exact if_neg hnot

end Blocks

/-- The blocks of a scan. -/
def blocks (s : Scan) : Blocks := ⟨s.tokens.toList, s.indent, s.indents⟩

section

variable {s : Scan} {column : Int}

lemma unwindTo_eq (column : Int) (indents : List Int) (indent : Int) (tokens : Array Token) :
    Scan.unwindTo column indents indent tokens =
      ((Blocks.closeAll column indents indent tokens.toList).indent,
        (Blocks.closeAll column indents indent tokens.toList).indents,
        (Blocks.closeAll column indents indent tokens.toList).tokens.toArray) := by
  induction indents generalizing indent tokens with
  | nil => rfl
  | cons outer indents ih =>
    rw [Scan.unwindTo, Blocks.closeAll]
    split
    · rw [ih, Array.toList_push]
    · rfl

lemma blocks_unwind (h : s.outer = []) : blocks (s.unwind column) = (blocks s).close column := by
  have hflow : s.inFlow = false := by simp [Scan.inFlow, h]
  unfold Scan.unwind
  rw [hflow, unwindTo_eq]
  rfl

lemma unwind_eq_self (h : s.indent ≤ column) : s.unwind column = s := by
  unfold Scan.unwind
  rw [unwindTo_eq]
  have hself : Blocks.closeAll column s.indents s.indent s.tokens.toList = blocks s :=
    Blocks.close_of_le (b := blocks s) h
  rw [hself]
  simp [blocks]

end

/-! ### From line to line -/

/-- A token may start here, and it separates no documents. -/
structure Next (rest : List Char) : Prop where
  stops : Stops rest
  markFree : MarkFree rest

/-- The scan is at a place in this column where a token and a key may start. -/
structure Ready (k : Nat) (rest : List Char) (u : Scan) : Prop where
  rest : u.cursor.rest = rest
  column : u.cursor.column = k
  outer : u.outer = []
  possible : u.possible = none
  keyAllowed : u.keyAllowed = true

/-- The scan is at such a place at the start of a line, and these are its open blocks but for those
that the line closes. -/
structure Lands (b : Blocks) (k : Nat) (rest : List Char) (u : Scan) : Prop
    extends Ready k rest u where
  found : blocks u = b.close k

/-- A scan that comes to the first place goes on to the second. -/
def Takes (u v : Scan) : Prop := ∀ s, Comes s u → Comes s v

/-- The scan is at such a place on this condition, and otherwise it is stuck. -/
inductive Ends (ok : Prop) (P : Scan → Prop) (u : Scan) : Prop
  | there (h : ok) (place : P u)
  | stuck (h : ¬ ok) (stuck : Stuck u)

section

variable {s t u v : Scan} {b : Blocks} {k : Nat} {ch : Char} {g r rest : List Char}
  {ok ok' : Prop} {P Q : Scan → Prop}

lemma Takes.trans (h : Takes s u) (h' : Takes u v) : Takes s v := fun x hx => h' x (h x hx)

/-- By one token, the scan goes on to where it comes to after it. -/
lemma Takes.step (starts : u.cursor.rest = ch :: r) (taken : u.token ch = .ok t)
    (shorter : t.cursor.rest.length ≤ r.length) (more : Comes t v) : Takes u v :=
  fun _ h => h.step starts taken shorter more

lemma Ends.imp (h : Ends ok P u) (hP : P u → Q u) : Ends ok Q u := by
  cases h with
  | there h place => exact .there h (hP place)
  | stuck h stuck => exact .stuck h stuck

lemma Ends.and (h : Ends ok' P u) (hok : ok) : Ends (ok ∧ ok') P u := by
  cases h with
  | there h place => exact .there ⟨hok, h⟩ place
  | stuck h stuck => exact .stuck (fun hall => h hall.2) stuck

/-- A line that is not indented less than the innermost block closes nothing. -/
lemma Lands.eq (h : Lands b k rest u) (hk : b.indent ≤ (k : Int)) : blocks u = b := by
  rw [h.found, Blocks.close_of_le hk]

/-- The gap is skipped, and the blocks are closed that are deeper than the place after it. -/
structure Skips (g : List Char) (s u : Scan) : Prop where
  comes : Comes s u
  cursor : u.cursor = s.cursor.advance g.length
  outer : u.outer = []
  possible : u.possible = s.possible.filter (isFresh (s.cursor.advance g.length))
  keyAllowed : u.keyAllowed = (s.keyAllowed || g.any isBreak)
  found : blocks u = (blocks s).close (s.cursor.advance g.length).column

lemma exists_skips (outer : s.outer = []) (hg : IsGap g) (hr : Stops rest)
    (hrest : s.cursor.rest = g ++ rest) (holds : Holds (s.cursor.advance g.length) s) :
    ∃ u, Skips g s u := by
  have houter : (skipped g s).outer = [] := by simp [skipped, outer]
  have hflow : (skipped g s).inFlow = false := by simp [Scan.inFlow, houter]
  refine ⟨_, Comes.of_gap hg hr hrest holds, ?_, ?_, ?_, ?_, blocks_unwind houter⟩
  all_goals
    unfold Scan.unwind
    rw [hflow]
  · rfl
  · exact houter
  · rfl
  · simp [skipped, Scan.inFlow, outer]

lemma lands_of_gap (outer : s.outer = []) (hg : IsGap g) (hr : Next rest)
    (hrest : s.cursor.rest = g ++ rest) (hcolumn : (s.cursor.advance g.length).column = k)
    (hkey : ∀ key ∈ s.possible, key.required = false ∧
      isFresh (s.cursor.advance g.length) key = false)
    (hallowed : s.keyAllowed = true ∨ '\n' ∈ g) :
    ∃ u, Comes s u ∧ Lands (blocks s) k rest u := by
  have free : Free s := ⟨fun key h => (hkey key h).1, by simp [outer]⟩
  obtain ⟨u, hu⟩ := exists_skips outer hg hr.stops hrest (free.holds _)
  refine ⟨u, hu.comes, ⟨?_, ?_, hu.outer, ?_, ?_⟩, ?_⟩
  · rw [hu.cursor]
    exact advance_rest hrest
  · rw [hu.cursor, hcolumn]
  · rw [hu.possible, Option.filter_eq_none_iff]
    exact fun key h => by simp [(hkey key h).2]
  · rw [hu.keyAllowed]
    rcases hallowed with h | h
    · simp [h]
    · have hany : g.any isBreak = true := List.any_eq_true.2 ⟨'\n', h, rfl⟩
      simp [hany]
  · rw [hu.found, hcolumn]

end

/-! ### Texts that fill a place -/

/-- The rest of a line, and the start of the next one. -/
def nextLine (k : Nat) (rest : List Char) : List Char := '\n' :: (List.replicate k ' ' ++ rest)

@[simp] lemma nextLine_append (k : Nat) (w r : List Char) :
    nextLine k w ++ r = nextLine k (w ++ r) := by
  simp [nextLine]

/-- The scan is past an indicator of the innermost block. -/
structure Awaits (column : Nat) (s : Scan) : Prop where
  outer : s.outer = []
  possible : s.possible = none
  indent : s.indent = (column : Int)
  beyond : column < s.cursor.column

/-- On a condition, the text after an indicator in a block at this column is read as these tokens,
up to a line that is not indented more. If the indicator stands at the column of its block, and a
key may start after it, the place is fresh. -/
structure Fills (ok : Prop) (fresh : Bool) (column : Nat) (w : List Char) (new : List Token) :
    Prop where
  leads : ∃ ch r, w = ch :: r ∧ endsWord ch = true
  comes : ∀ (s : Scan) (k : Nat) (rest : List Char), Awaits column s →
    (fresh = true → s.keyAllowed = true ∧ s.cursor.column = column + 1) → k ≤ column →
    Next rest → s.cursor.rest = w ++ nextLine k rest →
    ∃ u, Comes s u ∧ Ends ok (Lands ((blocks s).read new) k rest) u

/-- On a condition, the text is read as these entries of a block at this column, the first of which
may open it. -/
structure Entries (ok : Prop) (start : Token) (column : Nat) (w : List Char) (new : List Token) :
    Prop where
  next : ∀ r, Next (w ++ r)
  takes : ∀ (u : Scan) (k : Nat) (rest : List Char), Ready column (w ++ nextLine k rest) u →
    u.indent ≤ (column : Int) → k ≤ column → Next rest →
    ∃ v, Takes u v ∧ Ends ok (Lands (((blocks u).opened start column).read new) k rest) v

section

variable {ok ok' : Prop} {start : Token} {column : Nat} {w w' : List Char} {new new' : List Token}
  {b : Blocks}

lemma opened_indent (h : b.indent ≤ (column : Int)) : (b.opened start column).indent = column := by
  unfold Blocks.opened
  split
  · rfl
  · omega

lemma opened_self (h : b.indent = (column : Int)) : b.opened start column = b :=
  if_neg (by omega)

/-- Entries in lines one after the other. -/
lemma Entries.append (h : Entries ok start column w new) (h' : Entries ok' start column w' new') :
    Entries (ok ∧ ok') start column (w ++ nextLine column w') (new ++ new') := by
  refine ⟨fun r => ?_, fun u k rest hu hindent hk hr => ?_⟩
  · rw [List.append_assoc]
    exact h.next _
  · have hu' : Ready column (w ++ nextLine column (w' ++ nextLine k rest)) u := by
      simpa using hu
    obtain ⟨v, hv, ends⟩ := h.takes u column _ hu' hindent (Nat.le_refl _) (h'.next _)
    cases ends with
    | stuck hno stuck => exact ⟨v, hv, .stuck (fun hall => hno hall.1) stuck⟩
    | there hok lands =>
      have hopen : (((blocks u).opened start column).read new).indent = column :=
        opened_indent hindent
      have heq := lands.eq (le_of_eq hopen)
      have hv' : v.indent = column := (congrArg Blocks.indent heq).trans hopen
      obtain ⟨x, hx, ends'⟩ := h'.takes v k rest lands.toReady (le_of_eq hv') hk hr
      rw [heq, opened_self hopen, Blocks.read_read] at ends'
      exact ⟨x, hv.trans hx, ends'.and hok⟩

/-- The text of a block, after the mark of its end. -/
lemma opened_close {k : Nat} (h : b.indent < (column : Int)) (hk : k < column) :
    ((b.opened start column).read new).close k = (b.read (start :: new ++ [.blockEnd])).close k := by
  have hopen : b.opened start column = ⟨b.tokens ++ [start], column, b.indent :: b.indents⟩ :=
    if_pos h
  rw [hopen]
  show Blocks.closeAll k (b.indent :: b.indents) column _ = _
  rw [Blocks.closeAll, if_pos (by omega)]
  simp [Blocks.close, Blocks.read]

lemma isGap_line (k : Nat) : IsGap ('\n' :: List.replicate k ' ') := by
  intro ch hch
  rcases List.mem_cons.1 hch with rfl | hch
  · exact .inr (.inl rfl)
  · exact .inl (List.eq_of_mem_replicate hch)

/-- The spaces of the next line lead to their column. -/
lemma column_line {c : Cursor} {k : Nat} {r : List Char} (h : c.rest = nextLine k r) :
    (c.advance ('\n' :: List.replicate k ' ').length).column = k := by
  have hnext := next_newline h
  have hrest : c.next.rest = List.replicate k ' ' ++ r := next_rest h
  rw [List.length_cons, advance_succ, advance_column hrest]
  · rw [hnext, List.length_replicate, Nat.zero_add]
  · intro ch hch
    rw [List.eq_of_mem_replicate hch]
    decide

/-- After a gap, the entries of a block follow. -/
lemma Entries.comes {s : Scan} {outside k : Nat} {g rest : List Char}
    (h : Entries ok start column w new) (hs : Awaits outside s) (hdeep : outside ≤ column)
    (hg : IsGap g) (hcolumn : (s.cursor.advance g.length).column = column)
    (hallowed : s.keyAllowed = true ∨ '\n' ∈ g) (hk : k ≤ outside) (hr : Next rest)
    (hrest : s.cursor.rest = g ++ (w ++ nextLine k rest)) :
    ∃ u, Comes s u ∧ Ends ok (Lands (((blocks s).opened start column).read new) k rest) u := by
  have hindent : (blocks s).indent ≤ (column : Int) := by
    show s.indent ≤ _
    rw [hs.indent]
    omega
  obtain ⟨u, hu, lands⟩ := lands_of_gap hs.outer hg (h.next _) hrest hcolumn
    (by simp [hs.possible]) hallowed
  have heq := lands.eq hindent
  have hu' : u.indent = s.indent := congrArg Blocks.indent heq
  obtain ⟨v, hv, ends⟩ := h.takes u k rest lands.toReady (by rw [hu']; exact hindent)
    (hk.trans hdeep) hr
  rw [heq] at ends
  exact ⟨v, hv s hu, ends⟩

lemma Lands.congr {b b' : Blocks} {k : Nat} {rest : List Char} {u : Scan} (h : Lands b k rest u)
    (hb : b.close k = b'.close k) : Lands b' k rest u :=
  ⟨h.toReady, h.found.trans hb⟩

/-- A block of entries that begins on the line of an indicator. -/
lemma Entries.fills_fresh (h : Entries ok start (column + 2) w new) :
    Fills ok true column (' ' :: w) (start :: new ++ [.blockEnd]) := by
  refine ⟨⟨' ', w, rfl, rfl⟩, fun s k rest hs hfresh hk hr hrest => ?_⟩
  obtain ⟨hallowed, hcolumn⟩ := hfresh rfl
  have hspace : (s.cursor.advance [' '].length).column = column + 2 := by
    rw [advance_column (w := [' ']) hrest (by simp [isBreak]), hcolumn]
    rfl
  obtain ⟨u, hu, ends⟩ := h.comes hs (Nat.le_add_right _ _) (g := [' ']) (by simp [IsGap]) hspace
    (.inl hallowed) hk hr hrest
  refine ⟨u, hu, ends.imp fun lands => lands.congr (opened_close ?_ (by omega))⟩
  show s.indent < _
  rw [hs.indent]
  omega

/-- A block of entries on lines of its own. -/
lemma Entries.fills_deeper (h : Entries ok start (column + 2) w new) :
    Fills ok false column (nextLine (column + 2) w) (start :: new ++ [.blockEnd]) := by
  refine ⟨⟨'\n', _, rfl, rfl⟩, fun s k rest hs _ hk hr hrest => ?_⟩
  have hrest' : s.cursor.rest = nextLine (column + 2) (w ++ nextLine k rest) := by
    simpa using hrest
  obtain ⟨u, hu, ends⟩ := h.comes hs (Nat.le_add_right _ _) (isGap_line _) (column_line hrest')
    (.inr (List.mem_cons_self ..)) hk hr hrest'
  refine ⟨u, hu, ends.imp fun lands => lands.congr (opened_close ?_ (by omega))⟩
  show s.indent < _
  rw [hs.indent]
  omega

/-- Entries in the lines of the block around them. -/
lemma Entries.fills_level (h : Entries ok start column w new) :
    Fills ok false column (nextLine column w) new := by
  refine ⟨⟨'\n', _, rfl, rfl⟩, fun s k rest hs _ hk hr hrest => ?_⟩
  have hrest' : s.cursor.rest = nextLine column (w ++ nextLine k rest) := by
    simpa using hrest
  obtain ⟨u, hu, ends⟩ := h.comes hs (Nat.le_refl _) (isGap_line _) (column_line hrest')
    (.inr (List.mem_cons_self ..)) hk hr hrest'
  rw [opened_self hs.indent] at ends
  exact ⟨u, hu, ends⟩

end

/-! ### Indicators -/

section

variable {u : Scan} {column : Nat} {ch : Char} {w r rest : List Char}

lemma atMark_second {c : Cursor} {mark : Char} (h : c.rest = mark :: ch :: r) (hne : ch ≠ mark) :
    c.atMark mark = false := by
  unfold Cursor.atMark
  rw [h]
  simp [hne]

lemma wordEnd_peek {c : Cursor} {first : Char} (h : c.rest = first :: ch :: r)
    (hch : endsWord ch = true) : wordEnd (c.peek 1) = true := by
  unfold Cursor.peek
  rw [h]
  exact hch

lemma token_blockEntry (h : u.cursor.rest = '-' :: ch :: r) (hch : endsWord ch = true) :
    u.token '-' = u.blockEntry := by
  have hne : ch ≠ '-' := by
    rintro rfl
    cases hch
  unfold Scan.token
  simp [atMark_second h hne, atMark_eq_false h (show '-' ≠ '.' by decide), wordEnd_peek h hch]

lemma token_keyMark (h : u.cursor.rest = '?' :: ch :: r) (hch : endsWord ch = true) :
    u.token '?' = u.keyMark := by
  unfold Scan.token
  simp [atMark_eq_false h, wordEnd_peek h hch]

lemma token_valueMark (h : u.cursor.rest = ':' :: ch :: r) (hch : endsWord ch = true) :
    u.token ':' = u.valueMark := by
  unfold Scan.token
  simp [atMark_eq_false h, wordEnd_peek h hch]

/-- What an indicator leaves behind. -/
structure Marked (b : Blocks) (k : Nat) (rest : List Char) (v : Scan) : Prop where
  awaits : Awaits k v
  keyAllowed : v.keyAllowed = true
  column : v.cursor.column = k + 1
  rest : v.cursor.rest = rest
  found : blocks v = b

lemma blocks_openBlock (start : Token) (h : u.indent ≤ (column : Int)) :
    blocks (u.openBlock column u.tokens.size start) = (blocks u).opened start column ∧
      (u.openBlock column u.tokens.size start).indent = column := by
  have hinsert : (u.tokens.insertIdxIfInBounds u.tokens.size start).toList =
      u.tokens.toList ++ [start] := by
    rw [toList_insertIdxIfInBounds]
    exact List.insertIdx_length_self
  unfold Scan.openBlock Blocks.opened
  by_cases hlt : u.indent < (column : Int)
  · rw [if_pos hlt, if_pos (show (blocks u).indent < _ from hlt)]
    refine ⟨?_, rfl⟩
    simp only [blocks, hinsert]
  · rw [if_neg hlt, if_neg (show ¬ (blocks u).indent < _ from hlt)]
    exact ⟨rfl, by omega⟩

/-- A block is open at the column, where the scan is about to pass an indicator. -/
structure Opened (b : Blocks) (k : Nat) (rest : List Char) (s : Scan) : Prop
    extends Ready k rest s where
  indent : s.indent = (k : Int)
  found : blocks s = b

lemma opened_openBlock (start : Token) (hu : Ready column rest u)
    (hindent : u.indent ≤ (column : Int)) :
    Opened ((blocks u).opened start column) column rest
      (u.openBlock u.cursor.column u.tokens.size start) := by
  rw [hu.column]
  obtain ⟨hblocks, hopen⟩ := blocks_openBlock start hindent
  refine ⟨⟨?_, ?_, ?_, ?_, ?_⟩, hopen, hblocks⟩
  all_goals
    unfold Scan.openBlock
    split
  exacts [hu.rest, hu.rest, hu.column, hu.column, hu.outer, hu.outer, hu.possible, hu.possible,
    hu.keyAllowed, hu.keyAllowed]

/-- The indicator is passed, and a key may start after it. -/
lemma Opened.marked {b : Blocks} {s : Scan} {first : Char} {t : Token}
    (h : Opened b column (first :: r) s) (hfirst : isBreak first = false ∧ first ≠ '\ufeff') :
    Marked (b.read [t]) column r { s.pass 1 t with keyAllowed := true, possible := none } := by
  have hcolumn : s.cursor.next.column = column + 1 := by
    rw [next_column h.rest hfirst.1 hfirst.2, h.column]
  refine ⟨⟨h.outer, rfl, h.indent, ?_⟩, rfl, hcolumn, next_rest h.rest, ?_⟩
  · show column < s.cursor.next.column
    omega
  · rw [← h.found]
    simp [blocks, Blocks.read, Scan.pass]

lemma dropKey_pass {s : Scan} {t : Token} (h : s.possible = none) :
    (s.pass 1 t).dropKey = .ok { s.pass 1 t with possible := none } := by
  unfold Scan.dropKey
  rw [show (s.pass 1 t).possible = none from h]
  rfl

lemma exists_blockEntry (hu : Ready column ('-' :: ch :: r) u) (hch : endsWord ch = true)
    (hindent : u.indent ≤ (column : Int)) : ∃ v, u.token '-' = .ok v ∧
      Marked (((blocks u).opened .blockSequenceStart column).read [.blockEntry]) column (ch :: r)
        v := by
  have hflow : u.inFlow = false := by simp [Scan.inFlow, hu.outer]
  have hopen := opened_openBlock .blockSequenceStart hu hindent
  rw [token_blockEntry hu.rest hch]
  unfold Scan.blockEntry
  rw [hflow, hu.keyAllowed]
  refine ⟨_, ?_, hopen.marked (t := .blockEntry) (by decide)⟩
  show Except.bind (Scan.dropKey _) _ = _
  rw [dropKey_pass hopen.possible]
  rfl

lemma exists_keyMark (hu : Ready column ('?' :: ch :: r) u) (hch : endsWord ch = true)
    (hindent : u.indent ≤ (column : Int)) : ∃ v, u.token '?' = .ok v ∧
      Marked (((blocks u).opened .blockMappingStart column).read [.key]) column (ch :: r) v := by
  have hflow : u.inFlow = false := by simp [Scan.inFlow, hu.outer]
  have hopen := opened_openBlock .blockMappingStart hu hindent
  rw [token_keyMark hu.rest hch]
  unfold Scan.keyMark
  rw [hflow, hu.keyAllowed]
  refine ⟨_, ?_, hopen.marked (t := .key) (by decide)⟩
  show Except.bind (Scan.dropKey _) _ = _
  rw [dropKey_pass hopen.possible]
  show Except.ok _ = Except.ok _
  simp [Scan.inFlow, Scan.pass, hopen.outer]

/-- The colon of a key that has its own indicator. -/
lemma exists_valueMark (hu : Ready column (':' :: ch :: r) u) (hch : endsWord ch = true)
    (hindent : u.indent ≤ (column : Int)) : ∃ v, u.token ':' = .ok v ∧
      Marked (((blocks u).opened .blockMappingStart column).read [.value]) column (ch :: r) v := by
  have hflow : u.inFlow = false := by simp [Scan.inFlow, hu.outer]
  have hopen := opened_openBlock .blockMappingStart hu hindent
  rw [token_valueMark hu.rest hch]
  unfold Scan.valueMark
  rw [hu.possible, hflow, hu.keyAllowed]
  refine ⟨_, ?_, hopen.marked (t := .value) (by decide)⟩
  show Except.ok _ = Except.ok _
  simp [Scan.inFlow, Scan.pass, hopen.outer, hopen.possible]

end

/-! ### Entries with indicators -/

section

variable {ok ok' : Prop} {column : Nat} {ch : Char} {r w kw vw : List Char} {new ks vs : List Token}

lemma next_indicator {first : Char} (hch : endsWord ch = true)
    (hfirst : first = '-' ∨ first = '?' ∨ first = ':') : Next (first :: ch :: r) := by
  refine ⟨?_, fun c hc => ?_⟩
  · rintro d ⟨⟩
    rcases hfirst with rfl | rfl | rfl <;> decide
  · have hne : ch ≠ '-' ∧ ch ≠ '.' := by
      constructor <;>
      · rintro rfl
        cases hch
    unfold Cursor.atDocumentMark Cursor.atMark
    rw [hc]
    simp [hne.1, hne.2]

/-- What fills the place after an indicator is read on from there. -/
lemma Fills.after {b : Blocks} {v : Scan} {k : Nat} {rest : List Char}
    (h : Fills ok true column w new) (hv : Marked b column (w ++ nextLine k rest) v)
    (hk : k ≤ column) (hr : Next rest) :
    ∃ x, Comes v x ∧ Ends ok (Lands (b.read new) k rest) x := by
  obtain ⟨x, hx, ends⟩ :=
    h.comes v k rest hv.awaits (fun _ => ⟨hv.keyAllowed, hv.column⟩) hk hr hv.rest
  rw [hv.found] at ends
  exact ⟨x, hx, ends⟩

/-- An item of a sequence. -/
lemma Fills.item (h : Fills ok true column w new) :
    Entries ok .blockSequenceStart column ('-' :: w) (.blockEntry :: new) := by
  obtain ⟨ch, r, rfl, hch⟩ := h.leads
  refine ⟨fun r => next_indicator hch (.inl rfl), fun u k rest hu hindent hk hr => ?_⟩
  obtain ⟨v, hv, marked⟩ := exists_blockEntry hu hch hindent
  obtain ⟨x, hx, ends⟩ := h.after marked hk hr
  rw [Blocks.read_read] at ends
  exact ⟨x, .step hu.rest hv (le_of_eq (congrArg List.length marked.rest)) hx, ends⟩

/-- An entry of a mapping whose key has an indicator of its own. -/
lemma Fills.entry (hkey : Fills ok true column kw ks) (hvalue : Fills ok' true column vw vs) :
    Entries (ok ∧ ok') .blockMappingStart column ('?' :: (kw ++ nextLine column (':' :: vw)))
      (.key :: (ks ++ .value :: vs)) := by
  obtain ⟨kch, kr, rfl, hk⟩ := hkey.leads
  obtain ⟨vch, vr, rfl, hv⟩ := hvalue.leads
  refine ⟨fun r => next_indicator hk (.inr (.inl rfl)), fun u k rest hu hindent hle hr => ?_⟩
  have hu' : Ready column ('?' :: ((kch :: kr) ++
      nextLine column (':' :: (vch :: vr ++ nextLine k rest)))) u := by
    simpa using hu
  obtain ⟨v, hmark, marked⟩ := exists_keyMark hu' hk hindent
  obtain ⟨x, hx, ends⟩ :=
    hkey.after marked (Nat.le_refl _) (next_indicator hv (.inr (.inr rfl)))
  have htakes : Takes u x := .step hu'.rest hmark (le_of_eq (congrArg List.length marked.rest)) hx
  cases ends with
  | stuck hno stuck => exact ⟨x, htakes, .stuck (fun hall => hno hall.1) stuck⟩
  | there hok lands =>
    have hopen : ((((blocks u).opened .blockMappingStart column).read [.key]).read ks).indent =
        column := opened_indent hindent
    have heq := lands.eq (le_of_eq hopen)
    have hx' : x.indent = column := (congrArg Blocks.indent heq).trans hopen
    obtain ⟨y, hmark', marked'⟩ := exists_valueMark lands.toReady hv (le_of_eq hx')
    rw [opened_self hx'] at marked'
    obtain ⟨z, hz, ends'⟩ := hvalue.after marked' hle hr
    rw [heq, Blocks.read_read, Blocks.read_read, Blocks.read_read] at ends'
    refine ⟨z, htakes.trans
      (.step lands.rest hmark' (le_of_eq (congrArg List.length marked'.rest)) hz), ?_⟩
    simpa using ends'.and hok

end

/-! ### Scalars -/

section

variable {u : Scan} {ch : Char} {r : List Char}

lemma saveKey_eq (h : u.possible = none) :
    u.saveKey = .ok { u with possible := if u.keyAllowed then some u.keyHere else none } := by
  obtain ⟨cursor, tokens, indent, indents, keyAllowed, possible, outer⟩ := u
  cases h
  cases keyAllowed <;> rfl

/-- A scalar was read; it may be a key if one may start there. -/
structure Read (u : Scan) (token : Token) (after : Cursor) (ended : Bool) (t : Scan) : Prop where
  cursor : t.cursor = after
  outer : t.outer = []
  possible : t.possible = if u.keyAllowed then some u.keyHere else none
  keyAllowed : t.keyAllowed = ended
  indent : t.indent = u.indent
  found : blocks t = (blocks u).read [token]

lemma token_apostrophe (h : u.cursor.rest = '\x27' :: r) :
    u.token '\x27' = u.quotedScalar '\x27' := by
  unfold Scan.token
  simp [atMark_eq_false h]

/-- Text between quotes. -/
lemma exists_quotedScalar {quote : Char} {text : List Char} {after : Cursor}
    (hquote : quote = '\x27' ∨ quote = '\x22') (outer : u.outer = []) (possible : u.possible = none)
    (hrest : u.cursor.rest = quote :: r) (reads : Reads quote u.cursor.next text after) :
    ∃ t, u.token quote = .ok t ∧ Read u (.scalar (String.ofList text) false) after false t := by
  have htoken : u.token quote = u.quotedScalar quote := by
    rcases hquote with rfl | rfl
    · exact token_apostrophe hrest
    · exact token_quote hrest
  have hread := reads (u.cursor.rest.length + 1) (by rw [hrest, next_rest hrest]; simp; omega)
  rw [htoken]
  unfold Scan.quotedScalar
  refine ⟨_, (bind_of_ok _ (saveKey_eq possible)).trans (bind_of_ok _ hread), rfl, outer, rfl, rfl,
    rfl, ?_⟩
  simp [blocks, Blocks.read, Scan.emit]

/-- A plain text. -/
lemma exists_plainScalar {text : List Char} {ended : Bool} {after : Cursor}
    (outer : u.outer = []) (possible : u.possible = none) (hrest : u.cursor.rest = ch :: r)
    (mark : u.cursor.atDocumentMark = false)
    (starts : Scan.startsPlain false ch r.head? = true)
    (read : Scalar.plain false (u.indent + 1) (u.cursor.rest.length + 1) [] false u.cursor =
      ⟨text, ended, after⟩) :
    ∃ t, u.token ch = .ok t ∧ Read u (.scalar (String.ofList text) true) after ended t := by
  have hflow : u.inFlow = false := by simp [Scan.inFlow, outer]
  have hpeek : u.cursor.peek 1 = r.head? := by
    unfold Cursor.peek
    rw [hrest]
    cases r <;> rfl
  rw [token_plain hrest mark (by rw [hflow, hpeek]; exact starts)]
  unfold Scan.plainScalar
  rw [saveKey_eq possible]
  have hread : Scalar.plain (Scan.inFlow { u with
      possible := if u.keyAllowed then some u.keyHere else none }) (u.indent + 1)
      (u.cursor.rest.length + 1) [] false u.cursor = ⟨text, ended, after⟩ := by
    show Scalar.plain u.inFlow _ _ _ _ _ = _
    rw [hflow]
    exact read
  refine ⟨_, rfl, ?_, outer, rfl, ?_, rfl, ?_⟩
  · exact congrArg Scalar.Plain.after hread
  · exact congrArg Scalar.Plain.lineEnded hread
  · simp only [blocks, Blocks.read, Scan.emit, Array.toList_push]
    rw [hread]

end

/-! ### Scalars up to the end of a line -/

section

variable {c : Cursor} {u t : Scan} {fresh : Bool} {quote : Char} {column k : Nat}
  {w r text rest : List Char} {new : List Token}

lemma line_le_next (c : Cursor) : c.line ≤ c.next.line := by
  unfold Cursor.next
  split
  · exact Nat.le_refl _
  · split
    · exact Nat.le_succ _
    · exact Nat.le_refl _

lemma line_le_advance (n : Nat) (c : Cursor) : c.line ≤ (c.advance n).line := by
  induction n generalizing c with
  | zero => exact Nat.le_refl _
  | succ n ih => exact (line_le_next c).trans (ih c.next)

lemma line_lt_line (h : c.rest = nextLine k r) :
    c.line < (c.advance ('\n' :: List.replicate k ' ').length).line := by
  have hnext : c.next.line = c.line + 1 := by rw [next_newline h]
  have hle := line_le_advance (List.replicate k ' ').length c.next
  rw [List.length_cons, advance_succ]
  omega

/-- The tokens were read up to the line that begins with the rest. -/
structure Ended (u : Scan) (new : List Token) (k : Nat) (rest : List Char) (t : Scan) : Prop where
  reaches : ∀ v, Comes t v → Takes u v
  outer : t.outer = []
  possible : ∀ key ∈ t.possible, key = u.keyHere
  found : blocks t = (blocks u).read new
  gap : ∃ g, IsGap g ∧ t.cursor.rest = g ++ rest ∧ (t.cursor.advance g.length).column = k ∧
    u.cursor.line < (t.cursor.advance g.length).line ∧ (t.keyAllowed = true ∨ '\n' ∈ g)

/-- What stands after a space, and is read up to the end of the line. -/
lemma fills_space (hstops : ∀ r, Stops (w ++ r))
    (h : ∀ (u : Scan) (k : Nat) (rest : List Char), u.outer = [] → u.possible = none →
      u.indent = (column : Int) → column < u.cursor.column → k ≤ column → Next rest →
      u.cursor.rest = w ++ nextLine k rest → ∃ t, Ended u new k rest t) :
    Fills True fresh column (' ' :: w) new := by
  refine ⟨⟨' ', w, rfl, rfl⟩, fun s k rest hs _ hk hr hrest => ?_⟩
  have holds : Holds (s.cursor.advance [' '].length) s :=
    ⟨by simp [hs.possible, Tenable], by simp [hs.outer]⟩
  obtain ⟨u, hu⟩ := exists_skips (g := [' ']) hs.outer (by simp [IsGap]) (hstops _) hrest holds
  have hcolumn : (s.cursor.advance [' '].length).column = s.cursor.column + 1 :=
    advance_column (w := [' ']) hrest (by simp [isBreak])
  have hbeyond := hs.beyond
  have hself : blocks u = blocks s := by
    rw [hu.found, hcolumn]
    refine Blocks.close_of_le ?_
    show s.indent ≤ _
    rw [hs.indent]
    omega
  have hindent : u.indent = (column : Int) := (congrArg Blocks.indent hself).trans hs.indent
  have hrest' : u.cursor.rest = w ++ nextLine k rest := by
    rw [hu.cursor]
    exact advance_rest (w := [' ']) hrest
  have hbeyond' : column < u.cursor.column := by
    rw [hu.cursor, hcolumn]
    omega
  obtain ⟨t, ht⟩ := h u k rest hu.outer (by rw [hu.possible, hs.possible]; rfl) hindent hbeyond' hk
    hr hrest'
  obtain ⟨g, hg, hrest'', hcolumn', hline, hallowed⟩ := ht.gap
  have hkey : ∀ key ∈ t.possible, key.required = false ∧
      isFresh (t.cursor.advance g.length) key = false := by
    intro key hmem
    rw [ht.possible key hmem]
    have hne : u.indent ≠ (u.cursor.column : Int) := by omega
    refine ⟨by simp [Scan.keyHere, hne], ?_⟩
    have hline' : u.keyHere.line ≠ (t.cursor.advance g.length).line := Nat.ne_of_lt hline
    simp [isFresh, hline']
  obtain ⟨v, hv, lands⟩ := lands_of_gap ht.outer hg hr hrest'' hcolumn' hkey hallowed
  rw [ht.found, hself] at lands
  exact ⟨v, ht.reaches v hv s hu.comes, .there trivial lands⟩

/-- Between these quotes the characters are read as the text. -/
def Quoted (quote : Char) (w text : List Char) : Prop :=
  ∀ (c : Cursor) (r : List Char), c.rest = w ++ quote :: r → r.head? ≠ some quote →
    Reads quote c text (c.advance (w.length + 1))

lemma stops_quote (hquote : quote = '\x27' ∨ quote = '\x22') : Stops (quote :: r) := by
  rintro ch ⟨⟩
  rcases hquote with rfl | rfl <;> decide

lemma Quoted.exists_read (h : Quoted quote w text) (hquote : quote = '\x27' ∨ quote = '\x22')
    (outer : u.outer = []) (possible : u.possible = none)
    (hrest : u.cursor.rest = (quote :: (w ++ [quote])) ++ r) (hr : r.head? ≠ some quote) :
    ∃ t, u.token quote = .ok t ∧ Read u (.scalar (String.ofList text) false)
      (u.cursor.advance (quote :: (w ++ [quote])).length) false t := by
  have hrest' : u.cursor.rest = quote :: (w ++ quote :: r) := by simpa using hrest
  have hread := h u.cursor.next r (next_rest hrest') hr
  obtain ⟨t, ht, read⟩ := exists_quotedScalar hquote outer possible hrest' hread
  refine ⟨t, ht, ?_⟩
  rwa [List.length_cons, List.length_append]

lemma Read.reaches {token : Token} {first : Char} {ended : Bool}
    (h : Read u token (u.cursor.advance (first :: w).length) ended t)
    (hrest : u.cursor.rest = first :: w ++ r) (ht : u.token first = .ok t) (v : Scan)
    (hv : Comes t v) : Takes u v := by
  refine .step (r := w ++ r) hrest ht ?_ hv
  rw [h.cursor, advance_rest hrest, List.length_append]
  omega

lemma Read.possible_eq {token : Token} {ended : Bool} (h : Read u token c ended t) :
    ∀ key ∈ t.possible, key = u.keyHere := by
  intro key hkey
  rw [h.possible] at hkey
  split at hkey
  · exact (Option.some.inj hkey).symm
  · cases hkey

lemma Quoted.fills (h : Quoted quote w text) (hquote : quote = '\x27' ∨ quote = '\x22') :
    Fills True fresh column (' ' :: quote :: (w ++ [quote]))
      [.scalar (String.ofList text) false] := by
  refine fills_space (fun r => stops_quote hquote) fun u k rest outer possible _ _ _ hr hrest => ?_
  have hhead : (nextLine k rest).head? ≠ some quote := by
    rcases hquote with rfl | rfl <;> simp [nextLine]
  obtain ⟨t, ht, read⟩ := h.exists_read hquote outer possible hrest hhead
  have hrest' : t.cursor.rest = nextLine k rest := by rw [read.cursor, advance_rest hrest]
  refine ⟨t, read.reaches hrest ht, read.outer, read.possible_eq, read.found,
    _, isGap_line k, hrest', column_line hrest', ?_, .inr (List.mem_cons_self ..)⟩
  refine lt_of_le_of_lt ?_ (line_lt_line hrest')
  rw [read.cursor]
  exact line_le_advance _ _

/-- After a plain text: a colon that ends a key, or a line break. -/
def EndsPlain (r : List Char) : Prop :=
  (∃ ch r', r = ':' :: ch :: r' ∧ endsWord ch = true) ∨ ∃ k rest, r = nextLine k rest

/-- The characters are read as a plain text in a block that is less indented. -/
structure Folds (indent : Int) (w text : List Char) : Prop where
  stops : ∀ r, Stops (w ++ r)
  starts : ∃ ch w', w = ch :: w' ∧
    ∀ r, EndsPlain r → Scan.startsPlain false ch (w' ++ r).head? = true
  unmarked : ∀ r, EndsPlain r → MarkFree (w ++ r)
  reads : ∀ (c : Cursor) (r gap : List Char) (ended : Bool) (after : Cursor) (fuel : Nat),
    c.rest = w ++ r → EndsPlain r → indent ≤ c.column + 1 →
    Scalar.plainBlanks (c.advance w.length) = (gap, ended, after) →
    (gap.isEmpty || (after.column : Int) < indent) = true → w.length < fuel →
    Scalar.plain false indent fuel [] false c = ⟨text, ended, after⟩

lemma Folds.exists_read {gap : List Char} {ended : Bool} {after : Cursor}
    (h : Folds (u.indent + 1) w text) (outer : u.outer = []) (possible : u.possible = none)
    (hrest : u.cursor.rest = w ++ r) (hr : EndsPlain r) (hindent : u.indent ≤ u.cursor.column)
    (blanks : Scalar.plainBlanks (u.cursor.advance w.length) = (gap, ended, after))
    (ends : (gap.isEmpty || (after.column : Int) < u.indent + 1) = true) :
    ∃ first w' t, w = first :: w' ∧ u.token first = .ok t ∧
      Read u (.scalar (String.ofList text) true) after ended t := by
  obtain ⟨first, w', rfl, starts⟩ := h.starts
  have hlen : (first :: w').length < u.cursor.rest.length + 1 := by
    rw [hrest, List.length_append]
    omega
  obtain ⟨t, ht, read⟩ := exists_plainScalar outer possible hrest (h.unmarked r hr _ hrest)
    (starts r hr) (h.reads _ r gap ended after _ hrest hr (by omega) blanks ends hlen)
  exact ⟨first, w', t, rfl, ht, read⟩

lemma plainBreaks_spaces (h : c.rest = List.replicate k ' ' ++ rest) (hr : Stops rest) {fuel : Nat}
    (hf : k < fuel) : Scalar.plainBreaks fuel c = (some [], c.advance k) := by
  induction k generalizing c fuel with
  | zero =>
    obtain ⟨fuel, rfl⟩ := Nat.exists_eq_add_one_of_ne_zero (show fuel ≠ 0 by omega)
    exact plainBreaks_stop (by rwa [h])
  | succ k ih =>
    obtain ⟨fuel, rfl⟩ := Nat.exists_eq_add_one_of_ne_zero (show fuel ≠ 0 by omega)
    rw [List.replicate_succ, List.cons_append] at h
    rw [plainBreaks_space h, ih (next_rest h) (by omega)]
    rfl

/-- A line break with the spaces after it is a space. -/
lemma plainBlanks_line (h : c.rest = nextLine k rest) (hr : Stops rest)
    (hm : MarkFree (List.replicate k ' ' ++ rest)) : Scalar.plainBlanks c =
      ([' '], true, c.advance ('\n' :: List.replicate k ' ').length) := by
  have hspan : c.span (· == ' ') = ([], c) := by
    refine span_eq (w := []) h (List.forall_mem_nil _) ?_
    rintro ch ⟨⟩
    rfl
  have hrest : c.next.rest = List.replicate k ' ' ++ rest := next_rest h
  have hlen : k < c.next.rest.length + 1 := by
    rw [hrest, List.length_append, List.length_replicate]
    omega
  have hbreaks := plainBreaks_spaces hrest hr hlen
  unfold Scalar.plainBlanks
  rw [hspan]
  simp only [lineBreak_eq (w := ['\n']) .lineFeed h]
  rw [show c.advance ['\n'].length = c.next from rfl, hm _ hrest, hbreaks]
  simp [Scalar.fold, advance_succ]

lemma Folds.fills (h : Folds (column + 1) w text) :
    Fills True fresh column (' ' :: w) [.scalar (String.ofList text) true] := by
  refine fills_space h.stops fun u k rest outer possible hindent hbeyond hk hr hrest => ?_
  have hline : (u.cursor.advance w.length).rest = nextLine k rest := advance_rest hrest
  have hblanks := plainBlanks_line hline hr.stops
    (IsGap.markFree (fun ch hch => .inl (List.eq_of_mem_replicate hch)) hr.markFree)
  have hcolumn := column_line hline
  rw [← hindent] at h
  obtain ⟨first, w', t, rfl, ht, read⟩ := h.exists_read outer possible hrest (.inr ⟨k, rest, rfl⟩)
    (by omega) hblanks (by
      rw [hindent, hcolumn, Bool.or_eq_true, decide_eq_true_eq]
      omega)
  have hrest' := advance_rest (w := '\n' :: List.replicate k ' ') (r := rest) hline
  refine ⟨t, fun v hv => .step hrest ht ?_ hv, read.outer, read.possible_eq, read.found,
    [], isGap_nil, ?_, ?_, ?_, .inl read.keyAllowed⟩
  all_goals rw [read.cursor]
  · rw [hrest']
    simp [nextLine]
    omega
  · exact hrest'
  · exact hcolumn
  · exact lt_of_le_of_lt (line_le_advance _ _) (line_lt_line hline)

/-! ### Empty brackets -/

/-- The scan after an opening bracket. -/
def bracketed (opened : Token) (u : Scan) : Scan where
  cursor := u.cursor.next
  tokens := u.tokens.push opened
  indent := u.indent
  indents := u.indents
  keyAllowed := true
  possible := none
  outer := [if u.keyAllowed then some u.keyHere else none]

lemma openFlow_eq (opened : Token) (outer : u.outer = []) (possible : u.possible = none) :
    u.openFlow opened = .ok (bracketed opened u) := by
  unfold Scan.openFlow
  rw [saveKey_eq possible]
  show Except.ok _ = _
  rw [outer]
  rfl

lemma fills_brackets {opening closing : Char} {opened closed : Token}
    (hopen : ∀ (u : Scan) (r : List Char), u.cursor.rest = opening :: r →
      u.token opening = u.openFlow opened)
    (hclose : ∀ (u : Scan) (r : List Char), u.cursor.rest = closing :: r →
      u.token closing = u.closeFlow closed)
    (hstops : ∀ r, Stops (opening :: r) ∧ Stops (closing :: r)) :
    Fills True fresh column [' ', opening, closing] [opened, closed] := by
  refine fills_space (fun r => (hstops _).1)
    fun u k rest outer possible hindent hbeyond _ hr hrest => ?_
  have hrest' : u.cursor.rest = opening :: closing :: nextLine k rest := hrest
  have hne : u.indent ≠ (u.cursor.column : Int) := by omega
  have inside : Inside (bracketed opened u) := by
    refine ⟨⟨nofun, ?_⟩, List.cons_ne_nil _ _⟩
    intro key hkey key' hmem
    rw [List.mem_singleton.1 hkey] at hmem
    split at hmem
    · rw [← Option.some.inj hmem]
      simp [Scan.keyHere, hne]
    · cases hmem
  have hclosing : (bracketed opened u).cursor.rest = closing :: nextLine k rest := next_rest hrest'
  have hcomes := inside.comes (w := []) isGap_nil (hstops _).2 hclosing
  set s := skipped [] (bracketed opened u) with hs
  have hclosing' : s.cursor.rest = closing :: nextLine k rest := hclosing
  have hline : s.cursor.next.rest = nextLine k rest := next_rest hclosing
  have hlt := line_lt_line hline
  have hle : u.cursor.line ≤ s.cursor.next.line := (line_le_next _).trans (line_le_next _)
  have hclosed : s.token closing = .ok { s.pass 1 closed with
      keyAllowed := false
      possible := (if u.keyAllowed then some u.keyHere else none).filter (isFresh s.cursor)
      outer := [] } := hclose s _ hclosing
  refine ⟨_, fun v hv => Takes.trans
    (.step hrest' ((hopen u _ hrest').trans (openFlow_eq opened outer possible)) ?_ hcomes)
    (.step hclosing' hclosed ?_ hv), rfl, ?_, ?_, _, isGap_line k, hline,
    column_line hline, hle.trans_lt hlt, .inr (List.mem_cons_self ..)⟩
  · rw [hclosing]
  · exact le_of_eq (congrArg List.length hline)
  · intro key hkey
    have hmem := (Option.mem_filter_iff.1 hkey).1
    split at hmem
    · exact (Option.some.inj hmem).symm
    · cases hmem
  · simp [hs, blocks, Blocks.read, Scan.pass, skipped, bracketed]

end

/-! ### Keys without an indicator -/

/-- The characters stand on one line and are read as this token where a key may start. -/
structure Keyed (w : List Char) (token : Token) : Prop where
  next : ∀ ch r, endsWord ch = true → Next (w ++ ':' :: ch :: r)
  line : ∀ ch ∈ w, isBreak ch = false ∧ ch ≠ '\ufeff'
  reads : ∀ (u : Scan) (ch : Char) (r : List Char), u.outer = [] → u.possible = none →
    u.indent ≤ u.cursor.column → endsWord ch = true → u.cursor.rest = w ++ ':' :: ch :: r →
    ∃ first w' t, w = first :: w' ∧ u.token first = .ok t ∧
      Read u token (u.cursor.advance w.length) false t

section

variable {ok : Prop} {u t : Scan} {quote : Char} {column : Nat} {w kw vw text r : List Char}
  {token : Token} {vs : List Token}

lemma Quoted.keyed (h : Quoted quote w text) (hquote : quote = '\x27' ∨ quote = '\x22')
    (line : ∀ ch ∈ w, isBreak ch = false ∧ ch ≠ '\ufeff') :
    Keyed (quote :: (w ++ [quote])) (.scalar (String.ofList text) false) := by
  have hq : (isBreak quote = false ∧ quote ≠ '\ufeff') ∧ quote ≠ '-' ∧ quote ≠ '.' ∧
      quote ≠ ':' := by
    rcases hquote with rfl | rfl <;> decide
  refine ⟨fun ch r _ => ⟨stops_quote hquote, markFree_cons hq.2.1 hq.2.2.1⟩, ?_, ?_⟩
  · simp only [List.forall_mem_cons, List.forall_mem_append]
    exact ⟨hq.1, line, hq.1, List.forall_mem_nil _⟩
  · intro u ch r outer possible _ _ hrest
    obtain ⟨t, ht, read⟩ := h.exists_read hquote outer possible hrest (by simpa using hq.2.2.2.symm)
    exact ⟨quote, _, t, rfl, ht, read⟩

lemma Folds.keyed (h : ∀ indent, Folds indent w text)
    (line : ∀ ch ∈ w, isBreak ch = false ∧ ch ≠ '\ufeff') :
    Keyed w (.scalar (String.ofList text) true) := by
  have ends {ch : Char} {r : List Char} (hch : endsWord ch = true) : EndsPlain (':' :: ch :: r) :=
    .inl ⟨ch, r, rfl, hch⟩
  refine ⟨fun ch r hch => ⟨(h 0).stops _, (h 0).unmarked _ (ends hch)⟩, line, ?_⟩
  intro u ch r outer possible hindent hch hrest
  have hrest' : (u.cursor.advance w.length).rest = [] ++ ':' :: ch :: r := advance_rest hrest
  have hstops : Stops (':' :: ch :: r) := (next_indicator hch (.inr (.inr rfl))).stops
  have hblanks := plainBlanks_spaces (g := []) (List.forall_mem_nil _) hstops hrest'
  exact (h _).exists_read outer possible hrest (ends hch) hindent hblanks rfl

lemma insertIdx_append {α : Type} (l m : List α) (a : α) :
    (l ++ m).insertIdx l.length a = l ++ a :: m := by
  induction l with
  | nil => rfl
  | cons b l ih => simp [ih]

/-- The colon after a key. -/
lemma exists_keyValue {ch : Char} (column_eq : u.cursor.column = column)
    (key : t.possible = some u.keyHere) (outer : t.outer = []) (indent : t.indent = u.indent)
    (hindent : u.indent ≤ (column : Int)) (found : blocks t = (blocks u).read [token])
    (hrest : t.cursor.rest = ':' :: ch :: r) (hch : endsWord ch = true) :
    ∃ v, t.token ':' = .ok v ∧ v.cursor = t.cursor.next ∧ v.outer = [] ∧ v.possible = none ∧
      v.indent = (column : Int) ∧
      blocks v = ((blocks u).opened .blockMappingStart column).read [.key, token, .value] := by
  have htokens : t.tokens.toList = u.tokens.toList ++ [token] := congrArg Blocks.tokens found
  have hindents : t.indents = u.indents := congrArg Blocks.indents found
  have hposition : u.keyHere.position = u.tokens.toList.length := rfl
  have hinsert : (t.tokens.insertIdxIfInBounds u.keyHere.position .key).toList =
      u.tokens.toList ++ [.key, token] := by
    rw [toList_insertIdxIfInBounds, htokens, hposition, insertIdx_append]
  rw [token_valueMark hrest hch]
  unfold Scan.valueMark
  simp only [key]
  rw [show Scan.inFlow { t with
      possible := none
      keyAllowed := false
      tokens := t.tokens.insertIdxIfInBounds u.keyHere.position .key } = false by
    simp [Scan.inFlow, outer]]
  refine ⟨_, rfl, ?_⟩
  unfold Scan.openBlock Blocks.opened
  rw [show u.keyHere.column = column from column_eq]
  by_cases hlt : u.indent < (column : Int)
  · rw [if_neg Bool.false_ne_true, if_pos (show t.indent < _ by rw [indent]; exact hlt),
      if_pos (show (blocks u).indent < _ from hlt)]
    refine ⟨rfl, outer, rfl, rfl, ?_⟩
    have hstart : ((t.tokens.insertIdxIfInBounds u.keyHere.position .key).insertIdxIfInBounds
        u.keyHere.position .blockMappingStart).toList =
        u.tokens.toList ++ [.blockMappingStart, .key, token] := by
      rw [toList_insertIdxIfInBounds, hinsert, hposition, insertIdx_append]
    simp [blocks, Blocks.read, Scan.pass, hstart, indent, hindents]
  · rw [if_neg Bool.false_ne_true, if_neg (show ¬ t.indent < _ by rw [indent]; exact hlt),
      if_neg (show ¬ (blocks u).indent < _ from hlt)]
    refine ⟨rfl, outer, rfl, ?_, ?_⟩
    · show t.indent = _
      omega
    · simp [blocks, Blocks.read, Scan.pass, hinsert, indent, hindents]

/-- The colon after what cannot be a key. -/
lemma exists_valueMark_error {ch : Char} (outer : u.outer = []) (possible : u.possible = none)
    (keyAllowed : u.keyAllowed = false) (hrest : u.cursor.rest = ':' :: ch :: r)
    (hch : endsWord ch = true) : ∃ e, u.token ':' = .error e := by
  have hflow : u.inFlow = false := by simp [Scan.inFlow, outer]
  rw [token_valueMark hrest hch]
  unfold Scan.valueMark
  simp only [possible, hflow, keyAllowed]
  exact ⟨_, rfl⟩

/-- A key was read at the start of a line, and its colon follows. -/
structure Named (column : Nat) (w : List Char) (token : Token) (r : List Char) (u t : Scan) :
    Prop where
  rest : t.cursor.rest = ':' :: r
  column_eq : t.cursor.column = column + w.length
  key : t.possible = some u.keyHere
  fresh : isFresh t.cursor u.keyHere = decide (w.length ≤ 1024)
  outer : t.outer = []
  keyAllowed : t.keyAllowed = false
  indent : t.indent = u.indent
  found : blocks t = (blocks u).read [token]
  reaches : ∀ v, Comes t v → Takes u v
  stuck : (∃ e, Scan.prepare t = .error e) → Stuck u

lemma Keyed.exists_named {ch : Char} (hkey : Keyed w token)
    (hu : Ready column (w ++ ':' :: ch :: r) u) (hindent : u.indent ≤ (column : Int))
    (hch : endsWord ch = true) :
    ∃ t, Named column w token (ch :: r) u t := by
  obtain ⟨first, w', t, rfl, ht, read⟩ :=
    hkey.reads u ch _ hu.outer hu.possible (by rw [hu.column]; exact hindent) hch hu.rest
  have hcursor : t.cursor = u.cursor.advance (first :: w').length := read.cursor
  have hcolon : t.cursor.rest = ':' :: ch :: r := by rw [hcursor, advance_rest hu.rest]
  refine ⟨t, hcolon, ?_, ?_, ?_, read.outer, read.keyAllowed, read.indent, read.found,
    read.reaches hu.rest ht, fun fails =>
      ⟨first, w' ++ ':' :: ch :: r, hu.rest, fun t' ht' => ?_⟩⟩
  · rw [hcursor, advance_column hu.rest hkey.line, hu.column]
  · rw [read.possible, hu.keyAllowed]
    rfl
  · have hline : u.keyHere.line = t.cursor.line := by
      rw [hcursor, advance_line hu.rest fun d hd => (hkey.line d hd).1]
      rfl
    have hindex : t.cursor.index - u.keyHere.index = (first :: w').length := by
      rw [hcursor, advance_index hu.rest]
      exact Nat.add_sub_cancel_left ..
    simp [isFresh, hline, hindex, -List.length_cons]
  · rw [ht] at ht'
    cases ht'
    refine ⟨?_, fails⟩
    rw [hcolon, List.length_append]
    omega

/-- A key that is too long for its line is stuck before its colon, or at it. -/
lemma Named.exists_stuck {ch : Char} (h : Named column w token (ch :: r) u t)
    (hch : endsWord ch = true) (long : ¬ w.length ≤ 1024) : ∃ v, Takes u v ∧ Stuck v := by
  have hstops : Stops (':' :: ch :: r) := (next_indicator hch (.inr (.inr rfl))).stops
  have hstale : isFresh t.cursor u.keyHere = false := by rw [h.fresh, decide_eq_false long]
  by_cases required : u.keyHere.required = true
  · exact ⟨u, fun _ => id, h.stuck
      (exists_prepare_error isGap_nil hstops (w := []) h.rest h.key required hstale)⟩
  · have htenable : Tenable t.cursor t.possible := fun key hmem hrequired => by
      rw [h.key] at hmem
      cases hmem
      exact absurd hrequired required
    obtain ⟨v, hv⟩ := exists_skips (g := []) h.outer isGap_nil hstops h.rest
      ⟨htenable, by simp [h.outer]⟩
    have hvrest : v.cursor.rest = ':' :: ch :: r := by rw [hv.cursor]; exact h.rest
    have hvpossible : v.possible = none := by
      rw [hv.possible, h.key, Option.filter_eq_none_iff]
      rintro _ ⟨⟩
      show ¬ isFresh t.cursor u.keyHere = true
      rw [hstale]
      exact Bool.false_ne_true
    have hvallowed : v.keyAllowed = false := by rw [hv.keyAllowed, h.keyAllowed]; rfl
    obtain ⟨e, he⟩ := exists_valueMark_error hv.outer hvpossible hvallowed hvrest hch
    refine ⟨v, h.reaches v hv.comes, ':', _, hvrest, fun x hx => ?_⟩
    rw [he] at hx
    cases hx

/-- The value of a key that is not too long for its line. -/
lemma Named.exists_awaits {ch : Char} (h : Named column w token (ch :: r) u t)
    (hu : u.cursor.column = column) (hindent : u.indent ≤ (column : Int))
    (hch : endsWord ch = true) (short : w.length ≤ 1024) :
    ∃ x, (∀ y, Comes x y → Takes u y) ∧ Awaits column x ∧ x.cursor.rest = ch :: r ∧
      blocks x = ((blocks u).opened .blockMappingStart column).read [.key, token, .value] := by
  have hfresh : isFresh t.cursor u.keyHere = true := by rw [h.fresh, decide_eq_true short]
  -- nothing is forgotten or closed between a key and its colon
  obtain ⟨v, hv⟩ := exists_skips (g := []) h.outer isGap_nil
    (next_indicator hch (.inr (.inr rfl))).stops h.rest
    ⟨fun key hmem _ => by rw [h.key] at hmem; cases hmem; exact hfresh, by simp [h.outer]⟩
  have hvcursor : v.cursor = t.cursor := hv.cursor
  have hself : blocks v = blocks t := by
    rw [hv.found]
    refine Blocks.close_of_le ?_
    show t.indent ≤ (t.cursor.column : Int)
    rw [h.indent, h.column_eq]
    omega
  have hvpossible : v.possible = some u.keyHere := by
    rw [hv.possible, h.key]
    exact if_pos hfresh
  have hvrest : v.cursor.rest = ':' :: ch :: r := by rw [hvcursor]; exact h.rest
  obtain ⟨x, hx, hxcursor, hxouter, hxpossible, hxindent, hxfound⟩ := exists_keyValue hu
    hvpossible hv.outer ((congrArg Blocks.indent hself).trans h.indent) hindent
    (hself.trans h.found) hvrest hch
  have hxrest : x.cursor.rest = ch :: r := by rw [hxcursor, next_rest hvrest]
  have hxcolumn : column < x.cursor.column := by
    rw [hxcursor, next_column hvrest (by decide) (by decide), hvcursor, h.column_eq]
    omega
  exact ⟨x, fun y hy => (h.reaches v hv.comes).trans
    (.step hvrest hx (le_of_eq (congrArg List.length hxrest)) hy),
    ⟨hxouter, hxpossible, hxindent, hxcolumn⟩, hxrest, hxfound⟩

/-- An entry of a mapping whose key and value stand on one line. -/
lemma Keyed.entry (hkey : Keyed kw token) (hvalue : Fills ok false column vw vs) :
    Entries (kw.length ≤ 1024 ∧ ok) .blockMappingStart column (kw ++ ':' :: vw)
      (.key :: token :: .value :: vs) := by
  obtain ⟨ch, vr, rfl, hch⟩ := hvalue.leads
  refine ⟨fun r => ?_, fun u k rest hu hindent hk hr => ?_⟩
  · rw [List.append_assoc]
    exact hkey.next ch _ hch
  · have hu' : Ready column (kw ++ ':' :: ch :: (vr ++ nextLine k rest)) u := by simpa using hu
    obtain ⟨t, named⟩ := hkey.exists_named hu' hindent hch
    by_cases short : kw.length ≤ 1024
    · obtain ⟨x, htakes, awaits, hxrest, hxfound⟩ :=
        named.exists_awaits hu.column hindent hch short
      obtain ⟨y, hy, ends⟩ := hvalue.comes x k rest awaits (fun h => absurd h Bool.false_ne_true) hk
        hr hxrest
      rw [hxfound, Blocks.read_read] at ends
      exact ⟨y, htakes y hy, ends.and short⟩
    · obtain ⟨v, hv, stuck⟩ := named.exists_stuck hch short
      exact ⟨v, hv, .stuck (fun hall => short hall.1) stuck⟩

end

end Testbed.BlockScan
