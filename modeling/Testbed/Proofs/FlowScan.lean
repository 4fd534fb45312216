import Mathlib
import Testbed.Proofs.PlainText
import Testbed.Proofs.Quoting

/-!
The scan within brackets.

Within brackets the indentation of a line has no meaning, and nothing has to be a key. What a step
leaves behind there is told by its tokens alone.
-/

namespace Testbed.FlowScan

open PlainText
open Quoting
open Scanning
open Yaml

/-! ### Which token a character starts -/

section

variable {s : Scan} {ch : Char} {r : List Char}

lemma atMark_eq_false {c : Cursor} {mark : Char} (h : c.rest = ch :: r) (hne : ch ≠ mark) :
    c.atMark mark = false := by
  unfold Cursor.atMark
  rw [h]
  simp [hne]

lemma token_sequenceStart (h : s.cursor.rest = '[' :: r) :
    s.token '[' = s.openFlow .flowSequenceStart := by
  unfold Scan.token
  simp [atMark_eq_false h]

lemma token_mappingStart (h : s.cursor.rest = '\x7b' :: r) :
    s.token '\x7b' = s.openFlow .flowMappingStart := by
  unfold Scan.token
  simp [atMark_eq_false h]

lemma token_sequenceEnd (h : s.cursor.rest = ']' :: r) :
    s.token ']' = s.closeFlow .flowSequenceEnd := by
  unfold Scan.token
  simp [atMark_eq_false h]

lemma token_mappingEnd (h : s.cursor.rest = '\x7d' :: r) :
    s.token '\x7d' = s.closeFlow .flowMappingEnd := by
  unfold Scan.token
  simp [atMark_eq_false h]

lemma token_entry (h : s.cursor.rest = ',' :: r) : s.token ',' = s.flowEntry := by
  unfold Scan.token
  simp [atMark_eq_false h]

lemma token_value (h : s.cursor.rest = ':' :: r) (flow : s.inFlow = true) :
    s.token ':' = s.valueMark := by
  unfold Scan.token
  simp [atMark_eq_false h, flow]

lemma token_quote (h : s.cursor.rest = '\x22' :: r) : s.token '\x22' = s.quotedScalar '\x22' := by
  unfold Scan.token
  simp [atMark_eq_false h]

/-- A plain text starts wherever it may, unless a document mark stands there. -/
lemma token_plain (h : s.cursor.rest = ch :: r) (hmark : s.cursor.atDocumentMark = false)
    (hch : Scan.startsPlain s.inFlow ch (s.cursor.peek 1) = true) :
    s.token ch = s.plainScalar := by
  obtain ⟨hminus, hpoint⟩ := Bool.or_eq_false_iff.1 hmark
  have hall := hch
  unfold Scan.startsPlain at hch
  unfold Scan.token
  rcases Bool.or_eq_true_iff.1 hch with hch | hch
  · simp at hch
    simp [hminus, hpoint, hch, hall]
  · simp at hch
    obtain ⟨hend, rfl | ⟨hflow, rfl | rfl⟩⟩ := hch
    · simp [hminus, hpoint, hend, hall]
    · rw [hflow] at hall
      simp [hminus, hpoint, hend, hflow, hall]
    · rw [hflow] at hall
      simp [hminus, hpoint, hend, hflow, hall]

end

/-! ### What a step leaves behind -/

/-- Nothing that may be a key here has to be one. -/
structure Free (s : Scan) : Prop where
  possible : ∀ k ∈ s.possible, k.required = false
  outer : ∀ key ∈ s.outer, ∀ k ∈ key, k.required = false

/-- The scan is within brackets, where nothing has to be a key. -/
structure Inside (s : Scan) : Prop extends Free s where
  flow : s.outer ≠ []

/-- The scan has read on: there are further tokens, and it is as deep as before. -/
structure Extends (s t : Scan) (new : List Token) : Prop where
  tokens : t.tokens.toList = s.tokens.toList ++ new
  depth : t.outer.length = s.outer.length
  indent : t.indent = s.indent
  indents : t.indents = s.indents

section

variable {s t u : Scan} {new more : List Token} {w rest r : List Char} {ch : Char}

lemma Extends.trans (h : Extends s t new) (h' : Extends t u more) : Extends s u (new ++ more) where
  tokens := by rw [h'.tokens, h.tokens, List.append_assoc]
  depth := h'.depth.trans h.depth
  indent := h'.indent.trans h.indent
  indents := h'.indents.trans h.indents

lemma Inside.inFlow (h : Inside s) : s.inFlow = true := by
  unfold Scan.inFlow
  simpa using h.flow

lemma Inside.of_depth (h : Inside s) (free : Free t) (hd : t.outer.length = s.outer.length) :
    Inside t where
  toFree := free
  flow := by
    have hlen := List.length_pos_iff.2 h.flow
    exact List.length_pos_iff.1 (by omega)

lemma Free.holds (h : Free s) (c : Cursor) : Holds c s where
  possible k hk hreq := by simp [h.possible k hk] at hreq
  outer key hkey k hk hreq := by simp [h.outer key hkey k hk] at hreq

lemma Free.skipped (h : Free s) (w : List Char) : Free (skipped w s) where
  possible k hk := h.possible k (Option.mem_filter_iff.1 hk).1
  outer key hkey k hk := by
    obtain ⟨key', hkey', rfl⟩ := List.mem_map.1 hkey
    exact h.outer key' hkey' k (Option.mem_filter_iff.1 hk).1

lemma extends_skipped (s : Scan) (w : List Char) : Extends s (skipped w s) [] where
  tokens := (List.append_nil _).symm
  depth := List.length_map _
  indent := rfl
  indents := rfl

lemma Inside.skipped (h : Inside s) (w : List Char) : Inside (skipped w s) :=
  h.of_depth (h.toFree.skipped w) (extends_skipped s w).depth

/-- Within brackets a gap is just passed over. -/
lemma Inside.comes (h : Inside s) (hw : IsGap w) (hr : Stops rest)
    (hrest : s.cursor.rest = w ++ rest) : Comes s (Scanning.skipped w s) := by
  have hcomes := Comes.of_gap hw hr hrest (h.holds _)
  unfold Scan.unwind at hcomes
  rwa [if_pos (h.skipped w).inFlow] at hcomes

end

/-! ### Brackets and commas -/

/-- A bracket is opened: its own possible key waits outside. -/
structure Opens (s t : Scan) (token : Token) : Prop where
  cursor : t.cursor = s.cursor.next
  tokens : t.tokens.toList = s.tokens.toList ++ [token]
  outer : ∃ key, t.outer = key :: s.outer ∧ ∀ k ∈ key, k.required = false
  possible : t.possible = none
  keyAllowed : t.keyAllowed = true
  indent : t.indent = s.indent
  indents : t.indents = s.indents

section

variable {s t u : Scan} {token : Token} {new : List Token} {c : Cursor} {w rest r : List Char}

lemma forget_eq {key : Option PossibleKey} (h : ∀ k ∈ key, k.required = false) :
    Scan.forget key = .ok none := by
  cases key with
  | none => rfl
  | some k =>
    unfold Scan.forget
    simp [h k rfl]

/-- A place where a key is allowed is remembered. -/
lemma exists_saveKey (free : Free s) (here : s.keyHere.required = false) :
    ∃ key, s.saveKey = .ok { s with possible := key } ∧ (∀ k ∈ key, k.required = false) ∧
      (s.keyAllowed = true → key = some s.keyHere) := by
  unfold Scan.saveKey
  rw [forget_eq free.possible]
  by_cases hk : s.keyAllowed = true
  · rw [if_pos hk]
    refine ⟨some s.keyHere, rfl, ?_, fun _ => rfl⟩
    rintro k ⟨⟩
    exact here
  · rw [if_neg hk]
    exact ⟨s.possible, rfl, free.possible, fun h => absurd h hk⟩

lemma exists_openFlow (free : Free s) (here : s.keyHere.required = false) (token : Token) :
    ∃ t, s.openFlow token = .ok t ∧ Opens s t token := by
  obtain ⟨key, hsave, hkey, -⟩ := exists_saveKey free here
  unfold Scan.openFlow
  rw [hsave]
  exact ⟨_, rfl, rfl, by simp [Scan.pass], ⟨key, rfl, hkey⟩, rfl, rfl, rfl, rfl⟩

lemma Inside.keyHere (h : Inside s) : s.keyHere.required = false := by
  unfold Scan.keyHere
  simp [h.inFlow]

lemma Opens.inside (h : Opens s t token) (free : Free s) : Inside t where
  possible k hk := by
    rw [h.possible] at hk
    cases hk
  outer key hkey k hk := by
    obtain ⟨key', houter, hfree⟩ := h.outer
    rw [houter] at hkey
    rcases List.mem_cons.1 hkey with rfl | hkey
    · exact hfree k hk
    · exact free.outer key hkey k hk
  flow := by
    obtain ⟨key', houter, -⟩ := h.outer
    rw [houter]
    exact List.cons_ne_nil _ _

/-- What was opened is closed. -/
lemma exists_closeFlow {opened closed : Token} (h : Opens s t opened) (read : Extends t u new)
    (free : Free u) : ∃ v, u.closeFlow closed = .ok v ∧ v.cursor = u.cursor.next ∧ Free v ∧
      Extends s v (opened :: new ++ [closed]) := by
  obtain ⟨key', houter, -⟩ := h.outer
  have hdepth : u.outer.length = s.outer.length + 1 := by
    rw [read.depth, houter, List.length_cons]
  unfold Scan.closeFlow
  cases hu : u.outer with
  | nil =>
    rw [hu] at hdepth
    simp at hdepth
  | cons key outer =>
    rw [hu, List.length_cons] at hdepth
    refine ⟨_, rfl, rfl, ⟨?_, ?_⟩, ⟨?_, ?_, ?_, ?_⟩⟩
    · exact free.outer key (by rw [hu]; exact List.mem_cons_self ..)
    · exact fun key' hkey' => free.outer key' (by rw [hu]; exact List.mem_cons_of_mem _ hkey')
    · simp [Scan.pass, read.tokens, h.tokens]
    · exact Nat.succ.inj hdepth
    · exact read.indent.trans h.indent
    · exact read.indents.trans h.indents

lemma exists_flowEntry (h : Inside s) : ∃ t, s.flowEntry = .ok t ∧ t.cursor = s.cursor.next ∧
    Inside t ∧ Extends s t [.flowEntry] ∧ t.keyAllowed = true := by
  unfold Scan.flowEntry Scan.dropKey
  rw [show (s.pass 1 .flowEntry).possible = s.possible from rfl, forget_eq h.possible]
  refine ⟨_, rfl, rfl, ⟨⟨nofun, h.outer⟩, h.flow⟩, ⟨?_, rfl, rfl, rfl⟩, rfl⟩
  simp [Scan.pass]

/-! ### Keys between quotes -/

lemma insertIdx_length {α : Type} (l : List α) (a b : α) :
    (l ++ [a]).insertIdx l.length b = l ++ [b, a] := by
  induction l with
  | nil => rfl
  | cons c l ih => simp [ih]

/-- A text between quotes, and the place where it may be a key. -/
lemma exists_quoted {text : List Char} (h : Inside s) (hrest : s.cursor.rest = '\x22' :: r)
    (reads : Reads '\x22' s.cursor.next text c) : ∃ t, s.token '\x22' = .ok t ∧ t.cursor = c ∧
      Inside t ∧ Extends s t [.scalar (String.ofList text) false] ∧
      (s.keyAllowed = true → t.possible = some s.keyHere) := by
  have hread := reads (s.cursor.rest.length + 1) (by rw [hrest, next_rest hrest]; simp; omega)
  rw [token_quote hrest]
  obtain ⟨key, hsave, hkey, hhere⟩ := exists_saveKey h.toFree h.keyHere
  unfold Scan.quotedScalar
  refine ⟨_, (bind_of_ok _ hsave).trans (bind_of_ok _ hread), rfl, ⟨⟨hkey, h.outer⟩, h.flow⟩,
    ⟨?_, rfl, rfl, rfl⟩, hhere⟩
  simp [Scan.emit]

lemma toList_insertIdxIfInBounds {α : Type} (l : Array α) (i : Nat) (a : α) :
    (l.insertIdxIfInBounds i a).toList = l.toList.insertIdx i a := by
  cases l
  rw [List.insertIdxIfInBounds_toArray]

/-- The colon after a text makes it a key. -/
lemma exists_valueMark {x : Token} (h : Inside t) (read : Extends s t [x])
    (key : t.possible = some s.keyHere) (hrest : t.cursor.rest = ':' :: r) :
    ∃ u, t.token ':' = .ok u ∧ u.cursor = t.cursor.next ∧ Inside u ∧
      Extends s u [.key, x, .value] := by
  rw [token_value hrest h.inFlow]
  unfold Scan.valueMark
  simp only [key]
  have hflow : Scan.inFlow { t with
      possible := none
      keyAllowed := false
      tokens := t.tokens.insertIdxIfInBounds s.keyHere.position .key } = true := h.inFlow
  rw [if_pos hflow]
  refine ⟨_, rfl, rfl, ⟨⟨nofun, h.outer⟩, h.flow⟩, ⟨?_, read.depth, read.indent, read.indents⟩⟩
  have hposition : s.keyHere.position = s.tokens.toList.length := rfl
  simp only [Scan.pass, Array.toList_push, toList_insertIdxIfInBounds, read.tokens, hposition,
    insertIdx_length]
  simp

end

/-! ### Words -/

/-- A comma or a closing bracket follows. -/
def Closes (rest : List Char) : Prop := ∃ ch r, rest = ch :: r ∧ (ch = ',' ∨ ch = ']' ∨ ch = '\x7d')

lemma Closes.stops {rest : List Char} (h : Closes rest) : Stops rest := by
  obtain ⟨ch, r, rfl, rfl | rfl | rfl⟩ := h <;>
  · intro ch hch
    cases hch
    decide

lemma Closes.markFree {rest : List Char} (h : Closes rest) : MarkFree rest := by
  obtain ⟨ch, r, rfl, rfl | rfl | rfl⟩ := h <;> exact markFree_cons (by decide) (by decide)

/-- The characters of words that have no meaning within brackets. -/
def inWord (ch : Char) : Bool :=
  !(endsWord ch || ch == ':' || ch == '?' || Scalar.isFlowEnd ch)

section

variable {s : Scan} {ch : Char} {w g r rest : List Char}

lemma plainLength_append (hw : ∀ ch ∈ w, inWord ch = true) :
    Scalar.plainLength true (w ++ r) = Scalar.plainLength true r + w.length := by
  induction w with
  | nil => rfl
  | cons ch w ih =>
    obtain ⟨hch, hw⟩ := List.forall_mem_cons.1 hw
    simp [inWord] at hch
    rw [List.cons_append, Scalar.plainLength]
    simp [hch, ih hw]
    omega

lemma plainLength_closes (h : Closes rest) : Scalar.plainLength true rest = 0 := by
  obtain ⟨ch, r, rfl, rfl | rfl | rfl⟩ := h <;> rfl

lemma plainLength_gap (hg : IsGap g) (h : Closes rest) :
    Scalar.plainLength true (g ++ rest) = 0 := by
  cases g with
  | nil => exact plainLength_closes h
  | cons ch g =>
    rcases hg ch (List.mem_cons_self ..) with rfl | rfl | rfl <;> rfl

/-- A word within brackets is read with the blanks after it. -/
lemma exists_plainScalar (h : Inside s) (hw : ∀ ch ∈ w, inWord ch = true) (hne : w ≠ [])
    (hhash : w.head? ≠ some '#') (hg : IsGap g) (hr : Closes rest)
    (hrest : s.cursor.rest = w ++ (g ++ rest)) :
    ∃ t, s.plainScalar = .ok t ∧ t.cursor = s.cursor.advance (w ++ g).length ∧ Inside t ∧
      Extends s t [.scalar (String.ofList w) true] := by
  obtain ⟨gap, ended, hblanks⟩ := exists_plainBlanks hg hr.stops hr.markFree (advance_rest hrest)
  have hword : IsWord true w (g ++ rest) :=
    ⟨hne, hhash, by rw [plainLength_append hw, plainLength_gap hg hr, Nat.zero_add]⟩
  have hread : ∃ lineEnded, Scalar.plain s.inFlow (s.indent + 1) (s.cursor.rest.length + 1) [] false
      s.cursor = ⟨w, lineEnded, s.cursor.advance (w ++ g).length⟩ := by
    have hlen : s.cursor.rest.length ≠ 0 := by
      rw [hrest]
      simpa using fun he => absurd he hne
    obtain ⟨fuel, hfuel⟩ := Nat.exists_eq_add_one_of_ne_zero hlen
    have hstop : Scalar.plainLength true
        (((s.cursor.advance w.length).advance g.length).rest) = 0 := by
      rw [advance_rest (advance_rest hrest)]
      exact plainLength_closes hr
    rw [h.inFlow, hfuel, plain_word hword hrest hblanks, List.length_append, advance_add]
    split
    · exact ⟨ended, rfl⟩
    · rw [plain_stop hstop]
      exact ⟨ended, by simp⟩
  obtain ⟨lineEnded, hread⟩ := hread
  obtain ⟨key, hsave, hkey, -⟩ := exists_saveKey h.toFree h.keyHere
  unfold Scan.plainScalar
  rw [hsave]
  refine ⟨_, rfl, congrArg Scalar.Plain.after hread, ⟨⟨hkey, h.outer⟩, h.flow⟩,
    ⟨?_, rfl, rfl, rfl⟩⟩
  show (s.tokens.push (.scalar (String.ofList (Scalar.plain s.inFlow (s.indent + 1)
    (s.cursor.rest.length + 1) [] false s.cursor).text) true)).toList = _
  rw [hread, Array.toList_push]

end

end Testbed.FlowScan
