import Mathlib
import Testbed.Yaml.Token

/-!
How the scan of a text goes from token to token.

A scan comes to a place where it is about to take a token: the gap before it is skipped, what can
no longer be a key is forgotten, and the blocks that are deeper are closed. From there one token is
taken. Every token takes characters, so the bound on the number of tokens is never met.
-/

namespace Testbed.Scanning

open Yaml

lemma bind_of_ok {ε α β : Type} {x : Except ε α} {f : α → Except ε β} (a : α) (h : x = .ok a) :
    (x >>= f) = f a := by
  rw [h]
  rfl

/-! ### Places in a text -/

section

variable {c : Cursor} {ch : Char} {w r : List Char}

lemma advance_add (m n : Nat) (c : Cursor) : c.advance (m + n) = (c.advance m).advance n := by
  induction m generalizing c with
  | zero => rw [Nat.zero_add]; rfl
  | succ m ih =>
    rw [Nat.add_right_comm]
    exact ih c.next

lemma advance_succ (n : Nat) (c : Cursor) : c.advance (n + 1) = c.next.advance n := rfl

lemma next_rest (h : c.rest = ch :: r) : c.next.rest = r := by
  unfold Cursor.next
  rw [h]
  dsimp only
  split <;> rfl

lemma next_index (h : c.rest = ch :: r) : c.next.index = c.index + 1 := by
  unfold Cursor.next
  rw [h]
  dsimp only
  split <;> rfl

lemma next_line (h : c.rest = ch :: r) (hb : isBreak ch = false) : c.next.line = c.line := by
  unfold Cursor.next
  rw [h]
  simp [hb]

lemma next_column (h : c.rest = ch :: r) (hb : isBreak ch = false) (hm : ch ≠ '\ufeff') :
    c.next.column = c.column + 1 := by
  unfold Cursor.next
  rw [h]
  simp [hb, hm]

lemma next_newline (h : c.rest = '\n' :: r) : c.next = ⟨r, c.index + 1, c.line + 1, 0⟩ := by
  unfold Cursor.next
  rw [h]
  rfl

lemma advance_rest (h : c.rest = w ++ r) : (c.advance w.length).rest = r := by
  induction w generalizing c with
  | nil => exact h
  | cons ch w ih => exact ih (next_rest h)

lemma advance_index (h : c.rest = w ++ r) : (c.advance w.length).index = c.index + w.length := by
  induction w generalizing c with
  | nil => rfl
  | cons ch w ih =>
    rw [List.length_cons, advance_succ, ih (next_rest h), next_index h]
    omega

lemma advance_line (h : c.rest = w ++ r) (hw : ∀ ch ∈ w, isBreak ch = false) :
    (c.advance w.length).line = c.line := by
  induction w generalizing c with
  | nil => rfl
  | cons ch w ih =>
    obtain ⟨hb, hw⟩ := List.forall_mem_cons.1 hw
    rw [List.length_cons, advance_succ, ih (next_rest h) hw, next_line h hb]

lemma advance_column (h : c.rest = w ++ r)
    (hw : ∀ ch ∈ w, isBreak ch = false ∧ ch ≠ '\ufeff') :
    (c.advance w.length).column = c.column + w.length := by
  induction w generalizing c with
  | nil => rfl
  | cons ch w ih =>
    obtain ⟨⟨hb, hm⟩, hw⟩ := List.forall_mem_cons.1 hw
    rw [List.length_cons, advance_succ, ih (next_rest h) hw, next_column h hb hm]
    omega

/-- A run of characters of a class ends where the next one is of another. -/
lemma span_eq {p : Char → Bool} (h : c.rest = w ++ r) (hw : ∀ ch ∈ w, p ch = true)
    (hr : ∀ ch ∈ r.head?, p ch = false) : c.span p = (w, c.advance w.length) := by
  have htake : c.rest.takeWhile p = w := by
    rw [h, List.takeWhile_append_of_pos hw]
    cases r with
    | nil => simp
    | cons ch r => simp [hr ch rfl]
  unfold Cursor.span
  rw [htake]

lemma skip_eq {p : Char → Bool} (h : c.rest = w ++ r) (hw : ∀ ch ∈ w, p ch = true)
    (hr : ∀ ch ∈ r.head?, p ch = false) : c.skip p = c.advance w.length := by
  unfold Cursor.skip
  rw [span_eq h hw hr]

lemma skip_self {p : Char → Bool} (hr : ∀ ch ∈ c.rest.head?, p ch = false) : c.skip p = c :=
  skip_eq (w := []) rfl (List.forall_mem_nil _) hr

lemma span_next {p : Char → Bool} (h : c.rest = ch :: r) (hp : p ch = true) :
    c.span p = (ch :: (c.next.span p).1, (c.next.span p).2) := by
  unfold Cursor.span
  rw [h, next_rest h, List.takeWhile_cons_of_pos hp]
  rfl

lemma skip_next {p : Char → Bool} (h : c.rest = ch :: r) (hp : p ch = true) :
    c.skip p = c.next.skip p := by
  unfold Cursor.skip
  rw [span_next h hp]

lemma lineBreak_eq_none (h : ∀ ch ∈ c.rest.head?, isBreak ch = false) : c.lineBreak? = none := by
  unfold Cursor.lineBreak?
  cases hr : c.rest with
  | nil => rfl
  | cons ch r =>
    have hb : isBreak ch = false := h ch (by rw [hr]; rfl)
    have hch : ch ≠ '\r' ∧ ch ≠ '\u2028' ∧ ch ≠ '\u2029' := by
      refine ⟨?_, ?_, ?_⟩ <;> rintro rfl <;> cases hb
    obtain ⟨hcr, hls, hps⟩ := hch
    cases r <;> simp [hb, hcr, hls, hps]

/-- The characters of one line break, given what follows them. -/
inductive IsLineBreak (r : List Char) : List Char → Prop
  | lineFeed : IsLineBreak r ['\n']
  | both : IsLineBreak r ['\r', '\n']
  | carriageReturn (h : r.head? ≠ some '\n') : IsLineBreak r ['\r']

lemma lineBreak_eq (hw : IsLineBreak r w) (h : c.rest = w ++ r) :
    c.lineBreak? = some ('\n', c.advance w.length) := by
  unfold Cursor.lineBreak?
  rw [h]
  cases hw with
  | lineFeed => rfl
  | both => rfl
  | carriageReturn hr =>
    cases r with
    | nil => rfl
    | cons ch r =>
      have hn : ch ≠ '\n' := by
        rintro rfl
        exact hr rfl
      simp [hn, isBreak, Cursor.advance]

end

/-! ### Gaps between tokens -/

/-- White space as it may stand between tokens. -/
def IsGap (w : List Char) : Prop := ∀ ch ∈ w, ch = ' ' ∨ ch = '\n' ∨ ch = '\r'

lemma isGap_nil : IsGap [] := List.forall_mem_nil _

/-- Neither white space nor a comment follows. -/
def Stops (rest : List Char) : Prop :=
  ∀ ch ∈ rest.head?, ch ≠ ' ' ∧ ch ≠ '#' ∧ ch ≠ '\ufeff' ∧ isBreak ch = false

/-- A gap, space by space and line by line. -/
inductive Gap (rest : List Char) : List Char → Prop
  | nil : Gap rest []
  | space {w : List Char} (more : Gap rest w) : Gap rest (' ' :: w)
  | line {b w : List Char} (h : IsLineBreak (w ++ rest) b) (more : Gap rest w) : Gap rest (b ++ w)

section

variable {c : Cursor} {b w rest : List Char}

lemma gap_of_isGap (hr : Stops rest) (hw : IsGap w) : Gap rest w := by
  -- a carriage return and a line feed are one break, so the induction is on the length
  induction hn : w.length using Nat.strong_induction_on generalizing w with
  | _ n ih =>
    cases w with
    | nil => exact .nil
    | cons ch w =>
      obtain ⟨hch, hgap⟩ := List.forall_mem_cons.1 hw
      subst hn
      have more := ih _ (by simp) hgap rfl
      rcases hch with rfl | rfl | rfl
      · exact .space more
      · exact .line .lineFeed more
      · by_cases hnext : w.head? = some '\n'
        · obtain ⟨w, rfl⟩ : ∃ w', w = '\n' :: w' := by
            cases w with
            | nil => cases hnext
            | cons d w => exact ⟨w, by simpa using hnext⟩
          exact .line .both (ih _ (by simp) (List.forall_mem_cons.1 hgap).2 rfl)
        · refine .line (.carriageReturn ?_) more
          cases w with
          | nil =>
            intro hhead
            have hb := (hr '\n' hhead).2.2.2
            cases hb
          | cons d w => exact hnext

lemma IsLineBreak.head {r : List Char} (h : IsLineBreak r b) :
    ∃ ch b', b = ch :: b' ∧ isBreak ch = true ∧ ch ≠ ' ' ∧ ch ≠ '#' := by
  cases h <;> exact ⟨_, _, rfl, rfl, by decide, by decide⟩

lemma skipGap_space {flow allowed : Bool} {fuel : Nat} {r : List Char} (h : c.rest = ' ' :: r) :
    Scan.skipGap flow (fuel + 1) allowed c = Scan.skipGap flow (fuel + 1) allowed c.next := by
  unfold Scan.skipGap
  rw [skip_next h (by decide)]

lemma skipGap_line {flow allowed : Bool} {fuel : Nat} {r : List Char} (hb : IsLineBreak r b)
    (h : c.rest = b ++ r) : Scan.skipGap flow (fuel + 1) allowed c =
      Scan.skipGap flow fuel (allowed || !flow) (c.advance b.length) := by
  obtain ⟨ch, b', rfl, -, hspace, hhash⟩ := hb.head
  have hskip : c.skip (· == ' ') = c := by
    apply skip_self
    rw [h]
    simp [hspace]
  have hpeek : (c.peek 0 == some '#') = false := by
    unfold Cursor.peek
    rw [h]
    simp [hhash]
  rw [Scan.skipGap, hskip, hpeek]
  simp only [Bool.false_eq_true, if_false, lineBreak_eq hb h]

lemma skipGap_stop {flow allowed : Bool} {fuel : Nat} (h : Stops c.rest) :
    Scan.skipGap flow (fuel + 1) allowed c = (allowed, c) := by
  have hskip : c.skip (· == ' ') = c := skip_self fun ch hch => by simp [(h ch hch).1]
  have hpeek : (c.peek 0 == some '#') = false := by
    unfold Cursor.peek
    cases hc : c.rest with
    | nil => rfl
    | cons ch r => simpa using (h ch (by rw [hc]; rfl)).2.1
  rw [Scan.skipGap, hskip, hpeek]
  simp only [Bool.false_eq_true, if_false,
    lineBreak_eq_none fun ch hch => (h ch hch).2.2.2]

/-- In block style a line break in the gap allows a key after it. -/
lemma skipGap_eq (flow allowed : Bool) (fuel : Nat) (hw : IsGap w) (hr : Stops rest)
    (h : c.rest = w ++ rest) (hf : w.length < fuel) :
    Scan.skipGap flow fuel allowed c =
      (allowed || (!flow && w.any isBreak), c.advance w.length) := by
  induction gap_of_isGap hr hw generalizing fuel allowed c with
  | nil =>
    obtain ⟨fuel, rfl⟩ := Nat.exists_eq_add_one_of_ne_zero (by omega : fuel ≠ 0)
    rw [skipGap_stop (by rwa [h])]
    simp [Cursor.advance]
  | @space w more ih =>
    obtain ⟨fuel, rfl⟩ := Nat.exists_eq_add_one_of_ne_zero (by omega : fuel ≠ 0)
    rw [skipGap_space h, ih _ _ (List.forall_mem_cons.1 hw).2 (next_rest h)
      (by simp at hf; omega)]
    simp [isBreak, advance_succ]
  | @line b w hb more ih =>
    obtain ⟨fuel, rfl⟩ := Nat.exists_eq_add_one_of_ne_zero (by omega : fuel ≠ 0)
    rw [List.append_assoc] at h
    obtain ⟨ch, b', rfl, hch, -⟩ := hb.head
    rw [skipGap_line hb h, ih _ _ (fun ch hch => hw ch (List.mem_append_right _ hch))
      (advance_rest h) (by simp at hf; omega)]
    rw [List.length_append, advance_add]
    cases flow <;> simp [hch]

end

/-! ### Possible keys -/

/-- A colon here could still follow the key. -/
def isFresh (c : Cursor) (k : PossibleKey) : Bool := k.line == c.line && c.index - k.index ≤ 1024

/-- A key that has to be one can still be one here. -/
def Tenable (c : Cursor) (key : Option PossibleKey) : Prop :=
  ∀ k ∈ key, k.required = true → isFresh c k = true

section

variable {c : Cursor} {key : Option PossibleKey}

lemma refresh_eq (h : Tenable c key) : Scan.refresh c key = .ok (key.filter (isFresh c)) := by
  cases key with
  | none => rfl
  | some k =>
    unfold Scan.refresh
    by_cases hk : isFresh c k = true
    · have hkeep : (k.line != c.line || decide (1024 < c.index - k.index)) = false := by
        simpa [isFresh] using hk
      simp [hkeep, hk, Option.filter]
    · have hdrop : (k.line != c.line || decide (1024 < c.index - k.index)) = true := by
        simp only [isFresh, Bool.and_eq_true, beq_iff_eq, decide_eq_true_eq, not_and] at hk
        simp only [Bool.or_eq_true, bne_iff_ne, ne_eq, decide_eq_true_eq]
        by_cases hline : k.line = c.line
        · exact Or.inr (by have := hk hline; omega)
        · exact Or.inl hline
      have hfree : k.required = false := by
        by_contra hreq
        exact hk (h k rfl (by simpa using hreq))
      simp [hdrop, hk, Scan.forget, hfree, Option.filter]

end

/-- The scan past a gap, without the keys that this rules out. -/
def skipped (w : List Char) (s : Scan) : Scan where
  cursor := s.cursor.advance w.length
  tokens := s.tokens
  indent := s.indent
  indents := s.indents
  keyAllowed := s.keyAllowed || (!s.inFlow && w.any isBreak)
  possible := s.possible.filter (isFresh (s.cursor.advance w.length))
  outer := s.outer.map (·.filter (isFresh (s.cursor.advance w.length)))

/-- All keys that have to be one can still be one here. -/
structure Holds (c : Cursor) (s : Scan) : Prop where
  possible : Tenable c s.possible
  outer : ∀ key ∈ s.outer, Tenable c key

section

variable {s : Scan} {w rest : List Char}

lemma toNextToken_eq (hw : IsGap w) (hr : Stops rest) (h : s.cursor.rest = w ++ rest) :
    s.toNextToken = { s with
      keyAllowed := s.keyAllowed || (!s.inFlow && w.any isBreak)
      cursor := s.cursor.advance w.length } := by
  have hmark : (s.cursor.index == 0 && s.cursor.peek 0 == some '\ufeff') = false := by
    have hhead : s.cursor.peek 0 ≠ some '\ufeff' := by
      unfold Cursor.peek
      rw [h]
      cases w with
      | nil =>
        cases rest with
        | nil => simp
        | cons ch rest => simpa using (hr ch rfl).2.2.1
      | cons ch w =>
        rcases hw ch (List.mem_cons_self ..) with rfl | rfl | rfl <;> simp
    simp [hhead]
  unfold Scan.toNextToken
  simp only [hmark, Bool.false_eq_true, if_false]
  rw [skipGap_eq s.inFlow s.keyAllowed _ hw hr h (by rw [h]; simp)]

lemma mapM_refresh {c : Cursor} {keys : List (Option PossibleKey)}
    (h : ∀ key ∈ keys, Tenable c key) :
    keys.mapM (Scan.refresh c) = .ok (keys.map (·.filter (isFresh c))) := by
  induction keys with
  | nil => rfl
  | cons key keys ih =>
    obtain ⟨hkey, hkeys⟩ := List.forall_mem_cons.1 h
    rw [List.mapM_cons, refresh_eq hkey, ih hkeys]
    rfl

lemma prepare_eq (hw : IsGap w) (hr : Stops rest) (h : s.cursor.rest = w ++ rest)
    (holds : Holds (s.cursor.advance w.length) s) :
    Scan.prepare s = .ok ((skipped w s).unwind (skipped w s).cursor.column) := by
  unfold Scan.prepare Scan.dropStale
  rw [toNextToken_eq hw hr h]
  simp only [refresh_eq holds.possible, mapM_refresh holds.outer]
  rfl

/-- A key that has to be one cannot be one any more after the gap. -/
lemma exists_prepare_error {key : PossibleKey} (hw : IsGap w) (hr : Stops rest)
    (h : s.cursor.rest = w ++ rest) (hkey : s.possible = some key) (required : key.required = true)
    (stale : isFresh (s.cursor.advance w.length) key = false) : ∃ e, Scan.prepare s = .error e := by
  have hstale : (key.line != (s.cursor.advance w.length).line ||
      decide (1024 < (s.cursor.advance w.length).index - key.index)) = true := by
    simp only [isFresh, Bool.and_eq_false_iff, beq_eq_false_iff_ne, decide_eq_false_iff_not,
      not_le] at stale
    simpa using stale
  have hrefresh : Scan.refresh (s.cursor.advance w.length) (some key) =
      .error (.malformed "could not find the colon of a key") := by
    unfold Scan.refresh Scan.forget
    simp only [hstale, required, if_true]
  unfold Scan.prepare Scan.dropStale
  rw [toNextToken_eq hw hr h]
  simp only [hkey, hrefresh]
  exact ⟨_, rfl⟩

end

/-! ### The scan from token to token -/

/-- From the first state the scan comes to the second, where it is about to take a token. -/
inductive Comes : Scan → Scan → Prop
  | here {s t : Scan} (h : Scan.prepare s = .ok t)
    (within : t.cursor.rest.length ≤ s.cursor.rest.length) : Comes s t
  | past {s t u v : Scan} {ch : Char} {rest : List Char} (h : Scan.prepare s = .ok t)
    (starts : t.cursor.rest = ch :: rest) (taken : t.token ch = .ok u)
    (shorter : u.cursor.rest.length < s.cursor.rest.length) (more : Comes u v) : Comes s v

namespace Comes

variable {s t u v : Scan} {ch : Char} {w rest : List Char}

lemma of_gap (hw : IsGap w) (hr : Stops rest) (h : s.cursor.rest = w ++ rest)
    (holds : Holds (s.cursor.advance w.length) s) :
    Comes s ((skipped w s).unwind (skipped w s).cursor.column) := by
  refine .here (prepare_eq hw hr h holds) ?_
  have hrest : ((skipped w s).unwind (skipped w s).cursor.column).cursor.rest = rest := by
    unfold Scan.unwind
    split
    · exact advance_rest h
    · exact advance_rest h
  rw [hrest, h]
  simp

/-- One token further. -/
lemma step (h : Comes s t) (starts : t.cursor.rest = ch :: rest) (taken : t.token ch = .ok u)
    (shorter : u.cursor.rest.length ≤ rest.length) (more : Comes u v) : Comes s v := by
  induction h with
  | here h within =>
    refine .past h starts taken ?_ more
    rw [starts, List.length_cons] at within
    omega
  | past h starts' taken' shorter' _ ih => exact .past h starts' taken' shorter' (ih starts taken)

lemma run_token (h : Scan.prepare s = .ok t) (starts : t.cursor.rest = ch :: rest)
    (fuel : Nat) : Scan.run (fuel + 1) s = s.orStop (t.token ch) >>= Scan.run fuel := by
  rw [Scan.run, h]
  refine (bind_of_ok _ rfl).trans ?_
  rw [starts]

lemma run_error {e : Problem} (h : Scan.prepare s = .error e) (fuel : Nat) :
    Scan.run (fuel + 1) s = .error ⟨s.settled, e⟩ := by
  rw [Scan.run, h]
  rfl

/-- A scan that comes to the end of the text has all tokens. -/
lemma run (h : Comes s t) (done : t.cursor.rest = []) (closed : (t.unwind (-1)).dropKey = .ok u)
    {fuel : Nat} (hf : s.cursor.rest.length < fuel) : Scan.run fuel s = .ok u.tokens := by
  induction h generalizing fuel with
  | @here s t h within =>
    obtain ⟨fuel, rfl⟩ := Nat.exists_eq_add_one_of_ne_zero (by omega : fuel ≠ 0)
    rw [Scan.run, h]
    refine (bind_of_ok _ rfl).trans ?_
    rw [done, closed]
    rfl
  | past h starts taken shorter more ih =>
    obtain ⟨fuel, rfl⟩ := Nat.exists_eq_add_one_of_ne_zero (by omega : fuel ≠ 0)
    rw [run_token h starts, taken]
    exact ih done closed (by omega)

end Comes

/-- The scan cannot go on after the next token, if there is one at all. -/
def Stuck (t : Scan) : Prop :=
  ∃ ch rest, t.cursor.rest = ch :: rest ∧ ∀ u, t.token ch = .ok u →
    u.cursor.rest.length ≤ rest.length ∧ ∃ e, Scan.prepare u = .error e

/-- A scan that comes to where it cannot go on fails. -/
lemma Comes.run_stuck {s t : Scan} (h : Comes s t) (stuck : Stuck t) {fuel : Nat}
    (hf : s.cursor.rest.length < fuel) : ∃ e, Scan.run fuel s = .error e := by
  obtain ⟨fuel, rfl⟩ := Nat.exists_eq_add_one_of_ne_zero (by omega : fuel ≠ 0)
  induction h generalizing fuel with
  | @here s t h within =>
    obtain ⟨ch, rest, starts, fails⟩ := stuck
    rw [Comes.run_token h starts]
    rw [starts, List.length_cons] at within
    cases taken : t.token ch with
    | error e => exact ⟨⟨s.settled, e⟩, rfl⟩
    | ok u =>
      obtain ⟨shorter, e, he⟩ := fails u taken
      obtain ⟨fuel, rfl⟩ := Nat.exists_eq_add_one_of_ne_zero (by omega : fuel ≠ 0)
      exact ⟨_, Comes.run_error he fuel⟩
  | past h starts taken shorter more ih =>
    obtain ⟨fuel, rfl⟩ := Nat.exists_eq_add_one_of_ne_zero (by omega : fuel ≠ 0)
    obtain ⟨e, he⟩ := ih stuck fuel (by omega)
    refine ⟨e, ?_⟩
    rw [Comes.run_token h starts, taken]
    exact he

end Testbed.Scanning
