import Mathlib
import Testbed.Proofs.Bodies
import Testbed.Proofs.JsonScan
import Testbed.Proofs.Written

/-!
Documents of trees.

A document is written after a mark of its own, and read from there. That of a legible tree is read
as the tree, unless a key in it is too long for its line: then it cannot be read at all.
-/

namespace Testbed.Trees

open BlockScan
open Folding
open Scanning
open Yaml
open Yaml.Writing

section

variable {ok : Prop} {u : Scan} {w r : List Char} {new : List Token} {fields : List (String × Tree)}

lemma token_documentStart (h : u.cursor.rest = '-' :: '-' :: '-' :: '\n' :: r)
    (column : u.cursor.column = 0) (possible : u.possible = none) (indent : u.indent = -1) :
    u.token '-' = .ok ({ u with keyAllowed := false }.pass 3 .documentStart) := by
  have hmark : u.cursor.atMark '-' = true := by
    unfold Cursor.atMark Cursor.peek
    rw [h]
    rfl
  have hclose : u.closeAll = .ok { u with keyAllowed := false } := by
    unfold Scan.closeAll Scan.dropKey
    rw [unwind_eq_self (le_of_eq indent), possible]
    obtain ⟨cursor, tokens, indent, indents, keyAllowed, possible, outer⟩ := u
    cases possible
    rfl
  unfold Scan.token
  simp only [column, hmark]
  exact bind_of_ok _ hclose

/-- The scan of a document is at the end of the text, with these tokens and an open mapping. -/
structure Done (new : List Token) (v : Scan) : Prop where
  rest : v.cursor.rest = []
  outer : v.outer = []
  possible : v.possible = none
  found : blocks v = ⟨.documentStart :: .blockMappingStart :: new, 0, [-1]⟩

/-- The text of a document with these entries. -/
def documentText (w : List Char) : List Char := '-' :: '-' :: '-' :: nextLine 0 (w ++ nextLine 0 [])

lemma exists_done (h : Entries ok .blockMappingStart 0 w new) :
    ∃ v, Comes (Scan.start (documentText w)) v ∧ Ends ok (Done new) v := by
  set s := skipped [] (Scan.start (documentText w)) with hs
  have hstart : Comes (Scan.start (documentText w)) s :=
    Json.comes_outermost (w := []) (r := documentText w) ⟨by rintro _ ⟨⟩, List.forall_mem_nil _⟩ rfl
      isGap_nil (by rintro ch ⟨⟩; decide) rfl
  have hmark := token_documentStart (u := s) (r := w ++ nextLine 0 []) rfl rfl rfl rfl
  set t := { s with keyAllowed := false }.pass 3 .documentStart with ht
  have hrest : t.cursor.rest = ['\n'] ++ (w ++ nextLine 0 []) :=
    advance_rest (w := ['-', '-', '-']) (c := s.cursor) rfl
  have hcolumn : (t.cursor.advance ['\n'].length).column = 0 := column_line (k := 0) hrest
  obtain ⟨u, hu, lands⟩ := lands_of_gap (s := t) (k := 0) rfl (g := ['\n']) (by simp [IsGap])
    (h.next _) hrest hcolumn (by rintro _ ⟨⟩) (.inr (List.mem_singleton_self _))
  have hblocks : blocks t = ⟨[.documentStart], -1, []⟩ := rfl
  have hfound : blocks u = ⟨[.documentStart], -1, []⟩ := lands.eq (by rw [hblocks]; decide)
  have hindent : u.indent = -1 := congrArg Blocks.indent hfound
  have hnext : Next [] :=
    ⟨by rintro _ ⟨⟩, fun c hc => by simp [Cursor.atDocumentMark, Cursor.atMark, hc]⟩
  obtain ⟨v, hv, ends⟩ :=
    h.takes u 0 [] lands.toReady (by rw [hindent]; decide) (Nat.le_refl _) hnext
  have shorter : t.cursor.rest.length ≤ ('-' :: '-' :: nextLine 0 (w ++ nextLine 0 [])).length := by
    rw [hrest]
    simp [nextLine]
  refine ⟨v, hstart.step rfl hmark shorter (hv t hu), ends.imp fun there => ?_⟩
  refine ⟨there.rest, there.outer, there.possible, ?_⟩
  rw [there.found, hfound]
  exact Blocks.close_of_le (le_refl 0)

/-- A document of entries. -/
lemma tokens_document (h : Entries ok .blockMappingStart 0 w new) (hok : ok) :
    Yaml.tokens (documentText w) =
      .ok (.documentStart :: .blockMappingStart :: (new ++ [.blockEnd])) := by
  obtain ⟨v, hcomes, ends⟩ := exists_done h
  cases ends with
  | stuck hno => exact absurd hok hno
  | there _ done =>
    have hclosed : (v.unwind (-1)).dropKey = .ok { v.unwind (-1) with possible := none } := by
      have hpossible : (v.unwind (-1)).possible = none := by
        unfold Scan.unwind
        split <;> exact done.possible
      unfold Scan.dropKey
      rw [hpossible]
      rfl
    have hrun : Scan.run ((documentText w).length + 1) (Scan.start (documentText w)) =
        .ok (v.unwind (-1)).tokens :=
      hcomes.run done.rest hclosed (Nat.lt_succ_self (documentText w).length)
    have htokens : (v.unwind (-1)).tokens.toList =
        .documentStart :: .blockMappingStart :: (new ++ [.blockEnd]) := by
      have hclosed : blocks (v.unwind (-1)) = (blocks v).close (-1) := blocks_unwind done.outer
      rw [done.found] at hclosed
      exact congrArg Blocks.tokens hclosed
    unfold Yaml.tokens
    rw [hrun]
    exact congrArg Except.ok htokens

/-- A document of entries one of which cannot be read. -/
lemma exists_tokens_error (h : Entries ok .blockMappingStart 0 w new) (hno : ¬ ok) :
    ∃ e, Yaml.tokens (documentText w) = .error e := by
  obtain ⟨v, hcomes, ends⟩ := exists_done h
  cases ends with
  | there hok => exact absurd hok hno
  | stuck _ stuck =>
    obtain ⟨e, he⟩ := hcomes.run_stuck stuck (Nat.lt_succ_self (documentText w).length)
    unfold Yaml.tokens
    exact ⟨e, by rw [he]; rfl⟩

lemma ofTokens_documentStart (tokens : List Token) :
    Node.ofTokens? (.documentStart :: tokens) = (do
      let (node, rest) ← if Node.endsDocument tokens then pure (Node.empty, tokens)
        else Node.parse Node.standardHandles .block (4 * (tokens.length + 1) + 8) tokens
      match rest.dropWhile (· == Token.documentEnd) with
      | [] => return some node
      | rest => do
        let (_, rest) ← Node.directives none [] rest
        Node.unexpected "a single document" rest) := rfl

/-- What follows the mark of a document is its node. -/
lemma ofTokens_start {tokens : List Token} {n : Node} (hends : Node.endsDocument tokens = false)
    (h : Node.parse Node.standardHandles .block (4 * (tokens.length + 1) + 8) tokens =
      .ok (n, [])) : Node.ofTokens? (.documentStart :: tokens) = .ok (some n) := by
  rw [ofTokens_documentStart, hends, if_neg Bool.false_ne_true]
  exact bind_of_ok _ h

/-- The tokens of a document make its nodes. -/
lemma ofTokens_document (legible : LegibleFields 0 fields) :
    Node.ofTokens? (.documentStart :: .blockMappingStart :: (fieldTokens fields ++ [.blockEnd])) =
      .ok (some (Tree.map fields).node) := by
  refine ofTokens_start rfl ?_
  refine (parse_fields (by decide)).trans ?_
  exact bind_of_ok _ (parse_fieldTokens fields legible (by simp; omega))

/-- The document of a mapping. -/
lemma exists_document (hne : fields ≠ []) (legible : LegibleFields 0 fields) :
    ∃ w, (Writing.document (Tree.map fields).value).1.toList = documentText w ∧
      (∀ ch ∈ (Writing.document (Tree.map fields).value).1.toList, isAllowed ch = true) ∧
      Entries (ShortFields fields) .blockMappingStart 0 w (fieldTokens fields) := by
  set start := Page.empty.mark ['-', '-', '-'] true false false with hstart
  have htext : start.text.toList = ['-', '-', '-'] := by simp [hstart, mark_text, Page.empty]
  obtain ⟨w, q, hw, wrote, entries⟩ := adds_fields fields hne legible start [] _ rfl
    (newLine_break (.inl rfl)) (isAllowed_nextLine (List.forall_mem_nil _))
  have hnode : Writing.node [] (Tree.map fields).value .root none ⟨start, []⟩ = ⟨q, []⟩ := by
    obtain ⟨x, fields, rfl⟩ := List.exists_cons_of_ne_nil hne
    rw [Tree.value, Writing.node]
    exact hw
  have starts := newLine_break (n := 0) (.inl wrote.fresh)
  have hdocument : (Writing.document (Tree.map fields).value).1 = (q.newLine 0).text := by
    unfold Writing.document
    rw [shared_value]
    dsimp only
    rw [← hstart, hnode]
  have hall : (q.newLine 0).text.toList = documentText w := by
    rw [starts.text, wrote.text, htext]
    simp [documentText]
  refine ⟨w, hdocument ▸ hall, ?_, entries⟩
  rw [hdocument, starts.text, wrote.text, htext]
  refine List.forall_mem_append.2 ⟨List.forall_mem_append.2 ⟨?_, wrote.allowed⟩,
    isAllowed_nextLine (List.forall_mem_nil _)⟩
  simp [isAllowed]

/-- **A document of a legible tree is read as the tree**, if no key is too long. -/
lemma load_document (hne : fields ≠ []) (legible : LegibleFields 0 fields)
    (distinct : (Tree.map fields).Distinct) (short : ShortFields fields) :
    load (Writing.document (Tree.map fields).value).1 = .ok (Tree.map fields).value := by
  obtain ⟨w, htext, allowed, entries⟩ := exists_document hne legible
  have plain : Nodes.plainValue (Tree.map fields).node = some (Tree.map fields).value := by
    obtain ⟨hkeys, distinct⟩ := distinct
    rw [← keys_eq] at hkeys
    rw [Tree.node, Nodes.plainValue, plain_fields fields legible distinct, Tree.value, entries_eq]
    exact if_pos hkeys
  refine Nodes.load_eq allowed ?_ (ofTokens_document legible) plain
  rw [htext, tokens_document entries short]

/-- A document with a key that is too long cannot be read. -/
lemma exists_load_error (hne : fields ≠ []) (legible : LegibleFields 0 fields)
    (long : ¬ ShortFields fields) :
    ∃ e, load (Writing.document (Tree.map fields).value).1 = .error e := by
  obtain ⟨w, htext, allowed, entries⟩ := exists_document hne legible
  obtain ⟨e, he⟩ := exists_tokens_error entries long
  refine ⟨Node.firstProblem e, ?_⟩
  unfold load Node.ofText
  dsimp only
  rw [if_pos (List.all_eq_true.2 allowed), htext, he]
  rfl

end

end Testbed.Trees
