import Mathlib
import Testbed.Console

/-!
Markup that can be printed, and markup that cannot.

Without a bracket there is no tag, and nothing to be at fault. A closing tag is at fault while
nothing is open, and so it is also behind markup that closes its own tags.
-/

namespace Testbed.Console

namespace Markup

/-! ### Pieces -/

lemma nameAndValue_slash (chars : List Char) :
    nameAndValue ('/' :: chars) = ('/' :: (nameAndValue chars).1, (nameAndValue chars).2) := by
  have hdrop : ('/' :: chars).dropWhile (· != '=') = chars.dropWhile (· != '=') := rfl
  unfold nameAndValue
  rw [hdrop]
  split <;> rfl

lemma nameAndValue_name {name : List Char} (h : '=' ∉ name) :
    nameAndValue name = (name, none) := by
  have hdrop : name.dropWhile (· != '=') = [] :=
    List.dropWhile_eq_nil_iff.2 fun c hc => bne_iff_ne.2 fun he => h (he ▸ hc)
  rw [nameAndValue, hdrop]

/-- The name of a style, in its canonical form. -/
structure IsStyle (style : String) : Prop where
  canonical : Style.canonical style.toList = .ok style
  /-- It closes nothing. -/
  opens : style.toList.head? ≠ some '/'
  /-- It is no handler. -/
  styles : style.toList.head? ≠ some '@'
  noValue : '=' ∉ style.toList
  notBlank : style.toList.all Text.isBlank = false

lemma canonical_eq {style : String}
    (h : (Style.canonical style.toList).toOption = some style) :
    Style.canonical style.toList = .ok style := by
  cases hc : Style.canonical style.toList with
  | error f => simp [hc, Except.toOption] at h
  | ok canonical =>
    rw [hc] at h
    exact congrArg Except.ok (Option.some.inj h)

variable {style : String}

lemma plainText_opening (hstyle : IsStyle style) (opened : List Tag) (position : Nat)
    (pieces : List Piece) :
    plainText opened (.tag position style.toList :: pieces) =
      plainText (⟨style, none⟩ :: opened) pieces := by
  rw [plainText.eq_def]
  dsimp only
  rw [nameAndValue_name hstyle.noValue]
  dsimp only
  split
  · rename_i hname
    exact absurd (hname ▸ rfl) hstyle.opens
  · rw [hstyle.canonical]
    rfl

/-- A tag that is closed where it ends leaves what follows it alone. -/
lemma plainText_closed (hstyle : IsStyle style) (position position' : Nat) (chars : List Char)
    (pieces : List Piece) :
    plainText [] (.tag position style.toList :: .text chars ::
        .tag position' ('/' :: style.toList) :: pieces) =
      (fun shown : Styled =>
        ⟨Emoji.replace (unescape chars) ++ shown.text, ⟨style, none⟩ :: shown.tags⟩) <$>
      plainText [] pieces := by
  have hclose : plainText [⟨style, none⟩] (.tag position' ('/' :: style.toList) :: pieces) =
      (fun shown : Styled => { shown with tags := ⟨style, none⟩ :: shown.tags }) <$>
        plainText [] pieces := by
    have hkept : Tag.close ⟨style, none⟩ = .ok [⟨style, none⟩] := by
      simp only [Tag.close, hstyle.styles, if_false]
      rfl
    rw [plainText]
    simp only [nameAndValue_slash, nameAndValue_name hstyle.noValue, hstyle.notBlank,
      Bool.false_eq_true, if_false, hstyle.canonical, close, if_true, bind, Except.bind, hkept]
    cases plainText [] pieces <;> rfl
  rw [plainText_opening hstyle, plainText, hclose]
  cases plainText [] pieces <;> rfl

/-- A closing tag is a fault while nothing is open. -/
lemma plainText_closing (position : Nat) (chars : List Char) (pieces : List Piece) :
    ∃ f, plainText [] (.tag position ('/' :: chars) :: pieces) = .error f := by
  rw [plainText]
  simp only [nameAndValue_slash, close]
  split
  · exact ⟨_, rfl⟩
  · cases Style.canonical (nameAndValue chars).1 <;> exact ⟨_, rfl⟩

/-- Text alone is no fault. -/
lemma plainText_textPiece (plain : List Char) :
    ∃ text, plainText [] (textPiece plain) = .ok ⟨text, []⟩ := by
  unfold textPiece
  split <;> exact ⟨_, rfl⟩

lemma plainText_of_tag (plain : List Char) (position : Nat) (closing : List Char)
    (more : List Piece) :
    ∃ f, plainText [] (textPiece plain ++ .tag position ('/' :: closing) :: more) = .error f := by
  obtain ⟨f, hf⟩ := plainText_closing position closing more
  unfold textPiece
  split
  · exact ⟨f, hf⟩
  · exact ⟨f, by rw [List.singleton_append, plainText, hf]; rfl⟩

/-! ### Scanning -/

/-- The first bracket of the text opens a closing tag. -/
structure Closes (text plain name rest : List Char) : Prop where
  text_eq : text = plain ++ '[' :: '/' :: (name ++ ']' :: rest)
  first : '[' ∉ plain
  /-- A backslash would make it text. -/
  unescaped : plain.getLast? ≠ some '\\'
  within : '[' ∉ name ∧ ']' ∉ name

variable {s : Scan} {c : Char}

lemma abandon_pieces (s : Scan) : s.abandon.pieces = s.pieces := by
  unfold Scan.abandon
  split <;> rfl

lemma step_plain (hs : s.begun = none) (hc : c ≠ '[') :
    s.step c = { s with index := s.index + 1, plain := c :: s.plain } := by
  unfold Scan.step
  simp [hs, hc]

lemma foldl_plain {plain : List Char} (h : '[' ∉ plain) (hs : s.begun = none) :
    plain.foldl Scan.step s =
      { s with index := s.index + plain.length, plain := plain.reverse ++ s.plain } := by
  induction plain generalizing s with
  | nil => simp
  | cons c plain ih =>
    rw [List.mem_cons, not_or] at h
    rw [List.foldl_cons, step_plain hs (Ne.symm h.1)]
    refine Eq.trans (ih h.2 hs) ?_
    simp [Nat.add_assoc, Nat.add_comm 1]

lemma step_name {tag : List Char} (hs : s.begun = some tag) (htag : tag ≠ []) (hopen : c ≠ '[')
    (hend : c ≠ ']') : s.step c = { s with index := s.index + 1, begun := some (c :: tag) } := by
  unfold Scan.step
  simp [hs, hopen, hend, htag]

lemma foldl_name {name tag : List Char} (h : '[' ∉ name ∧ ']' ∉ name) (hs : s.begun = some tag)
    (htag : tag ≠ []) :
    name.foldl Scan.step s =
      { s with index := s.index + name.length, begun := some (name.reverse ++ tag) } := by
  induction name generalizing s tag with
  | nil => simp [← hs]
  | cons c name ih =>
    obtain ⟨⟨hopen, hopens⟩, hend, hends⟩ : ('[' ≠ c ∧ '[' ∉ name) ∧ (']' ≠ c ∧ ']' ∉ name) := by
      simpa using h
    rw [List.foldl_cons, step_name hs htag hopen.symm hend.symm,
      ih ⟨hopens, hends⟩ rfl (List.cons_ne_nil c tag)]
    simp [Nat.add_assoc, Nat.add_comm 1]

lemma step_pieces (s : Scan) (c : Char) : ∃ more, (s.step c).pieces = s.pieces ++ more := by
  unfold Scan.step
  split
  · split <;> exact ⟨[], (List.append_nil _).symm⟩
  · split_ifs
    · exact ⟨[], by simp [abandon_pieces]⟩
    · exact ⟨_, by simp only [Scan.finish, List.append_assoc]; rfl⟩
    · exact ⟨[], by simp [abandon_pieces]⟩
    · exact ⟨[], (List.append_nil _).symm⟩

/-- Scanning on only adds pieces. -/
lemma foldl_pieces (text : List Char) (s : Scan) :
    ∃ more, (text.foldl Scan.step s).pieces = s.pieces ++ more := by
  induction text generalizing s with
  | nil => exact ⟨[], (List.append_nil _).symm⟩
  | cons c text ih =>
    obtain ⟨more, hmore⟩ := ih (s.step c)
    obtain ⟨now, hnow⟩ := step_pieces s c
    exact ⟨now ++ more, by rw [List.foldl_cons, hmore, hnow, List.append_assoc]⟩

lemma finish_unescaped (h : s.plain.head? ≠ some '\\') (tag : List Char) :
    ∃ position, (s.finish tag).pieces =
      s.pieces ++ textPiece s.plain ++ [.tag position tag.reverse] := by
  have hslashes : s.plain.takeWhile (· == '\\') = [] := by
    cases hs : s.plain with
    | nil => rfl
    | cons c plain =>
      have hc : c ≠ '\\' := fun hc => h (by rw [hs, hc]; rfl)
      simp [hc]
  exact ⟨_, by simp [Scan.finish, hslashes]; rfl⟩

lemma step_end {tag : List Char} (hs : s.begun = some tag) (htag : tag ≠ []) :
    (s.step ']').pieces = (s.finish tag).pieces := by
  unfold Scan.step
  simp [hs, htag]

/-- A closing tag becomes a piece, after the text before it. -/
lemma foldl_closes {text plain name rest : List Char} (h : Closes text plain name rest)
    (hs : s.begun = none) (hplain : s.plain.head? ≠ some '\\') :
    ∃ position more, (text.foldl Scan.step s).pieces =
      s.pieces ++ textPiece (plain.reverse ++ s.plain) ++ .tag position ('/' :: name) :: more := by
  obtain rfl := h.text_eq
  let before : Scan :=
    { s with index := s.index + plain.length, plain := plain.reverse ++ s.plain }
  have hbefore : plain.foldl Scan.step s = before := foldl_plain h.first hs
  have hslash : (before.step '[').step '/' =
      { before with index := before.index + 1 + 1, begun := some ['/'] } := by
    simp [before, Scan.step, hs, startsTag]
  let named : Scan :=
    { before with
      index := before.index + 1 + 1 + name.length
      begun := some (name.reverse ++ ['/']) }
  have hnamed : name.foldl Scan.step ((before.step '[').step '/') = named := by
    rw [hslash]
    exact foldl_name h.within rfl (List.cons_ne_nil _ _)
  have hhead : named.plain.head? ≠ some '\\' := by
    change (plain.reverse ++ s.plain).head? ≠ some '\\'
    rw [List.head?_append, List.head?_reverse]
    cases hlast : plain.getLast? with
    | none => exact hplain
    | some c => simpa [hlast] using h.unescaped
  obtain ⟨position, hfinish⟩ := finish_unescaped hhead (name.reverse ++ ['/'])
  obtain ⟨more, hmore⟩ := foldl_pieces rest (named.step ']')
  refine ⟨position, more, ?_⟩
  rw [List.foldl_append, hbefore, List.foldl_cons, List.foldl_cons, List.foldl_append, hnamed,
    List.foldl_cons, hmore, step_end rfl (by simp), hfinish]
  simp [named, before]

/-! ### Printing -/

/-- What has been scanned of a text. -/
def scanned (text : List Char) : Scan := text.foldl Scan.step ⟨0, [], none, []⟩

lemma scanned_append (start text : List Char) :
    scanned (start ++ text) = text.foldl Scan.step (scanned start) := List.foldl_append

lemma scan_eq (text : List Char) :
    scan text = (scanned text).pieces ++ textPiece (scanned text).abandon.plain := by
  rw [scan, ← scanned, abandon_pieces]

/-- The styles of a text can be read. -/
def Readable (shown : Styled) : Prop :=
  ∀ tag ∈ shown.tags, ∃ style, Style.canonical tag.style = .ok style

lemma forM_readable {tags : List Tag}
    (h : ∀ tag ∈ tags, ∃ style, Style.canonical tag.style = .ok style) :
    (tags.forM fun tag => discard (Style.canonical tag.style) : Except Misprint Unit) =
      .ok () := by
  induction tags with
  | nil => rfl
  | cons tag tags ih =>
    obtain ⟨⟨style, hstyle⟩, hrest⟩ := List.forall_mem_cons.1 h
    rw [List.forM, ih hrest, hstyle]
    rfl

lemma render_of_plainText {markup : List Char} {shown : Styled}
    (h : plainText [] (scan markup) = .ok shown) (readable : Readable shown) :
    ∃ text, render markup = .ok text :=
  ⟨_, by rw [render, h]; simp only [bind, Except.bind, forM_readable readable]; rfl⟩

lemma render_of_error {markup : List Char} {f : Misprint}
    (h : plainText [] (scan markup) = .error f) : render markup = .error f := by
  rw [render, h]
  rfl

/-- Markup that closes its own tags: what follows it is read as if it stood alone. -/
structure Closed (start : List Char) : Prop where
  begun : (scanned start).begun = none
  unescaped : (scanned start).plain.head? ≠ some '\\'
  shows : ∀ rest text, plainText [] rest = .ok ⟨text, []⟩ →
    ∃ shown, plainText [] ((scanned start).pieces ++ rest) = .ok shown ∧ Readable shown
  fails : ∀ rest f, plainText [] rest = .error f →
    plainText [] ((scanned start).pieces ++ rest) = .error f

lemma closed_nil : Closed [] where
  begun := rfl
  unescaped := nofun
  shows _ _ h := ⟨_, h, nofun⟩
  fails _ _ h := h

/-- Markup of one tag, which is closed again. -/
structure Tagged (markup : List Char) (style : String) (chars : List Char) : Prop where
  isStyle : IsStyle style
  pieces : ∃ position position', (scanned markup).pieces =
    [.tag position style.toList, .text chars, .tag position' ('/' :: style.toList)]
  begun : (scanned markup).begun = none
  unescaped : (scanned markup).plain.head? ≠ some '\\'

variable {start chars text : List Char}

lemma Tagged.closed (h : Tagged start style chars) : Closed start := by
  obtain ⟨position, position', hpieces⟩ := h.pieces
  have happend (rest : List Piece) := plainText_closed h.isStyle position position' chars rest
  refine ⟨h.begun, h.unescaped, fun rest text hrest => ?_, fun rest f hrest => ?_⟩
  · rw [hpieces]
    refine ⟨⟨_, [⟨style, none⟩]⟩, (happend rest).trans (by rw [hrest]; rfl), ?_⟩
    exact fun tag ht => List.mem_singleton.1 ht ▸ ⟨style, h.isStyle.canonical⟩
  · rw [hpieces]
    exact (happend rest).trans (by rw [hrest]; rfl)

/-- **Text without brackets can be printed behind markup that closes its own tags.** -/
theorem Closed.render_ok (h : Closed start) (htext : '[' ∉ text) :
    ∃ shown, render (start ++ text) = .ok shown := by
  have hscanned := foldl_plain htext h.begun
  rw [← scanned_append] at hscanned
  obtain ⟨plain, hplain⟩ := plainText_textPiece (scanned (start ++ text)).abandon.plain
  obtain ⟨shown, hshown, readable⟩ := h.shows _ _ hplain
  refine render_of_plainText ?_ readable
  rwa [scan_eq, congrArg Scan.pieces hscanned]

/-- **A closing tag cannot be printed behind markup that closes its own tags.** -/
theorem Closed.render_error (h : Closed start) {plain closing rest : List Char}
    (htext : Closes text plain closing rest) : ∃ f, render (start ++ text) = .error f := by
  obtain ⟨position, more, hpieces⟩ := foldl_closes htext h.begun h.unescaped
  rw [← scanned_append, List.append_assoc] at hpieces
  obtain ⟨f, hf⟩ := plainText_of_tag (plain.reverse ++ (scanned start).plain) position closing
    (more ++ textPiece (scanned (start ++ text)).abandon.plain)
  refine ⟨f, render_of_error ?_⟩
  rw [scan_eq, hpieces, List.append_assoc]
  refine h.fails _ f ?_
  rwa [List.append_assoc, List.cons_append]

end Markup

open Markup

lemma paragraph_ok {markup : String} (h : ∃ text, render markup.toList = .ok text) :
    ∃ shown, paragraph markup = .ok shown := by
  obtain ⟨text, ht⟩ := h
  exact ⟨_, by rw [paragraph, ht]; rfl⟩

lemma paragraph_error {markup : String} (h : ∃ f, render markup.toList = .error f) :
    ∃ f, paragraph markup = .error f := by
  obtain ⟨f, hf⟩ := h
  exact ⟨f, by rw [paragraph, hf]; rfl⟩

lemma rows_ok {rows : List (List Char × List Char)}
    (h : ∀ row ∈ rows, '[' ∉ row.1 ∧ '[' ∉ row.2) : ∃ shown, Table.shownRows rows = .ok shown := by
  induction rows with
  | nil => exact ⟨[], rfl⟩
  | cons row rows ih =>
    obtain ⟨⟨hfirst, hsecond⟩, hrest⟩ := List.forall_mem_cons.1 h
    obtain ⟨first, ha⟩ : ∃ first, render row.1 = .ok first := closed_nil.render_ok hfirst
    obtain ⟨second, hb⟩ : ∃ second, render row.2 = .ok second := closed_nil.render_ok hsecond
    obtain ⟨shown, hs⟩ := ih hrest
    refine ⟨(first, second) :: shown, ?_⟩
    unfold Table.shownRows at hs ⊢
    rw [List.mapM_cons, hs]
    simp only [ha, hb]
    rfl

lemma rows_error {rows : List (List Char × List Char)} {row : List Char × List Char}
    {plain closing rest : List Char} (hrow : row ∈ rows) (h : Closes row.1 plain closing rest) :
    ∃ f, Table.shownRows rows = .error f := by
  induction rows with
  | nil => cases hrow
  | cons first rows ih =>
    have hcons : Table.shownRows (first :: rows) = (do
        let shown ← (do return (← render first.1, ← render first.2) : Except Misprint _)
        return shown :: (← Table.shownRows rows)) := List.mapM_cons
    rw [hcons]
    rcases List.mem_cons.1 hrow with rfl | hrest
    · obtain ⟨f, hf⟩ : ∃ f, render row.1 = .error f := closed_nil.render_error h
      exact ⟨f, by rw [hf]; rfl⟩
    · -- The fault of an earlier row comes first.
      obtain ⟨f, hf⟩ := ih hrest
      rw [hf]
      cases render first.1 with
      | error f => exact ⟨f, rfl⟩
      | ok a => cases render first.2 <;> exact ⟨_, rfl⟩

/-- **A table of cells without brackets can be printed.** -/
theorem table_ok {t : Table} (h : ∀ row ∈ t.rows, '[' ∉ row.1 ∧ '[' ∉ row.2) :
    ∃ shown, table t = .ok shown := by
  obtain ⟨shown, hs⟩ := rows_ok h
  exact ⟨_, by rw [table, Table.render, hs]; rfl⟩

/-- **A table with a closing tag in its first column cannot be printed.** -/
theorem table_error {t : Table} {row : List Char × List Char} {plain closing rest : List Char}
    (hrow : row ∈ t.rows) (h : Closes row.1 plain closing rest) : ∃ f, table t = .error f := by
  obtain ⟨f, hf⟩ := rows_error hrow h
  exact ⟨f, by rw [table, Table.render, hf]; rfl⟩

end Testbed.Console
