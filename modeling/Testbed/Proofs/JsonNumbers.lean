import Mathlib
import Testbed.Proofs.Json

/-!
The numbers of JSON, read as plain texts.

A legible number is resolved to be a number, and read as the same one.
-/

namespace Testbed.Json

open Yaml

/-! ### The characters of numbers -/

def decimal : List Char := ['0', '1', '2', '3', '4', '5', '6', '7', '8', '9']

lemma digit_bounds {c : Char} (h : c.isDigit = true) : 48 ≤ c.toNat ∧ c.toNat ≤ 57 := by
  simpa [Char.isDigit, UInt32.le_iff_toNat_le] using h

lemma toLower_digit {c : Char} (h : c.isDigit = true) : c.toLower = c := by
  have hbounds := digit_bounds h
  unfold Char.toLower
  rw [dif_neg]
  rintro ⟨hlow, -⟩
  have hlow : 65 ≤ c.toNat := hlow
  omega

lemma mem_decimal {c : Char} (h : c.isDigit = true) : c ∈ decimal := by
  obtain ⟨hlow, hhigh⟩ := digit_bounds h
  have hc := Char.ofNat_toNat c
  interval_cases hn : c.toNat <;> rw [← hc] <;> decide

/-- The character may stand in a number. -/
def Numeric (c : Char) : Prop := c.isDigit = true ∨ c ∈ ['-', '+', '.', 'e', 'E']

lemma digit_le {c : Char} (h : c.isDigit = true) : '0' ≤ c ∧ c ≤ '9' := by
  simpa [Char.isDigit, Char.le_def] using h

lemma schema_digit {c : Char} (h : c.isDigit = true) : Schema.isDigit c = true := by
  simpa [Schema.isDigit] using digit_le h

lemma schema_digitOrGap {c : Char} (h : c.isDigit = true) : Schema.isDigitOrGap c = true := by
  simp [Schema.isDigitOrGap, schema_digit h]

lemma digitValue_eq {c : Char} (h : c.isDigit = true) :
    Text.digitValue? 10 c = some (c.toNat - 0x30) := by
  have := digit_bounds h
  unfold Text.digitValue?
  simp only [digit_le h, decide_true, Bool.and_self, if_true]
  simp [Option.filter]
  omega

namespace Numeric

variable {c : Char}

lemma bounds (h : Numeric c) : 42 < c.toNat ∧ c.toNat ≤ 101 := by
  rcases h with h | h
  · have := digit_bounds h
    omega
  · fin_cases h <;> decide

lemma plainDigit (h : Numeric c) : Text.plainDigit c = c := by
  have hbounds := h.bounds
  have hpads : Text.padsNumber c = false := by
    have hspace : c ≠ ' ' := by
      rintro rfl
      exact absurd hbounds.1 (by decide)
    simp [Text.padsNumber, hspace]
    omega
  unfold Text.plainDigit
  rw [if_pos (by omega), hpads]
  rfl

lemma ne_underscore (h : Numeric c) : c ≠ '_' := by
  rintro rfl
  revert h
  simp [Numeric]

lemma ne_colon (h : Numeric c) : c ≠ ':' := by
  rintro rfl
  revert h
  simp [Numeric]

lemma ne_space (h : Numeric c) : c ≠ ' ' := by
  rintro rfl
  revert h
  simp [Numeric]

end Numeric

/-! ### Runs of digits -/

lemma digits_eq {w : List Char} (hne : w ≠ []) (h : ∀ c ∈ w, c.isDigit = true) :
    Text.digits? 10 w = some (natOf w) := by
  have fold (w : List Char) (h : ∀ c ∈ w, c.isDigit = true) (n : Nat) :
      w.foldl (fun n? c => do return (← n?) * 10 + (← Text.digitValue? 10 c)) (some n) =
        some (w.foldl (fun n c => n * 10 + (c.toNat - 0x30)) n) := by
    induction w generalizing n with
    | nil => rfl
    | cons c w ih =>
      obtain ⟨hc, h⟩ := List.forall_mem_cons.1 h
      rw [List.foldl_cons, List.foldl_cons, ← ih h, digitValue_eq hc]
      rfl
  cases w with
  | nil => exact absurd rfl hne
  | cons c w => exact fold (c :: w) h 0

lemma joinGroups_eq {w : List Char} (h : '_' ∉ w) : Text.joinGroups? w = some w := by
  induction w using Text.joinGroups?.induct with
  | case1 => rfl
  | case2 | case3 | case5 | case6 => simp at h
  | case4 c hc => simp [Text.joinGroups?]
  | case7 c d rest hc hd ih =>
    rw [Text.joinGroups?, ih fun hmem => h (List.mem_cons_of_mem _ hmem)]
    · rfl
    · exact hc
    · exact hd

lemma trim_eq {w : List Char} (h : ∀ c ∈ w, c ≠ ' ') : Text.trim (· == ' ') w = w := by
  have hdrop (w : List Char) (h : ∀ c ∈ w, c ≠ ' ') : w.dropWhile (· == ' ') = w := by
    cases w with
    | nil => rfl
    | cons c w => rw [List.dropWhile_cons_of_neg (by simpa using h c (by simp))]
  rw [Text.trim, hdrop w h, hdrop _ fun c hc => h c (List.mem_reverse.1 hc), List.reverse_reverse]

/-- A number's characters are the plain ones. -/
lemma plain_eq {w : List Char} (h : ∀ c ∈ w, Numeric c) :
    Text.trim (· == ' ') (w.map Text.plainDigit) = w := by
  rw [List.map_congr_left fun c hc => (h c hc).plainDigit, List.map_id']
  exact trim_eq fun c hc => (h c hc).ne_space

/-! ### The parts of a number -/

namespace Number

variable {n : Number}

/-- A number without its sign. -/
def body (n : Number) : List Char :=
  n.whole.chars ++ (match n.fraction with | none => [] | some f => '.' :: f.chars) ++
    (match n.exponent with | none => [] | some e => e.chars)

lemma chars_eq (n : Number) : n.chars = (if n.negative then ['-'] else []) ++ n.body := by
  obtain ⟨negative, whole, noPadding, fraction, exponent⟩ := n
  cases fraction <;> cases exponent <;> simp [chars, body]

lemma exists_whole (n : Number) : ∃ first rest, n.whole.chars = first :: rest ∧
    first.isDigit = true ∧ ∀ c ∈ rest, c.isDigit = true := by
  cases h : n.whole.chars with
  | nil => exact absurd h n.whole.nonempty
  | cons first rest =>
    obtain ⟨hfirst, hrest⟩ := List.forall_mem_cons.1 (h ▸ n.whole.digits)
    exact ⟨first, rest, rfl, hfirst, hrest⟩

lemma exists_body (n : Number) : ∃ first rest, n.body = first :: rest ∧ first.isDigit = true := by
  obtain ⟨first, rest, hwhole, hfirst, -⟩ := n.exists_whole
  rw [body, hwhole, List.cons_append, List.cons_append]
  exact ⟨first, _, rfl, hfirst⟩

end Number

lemma Exponent.numeric (e : Exponent) : ∀ c ∈ e.chars, Numeric c := by
  intro c hc
  rcases List.mem_append.1 hc with hc | hc
  · refine .inr ?_
    rcases e with ⟨_ | _, _ | _ | _, digits⟩ <;> simp at hc <;> simp [hc]
    all_goals rcases hc with rfl | rfl <;> simp
  · exact .inl (e.digits.digits c hc)

namespace Number

variable {n : Number}

lemma numeric_body : ∀ c ∈ n.body, Numeric c := by
  intro c hc
  rcases List.mem_append.1 hc with hc | hc
  · rcases List.mem_append.1 hc with hc | hc
    · exact .inl (n.whole.digits c hc)
    · split at hc
      · cases hc
      · rename_i f hf
        rcases List.mem_cons.1 hc with rfl | hc
        · exact .inr (by decide)
        · exact .inl (f.digits c hc)
  · split at hc
    · cases hc
    · exact Exponent.numeric _ c hc

lemma numeric (n : Number) : ∀ c ∈ n.chars, Numeric c := by
  intro c hc
  rw [chars_eq] at hc
  rcases List.mem_append.1 hc with hc | hc
  · refine .inr ?_
    split at hc <;> simp at hc
    simp [hc]
  · exact numeric_body c hc

lemma splitSign_body : Text.splitSign n.body = (false, n.body) := by
  obtain ⟨first, rest, hbody, hfirst⟩ := n.exists_body
  rw [hbody]
  unfold Text.splitSign
  split
  · simp_all
  · simp_all
  · rfl

lemma splitSign_chars : Text.splitSign n.chars = (n.negative, n.body) := by
  rw [chars_eq]
  cases n.negative with
  | true => rfl
  | false => exact splitSign_body

lemma dropSign_chars : Schema.dropSign n.chars = n.body := by
  have drop (w : List Char) : Schema.dropSign w = (Text.splitSign w).2 := by
    unfold Schema.dropSign Text.splitSign
    split <;> simp_all
  rw [drop, splitSign_chars]

end Number

/-! ### How a number is resolved -/

namespace Number

variable {n : Number}

/-- The first character of a number is a digit or a sign. -/
lemma exists_chars (n : Number) :
    ∃ first rest, n.chars = first :: rest ∧ (first.isDigit = true ∨ first = '-') := by
  obtain ⟨first, rest, hbody, hfirst⟩ := n.exists_body
  rw [chars_eq, hbody]
  cases n.negative with
  | true => exact ⟨'-', _, rfl, .inr rfl⟩
  | false => exact ⟨first, rest, rfl, .inl hfirst⟩

/-- A word that begins with neither a digit nor a sign is no number. -/
lemma contains_eq_false {words : List String} {first : Char} {rest : List Char}
    (heads : ∀ w ∈ words, ∀ c ∈ w.toList.head?, c.isDigit = false ∧ c ≠ '-')
    (hfirst : first.isDigit = true ∨ first = '-') :
    words.contains (String.ofList (first :: rest)) = false := by
  rw [Bool.eq_false_iff]
  intro h
  obtain ⟨hdigit, hsign⟩ := heads _ (List.contains_iff_mem.1 h) first (by
    rw [String.toList_ofList]
    rfl)
  rcases hfirst with hfirst | hfirst
  · rw [hfirst] at hdigit
    cases hdigit
  · exact hsign hfirst

lemma not_isBool : Schema.isBool n.chars = false := by
  obtain ⟨first, rest, hchars, hfirst⟩ := n.exists_chars
  rw [hchars, Schema.isBool]
  exact contains_eq_false (by simp) hfirst

lemma not_isInfinity : Schema.isInfinity n.chars = false := by
  obtain ⟨first, rest, hbody, hfirst⟩ := n.exists_body
  rw [Schema.isInfinity, dropSign_chars, hbody]
  exact contains_eq_false (by simp) (.inl hfirst)

lemma not_isNotANumber : Schema.isNotANumber n.chars = false := by
  obtain ⟨first, rest, hchars, hfirst⟩ := n.exists_chars
  rw [hchars, Schema.isNotANumber]
  exact contains_eq_false (by simp) hfirst

/-- A point, digits and perhaps an exponent. -/
def isFraction : List Char → Bool
  | '.' :: after => Schema.isExponent (after.dropWhile Schema.isDigitOrGap)
  | _ => false

/-- What follows the digits at the start decides whether a number has a fraction. -/
lemma isFloat_eq {first : Char} {ds tail : List Char} (hbody : n.body = first :: ds ++ tail)
    (hfirst : first.isDigit = true) (hds : ∀ c ∈ ds, c.isDigit = true)
    (htail : ∀ c ∈ tail.head?, c = '.') :
    Schema.isFloat n.chars = isFraction tail := by
  have hdrop : (ds ++ tail).dropWhile Schema.isDigitOrGap = tail := by
    rw [List.dropWhile_append_of_pos fun c hc => schema_digitOrGap (hds c hc)]
    cases tail with
    | nil => rfl
    | cons c tail =>
      obtain rfl : c = '.' := htail c rfl
      rfl
  unfold Schema.isFloat
  rw [not_isInfinity, not_isNotANumber, dropSign_chars, hbody]
  simp only [Bool.false_or, List.cons_append]
  split
  · rename_i d after hchars
    obtain ⟨head, rest, hchars', hhead⟩ := n.exists_chars
    rw [hchars'] at hchars
    cases hchars
    simp at hhead
  · rw [schema_digit hfirst, hdrop, Bool.true_and]
    cases tail with
    | nil => rfl
    | cons c tail =>
      obtain rfl : c = '.' := htail c rfl
      rfl

lemma isFloat_whole (hf : n.fraction = none) (he : n.exponent = none) :
    Schema.isFloat n.chars = false := by
  obtain ⟨first, ds, hwhole, hfirst, hds⟩ := n.exists_whole
  have hbody : n.body = first :: ds ++ [] := by
    rw [body, hwhole, hf, he]
    simp
  rw [isFloat_eq hbody hfirst hds (by simp)]
  rfl

lemma isExponent_chars {e : Exponent} (h : e.sign.isSome = true) :
    Schema.isExponent e.chars = true := by
  obtain ⟨capital, sign, ⟨digits, nonempty, hdigits⟩⟩ := e
  have hall : digits.all Schema.isDigit = true :=
    List.all_eq_true.2 fun c hc => schema_digit (hdigits c hc)
  cases sign with
  | none => cases h
  | some down =>
    cases capital <;> cases down <;> simp [Exponent.chars, Schema.isExponent, hall, nonempty]

lemma isFloat_fraction {f : Digits} (hf : n.fraction = some f)
    (he : ∀ e ∈ n.exponent, e.sign.isSome = true) : Schema.isFloat n.chars = true := by
  obtain ⟨first, ds, hwhole, hfirst, hds⟩ := n.exists_whole
  have hbody : n.body = first :: ds ++ ('.' :: (f.chars ++
      (match n.exponent with | none => [] | some e => e.chars))) := by
    rw [body, hwhole, hf]
    simp
  rw [isFloat_eq hbody hfirst hds (by simp)]
  show Schema.isExponent _ = true
  rw [List.dropWhile_append_of_pos fun c hc => schema_digitOrGap (f.digits c hc)]
  cases hexp : n.exponent with
  | none => rfl
  | some e =>
    have hsign := he e hexp
    have hmark : e.chars.dropWhile Schema.isDigitOrGap = e.chars := by
      obtain ⟨_ | _, _⟩ := e <;> rfl
    show Schema.isExponent (e.chars.dropWhile Schema.isDigitOrGap) = true
    rw [hmark, isExponent_chars hsign]

lemma isInt_whole (hf : n.fraction = none) (he : n.exponent = none) :
    Schema.isInt n.chars = true := by
  obtain ⟨first, ds, hwhole, hfirst, hds⟩ := n.exists_whole
  have hbody : n.body = first :: ds := by
    rw [body, hwhole, hf, he]
    simp
  have hall : ds.all Schema.isDigitOrGap = true :=
    List.all_eq_true.2 fun c hc => schema_digitOrGap (hds c hc)
  have hpad : first = '0' → ds = [] := by
    rintro rfl
    simpa [hwhole] using n.noPadding
  unfold Schema.isInt
  rw [dropSign_chars, hbody]
  split <;> simp_all [schema_digit]

/-- The kind of a number: with a fraction or an exponent it is not a whole one. -/
def tag (n : Number) : Tag := if n.fraction.isNone && n.exponent.isNone then .int else .float

/-- **A legible number is resolved to be one.** -/
lemma resolve_eq (legible : n.Legible) : Schema.resolve (String.ofList n.chars) = n.tag := by
  unfold Schema.resolve tag
  simp only [String.toList_ofList, not_isBool]
  cases hf : n.fraction with
  | some f =>
    rw [isFloat_fraction hf fun e he => (legible.exponent e he).2]
    rfl
  | none =>
    have he : n.exponent = none := by
      cases he : n.exponent with
      | none => rfl
      | some e => simpa [hf] using (legible.exponent e he).1
    rw [isFloat_whole hf he, isInt_whole hf he, he]
    rfl

end Number

/-! ### How a number is read -/

lemma filter_gaps {w : List Char} (h : ∀ c ∈ w, Numeric c) : w.filter (· != '_') = w :=
  List.filter_eq_self.2 fun c hc => by simpa using (h c hc).ne_underscore

lemma contains_colon {w : List Char} (h : ∀ c ∈ w, Numeric c) : w.contains ':' = false := by
  rw [Bool.eq_false_iff]
  exact fun hmem => (h _ (List.contains_iff_mem.1 hmem)).ne_colon rfl

/-- A run of digits that is not too long. -/
lemma whole_digits {w : List Char} (hne : w ≠ []) (h : ∀ c ∈ w, c.isDigit = true)
    (short : w.length ≤ Text.longestNumeral) : Text.whole? 10 w = some (natOf w : Int) := by
  have hsign : Text.splitSign w = (false, w) := by
    unfold Text.splitSign
    split <;> simp_all
  have hmark : Text.skipBaseMark 10 w = w := by
    unfold Text.skipBaseMark
    split <;> rfl
  have hjoin : Text.joinGroups? w = some w :=
    joinGroups_eq fun hmem => Numeric.ne_underscore (.inl (h _ hmem)) rfl
  unfold Text.whole?
  rw [plain_eq fun c hc => .inl (h c hc), hsign]
  simp only [hmark, hjoin, digits_eq hne h, Option.bind_eq_bind, Option.bind_some]
  rw [if_neg (by omega)]
  rfl

namespace Number

variable {n : Number}

lemma whole_chars (hf : n.fraction = none) (he : n.exponent = none)
    (short : n.whole.chars.length ≤ Text.longestNumeral) :
    Reading.whole (String.ofList n.chars) =
      .ok (if n.negative then -(natOf n.whole.chars : Int) else natOf n.whole.chars) := by
  have hbody : n.body = n.whole.chars := by
    rw [body, hf, he]
    simp
  have hwhole := whole_digits n.whole.nonempty n.whole.digits short
  unfold Reading.whole
  simp only [String.toList_ofList, filter_gaps n.numeric, Reading.signed, splitSign_chars, hbody]
  obtain ⟨first, ds, hchars, hfirst, hds⟩ := n.exists_whole
  have hpad : first = '0' → ds = [] := by
    rintro rfl
    simpa [hchars] using n.noPadding
  rw [hchars] at hwhole ⊢
  by_cases hzero : first = '0'
  · subst hzero
    rw [hpad rfl]
    cases n.negative <;> rfl
  · have hcolon : (first :: ds).contains ':' = false :=
      contains_colon fun c hc => .inl (n.whole.digits c (hchars ▸ hc))
    split
    · simp_all
    · simp_all
    · simp_all
    · simp_all
    · simp_all
    · rw [hcolon, if_neg Bool.false_ne_true, Reading.wholePart, hwhole]
      cases n.negative <;> rfl

end Number

/-! ### Fractions and exponents -/

lemma span_digits {w tail : List Char} (hw : ∀ c ∈ w, c.isDigit = true)
    (htail : ∀ c ∈ tail.head?, c.isDigit = false) :
    (w ++ tail).takeWhile Char.isDigit = w ∧ (w ++ tail).dropWhile Char.isDigit = tail := by
  rw [List.takeWhile_append_of_pos hw, List.dropWhile_append_of_pos hw]
  cases tail with
  | nil => simp
  | cons c tail =>
    have hc : ¬ c.isDigit = true := by simp [htail c rfl]
    rw [List.takeWhile_cons_of_neg hc, List.dropWhile_cons_of_neg hc]
    simp

lemma splitSign_digits {w : List Char} (h : ∀ c ∈ w, c.isDigit = true) :
    Text.splitSign w = (false, w) := by
  unfold Text.splitSign
  split <;> simp_all

namespace Number

variable {n : Number}

/-- The exponent of a number with its mark, if it has one. -/
def power (n : Number) : List Char := match n.exponent with | none => [] | some e => e.chars

/-- The power of ten that an exponent is, if there is one. -/
def tens (n : Number) : Int := match n.exponent with | none => 0 | some e => e.value

/-- An exponent has a mark, perhaps a sign, and digits. -/
lemma exists_power (n : Number) : (n.power = [] ∧ n.tens = 0) ∨
    ∃ mark rest down digits m, n.power = mark :: rest ∧ (mark = 'e' ∨ mark = 'E') ∧
      Text.splitSign rest = (down, digits) ∧ Text.digits? 10 digits = some m ∧
      n.tens = if down then -(m : Int) else m := by
  unfold power tens
  cases n.exponent with
  | none => exact .inl ⟨rfl, rfl⟩
  | some e =>
    obtain ⟨capital, sign, digits⟩ := e
    have hmark (capital : Bool) : (if capital then 'E' else 'e') = 'e' ∨
        (if capital then 'E' else 'e') = 'E' := by cases capital <;> simp
    have hdigits := digits_eq digits.nonempty digits.digits
    cases sign with
    | none =>
      exact .inr ⟨_, digits.chars, false, digits.chars, _, rfl, hmark capital,
        splitSign_digits digits.digits, hdigits, rfl⟩
    | some down =>
      cases down with
      | true => exact .inr ⟨_, '-' :: digits.chars, true, digits.chars, _, rfl, hmark capital, rfl,
          hdigits, rfl⟩
      | false => exact .inr ⟨_, '+' :: digits.chars, false, digits.chars, _, rfl, hmark capital, rfl,
          hdigits, rfl⟩

lemma head_power : ∀ c ∈ n.power.head?, c.isDigit = false := by
  rcases n.exists_power with ⟨h, -⟩ | ⟨mark, rest, -, -, -, h, hmark, -⟩
  · simp [h]
  · rw [h]
    rintro c ⟨⟩
    rcases hmark with rfl | rfl <;> rfl

/-- Without its sign, a number is read as its digits and its scale. -/
lemma fraction_body : Text.fraction? false n.body =
    some (Text.scaled false (natOf n.digits) n.scale) := by
  cases hf : n.fraction with
  | none =>
    have hbody : n.body = n.whole.chars ++ n.power := by
      rw [body, hf]
      simp [power]
    have hscale : n.scale = n.tens := by
      rw [scale, hf]
      exact Int.sub_zero _
    have hdigits : n.digits = n.whole.chars := by simp [digits, hf]
    obtain ⟨htake, hdrop⟩ := span_digits n.whole.digits n.head_power
    have hread := digits_eq n.whole.nonempty n.whole.digits
    unfold Text.fraction?
    rw [hbody, hscale, hdigits]
    simp only [htake, hdrop]
    rcases n.exists_power with ⟨h, ht⟩ | ⟨mark, rest, down, ds, m, h, rfl | rfl, hsplit, hm, ht⟩
    · simp [h, ht, hread]
    · simp [h, ht, hread, hsplit, hm]
    · simp [h, ht, hread, hsplit, hm]
  | some f =>
    have hbody : n.body = n.whole.chars ++ '.' :: (f.chars ++ n.power) := by
      rw [body, hf]
      simp [power]
    have hscale : n.scale = n.tens - f.chars.length := by
      rw [scale, hf]
      rfl
    have hpoint : ∀ c ∈ ('.' :: (f.chars ++ n.power)).head?, c.isDigit = false := by simp
    obtain ⟨htake, hdrop⟩ := span_digits n.whole.digits hpoint
    obtain ⟨htake', hdrop'⟩ := span_digits f.digits n.head_power
    have hread : Text.digits? 10 (n.whole.chars ++ f.chars) = some (natOf n.digits) := by
      rw [digits, hf]
      refine digits_eq (by simp [n.whole.nonempty]) fun c hc => ?_
      rcases List.mem_append.1 hc with hc | hc
      · exact n.whole.digits c hc
      · exact f.digits c hc
    unfold Text.fraction?
    rw [hbody, hscale]
    simp only [htake, hdrop, htake', hdrop', hread]
    rcases n.exists_power with ⟨h, ht⟩ | ⟨mark, rest, down, ds, m, h, rfl | rfl, hsplit, hm, ht⟩
    · simp [h, ht]
    · simp [h, ht, hsplit, hm]
    · simp [h, ht, hsplit, hm]

lemma groupsDigits_eq {w : List Char} (h : '_' ∉ w) (before : Option Char) :
    Text.groupsDigits before w = true := by
  induction w generalizing before with
  | nil => rfl
  | cons c w ih =>
    obtain ⟨hc, h⟩ := not_or.1 (mt List.mem_cons.2 h)
    rw [Text.groupsDigits]
    · exact ih h _
    · exact fun he => hc he.symm

/-- **A number without its sign is read as its digits and scale say.** -/
lemma liberal_body : Text.liberalNumber? n.body =
    some (Text.scaled false (natOf n.digits) n.scale) := by
  have hgap : '_' ∉ n.body := fun h => (numeric_body _ h).ne_underscore rfl
  have hfilter : n.body.filter (· ≠ '_') = n.body := by
    simpa using fun c hc => (numeric_body c hc).ne_underscore
  unfold Text.liberalNumber?
  simp only [plain_eq numeric_body, groupsDigits_eq hgap, if_true, hfilter]
  obtain ⟨first, rest, hbody, hfirst⟩ := n.exists_body
  have hlower (c : Char) (w : List Char) (hc : c.isDigit = false) :
      n.body.map Char.toLower ≠ c :: w := by
    rw [hbody, List.map_cons, toLower_digit hfirst]
    rintro ⟨⟩
    simp [hfirst] at hc
  unfold Text.number?
  rw [splitSign_body]
  dsimp only
  split
  · rename_i h
    rcases h with h | h
    · exact absurd h (hlower 'i' ['n', 'f'] rfl)
    · exact absurd h (hlower 'i' _ rfl)
  · split
    · exact absurd ‹_› (hlower 'n' ['a', 'n'] rfl)
    · exact fraction_body

/-- The number with a small letter for its exponent. -/
def lowered (n : Number) : Number :=
  { n with exponent := n.exponent.map fun e => { e with capital := false } }

lemma lowered_chars : n.chars.map Char.toLower = n.lowered.chars := by
  have hdigits (ds : Digits) : ds.chars.map Char.toLower = ds.chars := by
    rw [List.map_congr_left fun c hc => toLower_digit (ds.digits c hc), List.map_id']
  obtain ⟨negative, whole, noPadding, fraction, exponent⟩ := n
  simp only [chars, lowered, List.map_append, hdigits]
  congr 1
  · congr 1
    · cases negative <;> rfl
    · cases fraction with
      | none => rfl
      | some f => rw [List.map_cons, hdigits]; rfl
  · cases exponent with
    | none => rfl
    | some e =>
      obtain ⟨capital, sign, digits⟩ := e
      cases capital <;> cases sign with
      | none => simp [Exponent.chars, hdigits]
      | some down => cases down <;> simp [Exponent.chars, hdigits]

lemma lowered_scale : n.lowered.scale = n.scale := by
  unfold scale lowered
  cases n.exponent <;> rfl

lemma fraction_chars : Reading.fraction (String.ofList n.chars) =
    .ok (if n.negative then -Text.scaled false (natOf n.digits) n.scale
      else Text.scaled false (natOf n.digits) n.scale) := by
  have hchars := n.lowered.splitSign_chars
  have hcolon := contains_colon n.lowered.numeric_body
  obtain ⟨first, rest, hbody, hfirst⟩ := n.lowered.exists_body
  have hnot (w : String) (hw : w.toList.head? = some '.') : n.lowered.body ≠ w.toList := by
    rw [hbody]
    intro he
    rw [← he] at hw
    cases hw
    simp at hfirst
  have hnonempty : n.lowered.chars.isEmpty = false := by
    obtain ⟨c, w, hw, -⟩ := n.lowered.exists_chars
    rw [hw]
    rfl
  unfold Reading.fraction
  simp only [String.toList_ofList, filter_gaps n.numeric, Reading.signed, lowered_chars, hchars,
    hcolon, hnonempty]
  rw [if_neg Bool.false_ne_true, if_neg (hnot _ rfl), if_neg (hnot _ rfl), if_neg Bool.false_ne_true,
    Reading.fractionPart, liberal_body, lowered_scale]
  rfl

/-- **A legible number is read as its value.** -/
theorem scalar_eq (legible : n.Legible) :
    Reading.scalar none n.tag (String.ofList n.chars) = .ok n.value := by
  unfold tag value
  split
  · rename_i h
    obtain ⟨hf, he⟩ : n.fraction = none ∧ n.exponent = none := by simpa using h
    show Value.int <$> Reading.whole (String.ofList n.chars) = _
    rw [whole_chars hf he (legible.whole hf he)]
    rfl
  · show Value.float <$> Reading.fraction (String.ofList n.chars) = _
    rw [fraction_chars]
    rfl

end Number

end Testbed.Json
