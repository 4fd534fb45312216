import Mathlib
import Testbed.Proofs.JsonReading
import Testbed.Proofs.Refusals

/-!
Manifests that are written as JSON.

A manifest is read as YAML even where it is meant as JSON. A legible text means the same as both: a
manifest that has the fields that are needed is accepted, and its body is what the text means as
JSON. Layouts that are not legible are those where YAML differs.
-/

namespace Testbed.Json

open Naming (inMetadata isText_iff)
open Refusals
open ServedVersion (definitionRef_eq servedKind refer)
open Yaml (Value)

/-! ### The bytes of a text -/

lemma fromUTF8_eq (s : String) : String.fromUTF8? s.toByteArray = some s := by
  unfold String.fromUTF8?
  rw [dif_pos s.isValidUTF8]
  rfl

lemma utf8_ascii {c : Char} (h : c.toNat < 0x80) :
    String.utf8EncodeChar c = [UInt8.ofNat c.toNat] := by
  unfold String.utf8EncodeChar
  exact if_pos (Nat.le_of_lt_succ h)

/-- The bytes of a text that begins with a character of ASCII are read as that text. -/
lemma decode_eq {s : String} (h : ∀ c ∈ s.toList.head?, c.toNat < 0x80) :
    Yaml.decode s.toByteArray.data.toList = .ok s := by
  have hfirst : ∀ b ∈ s.toByteArray.data.toList.head?, b.toNat < 0x80 := by
    intro b hb
    rw [← String.ofList_toList (s := s), String.toByteArray_ofList, List.utf8Encode] at hb
    cases hs : s.toList with
    | nil =>
      rw [hs] at hb
      simp at hb
    | cons c w =>
      have hc : c.toNat < 0x80 := h c (by rw [hs]; rfl)
      rw [hs] at hb
      simp [utf8_ascii hc] at hb
      rw [← hb, UInt8.toNat_ofNat']
      omega
  have hbytes : (⟨s.toByteArray.data.toList.toArray⟩ : ByteArray) = s.toByteArray := rfl
  unfold Yaml.decode
  rw [hbytes, fromUTF8_eq]
  split
  · rename_i hb
    have hmark := hfirst 0xFF (by rw [hb]; rfl)
    exact absurd hmark (by decide)
  · rename_i hb
    have hmark := hfirst 0xFE (by rw [hb]; rfl)
    exact absurd hmark (by decide)
  · rfl

lemma ObjectText.head_text (t : ObjectText) : ∀ c ∈ t.text.toList.head?, c.toNat < 0x80 := by
  rw [text, String.toList_ofList, chars, doc, Doc.chars]
  obtain ⟨⟨before, hbefore⟩, members, after⟩ := t
  cases before with
  | nil =>
    rintro c ⟨⟩
    decide
  | cons b before =>
    rintro c ⟨⟩
    have hspace := hbefore b (List.mem_cons_self ..)
    simp only [isSpace, Bool.or_eq_true, beq_iff_eq] at hspace
    rcases hspace with ((rfl | rfl) | rfl) | rfl <;> decide

/-! ### Needed fields -/

/-- The body has the fields that a manifest needs, all of them texts. -/
inductive Required (body : Value) : Prop
  | object {apiVersion kind name : String} {ns : Value}
    (given : Given body (.text apiVersion) (.text kind) (.text name))
    (other : kind ≠ Manifest.definitionKind) (located : inMetadata body "namespace" = .ok ns)
    (ns : ns = .null ∨ ∃ s, ns = .text s)
  | definition {apiVersion name group kind version : String} {spec : Value}
    (given : Given body (.text apiVersion) (.text Manifest.definitionKind) (.text name))
    (specified : Specified body spec (.text group) (.text kind) (.text version))

lemma isText_text (s : String) : IsText (.text s) := ⟨s, rfl⟩

/-- Such a body is accepted. -/
lemma Required.accepted {body : Value} (h : Required body) :
    ∃ ref, Manifest.ofValue body = .ok ⟨ref, body⟩ := by
  cases h with
  | @object apiVersion kind name ns given other located hns =>
    have fit : Fit (.text (ResourceRef.splitApiVersion apiVersion).1) (.text kind)
        (.text (ResourceRef.splitApiVersion apiVersion).2) (.text name) (some ns) :=
      fit_texts_iff.2 ⟨isText_text _, isText_text _,
        hns.imp_right fun ⟨s, hs⟩ => hs ▸ isText_text s⟩
    obtain ⟨ref, href⟩ := exists_makeRef fit
    obtain ⟨ha, hk, hn⟩ := given.truthy
    refine ⟨ref, ?_⟩
    rw [given.ofValue_eq, complete, ha, hk, hn, objectRef_text located, href]
    have hkind : (Value.text kind).isText Manifest.definitionKind = false := by
      rw [Bool.eq_false_iff, Ne, isText_iff]
      exact fun h => other (Value.text.inj h)
    rw [hkind]
    rfl
  | @definition apiVersion name group kind version spec given specified =>
    have fit : Fit (.text group) (.text kind) (.text version) (.text name) none :=
      ⟨isText_text _, isText_text _, isText_text _, isText_text _, nofun⟩
    obtain ⟨ref, href⟩ := exists_makeRef fit
    obtain ⟨ha, hk, hn⟩ := given.truthy
    refine ⟨ref, ?_⟩
    have href' : Manifest.definitionRef body (.text name) = .ok ref := by
      rw [definitionRef_eq, specified.inSpec]
      show (do
        let kind ← servedKind body spec
        let version ← Manifest.servedVersion body spec
        let group ← Manifest.field body spec "group"
        refer group kind version (.text name)) = _
      rw [specified.kind.eq, specified.version.eq, specified.group.eq]
      show refer (.text group) (.text kind) (.text version) (.text name) = _
      rw [refer, specified.kind.given, specified.version.given, specified.group.given]
      exact href
    rw [given.ofValue_eq, complete, ha, hk, hn, href']
    rfl

/-! ### Main result -/

/-- The text itself or its bytes are given to the parser. -/
def Holds (raw : Raw) (t : ObjectText) : Prop :=
  raw = .text t.text ∨ raw = .bytes t.text.toByteArray.data.toList

/-- **A legible manifest means what it means as JSON.** With the fields that are needed it is
accepted, and in any case its body is the value of the text. It may be nested to any depth: the
limit that an interpreter's stack sets is not counted. -/
theorem legible_json_accepted (t : ObjectText) (legible : t.Legible) (distinct : t.doc.Distinct)
    (raw : Raw) (holds : Holds raw t) :
    raw.parse = Manifest.ofValue t.doc.value ∧
    (Required t.doc.value →
      ∃ ref, raw.parse = .ok ⟨ref, t.doc.value⟩ ∧ Describes t.doc.value ref) := by
  have hread : raw.read = .ok t.doc.value := by
    have hload := load_text legible distinct
    rcases holds with rfl | rfl
    · exact hload
    · show Yaml.decode _ >>= Yaml.load = _
      rw [decode_eq t.head_text]
      exact hload
  have hparse : raw.parse = Manifest.ofValue t.doc.value := Raw.parse_of_read hread
  refine ⟨hparse, fun required => ?_⟩
  obtain ⟨ref, href⟩ := required.accepted
  exact ⟨ref, hparse.trans href, (describes_of_ofValue href).2⟩

/-! ### A manifest with a number -/

def blankless : Space := ⟨[], nofun⟩

/-- The characters of a text that may stand for themselves. -/
def letters (w : List Char) : List Piece :=
  w.filterMap fun c =>
    if h : 0x20 ≤ c.toNat ∧ c ≠ '\x22' ∧ c ≠ '\\' then some (.char c h) else none

def named (w : String) : Name := ⟨blankless, letters w.toList, blankless⟩

/-- A manifest of an object, and how large it is. -/
def sized (size : Number) : ObjectText :=
  ⟨blankless,
    .more (named "kind") blankless (.string (letters ['X'])) blankless
    (.more (named "size") blankless (.number size) blankless
    (.more (named "apiVersion") blankless (.string (letters ['v', '1'])) blankless
    (.one (named "metadata") blankless
      (.object (.one (named "name") blankless (.string (letters ['a'])) blankless)) blankless))),
  blankless⟩

section

variable {size : Number}

lemma value_sized : (sized size).doc.value = .ofFields [("kind", .text "X"), ("size", size.value),
    ("apiVersion", .text "v1"), ("metadata", .ofFields [("name", .text "a")])] := by
  simp [sized, ObjectText.doc, Doc.value, Members.entries, named, letters, meant, Piece.meaning,
    Value.ofFields]

lemma required_sized : Required (sized size).doc.value := by
  rw [value_sized]
  have inMetadata_eq (name : String) : inMetadata (.ofFields [("kind", .text "X"),
      ("size", size.value), ("apiVersion", .text "v1"),
      ("metadata", .ofFields [("name", .text "a")])]) name = .ok
        ((Value.lookup name [(.text "name", .text "a")]).getD .null) := rfl
  exact .object ⟨⟨rfl, rfl⟩, ⟨rfl, rfl⟩, ⟨inMetadata_eq "name", rfl⟩⟩ (by decide)
    (inMetadata_eq "namespace") (.inl rfl)

lemma distinct_sized : (sized size).doc.Distinct := by
  simp [sized, ObjectText.doc, Doc.Distinct, Members.Distinct, Members.keys, named, letters, meant,
    Piece.meaning]

lemma untabbed_blankless : Untabbed blankless := nofun

lemma legible_letters {w : List Char} (h : ∀ c ∈ w, 0x20 ≤ c.toNat ∧ c.toNat ≤ 0x7E) :
    ∀ p ∈ letters w, p.Legible := by
  intro p hp
  obtain ⟨c, hc, hp⟩ := List.mem_filterMap.1 hp
  split at hp
  · cases hp
    exact onLine_printed (h c hc)
  · cases hp

lemma legible_named {w : String} (h : ∀ c ∈ w.toList, 0x20 ≤ c.toNat ∧ c.toNat ≤ 0x7E)
    (short : (quoted (letters w.toList)).length ≤ 1024) : (named w).Legible :=
  ⟨untabbed_blankless, legible_letters h, nofun, short⟩

lemma legible_sized (h : size.Legible) : (sized size).Legible := by
  have hb := untabbed_blankless
  refine ⟨hb, ⟨⟨legible_named ?_ ?_, hb, legible_letters ?_, hb⟩,
    ⟨legible_named ?_ ?_, hb, h, hb⟩, ⟨legible_named ?_ ?_, hb, legible_letters ?_, hb⟩,
    legible_named ?_ ?_, hb, ⟨legible_named ?_ ?_, hb, legible_letters ?_, hb⟩, hb⟩, hb⟩
  all_goals simp [quoted, spelled, letters, Piece.chars]

end

/-- One digit. -/
def digit (c : Char) (h : c.isDigit = true) : Digits := ⟨[c], by simp, by simpa using h⟩

/-- The number `1.5e+2`. -/
def oneAndAHalfHundreds : Number :=
  ⟨false, digit '1' rfl, nofun, some (digit '5' rfl), some ⟨false, some false, digit '2' rfl⟩⟩

/-- The number `1e5`. -/
def tenToTheFifth : Number :=
  ⟨false, digit '1' rfl, nofun, none, some ⟨false, none, digit '5' rfl⟩⟩

theorem size_with_point_accepted :
    (sized oneAndAHalfHundreds).Legible ∧ (sized oneAndAHalfHundreds).doc.Distinct ∧
      Holds (.text (sized oneAndAHalfHundreds).text) (sized oneAndAHalfHundreds) ∧
      Required (sized oneAndAHalfHundreds).doc.value ∧
      ∃ ref, Manifest.ofText (sized oneAndAHalfHundreds).text =
        .ok ⟨ref, (sized oneAndAHalfHundreds).doc.value⟩ := by
  have legible : oneAndAHalfHundreds.Legible := ⟨nofun, by rintro e ⟨⟩; exact ⟨rfl, rfl⟩⟩
  obtain ⟨-, accepted⟩ := legible_json_accepted (sized oneAndAHalfHundreds) (legible_sized legible)
    distinct_sized (.text (sized oneAndAHalfHundreds).text) (.inl rfl)
  obtain ⟨ref, href, -⟩ := accepted required_sized
  exact ⟨legible_sized legible, distinct_sized, .inl rfl, required_sized, ref, href⟩

/-- What stands under the key for the size. -/
def sizeIn : Value → Option Value
  | .map _ entries => Value.lookup "size" entries
  | _ => none

/-- An exponent without a point before it makes a text of the number. -/
theorem exponent_alone_read_as_text :
    Required (sized tenToTheFifth).doc.value ∧ (sized tenToTheFifth).doc.Distinct ∧
      (∃ x, sizeIn (sized tenToTheFifth).doc.value = some (.float x)) ∧
      ∃ m, Manifest.ofText (sized tenToTheFifth).text = .ok m ∧
        sizeIn m.body = some (.text "1e5") := by
  refine ⟨required_sized, distinct_sized, ?_, ?_⟩
  · rw [value_sized]
    exact ⟨_, rfl⟩
  · have h : Bundled.holds (fun m => (sizeIn m.body).any (Value.isText "1e5"))
        (Bundled.ofChars (sized tenToTheFifth).chars) = true := by
      decide +kernel
    rw [Bundled.ofText_eq, ObjectText.text, String.toList_ofList]
    obtain ⟨m, hm, hsize⟩ := Bundled.exists_of_holds h
    exact ⟨m, hm, Bundled.eq_some_of_any hsize⟩

end Testbed.Json
