import Mathlib
import Testbed.Proofs.ServedVersion

/-!
What the parser of manifests refuses, and how.

A document that is no manifest is refused with one of a few reasons that are announced. Beside
these there are ways to leave the parser that are not: a reader that gives up, as on a scalar that
is spelled like a number or a date and is none, a section that is given and has no fields, and a
field of the reference that is no text. Each step of the parser has its own way out, and a sequence
of steps has those of its parts. Nothing is assumed of the reader.
-/

namespace Testbed.Refusals

open AllOrNothing (IsDefinition)
open Naming (inMetadata bind_ok makeRef_ok isText_iff)
open ServedVersion (FirstServed NoneServed Serves definitionRef_eq refer servedKind search_map
  search_ok)
open Yaml (Value Problem)

/-! ### Refusals that are announced -/

/-- The refusal says that the document is no manifest. -/
inductive Announced : Refusal → Prop
  | malformed (why : String) : Announced (.unreadable (.malformed why))
  | notAMapping : Announced .notAMapping
  | incomplete : Announced .incomplete
  | unserved (name : Value) : Announced (.unserved name)
  | noSuchBundle (name : String) : Announced (.noSuchBundle name)

/-- There is neither a result nor a refusal that is announced. -/
def Escapes {α : Type} (x : Except Refusal α) : Prop := ∃ r, x = .error r ∧ ¬ Announced r

section

variable {α β : Type}

@[simp] lemma not_escapes_ok (a : α) : ¬ Escapes (.ok a) := by
  rintro ⟨r, hr, -⟩
  cases hr

lemma not_escapes_error {r : Refusal} (h : Announced r) :
    ¬ Escapes (.error r : Except Refusal α) := by
  rintro ⟨r', hr, hescape⟩
  cases hr
  exact hescape h

lemma escapes_misfit (m : Misfit) : Escapes (.error (.misfit m) : Except Refusal α) :=
  ⟨_, rfl, nofun⟩

/-- A sequence of two steps has the ways out of either. -/
lemma escapes_bind {x : Except Refusal α} {f : α → Except Refusal β} :
    Escapes (x >>= f) ↔ Escapes x ∨ ∃ a, x = .ok a ∧ Escapes (f a) := by
  cases x with
  | error r =>
    constructor
    · rintro ⟨r', hr, hescape⟩
      cases hr
      exact Or.inl ⟨r, rfl, hescape⟩
    · rintro (⟨r', hr, hescape⟩ | ⟨a, ha, -⟩)
      · cases hr
        exact ⟨r, rfl, hescape⟩
      · cases ha
  | ok a =>
    constructor
    · intro h
      exact Or.inr ⟨a, rfl, h⟩
    · rintro (h | ⟨a', ha, h⟩)
      · exact absurd h (not_escapes_ok a)
      · cases ha
        exact h

end

/-! ### Looking into a body -/

/-- The value has fields. -/
def IsMap (body v : Value) : Prop := ∃ label fields, Manifest.resolve body v = .map label fields

/-- The section can be asked for and is given, but has no fields. -/
def Sealed (body v : Value) (name : String) : Prop :=
  ∃ part, Manifest.section? body v name = .ok part ∧ ¬ IsMap body part

section

variable {body v : Value} {name : String}

lemma exists_field (h : IsMap body v) (name : String) :
    ∃ w, Manifest.field body v name = .ok w := by
  obtain ⟨label, fields, hr⟩ := h
  unfold Manifest.field
  rw [hr]
  exact ⟨_, rfl⟩

lemma isMap_of_field {w : Value} (h : Manifest.field body v name = .ok w) : IsMap body v := by
  unfold Manifest.field at h
  cases hr : Manifest.resolve body v with
  | map label fields => exact ⟨label, fields, hr⟩
  | _ =>
    simp only [hr] at h
    cases h

lemma escapes_field : Escapes (Manifest.field body v name) ↔ ¬ IsMap body v := by
  constructor
  · intro h hmap
    obtain ⟨w, hw⟩ := exists_field hmap name
    rw [hw] at h
    exact not_escapes_ok w h
  · intro hmap
    unfold Manifest.field
    cases hr : Manifest.resolve body v with
    | map label fields => exact absurd ⟨label, fields, hr⟩ hmap
    | _ => exact escapes_misfit _

lemma escapes_section : Escapes (Manifest.section? body v name) ↔ ¬ IsMap body v := by
  unfold Manifest.section?
  rw [escapes_bind, escapes_field]
  constructor
  · rintro (h | ⟨w, -, h⟩)
    · exact h
    · exact absurd h (not_escapes_ok _)
  · exact Or.inl

lemma isMap_of_section {part : Value} (h : Manifest.section? body v name = .ok part) :
    IsMap body v := by
  by_contra hmap
  have hescape : Escapes (Manifest.section? body v name) := escapes_section.2 hmap
  rw [h] at hescape
  exact not_escapes_ok part hescape

/-- A field of a section is out of reach if the section is sealed, or cannot be asked for. -/
lemma escapes_inSection {field : String} :
    Escapes (do Manifest.field body (← Manifest.section? body v name) field) ↔
      ¬ IsMap body v ∨ Sealed body v name := by
  simp only [escapes_bind, escapes_section, escapes_field, Sealed]

lemma isMap_self_iff : IsMap body body ↔ ∃ label fields, body = .map label fields := by
  constructor
  · rintro ⟨label, fields, hr⟩
    cases body with
    | again l => simp [Manifest.resolve, Manifest.labelled] at hr
    | _ => exact ⟨label, fields, hr⟩
  · rintro ⟨label, fields, rfl⟩
    exact ⟨label, fields, rfl⟩

end

/-! ### Going through the versions -/

/-- The search comes to an entry without fields before it has found anything. -/
def Stumbles (body : Value) (entries : List Value) : Prop :=
  ∃ before entry after, entries = before ++ entry :: after ∧ (∀ e ∈ before, IsMap body e) ∧
    NoneServed body before ∧ ¬ IsMap body entry

/-- The versions of a specification are given, but cannot be gone through: there are no entries, or
the search stumbles over one. -/
inductive Unsearchable (body spec : Value) : Prop
  | noEntries {versions : Value} (found : Manifest.field body spec "versions" = .ok versions)
    (given : versions.isTruthy = true)
    (h : ∀ entries, Manifest.elements body versions ≠ .ok entries)
  | entry {versions : Value} {entries : List Value}
    (found : Manifest.field body spec "versions" = .ok versions)
    (given : versions.isTruthy = true) (listed : Manifest.elements body versions = .ok entries)
    (h : Stumbles body entries)

section

variable {body spec : Value}

lemma stumbles_cons_iff {entry : Value} {entries : List Value} :
    Stumbles body (entry :: entries) ↔ ¬ IsMap body entry ∨
      IsMap body entry ∧ (∀ name, ¬ Serves body entry name) ∧ Stumbles body entries := by
  constructor
  · rintro ⟨before, e, after, he, maps, hnone, hmap⟩
    cases before with
    | nil =>
      cases he
      exact Or.inl hmap
    | cons b before =>
      cases he
      obtain ⟨hb, maps⟩ := List.forall_mem_cons.1 maps
      obtain ⟨hnot, hnone⟩ := List.forall_mem_cons.1 hnone
      exact Or.inr ⟨hb, hnot, before, e, after, rfl, maps, hnone, hmap⟩
  · rintro (hmap | ⟨hb, hnot, before, e, after, rfl, maps, hnone, hmap⟩)
    · exact ⟨[], entry, entries, rfl, nofun, nofun, hmap⟩
    · exact ⟨entry :: before, e, after, rfl, List.forall_mem_cons.2 ⟨hb, maps⟩,
        List.forall_mem_cons.2 ⟨hnot, hnone⟩, hmap⟩

lemma escapes_firstServed (entries : List Value) :
    Escapes (Manifest.firstServed body entries) ↔ Stumbles body entries := by
  induction entries with
  | nil =>
    constructor
    · intro h
      exact absurd h (not_escapes_ok _)
    · rintro ⟨before, entry, after, he, -⟩
      simp at he
  | cons entry rest ih =>
    rw [stumbles_cons_iff]
    by_cases hmap : IsMap body entry
    · obtain ⟨label, fields, hr⟩ := hmap
      rcases search_map rest hr with ⟨name, hserves, hfound⟩ | ⟨hnot, hskip⟩
      · rw [hfound]
        constructor
        · intro h
          exact absurd h (not_escapes_ok _)
        · rintro (h | ⟨-, hnot, -⟩)
          · exact absurd ⟨label, fields, hr⟩ h
          · exact absurd hserves (hnot name)
      · rw [hskip, ih]
        constructor
        · intro h
          exact Or.inr ⟨⟨label, fields, hr⟩, hnot, h⟩
        · rintro (h | ⟨-, -, h⟩)
          · exact absurd ⟨label, fields, hr⟩ h
          · exact h
    · refine ⟨fun _ => Or.inl hmap, fun _ => ?_⟩
      rw [Manifest.firstServed]
      cases hr : Manifest.resolve body entry with
      | map label fields => exact absurd ⟨label, fields, hr⟩ hmap
      | _ => exact escapes_misfit _

lemma escapes_elements {v : Value} :
    Escapes (Manifest.elements body v) ↔ ∀ entries, Manifest.elements body v ≠ .ok entries := by
  constructor
  · intro h entries hentries
    rw [hentries] at h
    exact not_escapes_ok entries h
  · intro h
    unfold Manifest.elements at h ⊢
    cases hr : Manifest.resolve body v with
    | list | set | map | text | bytes | pair =>
      simp only [hr] at h
      exact absurd rfl (h _)
    | _ => exact escapes_misfit _

lemma escapes_servedVersion (h : IsMap body spec) :
    Escapes (Manifest.servedVersion body spec) ↔ Unsearchable body spec := by
  obtain ⟨versions, hfound⟩ := exists_field h "versions"
  have hlast : ¬ Escapes (Manifest.field body spec "version") := fun hescape =>
    escapes_field.1 hescape h
  unfold Manifest.servedVersion
  rw [hfound]
  show Escapes (if versions.isTruthy = true then _ else _) ↔ _
  by_cases hg : versions.isTruthy = true
  · rw [if_pos hg]
    simp only [escapes_bind, escapes_elements, escapes_firstServed]
    constructor
    · rintro (hnone | ⟨entries, hlisted, hstumbles | ⟨found, -, hescape⟩⟩)
      · exact .noEntries hfound hg hnone
      · exact .entry hfound hg hlisted hstumbles
      · cases found with
        | some name => exact absurd hescape (not_escapes_ok name)
        | none => exact absurd hescape hlast
    · rintro (⟨hfound', -, hnone⟩ | ⟨hfound', -, hlisted, hstumbles⟩)
      · cases hfound.symm.trans hfound'
        exact Or.inl hnone
      · cases hfound.symm.trans hfound'
        exact Or.inr ⟨_, hlisted, Or.inl hstumbles⟩
  · rw [if_neg hg]
    constructor
    · intro hescape
      exact absurd hescape hlast
    · rintro (⟨hfound', hg', -⟩ | ⟨hfound', hg', -⟩)
      · cases hfound.symm.trans hfound'
        exact absurd hg' hg
      · cases hfound.symm.trans hfound'
        exact absurd hg' hg

end

/-! ### Fields of a reference -/

/-- The value is a text, or bytes that are one. -/
def IsText (v : Value) : Prop := ∃ s, Validation.text v = .ok s

/-- A reference can be made of these fields. -/
structure Fit (group kind version name : Value) (ns : Option Value) : Prop where
  group : IsText group
  kind : IsText kind
  version : IsText version
  name : IsText name
  ns : ∀ v, ns = some v → v = .null ∨ IsText v

section

variable {group kind version name : Value} {ns : Option Value}

lemma exists_map_ok {ε α β : Type} {f : α → β} {x : Except ε α} :
    (∃ b, f <$> x = .ok b) ↔ ∃ a, x = .ok a := by
  cases x with
  | error e =>
    constructor <;> rintro ⟨_, h⟩ <;> cases h
  | ok a => exact ⟨fun _ => ⟨a, rfl⟩, fun _ => ⟨f a, rfl⟩⟩

lemma optional_ok_iff {v : Value} :
    (∃ s, Validation.optional Validation.text v = .ok s) ↔ v = .null ∨ IsText v := by
  unfold IsText
  cases v with
  | null => exact ⟨fun _ => Or.inl rfl, fun _ => ⟨none, rfl⟩⟩
  | _ =>
    simp only [Validation.optional, reduceCtorEq, false_or]
    exact exists_map_ok

lemma exists_makeRef (h : Fit group kind version name ns) :
    ∃ ref, Manifest.makeRef group kind version name ns = .ok ref := by
  obtain ⟨⟨g, hg⟩, ⟨k, hk⟩, ⟨v, hv⟩, ⟨n, hn⟩, hns⟩ := h
  unfold Manifest.makeRef ResourceRef.ofFields
  cases ns with
  | none =>
    simp [Validation.required, Validation.withDefault, List.lookup, hg, hk, hv, hn]
  | some w =>
    obtain ⟨s, hs⟩ := optional_ok_iff.2 (hns w rfl)
    simp [Validation.required, Validation.withDefault, List.lookup, hg, hk, hv, hn, hs]

lemma fit_of_makeRef {ref : ResourceRef}
    (h : Manifest.makeRef group kind version name ns = .ok ref) :
    Fit group kind version name ns := by
  obtain ⟨hg, hk, hv, hn, hns⟩ := makeRef_ok h
  exact ⟨⟨_, hg⟩, ⟨_, hk⟩, ⟨_, hv⟩, ⟨_, hn⟩, fun v hv => optional_ok_iff.1 ⟨_, hns v hv⟩⟩

lemma escapes_makeRef :
    Escapes (Manifest.makeRef group kind version name ns) ↔ ¬ Fit group kind version name ns := by
  constructor
  · intro h fit
    obtain ⟨ref, href⟩ := exists_makeRef fit
    rw [href] at h
    exact not_escapes_ok ref h
  · intro h
    cases href : Manifest.makeRef group kind version name ns with
    | ok ref => exact absurd (fit_of_makeRef href) h
    | error r =>
      unfold Manifest.makeRef at href
      split at href
      · cases href
      · cases href
        exact escapes_misfit _

end

/-! ### Definitions -/

/-- The value is there and is not empty. -/
structure Found (x : Except Refusal Value) (v : Value) : Prop where
  eq : x = .ok v
  given : v.isTruthy = true

/-- What a definition needs beside a name is given. -/
structure Specified (body spec group kind version : Value) : Prop where
  inSpec : Manifest.section? body body "spec" = .ok spec
  group : Found (Manifest.field body spec "group") group
  kind : Found (servedKind body spec) kind
  version : Found (Manifest.servedVersion body spec) version

/-- A definition whose specification cannot be looked into as the parser does, or holds a group, a
kind or a version that is no text. -/
inductive BreaksDefinition (body name : Value) : Prop
  | spec (h : Sealed body body "spec")
  | names {spec : Value} (inSpec : Manifest.section? body body "spec" = .ok spec)
    (h : Sealed body spec "names")
  | versions {spec kind : Value} (inSpec : Manifest.section? body body "spec" = .ok spec)
    (hasKind : servedKind body spec = .ok kind) (h : Unsearchable body spec)
  | fields {spec group kind version : Value} (specified : Specified body spec group kind version)
    (h : ¬ Fit group kind version name none)

section

variable {body spec name : Value}

lemma escapes_refer {group kind version : Value} : Escapes (refer group kind version name) ↔
    (group.isTruthy = true ∧ kind.isTruthy = true ∧ version.isTruthy = true) ∧
      ¬ Fit group kind version name none := by
  unfold refer
  split
  · rename_i hall
    obtain ⟨hboth, hversion⟩ := Bool.and_eq_true_iff.1 hall
    obtain ⟨hgroup, hkind⟩ := Bool.and_eq_true_iff.1 hboth
    rw [escapes_makeRef]
    exact ⟨fun h => ⟨⟨hgroup, hkind, hversion⟩, h⟩, And.right⟩
  · rename_i hall
    refine ⟨fun h => absurd h (not_escapes_error (.unserved name)), ?_⟩
    rintro ⟨⟨hgroup, hkind, hversion⟩, -⟩
    simp [hgroup, hkind, hversion] at hall

lemma isMap_of_servedKind {kind : Value} (h : servedKind body spec = .ok kind) :
    IsMap body spec := by
  obtain ⟨names, hnames, -⟩ := bind_ok h
  exact isMap_of_section hnames

lemma escapes_definitionRef (hbody : IsMap body body) :
    Escapes (Manifest.definitionRef body name) ↔ BreaksDefinition body name := by
  simp only [definitionRef_eq, escapes_bind, escapes_section, hbody, not_true_eq_false, false_or,
    servedKind, escapes_field, escapes_refer]
  constructor
  · rintro ⟨spec, hspec, (hmap | ⟨names, hnames, hmap⟩) | ⟨kind, hkind, h⟩⟩
    · exact .spec ⟨spec, hspec, hmap⟩
    · exact .names hspec ⟨names, hnames, hmap⟩
    · have hmap := isMap_of_servedKind hkind
      rcases h with h | ⟨version, hversion, h | ⟨group, hgroup, hgiven, hfit⟩⟩
      · exact .versions hspec hkind ((escapes_servedVersion hmap).1 h)
      · exact absurd hmap h
      · exact .fields ⟨hspec, ⟨hgroup, hgiven.1⟩, ⟨hkind, hgiven.2.1⟩, ⟨hversion, hgiven.2.2⟩⟩ hfit
  · rintro (⟨spec, hspec, hmap⟩ | ⟨hspec, names, hnames, hmap⟩ | ⟨hspec, hkind, h⟩ |
      ⟨⟨hspec, hgroup, hkind, hversion⟩, hfit⟩)
    · exact ⟨spec, hspec, Or.inl (Or.inl hmap)⟩
    · exact ⟨_, hspec, Or.inl (Or.inr ⟨names, hnames, hmap⟩)⟩
    · have hmap := isMap_of_servedKind hkind
      exact ⟨_, hspec, Or.inr ⟨_, hkind, Or.inl ((escapes_servedVersion hmap).2 h)⟩⟩
    · exact ⟨_, hspec, Or.inr ⟨_, hkind.eq, Or.inr ⟨_, hversion.eq, Or.inr ⟨_, hgroup.eq,
        ⟨hgroup.given, hkind.given, hversion.given⟩, hfit⟩⟩⟩⟩

end

/-! ### Bodies -/

/-- What every manifest needs is given. -/
structure Given (body apiVersion kind name : Value) : Prop where
  apiVersion : Found (Manifest.field body body "apiVersion") apiVersion
  kind : Found (Manifest.field body body "kind") kind
  name : Found (inMetadata body "name") name

/-- The ways in which a body leaves the parser without a refusal that is announced. -/
inductive Breaks (body : Value) : Prop
  | metadata (h : Sealed body body "metadata")
  | definition {apiVersion kind name : Value} (given : Given body apiVersion kind name)
    (defines : IsDefinition body) (h : BreaksDefinition body name)
  | apiVersion {apiVersion kind name : Value} (given : Given body apiVersion kind name)
    (defines : ¬ IsDefinition body) (h : ∀ s, apiVersion ≠ .text s)
  | fields {kind name ns : Value} {apiVersion : String}
    (given : Given body (.text apiVersion) kind name) (defines : ¬ IsDefinition body)
    (located : inMetadata body "namespace" = .ok ns)
    (h : ¬ (IsText kind ∧ IsText name ∧ (ns = .null ∨ IsText ns)))

mutual

lemma labelled_ne_text (l : Yaml.Label) (v : Value) (s : String) :
    Manifest.labelled l v ≠ some (.text s) := by
  cases v with
  | list label items =>
    unfold Manifest.labelled
    split
    · simp
    · exact labelledItem_ne_text l items s
  | map label entries =>
    unfold Manifest.labelled
    split
    · simp
    · exact labelledEntry_ne_text l entries s
  | pair a b =>
    unfold Manifest.labelled
    simp only [ne_eq, Option.or_eq_some_iff, labelled_ne_text l a s, labelled_ne_text l b s,
      and_false, or_self, not_false_eq_true]
  | _ => simp [Manifest.labelled]

lemma labelledItem_ne_text (l : Yaml.Label) (items : List Value) (s : String) :
    Manifest.labelledItem l items ≠ some (.text s) := by
  cases items with
  | nil => simp [Manifest.labelledItem]
  | cons v rest =>
    unfold Manifest.labelledItem
    simp only [ne_eq, Option.or_eq_some_iff, labelled_ne_text l v s,
      labelledItem_ne_text l rest s, and_false, or_self, not_false_eq_true]

lemma labelledEntry_ne_text (l : Yaml.Label) (entries : List (Value × Value)) (s : String) :
    Manifest.labelledEntry l entries ≠ some (.text s) := by
  cases entries with
  | nil => simp [Manifest.labelledEntry]
  | cons e rest =>
    obtain ⟨k, v⟩ := e
    unfold Manifest.labelledEntry
    simp only [ne_eq, Option.or_eq_some_iff, labelled_ne_text l k s, labelled_ne_text l v s,
      labelledEntry_ne_text l rest s, and_false, or_self, not_false_eq_true]

end

/-- The reference of an object that is no definition. -/
def objectRef (body apiVersion kind name : Value) : Except Refusal ResourceRef := do
  let (group, version) ← Manifest.splitVersion body apiVersion
  let ns ← inMetadata body "namespace"
  Manifest.makeRef group kind version name (some ns)

/-- The manifest of a body, once the fields that every manifest needs are found. -/
def complete (body apiVersion kind name : Value) : Except Refusal Manifest :=
  if apiVersion.isTruthy && kind.isTruthy && name.isTruthy then
    if kind.isText Manifest.definitionKind then do
      return ⟨← Manifest.definitionRef body name, body⟩
    else do
      return ⟨← objectRef body apiVersion kind name, body⟩
  else .error .incomplete

section

variable {body apiVersion kind name : Value}

lemma ofValue_eq (h : IsMap body body) : Manifest.ofValue body = (do
    let apiVersion ← Manifest.field body body "apiVersion"
    let kind ← Manifest.field body body "kind"
    let name ← inMetadata body "name"
    complete body apiVersion kind name) := by
  obtain ⟨label, fields, rfl⟩ := isMap_self_iff.1 h
  unfold Manifest.ofValue complete objectRef inMetadata
  cases hm : Manifest.section? (.map label fields) (.map label fields) "metadata" with
  | error r => rfl
  | ok metadata =>
    have found {α : Type} (f : Value → Except Refusal α) :
        (Except.ok metadata >>= f) = f metadata := rfl
    simp only [found, bind_assoc]
    refine bind_congr fun apiVersion => bind_congr fun kind => bind_congr fun name => ?_
    cases apiVersion.isTruthy && kind.isTruthy && name.isTruthy <;> rfl

lemma ofValue_notAMapping (h : ¬ IsMap body body) :
    Manifest.ofValue body = .error .notAMapping := by
  cases body with
  | map label fields => exact absurd ⟨label, fields, rfl⟩ h
  | _ => rfl

lemma isDefinition_iff (h : Manifest.field body body "kind" = .ok kind) :
    IsDefinition body ↔ kind.isText Manifest.definitionKind = true := by
  rw [isText_iff]
  constructor
  · intro hkind
    exact Except.ok.inj (h.symm.trans hkind)
  · rintro rfl
    exact h

lemma escapes_inMetadata (h : IsMap body body) {field : String} :
    Escapes (inMetadata body field) ↔ Sealed body body "metadata" := by
  unfold inMetadata
  rw [escapes_inSection]
  simp [h]

lemma exists_inMetadata (h : inMetadata body "name" = .ok name) (field : String) :
    ∃ v, inMetadata body field = .ok v := by
  unfold inMetadata at h ⊢
  obtain ⟨metadata, hm, h⟩ := bind_ok h
  rw [hm]
  exact exists_field (isMap_of_field h) field

lemma resolve_eq_text {root v : Value} {s : String} (h : Manifest.resolve root v = .text s) :
    v = .text s := by
  cases v with
  | again l =>
    change (Manifest.labelled l root).getD (.again l) = .text s at h
    cases hl : Manifest.labelled l root with
    | none =>
      rw [hl] at h
      cases h
    | some w =>
      rw [hl] at h
      exact absurd (hl.trans (congrArg some h)) (labelled_ne_text l root s)
  | _ => exact h

/-- What is no text cannot be split, or stays what it is. -/
lemma splitVersion_of_not_text (h : ∀ s, apiVersion ≠ .text s) :
    Escapes (Manifest.splitVersion body apiVersion) ∨ ∃ group version,
      Manifest.splitVersion body apiVersion = .ok (group, version) ∧ ¬ IsText version := by
  unfold Manifest.splitVersion
  cases hr : Manifest.resolve body apiVersion with
  | text s => exact absurd (resolve_eq_text hr) (h s)
  | list label items =>
    by_cases hslash : items.any (Value.isText "/") = true
    · exact Or.inl ⟨_, if_pos hslash, nofun⟩
    · exact Or.inr ⟨_, _, if_neg hslash, nofun⟩
  | map label entries =>
    by_cases hslash : (Value.lookup "/" entries).isSome = true
    · exact Or.inl ⟨_, if_pos hslash, nofun⟩
    · exact Or.inr ⟨_, _, if_neg hslash, nofun⟩
  | set label items =>
    by_cases hslash : items.any (Value.isText "/") = true
    · exact Or.inl ⟨_, if_pos hslash, nofun⟩
    · exact Or.inr ⟨_, _, if_neg hslash, nofun⟩
  | _ => exact Or.inl (escapes_misfit _)

lemma objectRef_of_not_text (hname : inMetadata body "name" = .ok name)
    (h : ∀ s, apiVersion ≠ .text s) : Escapes (objectRef body apiVersion kind name) := by
  unfold objectRef
  rw [escapes_bind]
  rcases splitVersion_of_not_text h with hescape | ⟨group, version, hsplit, hversion⟩
  · exact Or.inl hescape
  · obtain ⟨ns, hns⟩ := exists_inMetadata hname "namespace"
    refine Or.inr ⟨_, hsplit, ?_⟩
    rw [escapes_bind]
    exact Or.inr ⟨ns, hns, escapes_makeRef.2 fun fit => hversion fit.version⟩

lemma objectRef_text {s : String} {ns : Value} (hns : inMetadata body "namespace" = .ok ns) :
    objectRef body (.text s) kind name = Manifest.makeRef (.text (ResourceRef.splitApiVersion s).1)
      kind (.text (ResourceRef.splitApiVersion s).2) name (some ns) := by
  unfold objectRef
  rw [hns]
  rfl

lemma fit_texts_iff {group version : String} {ns : Value} :
    Fit (.text group) kind (.text version) name (some ns) ↔
      IsText kind ∧ IsText name ∧ (ns = .null ∨ IsText ns) := by
  constructor
  · rintro ⟨-, hkind, -, hname, hns⟩
    exact ⟨hkind, hname, hns ns rfl⟩
  · rintro ⟨hkind, hname, hns⟩
    refine ⟨⟨group, rfl⟩, hkind, ⟨version, rfl⟩, hname, ?_⟩
    rintro v ⟨⟩
    exact hns

lemma escapes_complete : Escapes (complete body apiVersion kind name) ↔
    (apiVersion.isTruthy = true ∧ kind.isTruthy = true ∧ name.isTruthy = true) ∧
      (kind.isText Manifest.definitionKind = true ∧ Escapes (Manifest.definitionRef body name) ∨
        kind.isText Manifest.definitionKind = false ∧
          Escapes (objectRef body apiVersion kind name)) := by
  unfold complete
  cases apiVersion.isTruthy <;> cases kind.isTruthy <;> cases name.isTruthy <;>
    cases kind.isText Manifest.definitionKind <;>
    simp [escapes_bind, not_escapes_error .incomplete, pure, Except.pure]

lemma Breaks.isMap (h : Breaks body) : IsMap body body := by
  cases h with
  | metadata h =>
    obtain ⟨part, hpart, -⟩ := h
    exact isMap_of_section hpart
  | definition given | apiVersion given | fields given => exact isMap_of_field given.kind.eq

lemma Given.ofValue_eq (given : Given body apiVersion kind name) :
    Manifest.ofValue body = complete body apiVersion kind name := by
  rw [Refusals.ofValue_eq (isMap_of_field given.kind.eq), given.apiVersion.eq, given.kind.eq,
    given.name.eq]
  rfl

lemma Given.truthy (given : Given body apiVersion kind name) :
    apiVersion.isTruthy = true ∧ kind.isTruthy = true ∧ name.isTruthy = true :=
  ⟨given.apiVersion.given, given.kind.given, given.name.given⟩

lemma Given.isObject (given : Given body apiVersion kind name) (h : ¬ IsDefinition body) :
    kind.isText Manifest.definitionKind = false := by
  rwa [isDefinition_iff given.kind.eq, Bool.not_eq_true] at h

lemma Breaks.escapes (h : Breaks body) : Escapes (Manifest.ofValue body) := by
  have hbody := h.isMap
  cases h with
  | metadata h =>
    obtain ⟨apiVersion, hapi⟩ := exists_field hbody "apiVersion"
    obtain ⟨kind, hkind⟩ := exists_field hbody "kind"
    rw [ofValue_eq hbody, hapi, hkind]
    show Escapes (inMetadata body "name" >>= _)
    exact escapes_bind.2 (Or.inl ((escapes_inMetadata hbody).2 h))
  | definition given defines h =>
    rw [given.ofValue_eq, escapes_complete]
    exact ⟨given.truthy, Or.inl ⟨(isDefinition_iff given.kind.eq).1 defines,
      (escapes_definitionRef hbody).2 h⟩⟩
  | apiVersion given defines h =>
    rw [given.ofValue_eq, escapes_complete]
    exact ⟨given.truthy, Or.inr ⟨given.isObject defines, objectRef_of_not_text given.name.eq h⟩⟩
  | fields given defines located h =>
    rw [given.ofValue_eq, escapes_complete, objectRef_text located, escapes_makeRef, fit_texts_iff]
    exact ⟨given.truthy, Or.inr ⟨given.isObject defines, h⟩⟩

end

/-! ### What a manifest is accepted for -/

/-- Group and version of an object, as its body writes them in one text. -/
def SplitsInto (apiVersion group version : String) : Prop :=
  group = "" ∧ version = apiVersion ∧ '/' ∉ apiVersion.toList ∨
    apiVersion = group ++ "/" ++ version ∧ '/' ∉ group.toList

/-- The version is that of the first entry that is served, or the single one. -/
def VersionIn (body spec version : Value) : Prop :=
  (∃ versions entries, Manifest.field body spec "versions" = .ok versions ∧
    Manifest.elements body versions = .ok entries ∧ FirstServed body entries version) ∨
  Manifest.field body spec "version" = .ok version

/-- The body has the fields that are needed, and the reference holds the texts that are in them. -/
inductive Describes (body : Value) (ref : ResourceRef) : Prop
  | definition {apiVersion name spec group kind version : Value}
    (given : Given body apiVersion (.text Manifest.definitionKind) name)
    (specified : Specified body spec group kind version)
    (versionIn : VersionIn body spec version)
    (refGroup : Validation.text group = .ok ref.group)
    (refKind : Validation.text kind = .ok ref.kind)
    (refVersion : Validation.text version = .ok ref.version)
    (refName : Validation.text name = .ok ref.name)
  | object {apiVersion : String} {kind name : Value}
    (given : Given body (.text apiVersion) kind name) (defines : ¬ IsDefinition body)
    (split : SplitsInto apiVersion ref.group ref.version)
    (refKind : Validation.text kind = .ok ref.kind)
    (refName : Validation.text name = .ok ref.name)

section

variable {body : Value}

lemma splitsInto (s : String) :
    SplitsInto s (ResourceRef.splitApiVersion s).1 (ResourceRef.splitApiVersion s).2 := by
  unfold ResourceRef.splitApiVersion
  by_cases h : '/' ∈ s.toList
  · right
    obtain ⟨group, version, hs, hgroup⟩ := List.eq_append_cons_of_mem h
    have hpass : ∀ c ∈ group, (c != '/') = true := by
      intro c hc
      simpa using fun he : c = '/' => hgroup (he ▸ hc)
    have htake : s.toList.takeWhile (· != '/') = group := by
      rw [hs, List.takeWhile_append_of_pos hpass]
      simp
    have hdrop : s.toList.dropWhile (· != '/') = '/' :: version := by
      rw [hs, List.dropWhile_append_of_pos hpass]
      simp
    simp only [List.contains_eq_mem, h, decide_true, if_true, htake, hdrop, List.drop_one,
      List.tail_cons, String.toList_ofList]
    refine ⟨?_, hgroup⟩
    apply String.toList_injective
    simp [hs]
  · left
    simp [h]

lemma Describes.isMap {ref : ResourceRef} (h : Describes body ref) : IsMap body body := by
  cases h with
  | definition given | object given => exact isMap_of_field given.kind.eq

lemma versionIn {spec version : Value} (h : Manifest.servedVersion body spec = .ok version) :
    VersionIn body spec version := by
  unfold Manifest.servedVersion at h
  obtain ⟨versions, hfound, h⟩ := bind_ok h
  split at h
  · obtain ⟨entries, hlisted, h⟩ := bind_ok h
    obtain ⟨found, hsearch, h⟩ := bind_ok h
    rcases search_ok hsearch with ⟨rfl, -⟩ | ⟨name, rfl, hfirst⟩
    · exact Or.inr h
    · cases h
      exact Or.inl ⟨versions, entries, hfound, hlisted, hfirst⟩
  · exact Or.inr h

lemma describes_of_definitionRef {apiVersion name : Value} {ref : ResourceRef}
    (given : Given body apiVersion (.text Manifest.definitionKind) name)
    (h : Manifest.definitionRef body name = .ok ref) : Describes body ref := by
  rw [definitionRef_eq] at h
  obtain ⟨spec, hspec, h⟩ := bind_ok h
  obtain ⟨kind, hkind, h⟩ := bind_ok h
  obtain ⟨version, hversion, h⟩ := bind_ok h
  obtain ⟨group, hgroup, h⟩ := bind_ok h
  unfold refer at h
  split at h
  · rename_i hall
    obtain ⟨hboth, hv⟩ := Bool.and_eq_true_iff.1 hall
    obtain ⟨hg, hk⟩ := Bool.and_eq_true_iff.1 hboth
    obtain ⟨refGroup, refKind, refVersion, refName, -⟩ := makeRef_ok h
    exact .definition given ⟨hspec, ⟨hgroup, hg⟩, ⟨hkind, hk⟩, ⟨hversion, hv⟩⟩ (versionIn hversion)
      refGroup refKind refVersion refName
  · cases h

lemma describes_of_objectRef {apiVersion kind name : Value} {ref : ResourceRef}
    (given : Given body apiVersion kind name) (defines : ¬ IsDefinition body)
    (h : objectRef body apiVersion kind name = .ok ref) : Describes body ref := by
  by_cases htext : ∃ s, apiVersion = .text s
  · obtain ⟨s, rfl⟩ := htext
    obtain ⟨ns, hns⟩ := exists_inMetadata given.name.eq "namespace"
    rw [objectRef_text hns] at h
    obtain ⟨refGroup, refKind, refVersion, refName, -⟩ := makeRef_ok h
    refine .object given defines ?_ refKind refName
    rw [← Except.ok.inj refGroup, ← Except.ok.inj refVersion]
    exact splitsInto s
  · have hescape : Escapes (objectRef body apiVersion kind name) :=
      objectRef_of_not_text given.name.eq (not_exists.1 htext)
    rw [h] at hescape
    exact absurd hescape (not_escapes_ok ref)

lemma describes_of_ofValue {m : Manifest} (h : Manifest.ofValue body = .ok m) :
    m.body = body ∧ Describes body m.ref := by
  by_cases hbody : IsMap body body
  · rw [ofValue_eq hbody] at h
    obtain ⟨apiVersion, hapi, h⟩ := bind_ok h
    obtain ⟨kind, hkind, h⟩ := bind_ok h
    obtain ⟨name, hname, h⟩ := bind_ok h
    unfold complete at h
    split at h
    · rename_i hall
      obtain ⟨hboth, hn⟩ := Bool.and_eq_true_iff.1 hall
      obtain ⟨ha, hk⟩ := Bool.and_eq_true_iff.1 hboth
      have given : Given body apiVersion kind name := ⟨⟨hapi, ha⟩, ⟨hkind, hk⟩, ⟨hname, hn⟩⟩
      split at h
      · rename_i hdefinition
        obtain ⟨ref, href, h⟩ := bind_ok h
        cases h
        obtain rfl := isText_iff.1 hdefinition
        exact ⟨rfl, describes_of_definitionRef given href⟩
      · rename_i hdefinition
        obtain ⟨ref, href, h⟩ := bind_ok h
        cases h
        have defines : ¬ IsDefinition body := fun hd => hdefinition ((isDefinition_iff hkind).1 hd)
        exact ⟨rfl, describes_of_objectRef given defines href⟩
    · cases h
  · rw [ofValue_notAMapping hbody] at h
    cases h

end

/-! ### Main result -/

/-- A manifest as it is given to the parser. -/
inductive Raw where
  | text (s : String)
  | bytes (b : List UInt8)

namespace Raw

/-- The document that is read. -/
def read : Raw → Except Problem Value
  | text s => Yaml.load s
  | bytes b => Yaml.decode b >>= Yaml.load

def parse : Raw → Except Refusal Manifest
  | text s => Manifest.ofText s
  | bytes b => Manifest.ofBytes b

/-- What the parser makes of it, whatever reads it. -/
def parseWith (load : Raw → Except Problem Value) (raw : Raw) : Except Refusal Manifest :=
  Manifest.ofRead (load raw)

lemma parse_eq (raw : Raw) : raw.parse = raw.parseWith read := by
  cases raw <;> rfl

lemma parse_of_read {raw : Raw} {body : Value} (h : raw.read = .ok body) :
    raw.parse = Manifest.ofValue body := by
  rw [parse_eq, parseWith, h]
  rfl

lemma parse_ok {raw : Raw} {m : Manifest} (h : raw.parse = .ok m) :
    raw.read = .ok m.body ∧ Manifest.ofValue m.body = .ok m := by
  rw [parse_eq, parseWith] at h
  cases hread : raw.read with
  | error p =>
    rw [hread] at h
    cases h
  | ok body =>
    rw [hread] at h
    obtain ⟨rfl, -⟩ := describes_of_ofValue h
    exact ⟨rfl, h⟩

end Raw

end Testbed.Refusals
