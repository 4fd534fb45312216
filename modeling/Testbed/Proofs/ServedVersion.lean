import Mathlib
import Testbed.Proofs.SameObject

/-!
Which version a definition is referred to by.

The versions of a definition are gone through in order, and the first one that is served and has a
name is taken. If there is none, a single version counts that is named beside the list, even one
that the list keeps back.
-/

namespace Testbed.ServedVersion

open AllOrNothing (kindOf IsDefinition)
open Bundled (states eq_of_states eq_some_of_any)
open Naming (inMetadata bind_ok field_ok makeRef_ok)
open Yaml (Value)

/-! ### Going through the versions -/

/-- The entry is a version with this name, and does not say that it is not served. -/
structure Serves (body entry name : Value) : Prop where
  served : ∀ v, Store.field body "served" entry = some v → v.isTruthy = true
  named : Store.field body "name" entry = some name
  given : name.isTruthy = true

def NoneServed (body : Value) (entries : List Value) : Prop :=
  ∀ entry ∈ entries, ∀ name, ¬ Serves body entry name

/-- The name of the first entry that is served and has one. -/
def FirstServed (body : Value) (entries : List Value) (name : Value) : Prop :=
  ∃ before entry after, entries = before ++ entry :: after ∧ NoneServed body before ∧
    Serves body entry name

section

variable {body entry name : Value} {entries : List Value}

lemma Serves.unique {name' : Value} (h : Serves body entry name) (h' : Serves body entry name') :
    name = name' := Option.some.inj (h.named.symm.trans h'.named)

lemma serves_iff {label : Option Yaml.Label} {fields : List (Value × Value)}
    (h : Manifest.resolve body entry = .map label fields) :
    Serves body entry name ↔ ((Value.lookup "served" fields).getD (.bool true)).isTruthy = true ∧
      (Value.lookup "name" fields).getD .null = name ∧ name.isTruthy = true := by
  have hfield (key : String) : Store.field body key entry = Value.lookup key fields := by
    unfold Store.field
    rw [h]
  constructor
  · rintro ⟨served, named, given⟩
    rw [hfield] at named served
    refine ⟨?_, by rw [named, Option.getD_some], given⟩
    cases hs : Value.lookup "served" fields with
    | none => rfl
    | some v => exact served v hs
  · rintro ⟨served, named, given⟩
    refine ⟨fun v hv => ?_, ?_, given⟩
    · rw [hfield] at hv
      rwa [hv, Option.getD_some] at served
    · rw [hfield]
      cases hn : Value.lookup "name" fields with
      | none =>
        rw [hn] at named
        subst named
        cases given
      | some v =>
        rw [hn] at named
        exact congrArg some named

lemma firstServed_cons_iff : FirstServed body (entry :: entries) name ↔
    Serves body entry name ∨
      (∀ n, ¬ Serves body entry n) ∧ FirstServed body entries name := by
  constructor
  · rintro ⟨before, e, after, he, hbefore, hserves⟩
    cases before with
    | nil =>
      cases he
      exact Or.inl hserves
    | cons b before =>
      cases he
      obtain ⟨hb, hbefore⟩ := List.forall_mem_cons.1 hbefore
      exact Or.inr ⟨hb, before, e, after, rfl, hbefore, hserves⟩
  · rintro (hserves | ⟨hnot, before, e, after, rfl, hbefore, hserves⟩)
    · exact ⟨[], entry, entries, rfl, nofun, hserves⟩
    · exact ⟨entry :: before, e, after, rfl, List.forall_mem_cons.2 ⟨hnot, hbefore⟩, hserves⟩

lemma FirstServed.unique {name' : Value} (h : FirstServed body entries name)
    (h' : FirstServed body entries name') : name = name' := by
  induction entries with
  | nil =>
    obtain ⟨before, entry, after, he, -⟩ := h
    simp at he
  | cons entry rest ih =>
    rcases firstServed_cons_iff.1 h with hs | ⟨hnot, h⟩
    · rcases firstServed_cons_iff.1 h' with hs' | ⟨hnot', -⟩
      · exact hs.unique hs'
      · exact absurd hs (hnot' _)
    · rcases firstServed_cons_iff.1 h' with hs' | ⟨-, h'⟩
      · exact absurd hs' (hnot _)
      · exact ih h h'

lemma FirstServed.not_none (h : FirstServed body entries name) : ¬ NoneServed body entries := by
  obtain ⟨before, entry, after, rfl, -, hserves⟩ := h
  exact fun hnone => hnone entry (by simp) name hserves

lemma FirstServed.given (h : FirstServed body entries name) : name.isTruthy = true := by
  obtain ⟨before, entry, after, rfl, -, hserves⟩ := h
  exact hserves.given

/-- An entry that is a mapping is taken or passed over. -/
lemma search_map (entries : List Value) {label : Option Yaml.Label} {fields : List (Value × Value)}
    (h : Manifest.resolve body entry = .map label fields) :
    (∃ name, Serves body entry name ∧
        Manifest.firstServed body (entry :: entries) = .ok (some name)) ∨
      (∀ name, ¬ Serves body entry name) ∧
        Manifest.firstServed body (entry :: entries) = Manifest.firstServed body entries := by
  have hsearch : Manifest.firstServed body (entry :: entries) =
      if ((Value.lookup "served" fields).getD (.bool true)).isTruthy &&
          ((Value.lookup "name" fields).getD .null).isTruthy then
        .ok (some ((Value.lookup "name" fields).getD .null))
      else Manifest.firstServed body entries := by
    rw [Manifest.firstServed]
    simp only [h, Manifest.field]
    rfl
  rw [hsearch]
  split
  · rename_i hboth
    obtain ⟨hserved, hgiven⟩ := Bool.and_eq_true_iff.1 hboth
    exact Or.inl ⟨_, (serves_iff h).2 ⟨hserved, rfl, hgiven⟩, rfl⟩
  · rename_i hboth
    refine Or.inr ⟨fun name hserves => hboth ?_, rfl⟩
    obtain ⟨hserved, rfl, hgiven⟩ := (serves_iff h).1 hserves
    exact Bool.and_eq_true_iff.2 ⟨hserved, hgiven⟩

/-- A search that comes to its end has only met mappings up to there. -/
lemma exists_map_of_search {found : Option Value}
    (h : Manifest.firstServed body (entry :: entries) = .ok found) :
    ∃ label fields, Manifest.resolve body entry = .map label fields := by
  rw [Manifest.firstServed] at h
  cases hr : Manifest.resolve body entry with
  | map label fields => exact ⟨label, fields, rfl⟩
  | _ =>
    simp only [hr] at h
    cases h

/-- **The search finds the first version that is served and has a name.** -/
theorem search_ok {found : Option Value} (h : Manifest.firstServed body entries = .ok found) :
    found = none ∧ NoneServed body entries ∨
      ∃ name, found = some name ∧ FirstServed body entries name := by
  induction entries with
  | nil =>
    cases h
    exact Or.inl ⟨rfl, nofun⟩
  | cons entry rest ih =>
    obtain ⟨label, fields, hr⟩ := exists_map_of_search h
    rcases search_map rest hr with ⟨name, hserves, hfound⟩ | ⟨hnot, hrest⟩
    · cases hfound.symm.trans h
      exact Or.inr ⟨name, rfl, firstServed_cons_iff.2 (Or.inl hserves)⟩
    · rcases ih (hrest.symm.trans h) with ⟨rfl, hnone⟩ | ⟨name, rfl, hfirst⟩
      · exact Or.inl ⟨rfl, List.forall_mem_cons.2 ⟨hnot, hnone⟩⟩
      · exact Or.inr ⟨name, rfl, firstServed_cons_iff.2 (Or.inr ⟨hnot, hfirst⟩)⟩

end

/-! ### Definitions that list their versions -/

/-- The body defines a type, and its specification has these versions. -/
structure Lists (body spec : Value) (entries : List Value) : Prop where
  definition : IsDefinition body
  inSpec : Manifest.section? body body "spec" = .ok spec
  listed : ∃ versions label, Manifest.field body spec "versions" = .ok versions ∧
    Manifest.resolve body versions = .list label entries

/-- The kind of the type that a specification names. -/
def servedKind (body spec : Value) : Except Refusal Value := do
  Manifest.field body (← Manifest.section? body spec "names") "kind"

/-- The reference of a definition, once its parts are found. -/
def refer (group kind version name : Value) : Except Refusal ResourceRef :=
  if group.isTruthy && kind.isTruthy && version.isTruthy then
    Manifest.makeRef group kind version name none
  else .error (.unserved name)

section

variable {body spec : Value} {entries : List Value}

lemma exists_field {v w : Value} {known : String} (h : Manifest.field body v known = .ok w)
    (name : String) : ∃ u, Manifest.field body v name = .ok u := by
  unfold Manifest.field at h ⊢
  cases hr : Manifest.resolve body v with
  | map label fields => exact ⟨_, rfl⟩
  | _ =>
    simp only [hr] at h
    cases h

lemma eq_nil_of_falsy {versions : Value} {label : Option Yaml.Label}
    (h : Manifest.resolve body versions = .list label entries)
    (falsy : versions.isTruthy = false) : entries = [] := by
  cases versions with
  | list label' items =>
    obtain ⟨-, rfl⟩ := Value.list.inj h
    simpa [Value.isTruthy] using falsy
  | again l => cases falsy
  | _ => cases h

/-- The single version only counts if the list has none. -/
lemma servedVersion_eq (h : Lists body spec entries) : Manifest.servedVersion body spec = (do
    match ← Manifest.firstServed body entries with
    | some name => return name
    | none => Manifest.field body spec "version") := by
  obtain ⟨versions, label, hfield, hr⟩ := h.listed
  unfold Manifest.servedVersion
  rw [hfield]
  cases ht : versions.isTruthy with
  | true =>
    have helements : Manifest.elements body versions = .ok entries := by
      unfold Manifest.elements
      rw [hr]
    show (do
      let listed ← if versions.isTruthy then
        Manifest.firstServed body (← Manifest.elements body versions) else pure none
      _) = _
    rw [ht, helements]
    rfl
  | false =>
    obtain rfl := eq_nil_of_falsy hr ht
    show (do
      let listed ← if versions.isTruthy then
        Manifest.firstServed body (← Manifest.elements body versions) else pure none
      _) = _
    rw [ht]
    rfl

lemma servedVersion_ok (h : Lists body spec entries) {version : Value}
    (hv : Manifest.servedVersion body spec = .ok version) :
    FirstServed body entries version ∨
      NoneServed body entries ∧ Manifest.field body spec "version" = .ok version := by
  rw [servedVersion_eq h] at hv
  obtain ⟨found, hfound, hv⟩ := bind_ok hv
  rcases search_ok hfound with ⟨rfl, hnone⟩ | ⟨name, rfl, hfirst⟩
  · exact Or.inr ⟨hnone, hv⟩
  · cases hv
    exact Or.inl hfirst

lemma definitionRef_eq {name : Value} : Manifest.definitionRef body name = (do
    let spec ← Manifest.section? body body "spec"
    let kind ← servedKind body spec
    let version ← Manifest.servedVersion body spec
    let group ← Manifest.field body spec "group"
    refer group kind version name) := by
  unfold Manifest.definitionRef servedKind refer
  simp only [bind_assoc]
  rfl

lemma Lists.definitionRef_eq (h : Lists body spec entries) (name : Value) :
    Manifest.definitionRef body name = (do
      let kind ← servedKind body spec
      let version ← Manifest.servedVersion body spec
      let group ← Manifest.field body spec "group"
      refer group kind version name) := by
  rw [ServedVersion.definitionRef_eq, h.inSpec]
  rfl

/-- A body that defines a type is accepted with what it is referred to by. -/
lemma ofValue_eq (h : IsDefinition body) : Manifest.ofValue body = (do
    let apiVersion ← Manifest.field body body "apiVersion"
    let name ← inMetadata body "name"
    if !(apiVersion.isTruthy && name.isTruthy) then throw .incomplete
    return ⟨← Manifest.definitionRef body name, body⟩) := by
  have hkind : Manifest.field body body "kind" = .ok (.text Manifest.definitionKind) := h
  cases body with
  | map label entries =>
    have found (f : Value → Except Refusal Manifest) :
        (Except.ok (.text Manifest.definitionKind) >>= f) = f (.text Manifest.definitionKind) := rfl
    have truthy : (Value.text Manifest.definitionKind).isTruthy = true := by decide
    have isText : Value.isText Manifest.definitionKind (.text Manifest.definitionKind) = true := by
      decide
    unfold Manifest.ofValue inMetadata
    simp only [hkind, found, truthy, isText, bind_assoc, Bool.and_true, if_true]
  | _ => cases hkind

/-- What a definition that is accepted is referred to by. -/
lemma ofValue_ok (h : Lists body spec entries) {m : Manifest}
    (hm : Manifest.ofValue body = .ok m) :
    m.body = body ∧ ∃ group kind version name, Manifest.field body spec "group" = .ok group ∧
      servedKind body spec = .ok kind ∧ Manifest.servedVersion body spec = .ok version ∧
      inMetadata body "name" = .ok name ∧ refer group kind version name = .ok m.ref := by
  rw [ofValue_eq h.definition] at hm
  obtain ⟨apiVersion, -, hm⟩ := bind_ok hm
  obtain ⟨name, hname, hm⟩ := bind_ok hm
  split at hm
  · cases hm
  · obtain ⟨ref, href, hm⟩ := bind_ok hm
    cases hm
    rw [h.definitionRef_eq] at href
    obtain ⟨kind, hkind, href⟩ := bind_ok href
    obtain ⟨version, hversion, href⟩ := bind_ok href
    obtain ⟨group, hgroup, href⟩ := bind_ok href
    exact ⟨rfl, group, kind, version, name, hgroup, hkind, hversion, hname, href⟩

lemma refer_ok {group kind version name : Value} {ref : ResourceRef}
    (h : refer group kind version name = .ok ref) : version.isTruthy = true ∧
      Manifest.makeRef group kind version name none = .ok ref := by
  unfold refer at h
  split at h
  · rename_i hall
    exact ⟨(Bool.and_eq_true_iff.1 hall).2, h⟩
  · cases h

end

/-! ### Main result -/

/-- What the parser makes of a text, or of bytes, that hold a document. -/
inductive Read (body : Value) : Except Refusal Manifest → Prop
  | text {s : String} (h : Yaml.load s = .ok body) : Read body (Manifest.ofText s)
  | bytes {b : List UInt8} {s : String} (decoded : Yaml.decode b = .ok s)
    (h : Yaml.load s = .ok body) : Read body (Manifest.ofBytes b)

lemma Read.eq {body : Value} {parsed : Except Refusal Manifest} (h : Read body parsed) :
    parsed = Manifest.ofValue body := by
  cases h with
  | text h => exact congrArg Manifest.ofRead h
  | bytes decoded h =>
    rw [Manifest.ofBytes, decoded]
    exact congrArg Manifest.ofRead h

section

variable {body spec : Value} {entries : List Value}

end

/-! ### Versions that are kept back -/

/-- The entry is a version of this name, of which this is said about being served. -/
def isVersion (served : Option Value → Bool) (name : String) : Value → Bool
  | .map _ fields => served (Value.lookup "served" fields) &&
      (Value.lookup "name" fields).any (Value.isText name)
  | _ => false

/-- The entry is a version of this name that is not served. -/
def isKeptBack : String → Value → Bool := isVersion (·.any (!·.isTruthy))

/-- The entry is a version of this name and says no more. -/
def isOffered : String → Value → Bool := isVersion (·.isNone)

/-- The definition of things, referred to by a version. -/
def isThing (version : String) (versions : List Value → Bool) (m : Manifest) : Bool :=
  m.ref == ⟨"example.com", "Thing", version, "things.example.com", none⟩ &&
    states Manifest.definitionKind (kindOf m.body) &&
    states "things.example.com" (inMetadata m.body "name") &&
    match Manifest.section? m.body m.body "spec" with
    | .ok spec =>
      states "example.com" (Manifest.field m.body spec "group") &&
        states "Thing" (servedKind m.body spec) &&
        match Manifest.field m.body spec "versions" with
        | .ok (.list _ entries) => versions entries
        | _ => false
    | .error _ => false

/-- The manifest defines things, with these versions. -/
structure Thing (m : Manifest) (spec : Value) (entries : List Value) : Prop where
  lists : Lists m.body spec entries
  named : inMetadata m.body "name" = .ok (.text "things.example.com")
  hasGroup : Manifest.field m.body spec "group" = .ok (.text "example.com")
  hasKind : servedKind m.body spec = .ok (.text "Thing")

section

variable {body entry : Value} {entries : List Value} {name : String}

lemma exists_map_of_isVersion {served : Option Value → Bool}
    (h : isVersion served name entry = true) :
    ∃ label fields, Manifest.resolve body entry = .map label fields := by
  cases entry with
  | map label fields => exact ⟨label, fields, rfl⟩
  | _ => cases h

lemma not_serves_of_isKeptBack (h : isKeptBack name entry = true) (n : Value) :
    ¬ Serves body entry n := by
  cases entry with
  | map label fields =>
    obtain ⟨hserved, -⟩ := Bool.and_eq_true_iff.1 h
    obtain ⟨v, hv, hfalsy⟩ := (Option.any_eq_true _ _).1 hserved
    intro hserves
    have htruthy := hserves.served v hv
    simp [htruthy] at hfalsy
  | _ => cases h

lemma serves_of_isOffered (h : isOffered name entry = true) (hn : name ≠ "") :
    Serves body entry (.text name) := by
  cases entry with
  | map label fields =>
    obtain ⟨hserved, hname⟩ := Bool.and_eq_true_iff.1 h
    have hnone : Value.lookup "served" fields = none := Option.isNone_iff_eq_none.1 hserved
    refine ⟨fun v hv => ?_, eq_some_of_any hname, by simpa [Value.isTruthy] using hn⟩
    cases hnone.symm.trans hv
  | _ => cases h

lemma thing_of_isThing {version : String} {versions : List Value → Bool} {m : Manifest}
    (h : isThing version versions m = true) : m.ref.version = version ∧
      ∃ spec entries, Thing m spec entries ∧ versions entries = true := by
  unfold isThing at h
  simp only [Bool.and_eq_true, beq_iff_eq] at h
  obtain ⟨⟨⟨href, hkind⟩, hname⟩, h⟩ := h
  split at h
  · rename_i spec hspec
    simp only [Bool.and_eq_true] at h
    obtain ⟨⟨hgroup, hserved⟩, h⟩ := h
    split at h
    · rename_i label entries hversions
      have lists : Lists m.body spec entries :=
        ⟨eq_of_states hkind, hspec, _, label, hversions, rfl⟩
      exact ⟨by rw [href], spec, entries,
        ⟨lists, eq_of_states hname, eq_of_states hgroup, eq_of_states hserved⟩, h⟩
    · cases h
  · cases h

end

/-- A definition of which the first version is kept back, although it is named beside the list. -/
def skippingText : String :=
  "\n".intercalate ["apiVersion: apiextensions.k8s.io/v1", "kind: CustomResourceDefinition",
    "metadata:", "  name: things.example.com", "spec:", "  group: example.com",
    "  version: v1alpha1", "  names:", "    kind: Thing", "  versions:", "  - name: v1alpha1",
    "    served: false", "  - name: v1", ""]

def skips : List Value → Bool
  | [first, second] => isKeptBack "v1alpha1" first && isOffered "v1" second
  | _ => false

lemma exists_of_isThing {text version : String} {versions : List Value → Bool}
    (h : Bundled.holds (isThing version versions) (Bundled.ofChars text.toList) = true) :
    ∃ m spec entries, Manifest.ofText text = .ok m ∧ m.ref.version = version ∧
      Thing m spec entries ∧ versions entries = true := by
  obtain ⟨m, hm, hc⟩ := Bundled.exists_of_holds h
  rw [← Bundled.ofText_eq] at hm
  obtain ⟨href, spec, entries, thing, hversions⟩ := thing_of_isThing hc
  exact ⟨m, spec, entries, hm, href, thing, hversions⟩

lemma exists_skipping : ∃ m spec entries, Manifest.ofText skippingText = .ok m ∧
    Thing m spec entries ∧ FirstServed m.body entries (.text "v1") ∧
      ∀ e ∈ entries, ∃ label fields, Manifest.resolve m.body e = .map label fields := by
  have h : Bundled.holds (isThing "v1" skips) (Bundled.ofChars skippingText.toList) = true := by
    unfold skippingText
    rw [String.toList_intercalate]
    repeat rw [Bundled.map_toList_cons]
    decide +kernel
  obtain ⟨m, spec, entries, hm, -, thing, hskips⟩ := exists_of_isThing h
  unfold skips at hskips
  split at hskips
  · rename_i first second
    obtain ⟨hfirst, hsecond⟩ := Bool.and_eq_true_iff.1 hskips
    have hbefore : NoneServed m.body [first] :=
      List.forall_mem_singleton.2 (not_serves_of_isKeptBack hfirst)
    have hserves : Serves m.body second (.text "v1") := serves_of_isOffered hsecond (by decide)
    refine ⟨m, spec, _, hm, thing, ⟨[first], second, [], rfl, hbefore, hserves⟩, ?_⟩
    exact List.forall_mem_cons.2 ⟨exists_map_of_isVersion hfirst,
      List.forall_mem_singleton.2 (exists_map_of_isVersion hsecond)⟩
  · cases hskips

end Testbed.ServedVersion
