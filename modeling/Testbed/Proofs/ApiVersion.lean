import Mathlib
import Testbed.Proofs.Refusals

/-!
Group and version in one text.

A text is split at its first slash, and group and version are joined by one unless the group is
empty. What is lost on the way is exactly a slash at the start of a text, a slash in a group, and a
slash in a version without a group. So the texts of manifests that are accepted stand for their
groups and versions as long as they begin with something else.
-/

namespace Testbed.ApiVersion

open AllOrNothing (IsDefinition)
open Refusals (Raw SplitsInto Describes describes_of_ofValue splitsInto)
open ResourceRef (splitApiVersion)

/-! ### Splitting -/

section

variable {s group version group' version' : String}

/-- What stands before the first slash and after it is found only once. -/
lemma eq_of_slashes {a b c d : List Char} (h : a ++ '/' :: b = c ++ '/' :: d) (ha : '/' ∉ a)
    (hc : '/' ∉ c) : a = c ∧ b = d := by
  induction a generalizing c with
  | nil =>
    cases c with
    | nil => exact ⟨rfl, List.tail_eq_of_cons_eq h⟩
    | cons ch c =>
      obtain rfl : '/' = ch := List.head_eq_of_cons_eq h
      exact absurd (List.mem_cons_self ..) hc
  | cons ch a ih =>
    cases c with
    | nil =>
      obtain rfl : ch = '/' := List.head_eq_of_cons_eq h
      exact absurd (List.mem_cons_self ..) ha
    | cons ch' c =>
      obtain rfl : ch = ch' := List.head_eq_of_cons_eq h
      obtain ⟨rfl, rfl⟩ := ih (List.tail_eq_of_cons_eq h) (fun hm => ha (List.mem_cons_of_mem _ hm))
        fun hm => hc (List.mem_cons_of_mem _ hm)
      exact ⟨rfl, rfl⟩

lemma toList_joined (group version : String) :
    (group ++ "/" ++ version).toList = group.toList ++ '/' :: version.toList := by
  simp

lemma slash_mem_joined (group version : String) : '/' ∈ (group ++ "/" ++ version).toList := by
  simp

/-- A text is split in one way only. -/
lemma splitsInto_unique (h : SplitsInto s group version) (h' : SplitsInto s group' version') :
    group = group' ∧ version = version' := by
  rcases h with ⟨rfl, rfl, hslash⟩ | ⟨rfl, hgroup⟩
  · rcases h' with ⟨rfl, rfl, -⟩ | ⟨rfl, -⟩
    · exact ⟨rfl, rfl⟩
    · exact absurd (slash_mem_joined _ _) hslash
  · rcases h' with ⟨-, -, hslash⟩ | ⟨hs, hgroup'⟩
    · exact absurd (slash_mem_joined _ _) hslash
    · have hchars := congrArg String.toList hs
      rw [toList_joined, toList_joined] at hchars
      obtain ⟨hg, hv⟩ := eq_of_slashes hchars hgroup hgroup'
      exact ⟨String.toList_injective hg, String.toList_injective hv⟩

lemma split_eq_iff : splitApiVersion s = (group, version) ↔ SplitsInto s group version := by
  constructor
  · intro h
    have hsplits := splitsInto s
    rwa [h] at hsplits
  · intro h
    obtain ⟨hg, hv⟩ := splitsInto_unique (splitsInto s) h
    exact Prod.ext hg hv

end

/-! ### Joining what was split -/

/-- The text begins with a slash. -/
def Rooted (s : String) : Prop := s.toList.head? = some '/'

instance (s : String) : Decidable (Rooted s) := inferInstanceAs (Decidable (_ = _))

/-- The reference, with group and version taken from a text. -/
def versioned (s : String) (r : ResourceRef) : ResourceRef :=
  { r with group := (splitApiVersion s).1, version := (splitApiVersion s).2 }

section

variable {s : String} {r : ResourceRef}

lemma apiVersion_core (h : r.group = "") : r.apiVersion = r.version := if_pos h

lemma apiVersion_grouped (h : r.group ≠ "") : r.apiVersion = r.group ++ "/" ++ r.version :=
  if_neg h

lemma not_rooted_of_not_mem (h : '/' ∉ s.toList) : ¬ Rooted s :=
  fun hrooted => h (List.mem_of_head? hrooted)

/-- The slash at the start of a text is lost, since the group is empty then. -/
lemma apiVersion_eq_iff (h : SplitsInto s r.group r.version) : r.apiVersion = s ↔ ¬ Rooted s := by
  rcases h with ⟨hcore, hversion, hslash⟩ | ⟨hs, hslash⟩
  · rw [apiVersion_core hcore, hversion]
    exact iff_of_true rfl (not_rooted_of_not_mem hslash)
  · by_cases hcore : r.group = ""
    · have hchars : s.toList = '/' :: r.version.toList := by
        rw [hs, toList_joined, hcore]
        rfl
      have hrooted : Rooted s := by
        unfold Rooted
        rw [hchars]
        rfl
      rw [apiVersion_core hcore]
      refine iff_of_false (fun he => ?_) (not_not_intro hrooted)
      have hlength := congrArg List.length hchars
      rw [← he] at hlength
      simp at hlength
    · rw [apiVersion_grouped hcore, ← hs]
      refine iff_of_true rfl fun hrooted => hslash ?_
      have hne : r.group.toList ≠ [] := mt String.toList_eq_nil_iff.1 hcore
      have hhead : r.group.toList.head? = some '/' := by
        rw [← List.head?_append_of_ne_nil _ hne, ← toList_joined, ← hs]
        exact hrooted
      exact List.mem_of_head? hhead

end

/-! ### Splitting what was joined -/

/-- Group and version can be told apart: there is no slash in the group, nor in a version without
one. -/
structure Separable (r : ResourceRef) : Prop where
  group : '/' ∉ r.group.toList
  core : r.group = "" → '/' ∉ r.version.toList

lemma splitsInto_apiVersion_iff (r : ResourceRef) :
    SplitsInto r.apiVersion r.group r.version ↔ Separable r := by
  by_cases hcore : r.group = ""
  · rw [apiVersion_core hcore]
    constructor
    · rintro (⟨-, -, hslash⟩ | ⟨hs, -⟩)
      · exact ⟨by simp [hcore], fun _ => hslash⟩
      · have hlength := congrArg String.length hs
        simp at hlength
    · intro h
      exact .inl ⟨hcore, rfl, h.core hcore⟩
  · rw [apiVersion_grouped hcore]
    constructor
    · rintro (⟨hempty, -⟩ | ⟨-, hslash⟩)
      · exact absurd hempty hcore
      · exact ⟨hslash, fun hempty => absurd hempty hcore⟩
    · intro h
      exact .inr ⟨rfl, h.group⟩

/-! ### Manifests -/

/-- The manifest is accepted, and describes an object that defines no type. -/
structure IsObject (m : Manifest) : Prop where
  accepted : ∃ raw : Raw, raw.parse = .ok m
  other : ¬ IsDefinition m.body

/-- The body has this text for its group and version. -/
def States (m : Manifest) (s : String) : Prop :=
  Manifest.field m.body m.body "apiVersion" = .ok (.text s)

section

variable {m m' : Manifest} {s s' : String}

lemma exists_stated (h : IsObject m) :
    ∃ s, States m s ∧ SplitsInto s m.ref.group m.ref.version := by
  obtain ⟨raw, hraw⟩ := h.accepted
  obtain ⟨-, describes⟩ := describes_of_ofValue (Raw.parse_ok hraw).2
  cases describes with
  | definition given => exact absurd given.kind.eq h.other
  | object given _ split => exact ⟨_, given.apiVersion.eq, split⟩

lemma splitsInto_of_states (h : IsObject m) (hs : States m s) :
    SplitsInto s m.ref.group m.ref.version := by
  obtain ⟨s', hs', split⟩ := exists_stated h
  obtain rfl : s = s' := Yaml.Value.text.inj (Except.ok.inj (hs.symm.trans hs'))
  exact split

lemma apiVersion_congr {r r' : ResourceRef} (hg : r.group = r'.group)
    (hv : r.version = r'.version) : r.apiVersion = r'.apiVersion := by
  unfold ResourceRef.apiVersion
  rw [hg, hv]

end

/-- **What splitting and joining keep.** A text is joined again from its parts exactly if it does
not begin with a slash, and group and version are split again exactly if they are separable. The
reference of an object that is accepted has the group and version of its body, so that two of them
agree exactly if their bodies do, apart from texts that begin with a slash. -/
theorem split_join_exact :
    (∀ (s : String) (r : ResourceRef), (versioned s r).apiVersion = s ↔ ¬ Rooted s) ∧
    (∀ r : ResourceRef, splitApiVersion r.apiVersion = (r.group, r.version) ↔ Separable r) ∧
    (∀ m, IsObject m → ∃ s, States m s ∧ (m.ref.apiVersion = s ↔ ¬ Rooted s)) ∧
    ∀ m m' s s', IsObject m → IsObject m' → States m s → States m' s' → ¬ Rooted s → ¬ Rooted s' →
      (m.ref.group = m'.ref.group ∧ m.ref.version = m'.ref.version ↔ s = s') := by
  refine ⟨fun s r => apiVersion_eq_iff (splitsInto s), fun r => ?_, fun m h => ?_, ?_⟩
  · rw [split_eq_iff, splitsInto_apiVersion_iff]
  · obtain ⟨s, hs, split⟩ := exists_stated h
    exact ⟨s, hs, apiVersion_eq_iff split⟩
  · intro m m' s s' h h' hs hs' free free'
    have split := splitsInto_of_states h hs
    have split' := splitsInto_of_states h' hs'
    constructor
    · rintro ⟨hg, hv⟩
      rw [← (apiVersion_eq_iff split).2 free, ← (apiVersion_eq_iff split').2 free']
      exact apiVersion_congr hg hv
    · rintro rfl
      exact splitsInto_unique split split'

/-- A configuration that only has a name, of the core of the interface. -/
def plainText : String := "apiVersion: v1\nkind: ConfigMap\nmetadata:\n  name: settings\n"

/-- Whether the manifest is of such a kind, with this text for its group and version. -/
def isOf (kind apiVersion : String) (m : Manifest) : Bool :=
  Bundled.states kind (AllOrNothing.kindOf m.body) &&
    Bundled.states apiVersion (Manifest.field m.body m.body "apiVersion")

lemma isObject_of_isOf {text kind apiVersion : String} {m : Manifest}
    (hm : Manifest.ofText text = .ok m) (h : isOf kind apiVersion m = true)
    (hkind : kind ≠ Manifest.definitionKind) : IsObject m ∧ States m apiVersion := by
  obtain ⟨hk, hv⟩ := Bool.and_eq_true_iff.1 h
  refine ⟨⟨⟨.text text, hm⟩, fun hd => hkind ?_⟩, Bundled.eq_of_states hv⟩
  exact Yaml.Value.text.inj (Except.ok.inj ((Bundled.eq_of_states hk).symm.trans hd))

/-- A role and a configuration are of different groups, as their bodies say. -/
theorem role_and_settings_apart : ∃ m m', Manifest.ofText SameObject.editorText = .ok m ∧
    Manifest.ofText plainText = .ok m' ∧ m.ref.apiVersion = "rbac.authorization.k8s.io/v1" ∧
      m'.ref.apiVersion = "v1" ∧ ¬ (m.ref.group = m'.ref.group ∧ m.ref.version = m'.ref.version) := by
  have hrole : Bundled.holds (isOf "Role" "rbac.authorization.k8s.io/v1")
      (Bundled.ofChars SameObject.editorText.toList) = true := by
    unfold SameObject.editorText
    rw [String.toList_intercalate]
    repeat rw [Bundled.map_toList_cons]
    decide +kernel
  have hsettings : Bundled.holds (isOf "ConfigMap" "v1")
      (Bundled.ofChars plainText.toList) = true := by
    decide +kernel
  obtain ⟨m, hm, hof⟩ := Bundled.exists_of_holds hrole
  obtain ⟨m', hm', hof'⟩ := Bundled.exists_of_holds hsettings
  rw [← Bundled.ofText_eq] at hm hm'
  obtain ⟨object, hs⟩ := isObject_of_isOf hm hof (by decide)
  obtain ⟨object', hs'⟩ := isObject_of_isOf hm' hof' (by decide)
  have free : ¬ Rooted "rbac.authorization.k8s.io/v1" := by decide
  have free' : ¬ Rooted "v1" := by decide
  obtain ⟨-, -, joined, agree⟩ := split_join_exact
  refine ⟨m, m', hm, hm', ?_, ?_, mt (agree m m' _ _ object object' hs hs' free free').1 (by decide)⟩
  · obtain ⟨s, hstated, hjoined⟩ := joined m object
    obtain rfl := Yaml.Value.text.inj (Except.ok.inj (hs.symm.trans hstated))
    exact hjoined.2 free
  · obtain ⟨s, hstated, hjoined⟩ := joined m' object'
    obtain rfl := Yaml.Value.text.inj (Except.ok.inj (hs'.symm.trans hstated))
    exact hjoined.2 free'

/-- Two texts that a slash at the start keeps apart have the same parts. -/
example : splitApiVersion "/v1" = splitApiVersion "v1" := by decide

end Testbed.ApiVersion
