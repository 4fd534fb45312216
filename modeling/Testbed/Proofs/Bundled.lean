import Mathlib
import Testbed.Install.Setup
import Testbed.Proofs.Naming

/-!
The bundled manifests that setting up a cluster installs.

Each is read once, by evaluation; what it names and serves is then known as propositions.
-/

namespace Testbed.Bundled

open Yaml (Value)
open Naming (Names)

/-! ### Reading a bundled text -/

/-- The manifest of a text that is given as its characters. -/
def ofChars (chars : List Char) : Except Refusal Manifest :=
  Manifest.ofRead do
    if chars.all Yaml.isAllowed then
      match ← Yaml.Node.ofText chars with
      | none => return .null
      | some node => node.value
    else throw (.malformed "found a character that is not allowed")

lemma ofText_eq (text : String) : Manifest.ofText text = ofChars text.toList := rfl

lemma map_toList_cons (line : List Char) (lines : List String) :
    (String.ofList line :: lines).map String.toList = line :: lines.map String.toList := by
  rw [List.map_cons, String.toList_ofList]

/-- Whether there is a manifest, and a check accepts it. -/
def holds (check : Manifest → Bool) : Except Refusal Manifest → Bool
  | .ok m => check m
  | .error _ => false

lemma exists_of_holds {check : Manifest → Bool} {x : Except Refusal Manifest}
    (h : holds check x = true) : ∃ m, x = .ok m ∧ check m = true := by
  cases x with
  | error e => cases h
  | ok m => exact ⟨m, rfl, h⟩

lemma load_of_holds {name text : String} {check : Manifest → Bool}
    (hl : Bundle.files.lookup name = some text) (h : holds check (ofChars text.toList) = true) :
    ∃ m, Bundle.load name = .ok m ∧ check m = true := by
  unfold Bundle.load
  rw [hl]
  show ∃ m, Manifest.ofText text = .ok m ∧ check m = true
  rw [ofText_eq]
  exact exists_of_holds h

/-- Whether something that is looked up is a given text. -/
def states (text : String) : Except Refusal Value → Bool
  | .ok v => v.isText text
  | .error _ => false

lemma eq_of_states {text : String} {x : Except Refusal Value} (h : states text x = true) :
    x = .ok (.text text) := by
  cases x with
  | error e => cases h
  | ok v => rw [Naming.isText_iff.1 h]

lemma eq_some_of_any {v : Option Value} {text : String} (h : v.any (Value.isText text) = true) :
    v = some (.text text) := by
  cases v with
  | none => cases h
  | some v => rw [Naming.isText_iff.1 h]

/-! ### Definitions of types -/

/-- The version of the types of this testbed. -/
def version : String := "v1alpha1"

/-- The manifest defines a type of this testbed. -/
structure Defines (m : Manifest) (kind name : String) : Prop where
  names : Names m .definition none name
  ref : m.ref = ⟨Install.ownGroup, kind, version, name, none⟩
  served : ∀ {τ : Type} (since : τ),
    Store.definedBy m.body since = [⟨Install.ownGroup, version, [.text kind], since⟩]

def servesOnly (kind : String) : List (Served Unit) → Bool
  | [⟨group, v, [k], _⟩] => group == Install.ownGroup && v == version && k.isText kind
  | _ => false

def isDefinition (kind name : String) (m : Manifest) : Bool :=
  m.ref == ⟨Install.ownGroup, kind, version, name, none⟩ &&
    states Manifest.definitionKind (Manifest.field m.body m.body "kind") &&
    (Naming.nameIn m.body).any (Value.isText name) && servesOnly kind (Store.definedBy m.body ())

/-- The time from which on a type is served is just handed on. -/
lemma definedBy_eq_map {τ : Type} (body : Value) (since : τ) :
    Store.definedBy body since =
      (Store.definedBy body ()).map fun e => ⟨e.group, e.version, e.kinds, since⟩ := by
  unfold Store.definedBy
  cases Store.field body "spec" body with
  | none => rfl
  | some spec =>
    simp only
    split
    · rw [List.map_filterMap]
      congr 1
      funext v
      split
      · split <;> rfl
      · rfl
    · rfl

lemma defines_of_isDefinition {kind name : String} {m : Manifest}
    (h : isDefinition kind name m = true) : Defines m kind name := by
  unfold isDefinition at h
  simp only [Bool.and_eq_true, beq_iff_eq] at h
  obtain ⟨⟨⟨href, hkind⟩, hname⟩, hserved⟩ := h
  have named : Naming.nameIn m.body = some (.text name) := eq_some_of_any hname
  refine ⟨⟨eq_of_states hkind, rfl, by simp, named, by simp, by simp, by simp [Route.isNamespaced]⟩,
    href, fun since => ?_⟩
  rw [definedBy_eq_map]
  unfold servesOnly at hserved
  split at hserved
  · rename_i group v k _ hd
    simp only [Bool.and_eq_true, beq_iff_eq] at hserved
    obtain ⟨⟨rfl, rfl⟩, hk⟩ := hserved
    rw [hd, Naming.isText_iff.1 hk]
    rfl
  · cases hserved

theorem load_instance : ∃ m, Bundle.load "crd-instance.yaml" = .ok m ∧
    Defines m "Instance" "instances.yaks.citrusframework.org" := by
  have hl : Bundle.files.lookup "crd-instance.yaml" = some Bundle.instanceDefinition := by
    with_reducible simp only [Bundle.files, List.lookup_cons_self]
  have h : holds (isDefinition "Instance" "instances.yaks.citrusframework.org")
      (ofChars Bundle.instanceDefinition.toList) = true := by
    unfold Bundle.instanceDefinition
    rw [String.toList_intercalate]
    repeat rw [map_toList_cons]
    decide +kernel
  obtain ⟨m, hm, hc⟩ := load_of_holds hl h
  exact ⟨m, hm, defines_of_isDefinition hc⟩

theorem load_test : ∃ m, Bundle.load "crd-test.yaml" = .ok m ∧
    Defines m "Test" "tests.yaks.citrusframework.org" := by
  have hl : Bundle.files.lookup "crd-test.yaml" = some Bundle.testDefinition := by
    with_reducible simp only [Bundle.files, List.lookup, String.reduceBEq]
  have h : holds (isDefinition "Test" "tests.yaks.citrusframework.org")
      (ofChars Bundle.testDefinition.toList) = true := by
    unfold Bundle.testDefinition
    rw [String.toList_intercalate]
    repeat rw [map_toList_cons]
    decide +kernel
  obtain ⟨m, hm, hc⟩ := load_of_holds hl h
  exact ⟨m, hm, defines_of_isDefinition hc⟩

/-! ### The role of users -/

lemma lookup_insert_of_ne {name other : String} (h : name ≠ other) (v : Value)
    (entries : List (Value × Value)) :
    Value.lookup name (Value.insert (.text other) v entries) = Value.lookup name entries := by
  have hother : ¬ (Value.text other).key? = some (.text name) := by
    simpa [Value.key?] using fun he => h he.symm
  induction entries with
  | nil => simp only [Value.insert, Value.lookup, hother, if_false]
  | cons e rest ih =>
    obtain ⟨k, w⟩ := e
    by_cases hk : k.key? = (Value.text other).key?
    · simp only [Value.insert, hk, if_true, Value.lookup, hother, if_false]
    · simp only [Value.insert, hk, if_false, Value.lookup, ih]

lemma setIn_map {part name : String} {v : Value} {label label' : Option Yaml.Label}
    {entries inner : List (Value × Value)}
    (h : Value.lookup part entries = some (.map label' inner)) :
    Install.setIn part name v (.map label entries) = .map label
      (Value.insert (.text part) (.map label' (Value.insert (.text name) v inner)) entries) := by
  unfold Install.setIn
  simp only [h]
  rfl

/-- The reference of a role for the whole cluster. -/
def roleRef (name : String) : ResourceRef :=
  ⟨"rbac.authorization.k8s.io", "ClusterRole", "v1", name, none⟩

def isRole (m : Manifest) : Bool :=
  m.ref == roleRef "yaks:edit" && states "ClusterRole" (Manifest.field m.body m.body "kind") &&
    match m.body with
    | .map _ entries =>
      match Value.lookup "metadata" entries with
      | some (.map _ _) => true
      | _ => false
    | _ => false

/-- The manifest grants a role for the whole cluster. -/
structure Grants (m : Manifest) (name : String) : Prop where
  names : Names m .clusterRole none name
  ref : m.ref = roleRef name

/-- A new name reaches both reference and body. -/
lemma grants_renamed {m : Manifest} (h : isRole m = true) (name : String) :
    Grants (Install.renamed name m) name := by
  unfold isRole at h
  obtain ⟨ref, body⟩ := m
  simp only [Bool.and_eq_true, beq_iff_eq] at h
  obtain ⟨⟨rfl, hkind⟩, hbody⟩ := h
  split at hbody
  · rename_i label entries
    split at hbody
    · rename_i label' inner hmeta
      refine ⟨⟨?_, rfl, by simp, ?_, fun _ => rfl, fun _ => rfl, fun hs => by cases hs⟩, rfl⟩
      · have hk := eq_of_states hkind
        unfold Install.renamed
        rw [setIn_map hmeta]
        simp only [Manifest.field, Manifest.resolve] at hk ⊢
        rw [lookup_insert_of_ne (by decide)]
        exact hk
      · unfold Install.renamed
        rw [setIn_map hmeta]
        simp only [Naming.nameIn, Store.field, Manifest.resolve, Value.lookup_insert_self,
          Option.bind_some]
    · cases hbody
  · cases hbody

theorem load_role : ∃ m, Bundle.load "user-cluster-role.yaml" = .ok m ∧
    ∀ name, Grants (Install.renamed name m) name := by
  have hl : Bundle.files.lookup "user-cluster-role.yaml" = some Bundle.userClusterRole := by
    with_reducible simp only [Bundle.files, List.lookup, String.reduceBEq]
  have h : holds isRole (ofChars Bundle.userClusterRole.toList) = true := by
    unfold Bundle.userClusterRole
    rw [String.toList_intercalate]
    repeat rw [map_toList_cons]
    decide +kernel
  obtain ⟨m, hm, hc⟩ := load_of_holds hl h
  exact ⟨m, hm, grants_renamed hc⟩

end Testbed.Bundled
