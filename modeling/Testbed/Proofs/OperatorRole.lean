import Mathlib
import Testbed.Proofs.Bundled

/-!
The bundled manifests that give the operator its rights in a namespace.

Both bodies are mappings with a mapping for their metadata, and stay so when they are placed in a
namespace or bound to an account.
-/

namespace Testbed.Bundled

open Yaml (Value)
open Naming (Names)

/-! ### Plain bodies -/

/-- A body that gives its kind and its name without references to other parts of it. -/
structure Plain (body : Value) (kind name : String) : Prop where
  parts : ∃ label entries label' inner, body = .map label entries ∧
    Value.lookup "kind" entries = some (.text kind) ∧
    Value.lookup "metadata" entries = some (.map label' inner) ∧
    Value.lookup "name" inner = some (.text name)

namespace Plain

variable {body : Value} {kind name : String}

lemma kind_eq (h : Plain body kind name) :
    Manifest.field body body "kind" = .ok (.text kind) := by
  obtain ⟨label, entries, label', inner, rfl, hkind, -, -⟩ := h.parts
  simp only [Manifest.field, Manifest.resolve, hkind, Option.getD_some]

lemma nameIn_eq (h : Plain body kind name) : Naming.nameIn body = some (.text name) := by
  obtain ⟨label, entries, label', inner, rfl, -, hmeta, hname⟩ := h.parts
  simp only [Naming.nameIn, Store.field, Manifest.resolve, hmeta, Option.bind_some, hname]

/-- Another field of the metadata leaves kind and name. -/
lemma setIn (h : Plain body kind name) {part : String} (hp : part ≠ "name") (v : Value) :
    Plain (Install.setIn "metadata" part v body) kind name := by
  obtain ⟨label, entries, label', inner, rfl, hkind, hmeta, hname⟩ := h.parts
  rw [setIn_map hmeta]
  refine ⟨label, _, label', _, rfl, ?_, Value.lookup_insert_self _ _ _, ?_⟩
  · rwa [lookup_insert_of_ne (by decide)]
  · rwa [lookup_insert_of_ne hp.symm]

/-- Other subjects leave kind and name. -/
lemma bound {m : Manifest} (h : Plain m.body kind name) (account ns : String) :
    Plain (Install.bound account ns m).body kind name := by
  unfold Install.bound
  split
  · rename_i label entries hbody
    split
    · obtain ⟨_, _, label', inner, hbody', hkind, hmeta, hname⟩ := h.parts
      obtain ⟨rfl, rfl⟩ := Value.map.inj (hbody.symm.trans hbody')
      refine ⟨label, _, label', inner, rfl, ?_, ?_, hname⟩
      · rwa [lookup_insert_of_ne (by decide)]
      · rwa [lookup_insert_of_ne (by decide)]
    · exact h
  · exact h

end Plain

lemma ref_bound (account ns : String) (m : Manifest) :
    (Install.bound account ns m).ref = m.ref := by
  unfold Install.bound
  split
  · split <;> rfl
  · rfl

/-! ### The role of the operator -/

/-- The name of the role of the operator, and of who has it. -/
def operatorName : String := "yaks"

def operatorRef (route : Route) (ns : Option String) : ResourceRef :=
  ⟨"rbac.authorization.k8s.io", route.kind, "v1", operatorName, ns⟩

/-- The manifest is about the rights of the operator in some namespace. -/
structure Permits (m : Manifest) (route : Route) : Prop where
  ref : m.ref = operatorRef route none
  plain : Plain m.body route.kind operatorName

def isPermission (route : Route) (m : Manifest) : Bool :=
  m.ref == operatorRef route none &&
    match m.body with
    | .map _ entries =>
      (Value.lookup "kind" entries).any (Value.isText route.kind) &&
        match Value.lookup "metadata" entries with
        | some (.map _ inner) => (Value.lookup "name" inner).any (Value.isText operatorName)
        | _ => false
    | _ => false

lemma permits_of_isPermission {route : Route} {m : Manifest} (h : isPermission route m = true) :
    Permits m route := by
  unfold isPermission at h
  simp only [Bool.and_eq_true, beq_iff_eq] at h
  obtain ⟨href, hbody⟩ := h
  refine ⟨href, ?_⟩
  split at hbody
  · rename_i label entries hmap
    rw [Bool.and_eq_true] at hbody
    obtain ⟨hkind, hmeta⟩ := hbody
    split at hmeta
    · rename_i label' inner hinner
      exact ⟨label, entries, label', inner, hmap, eq_some_of_any hkind, hinner,
        eq_some_of_any hmeta⟩
    · cases hmeta
  · cases hbody

/-- The manifest is about the rights of the operator in one namespace. -/
structure PermitsIn (m : Manifest) (route : Route) (ns : String) : Prop where
  names : Names m route (some ns) operatorName
  ref : m.ref = operatorRef route (some ns)

section

variable {m : Manifest} {route : Route} {ns : String}

lemma permitsIn_of_plain (hroute : route.isNamespaced = true) (hns : ns ≠ "")
    (href : m.ref = operatorRef route (some ns)) (h : Plain m.body route.kind operatorName) :
    PermitsIn m route ns :=
  ⟨⟨h.kind_eq, hroute, by simpa using hns, h.nameIn_eq, fun _ => by rw [href]; rfl,
    fun _ => by rw [href]; rfl, fun _ => by rw [href]; rfl⟩, href⟩

lemma Permits.ref_placed (h : Permits m route) (ns : String) :
    (Install.placed ns m).ref = operatorRef route (some ns) := by
  unfold Install.placed
  rw [h.ref]
  rfl

lemma Permits.plain_placed (h : Permits m route) (ns : String) :
    Plain (Install.placed ns m).body route.kind operatorName := h.plain.setIn (by decide) _

/-- A new namespace reaches both reference and body. -/
lemma Permits.placed (h : Permits m route) (hroute : route.isNamespaced = true) (hns : ns ≠ "") :
    PermitsIn (Install.placed ns m) route ns :=
  permitsIn_of_plain hroute hns (h.ref_placed ns) (h.plain_placed ns)

lemma Permits.bound (h : Permits m route) (hroute : route.isNamespaced = true) (hns : ns ≠ "")
    (account : String) : PermitsIn (Install.bound account ns (Install.placed ns m)) route ns :=
  permitsIn_of_plain hroute hns ((ref_bound _ _ _).trans (h.ref_placed ns))
    ((h.plain_placed ns).bound account ns)

end

theorem load_operatorRole : ∃ m, Bundle.load "role.yaml" = .ok m ∧ Permits m .role := by
  have hl : Bundle.files.lookup "role.yaml" = some Bundle.operatorRole := by
    with_reducible simp only [Bundle.files, List.lookup, String.reduceBEq]
  have h : holds (isPermission .role) (ofChars Bundle.operatorRole.toList) = true := by
    unfold Bundle.operatorRole
    rw [String.toList_intercalate]
    repeat rw [map_toList_cons]
    decide +kernel
  obtain ⟨m, hm, hc⟩ := load_of_holds hl h
  exact ⟨m, hm, permits_of_isPermission hc⟩

theorem load_operatorRoleBinding :
    ∃ m, Bundle.load "role-binding.yaml" = .ok m ∧ Permits m .roleBinding := by
  have hl : Bundle.files.lookup "role-binding.yaml" = some Bundle.operatorRoleBinding := by
    with_reducible simp only [Bundle.files, List.lookup, String.reduceBEq]
  have h :
      holds (isPermission .roleBinding) (ofChars Bundle.operatorRoleBinding.toList) = true := by
    unfold Bundle.operatorRoleBinding
    rw [String.toList_intercalate]
    repeat rw [map_toList_cons]
    decide +kernel
  obtain ⟨m, hm, hc⟩ := load_of_holds hl h
  exact ⟨m, hm, permits_of_isPermission hc⟩

end Testbed.Bundled
