import Mathlib
import Testbed.Cluster.Store
import Testbed.Install

/-!
What a manifest names.

The presence of an object is read by its reference, and the object is created from its body. For
a manifest that is accepted both mean the same key, as long as the fields that tell objects apart
are texts.
-/

namespace Testbed.Naming

open Yaml (Value)

variable {τ : Type}

/-! ### Texts as values -/

lemma eq_text {v : Value} {s : String} (h : v.key? = some (.text s)) : v = .text s := by
  cases v with
  | text t => simpa [Value.key?] using h
  | float x =>
    simp only [Value.key?, Value.floatKey, Option.some.injEq] at h
    repeat' split at h
    all_goals cases h
  | _ => simp [Value.key?] at h

lemma isText_iff {v : Value} {s : String} : v.isText s = true ↔ v = .text s := by
  constructor
  · intro h
    exact eq_text (by simpa [Value.isText] using h)
  · rintro rfl
    simp [Value.isText, Value.key?]

/-! ### Names -/

/-- The name of the object that a body describes, as the cluster finds it. -/
def nameIn (body : Value) : Option Value :=
  (Store.field body "metadata" body).bind (Store.field body "name")

/-- Reference and body of the manifest name one object: of a kind that has a route, with a name,
and in a namespace if its kind lives in one. -/
structure Names (m : Manifest) (route : Route) (ns : Option String) (name : String) : Prop where
  kind : Manifest.field m.body m.body "kind" = .ok (.text route.kind)
  scope : route.isNamespaced = ns.isSome
  notEmpty : ns ≠ some ""
  named : nameIn m.body = some (.text name)
  refKind : route ≠ .definition → m.ref.kind = route.kind
  refName : route ≠ .definition → m.ref.name = name
  refNs : route.isNamespaced = true → m.ref.ns = ns

/-- What is done about an object once it is known whether it is there. -/
def settle (ref : ResourceRef) (body : Value) : Bool → Program τ Install.Outcome
  | true => .note .debug (ref.text ++ " already present") (.done (.ok .alreadyPresent))
  | false => (Cluster.create body ref.ns).bind fun
    | .alreadyExists =>
      .note .info (ref.text ++ " was installed concurrently") (.done (.ok .alreadyPresent))
    | .created => .note .info ("Installed " ++ ref.text) (.done (.ok .installed))

lemma ensure_eq (ref : ResourceRef) (body : Value) :
    (Install.ensure ref body : Program τ _) =
      (Install.isInstalled ref body).bind (settle ref body) := by
  unfold Install.ensure
  show (Install.isInstalled ref body).bind _ = _
  congr 1
  funext present
  cases present <;> rfl

/-- The check whether an object is there. -/
def presence (ref : ResourceRef) (route : Route) (ns : Option String) (name : String) :
    Program τ Bool :=
  if route = .definition then Install.isServed ref.kind ref.version ref.group
  else .sendOr (.read route ns name) (fun f => if f.isStatus 404 then some false else none)
    fun _ => true

namespace Names

variable {m : Manifest} {route : Route} {ns : Option String} {name : String}

lemma inNamespace (h : Names m route ns name) (hs : route.isNamespaced = true) :
    ∃ s, ns = some s ∧ s ≠ "" ∧ m.ref.ns = some s := by
  obtain ⟨s, hns⟩ := Option.isSome_iff_exists.1 (h.scope.symm.trans hs)
  exact ⟨s, hns, fun he => h.notEmpty (by rw [hns, he]), (h.refNs hs).trans hns⟩

lemma clusterWide (h : Names m route ns name) (hs : ¬ route.isNamespaced = true) : ns = none := by
  have := h.scope
  simpa [hs] using this.symm

lemma key (h : Names m route ns name) :
    Store.createKey route (ns.map Value.text) m.body = Store.readKey route ns name := by
  have hn := h.named
  unfold nameIn at hn
  unfold Store.createKey Store.readKey
  rw [hn]
  cases ns <;> rfl

lemma isInstalled (h : Names m route ns name) :
    (Install.isInstalled m.ref m.body : Program τ _) = presence m.ref route ns name := by
  unfold Install.isInstalled presence
  rw [h.kind]
  show (if Value.isText Manifest.definitionKind (.text route.kind) then _ else _) = _
  by_cases hr : route = .definition
  · subst hr
    rfl
  · have hk : ¬ Value.isText Manifest.definitionKind (.text route.kind) = true := by
      revert hr; cases route <;> decide
    rw [if_neg hk, if_neg hr]
    have hroute : (Cluster.route (.text m.ref.kind) : Except (Failure τ) _) = .ok route := by
      rw [h.refKind hr]; cases route <;> rfl
    unfold Cluster.isPresent
    rw [hroute, h.refName hr]
    have hns : (if route.isNamespaced then
        some ((Cluster.nonEmpty m.ref.ns).getD "default") else none) = ns := by
      by_cases hs : route.isNamespaced = true
      · obtain ⟨s, hns, hne, href⟩ := h.inNamespace hs
        rw [if_pos hs, href, hns]
        simp [Cluster.nonEmpty, Option.filter, hne]
      · rw [if_neg hs, h.clusterWide hs]
    show Program.sendOr (Request.read route _ name) _ _ = _
    rw [hns]

lemma placement (h : Names m route ns name) :
    (Cluster.placement route (.text route.kind) m.body m.ref.ns : Except (Failure τ) _) =
      .ok (ns.map Value.text) := by
  unfold Cluster.placement
  by_cases hs : route.isNamespaced = true
  · obtain ⟨s, hns, hne, href⟩ := h.inNamespace hs
    rw [if_pos hs, href, hns]
    simp [Cluster.targetNamespace, Cluster.nonEmpty, Option.filter, hne]
  · rw [if_neg hs, h.clusterWide hs]
    rfl

lemma create (h : Names m route ns name) :
    (Cluster.create m.body m.ref.ns : Program τ _) =
      Cluster.submit (.text route.kind) route (ns.map Value.text) m.body := by
  unfold Cluster.create
  have hroute : (Cluster.route (.text route.kind) : Except (Failure τ) _) = .ok route := by
    cases route <;> rfl
  rw [h.kind]
  show (Program.done (Cluster.route (.text route.kind))).bind _ = _
  rw [hroute]
  show (Program.done (Cluster.placement route (.text route.kind) m.body m.ref.ns)).bind _ = _
  rw [h.placement]
  rfl

end Names

/-! ### Manifests that are accepted -/

lemma bind_ok {ε α β : Type} {x : Except ε α} {f : α → Except ε β} {b : β}
    (h : x >>= f = .ok b) : ∃ a, x = .ok a ∧ f a = .ok b := by
  cases x with
  | error e => cases h
  | ok a => exact ⟨a, rfl, h⟩

/-- A field of the metadata of a body, as the parser finds it. -/
def inMetadata (body : Value) (name : String) : Except Refusal Value := do
  Manifest.field body (← Manifest.section? body body "metadata") name

lemma field_ok {body v w : Value} {name : String} (h : Manifest.field body v name = .ok w)
    (hw : w ≠ .null) : Store.field body name v = some w := by
  unfold Manifest.field at h
  unfold Store.field
  cases hb : Manifest.resolve body v with
  | map label entries =>
    simp only [hb] at h ⊢
    cases hl : Value.lookup name entries with
    | none =>
      rw [hl] at h
      exact absurd (Except.ok.inj h).symm hw
    | some u =>
      rw [hl] at h
      exact congrArg some (Except.ok.inj h)
  | _ => simp [hb] at h

/-- A section that is given is a field; any other is empty. -/
lemma section?_ok {body v part : Value} {name : String}
    (h : Manifest.section? body v name = .ok part) :
    Store.field body name v = some part ∨ part = .map none [] := by
  unfold Manifest.section? at h
  obtain ⟨w, hw, h⟩ := bind_ok h
  by_cases ht : w.isTruthy = true
  · rw [if_pos ht] at h
    cases h
    exact Or.inl (field_ok hw (by rintro rfl; simp [Value.isTruthy] at ht))
  · rw [if_neg ht] at h
    cases h
    exact Or.inr rfl

lemma nameIn_eq {body : Value} {name : String} (h : inMetadata body "name" = .ok (.text name)) :
    nameIn body = some (.text name) := by
  unfold inMetadata at h
  obtain ⟨metadata, hm, h⟩ := bind_ok h
  have hn := field_ok h (by simp)
  unfold nameIn
  rcases section?_ok hm with hs | rfl
  · rw [hs]
    exact hn
  · cases hn

/-- What is found in a body that is accepted, and how it is in the reference of an object that
is no definition. -/
lemma ofValue_ok {body : Value} {m : Manifest} (h : Manifest.ofValue body = .ok m) :
    m.body = body ∧ ∃ kind name, Manifest.field body body "kind" = .ok kind ∧
      inMetadata body "name" = .ok name ∧
      (kind.isText Manifest.definitionKind = false → ∃ group version ns,
        inMetadata body "namespace" = .ok ns ∧
          Manifest.makeRef group kind version name (some ns) = .ok m.ref) := by
  unfold Manifest.ofValue at h
  cases body with
  | map label entries =>
    simp only at h
    obtain ⟨apiVersion, hv, h⟩ := bind_ok h
    obtain ⟨kind, hk, h⟩ := bind_ok h
    obtain ⟨metadata, hm, h⟩ := bind_ok h
    obtain ⟨name, hn, h⟩ := bind_ok h
    have hmeta (field : String) : inMetadata (.map label entries) field =
        Manifest.field (.map label entries) metadata field := by
      unfold inMetadata
      rw [hm]
      rfl
    by_cases hg : (!(apiVersion.isTruthy && kind.isTruthy && name.isTruthy)) = true
    · rw [if_pos hg] at h
      cases h
    rw [if_neg hg] at h
    by_cases hd : kind.isText Manifest.definitionKind = true
    · rw [if_pos hd] at h
      obtain ⟨ref, -, h⟩ := bind_ok h
      cases h
      exact ⟨rfl, kind, name, hk, (hmeta _).trans hn, by simp [hd]⟩
    · rw [if_neg hd] at h
      obtain ⟨⟨group, version⟩, -, h⟩ := bind_ok h
      obtain ⟨ns, hns, h⟩ := bind_ok h
      obtain ⟨ref, href, h⟩ := bind_ok h
      cases h
      exact ⟨rfl, kind, name, hk, (hmeta _).trans hn,
        fun _ => ⟨group, version, ns, (hmeta _).trans hns, href⟩⟩
  | _ => cases h

/-- The fields of a reference are read from those that it is made of. -/
lemma makeRef_ok {group kind version name : Value} {ns : Option Value} {ref : ResourceRef}
    (h : Manifest.makeRef group kind version name ns = .ok ref) :
    Validation.text group = .ok ref.group ∧ Validation.text kind = .ok ref.kind ∧
      Validation.text version = .ok ref.version ∧ Validation.text name = .ok ref.name ∧
      ∀ v, ns = some v → Validation.optional Validation.text v = .ok ref.ns := by
  unfold Manifest.makeRef ResourceRef.ofFields at h
  simp only [Validation.required, Validation.withDefault, List.cons_append, List.nil_append,
    List.lookup, String.reduceBEq, BEq.rfl] at h
  rcases hg : Validation.text group with _ | g
  · simp [hg] at h
  rcases hk : Validation.text kind with _ | k
  · simp [hg, hk] at h
  rcases hv : Validation.text version with _ | v
  · simp [hg, hk, hv] at h
  rcases hn : Validation.text name with _ | n
  · simp [hg, hk, hv, hn] at h
  cases ns with
  | none =>
    simp only [hg, hk, hv, hn] at h
    cases h
    exact ⟨rfl, rfl, rfl, rfl, nofun⟩
  | some ns =>
    rcases hs : Validation.optional Validation.text ns with _ | s
    · simp [hg, hk, hv, hn, hs] at h
    simp only [Option.map_some, Option.toList_some, List.lookup, BEq.rfl, Option.isSome_some,
      if_true, hg, hk, hv, hn, hs, Except.ok.injEq] at h
    subst h
    exact ⟨rfl, rfl, rfl, rfl, by simp [hs]⟩

/-- What the parser makes of some text or bytes. -/
def Parsed (m : Manifest) : Prop :=
  (∃ text, Manifest.ofText text = .ok m) ∨ ∃ bytes, Manifest.ofBytes bytes = .ok m

lemma Parsed.ofValue {m : Manifest} (h : Parsed m) :
    ∃ body, Manifest.ofValue body = .ok m := by
  have ofRead {read : Except Yaml.Problem Value} (h : Manifest.ofRead read = .ok m) :
      ∃ body, Manifest.ofValue body = .ok m := by
    cases read with
    | ok body => exact ⟨body, h⟩
    | error p => cases h
  rcases h with ⟨text, h⟩ | ⟨bytes, h⟩
  · exact ofRead h
  · exact ofRead h

/-- The reference of an object that is no definition holds what its body says. -/
lemma Parsed.ref {m : Manifest} {route : Route} {name : String} (h : Parsed m)
    (hk : Manifest.field m.body m.body "kind" = .ok (.text route.kind))
    (hn : inMetadata m.body "name" = .ok (.text name)) (hr : route ≠ .definition) :
    ∃ ns, inMetadata m.body "namespace" = .ok ns ∧ m.ref.kind = route.kind ∧ m.ref.name = name ∧
      Validation.optional Validation.text ns = .ok m.ref.ns := by
  obtain ⟨body, hbody⟩ := h.ofValue
  obtain ⟨rfl, kind, name', hk', hn', href⟩ := ofValue_ok hbody
  obtain rfl : kind = .text route.kind := Except.ok.inj (hk'.symm.trans hk)
  obtain rfl : name' = .text name := Except.ok.inj (hn'.symm.trans hn)
  obtain ⟨group, version, ns, hns, hmake⟩ := href (by revert hr; cases route <;> decide)
  obtain ⟨-, hkind, -, hname, hopt⟩ := makeRef_ok hmake
  exact ⟨ns, hns, (Except.ok.inj hkind).symm, (Except.ok.inj hname).symm, hopt ns rfl⟩

/-- The manifest is what the parser makes of some text or bytes. Its kind has a route, and the
fields that tell objects apart are texts; a kind that lives in namespaces has one. -/
structure Accepted (m : Manifest) (route : Route) (ns : Option String) (name : String) :
    Prop where
  parsed : (∃ text, Manifest.ofText text = .ok m) ∨ ∃ bytes, Manifest.ofBytes bytes = .ok m
  kind : Manifest.field m.body m.body "kind" = .ok (.text route.kind)
  named : inMetadata m.body "name" = .ok (.text name)
  scope : route.isNamespaced = false ∧ ns = none ∨ route.isNamespaced = true ∧
    ∃ s, ns = some s ∧ s ≠ "" ∧ inMetadata m.body "namespace" = .ok (.text s)

/-- **Reading and creating agree.** A manifest that is accepted names one object. -/
theorem Accepted.names {m : Manifest} {route : Route} {ns : Option String} {name : String}
    (h : Accepted m route ns name) : Names m route ns name := by
  -- the reference of a definition names a type instead, but is not read by name
  have ref (hr : route ≠ .definition) := Parsed.ref h.parsed h.kind h.named hr
  refine ⟨h.kind, ?_, ?_, nameIn_eq h.named, fun hr => ?_, fun hr => ?_, fun hs => ?_⟩
  · rcases h.scope with ⟨hs, rfl⟩ | ⟨hs, s, rfl, -⟩ <;> simp [hs]
  · rcases h.scope with ⟨-, rfl⟩ | ⟨-, s, rfl, hne, -⟩
    · simp
    · simpa using hne
  · obtain ⟨_, -, hkind, -⟩ := ref hr
    exact hkind
  · obtain ⟨_, -, -, hname, -⟩ := ref hr
    exact hname
  · obtain ⟨ns', hns, -, -, hopt⟩ := ref (by rintro rfl; cases hs)
    rcases h.scope with ⟨hs', -⟩ | ⟨-, s, rfl, -, hs'⟩
    · rw [hs'] at hs
      cases hs
    · obtain rfl : ns' = .text s := Except.ok.inj (hns.symm.trans hs')
      exact (Except.ok.inj hopt).symm

end Testbed.Naming
