import Mathlib
import Testbed.Proofs.AllOrNothing
import Testbed.Proofs.Bundled

/-!
Whether the object that is looked for is the one that is created.

An object that lives in a namespace and is given none is looked for in the usual namespace, but
is created nowhere. So it is refused, unless the usual namespace happens to hold an object of its
kind and name: that one is then taken for it. In all other cases both requests are about one
object.
-/

namespace Testbed.SameObject

open Rehearsal
open AllOrNothing (kindOf readIn route_text create_cases)
open Naming (Names Accepted Parsed inMetadata settle)
open Presence (look read_eq read_tells)
open Yaml (Value)

variable {τ : Type}

/-! ### Manifests -/

/-- The manifest is what the parser makes of an object that is read by name. Its kind and name are
texts, and so is its namespace if it is given. -/
structure Stated (m : Manifest) (route : Route) (ns : Option String) (name : String) : Prop where
  parsed : Parsed m
  object : route ≠ .definition
  kind : kindOf m.body = .ok (.text route.kind)
  named : inMetadata m.body "name" = .ok (.text name)
  scope : inMetadata m.body "namespace" = .ok ((ns.map Value.text).getD .null)

/-- The kind lives in namespaces, and none is given. -/
def Homeless (route : Route) (ns : Option String) : Prop :=
  route.isNamespaced = true ∧ Cluster.nonEmpty ns = none

instance (route : Route) (ns : Option String) : Decidable (Homeless route ns) :=
  inferInstanceAs (Decidable (_ ∧ _))

lemma eq_some_of_nonEmpty {ns : Option String} {s : String} (h : Cluster.nonEmpty ns = some s) :
    ns = some s ∧ s ≠ "" := by
  obtain ⟨hns, hs⟩ := Option.filter_eq_some_iff.1 h
  exact ⟨hns, by simpa using hs⟩

lemma falsy_of_lacking {ns : Option String} (h : Cluster.nonEmpty ns = none) :
    ((ns.map Value.text).getD .null).isTruthy = false := by
  cases ns with
  | none => rfl
  | some s =>
    have hs : s = "" := by simpa [Cluster.nonEmpty] using h
    rw [hs]
    rfl

namespace Stated

variable {m : Manifest} {route : Route} {ns : Option String} {name : String}

lemma ref (h : Stated m route ns name) :
    m.ref.kind = route.kind ∧ m.ref.name = name ∧ m.ref.ns = ns := by
  obtain ⟨ns', hns, hkind, hname, hopt⟩ := h.parsed.ref h.kind h.named h.object
  obtain rfl : ns' = (ns.map Value.text).getD .null := Except.ok.inj (hns.symm.trans h.scope)
  refine ⟨hkind, hname, ?_⟩
  cases ns with
  | none => exact (Except.ok.inj hopt).symm
  | some s => exact (Except.ok.inj hopt).symm

/-- With a home, the manifest names one object. -/
lemma names (h : Stated m route ns name) (home : ¬ Homeless route ns) :
    Names m route (readIn m.ref route) name := by
  have hscope : route.isNamespaced = false ∧ readIn m.ref route = none ∨
      route.isNamespaced = true ∧ ∃ s, readIn m.ref route = some s ∧ s ≠ "" ∧
        inMetadata m.body "namespace" = .ok (.text s) := by
    obtain ⟨-, -, hns⟩ := h.ref
    unfold readIn
    cases hs : route.isNamespaced with
    | false => exact Or.inl ⟨rfl, rfl⟩
    | true =>
      obtain ⟨s, hsome⟩ := Option.ne_none_iff_exists'.1 fun hnone => home ⟨hs, hnone⟩
      obtain ⟨rfl, hne⟩ := eq_some_of_nonEmpty hsome
      exact Or.inr ⟨rfl, s, by rw [hns, hsome]; rfl, hne, h.scope⟩
  exact Accepted.names ⟨h.parsed, h.kind, h.named, hscope⟩

/-- Without a home, nothing is ever created. -/
lemma create_homeless (h : Stated m route ns name) (away : Homeless route ns) :
    (Cluster.create m.body m.ref.ns : Program τ _) =
      .done (.error (.noNamespace (.text route.kind))) := by
  obtain ⟨hs, hlack⟩ := away
  obtain ⟨-, -, hns⟩ := h.ref
  have hfalsy := falsy_of_lacking hlack
  have same {route' : Route} (hk : kindOf m.body = .ok (.text route'.kind)) :
      route'.kind = route.kind := Value.text.inj (Except.ok.inj (hk.symm.trans h.kind))
  rcases create_cases (τ := τ) m.ref h.kind with ⟨e, hun, hcreate⟩ | ⟨route', place, hnew, -⟩
  · rw [hcreate]
    cases hun with
    | unrouted hk hnone =>
      obtain rfl := Except.ok.inj (hk.symm.trans h.kind)
      exact absurd rfl (hnone route)
    | noNamespace hk => rw [same hk]
    | noMetadata _ _ _ found => cases found.symm.trans h.scope
  · cases hnew with
    | mk hk hplace =>
      obtain rfl : route' = route := by
        have := congrArg Route.ofKind? (same hk)
        simpa using this
      cases hplace with
      | clusterWide hs' => cases hs.symm.trans hs'
      | given _ given =>
        rw [hns, hlack] at given
        cases given
      | own _ _ found truthy =>
        obtain rfl := Except.ok.inj (found.symm.trans h.scope)
        exact absurd (truthy.symm.trans hfalsy) Bool.true_eq_false.mp

lemma isPresent (h : Stated m route ns name) : (Cluster.isPresent m.ref : Program τ _) =
    look (.read route (readIn m.ref route) name) fun _ => true := by
  obtain ⟨hkind, hname, -⟩ := h.ref
  unfold Cluster.isPresent
  rw [hkind, route_text, hname]
  exact read_eq _ _ _

lemma isInstalled (h : Stated m route ns name) :
    (Install.isInstalled m.ref m.body : Program τ _) = Cluster.isPresent m.ref := by
  have hk : Manifest.field m.body m.body "kind" = .ok (.text route.kind) := h.kind
  have hd : ¬ Value.isText Manifest.definitionKind (.text route.kind) = true := by
    have := h.object
    revert this
    cases route <;> decide
  unfold Install.isInstalled
  rw [hk]
  exact if_neg hd

end Stated

/-! ### Runs without faults -/

/-- The object that is looked for is there. -/
def Sought (m : Manifest) (route : Route) (name : String) (r : Rehearsal τ) : Prop :=
  Store.readKey route (readIn m.ref route) name ∈ r.store.objects

instance (m : Manifest) (route : Route) (name : String) (r : Rehearsal τ) :
    Decidable (Sought m route name r) := inferInstanceAs (Decidable (_ ∈ _))

lemma sought_congr {m : Manifest} {route : Route} {name : String} {r s : Rehearsal τ}
    (h : s.store = r.store) : Sought m route name s ↔ Sought m route name r := by
  unfold Sought
  rw [h]

section

variable [Seconds τ] {m : Manifest} {route : Route} {ns : Option String} {name : String}
  {r : Rehearsal τ}

lemma run_isPresent (h : Stated m route ns name) (hfree : Faultless r.script) :
    ∃ s, run (Cluster.isPresent m.ref) r =
        (.ok (decide (Sought m route name r)), s) ∧
      s.store = r.store ∧ Faultless s.script := by
  rw [h.isPresent]
  have hscript := hfree.run (look (.read route (readIn m.ref route) name) fun _ => true)
  obtain ⟨result, s, hrun, hstore, hfound, hright⟩ :=
    (read_tells route (readIn m.ref route) name).run r
  rw [hrun] at hscript ⊢
  refine ⟨s, ?_, hstore, hscript⟩
  rcases hright hfree with rfl | ⟨rfl, hmiss⟩
  · have hmem : Sought m route name r := (sought_congr hstore).1 (hfound rfl)
    rw [decide_eq_true hmem]
  · have hmem : ¬ Sought m route name r := fun hk => hmiss ((sought_congr hstore).2 hk)
    rw [decide_eq_false hmem]

/-- With a home, the creation is about what is looked for. -/
lemma run_create (h : Stated m route ns name) (home : ¬ Homeless route ns)
    (hfree : Faultless r.script) : (run (Cluster.create m.body m.ref.ns) r).1 =
      .ok (if Sought m route name r then .alreadyExists else .created) := by
  have hnames := h.names home
  have hstore := r.store_reached (.create route ((readIn m.ref route).map Value.text) m.body)
  have hanswer : r.answer (.create route ((readIn m.ref route).map Value.text) m.body) = _ :=
    hfree.answer
  rw [serve_create, hnames.key, hstore] at hanswer
  rw [hnames.create]
  unfold Cluster.submit
  simp only [run]
  by_cases there : Sought m route name r
  · have hmem : Store.readKey route (readIn m.ref route) name ∈ r.store.objects := there
    rw [if_pos hmem] at hanswer
    rw [if_pos there, hanswer]
    rfl
  · have hmem : Store.readKey route (readIn m.ref route) name ∉ r.store.objects := there
    rw [if_neg hmem] at hanswer
    rw [if_neg there, hanswer]
    rfl

/-- What is found is taken for the object, whether or not that has a home. -/
lemma run_ensure (h : Stated m route ns name) (hfree : Faultless r.script) :
    (run (Install.ensure m.ref m.body) r).1 =
      if Sought m route name r then .ok .alreadyPresent
      else if Homeless route ns then .error (.noNamespace (.text route.kind))
      else .ok .installed := by
  obtain ⟨s, hcheck, hstore, hfree'⟩ := run_isPresent h hfree
  rw [Naming.ensure_eq, h.isInstalled, run_bind_ok hcheck]
  by_cases hk : Sought m route name r
  · rw [decide_eq_true hk, if_pos hk]
    rfl
  · rw [decide_eq_false hk, if_neg hk]
    unfold settle
    by_cases away : Homeless route ns
    · rw [h.create_homeless away, if_pos away]
      rfl
    · have hcreate := run_create h away hfree'
      rw [if_neg (mt (sought_congr hstore).1 hk)] at hcreate
      rcases hrun : run (Cluster.create m.body m.ref.ns) s with ⟨result, t⟩
      rw [hrun] at hcreate
      obtain rfl : result = .ok .created := hcreate
      rw [run_bind_ok hrun, if_neg away]
      rfl

end

/-! ### When both requests are about one object -/

section

variable [Seconds τ]

/-- The installation is refused because the object has no namespace. -/
def Refused (m : Manifest) (r : Rehearsal τ) : Prop :=
  ∃ kind, (run (Install.ensure m.ref m.body) r).1 = .error (.noNamespace kind)

/-- What looking, creating and installing come to in one cluster. -/
structure Compared (m : Manifest) (route : Route) (ns : Option String) (name : String)
    (r : Rehearsal τ) : Prop where
  /-- The object is found if and only if creating it would meet it. -/
  agree : ((run (Cluster.isPresent m.ref) r).1 = .ok true ↔
      (run (Cluster.create m.body m.ref.ns) r).1 = .ok .alreadyExists) ↔
    ¬ (Homeless route ns ∧ Sought m route name r)
  /-- What is called present is what creating it would have met. -/
  conflicts : ((run (Install.ensure m.ref m.body) r).1 = .ok .alreadyPresent →
      (run (Cluster.create m.body m.ref.ns) r).1 = .ok .alreadyExists) ↔
    ¬ (Homeless route ns ∧ Sought m route name r)
  refused : Refused m r ↔ Homeless route ns ∧ ¬ Sought m route name r

variable {m : Manifest} {route : Route} {ns : Option String} {name : String}

lemma compared (h : Stated m route ns name) {r : Rehearsal τ} (hfree : Faultless r.script) :
    Compared m route ns name r := by
  obtain ⟨s, hpresent, -, -⟩ := run_isPresent h hfree
  have hread := congrArg Prod.fst hpresent
  have hensure := run_ensure h hfree
  by_cases away : Homeless route ns
  · have hcreate : (run (Cluster.create m.body m.ref.ns) r).1 =
        .error (.noNamespace (.text route.kind)) := by
      rw [h.create_homeless away]
      rfl
    constructor
    · rw [hread, hcreate]
      simp [away]
    · rw [hensure, hcreate]
      by_cases hk : Sought m route name r <;> simp [hk, away]
    · unfold Refused
      rw [hensure]
      by_cases hk : Sought m route name r <;> simp [hk, away]
  · have hcreate := run_create h away hfree
    constructor
    · rw [hread, hcreate]
      by_cases hk : Sought m route name r <;> simp [hk, away]
    · rw [hensure, hcreate]
      by_cases hk : Sought m route name r <;> simp [hk, away]
    · unfold Refused
      rw [hensure]
      by_cases hk : Sought m route name r <;> simp [hk, away]

/-- **When looking and creating are about one object**: always, unless the object has no home and
the usual namespace holds one like it. Whether the object is refused depends on the cluster only
if it has no home. -/
theorem same_object_unless_homeless (h : Stated m route ns name) (r r' : Rehearsal τ)
    (hfree : Faultless r.script) (hfree' : Faultless r'.script) :
    Compared m route ns name r ∧
      ((Refused m r ↔ Refused m r') ↔
        (Homeless route ns → (Sought m route name r ↔ Sought m route name r'))) := by
  have hr := compared h hfree
  have hr' := compared h hfree'
  refine ⟨hr, ?_⟩
  rw [hr.refused, hr'.refused]
  by_cases away : Homeless route ns
  · simp only [away, true_and, true_implies, not_iff_not]
  · simp only [away, false_and, false_implies]

end

/-! ### An object without a home -/

/-- A role that is given no namespace, as a user might write it. -/
def editorText : String :=
  "\n".intercalate ["apiVersion: rbac.authorization.k8s.io/v1", "kind: Role", "metadata:",
    "  name: editor", ""]

def isEditor (m : Manifest) : Bool :=
  Bundled.states "Role" (kindOf m.body) && Bundled.states "editor" (inMetadata m.body "name") &&
    match inMetadata m.body "namespace" with
    | .ok .null => true
    | _ => false

lemma exists_editor :
    ∃ m, Manifest.ofText editorText = .ok m ∧ Stated m .role none "editor" := by
  have h : Bundled.holds isEditor (Bundled.ofChars editorText.toList) = true := by
    unfold editorText
    rw [String.toList_intercalate]
    repeat rw [Bundled.map_toList_cons]
    decide +kernel
  obtain ⟨m, hm, hc⟩ := Bundled.exists_of_holds h
  unfold isEditor at hc
  simp only [Bool.and_eq_true] at hc
  obtain ⟨⟨hkind, hname⟩, hns⟩ := hc
  have hscope : inMetadata m.body "namespace" = .ok .null := by
    split at hns
    · assumption
    · cases hns
  exact ⟨m, hm, Or.inl ⟨editorText, hm⟩, nofun, Bundled.eq_of_states hkind,
    Bundled.eq_of_states hname, hscope⟩

/-- The usual namespace holds a role of that name. -/
def occupied : Rehearsal Rat :=
  { AllOrNothing.vacant with store := ⟨[Store.readKey .role (some "default") "editor"], []⟩ }

lemma sought_occupied {m : Manifest} (h : Stated m .role none "editor") :
    Sought m .role "editor" occupied := by
  obtain ⟨-, -, hns⟩ := h.ref
  unfold Sought readIn
  rw [hns]
  exact List.mem_singleton_self _

lemma faultless_vacant : Faultless AllOrNothing.vacant.script := by
  simp [Faultless, AllOrNothing.vacant]

/-- A role that nobody has created is found, is called present where creating it is refused, and
is refused only while the usual namespace holds no other role of its name. -/
theorem stray_role_taken_for_it :
    ∃ m, Manifest.ofText editorText = .ok m ∧ Stated m .role none "editor" ∧
      (run (Cluster.isPresent m.ref) occupied).1 = .ok true ∧
      (run (Cluster.create m.body m.ref.ns) occupied).1 = .error (.noNamespace (.text "Role")) ∧
      (run (Install.ensure m.ref m.body) occupied).1 = .ok .alreadyPresent ∧
      (run (Install.ensure m.ref m.body) AllOrNothing.vacant).1 =
        .error (.noNamespace (.text "Role")) := by
  obtain ⟨m, hm, h⟩ := exists_editor
  have away : Homeless .role none := by decide
  have there := sought_occupied h
  have missing : ¬ Sought m .role "editor" AllOrNothing.vacant := List.not_mem_nil
  obtain ⟨s, hpresent, -, -⟩ := run_isPresent (r := occupied) h faultless_vacant
  have hoccupied := run_ensure (r := occupied) h faultless_vacant
  have hvacant := run_ensure (r := AllOrNothing.vacant) h faultless_vacant
  rw [if_pos there] at hoccupied
  rw [if_neg missing, if_pos away] at hvacant
  refine ⟨m, hm, h, ?_, ?_, hoccupied, hvacant⟩
  · rw [hpresent, decide_eq_true there]
  · rw [h.create_homeless away]
    rfl

/-- So the two clusters disagree on whether it is refused. -/
theorem editor_refusal_varies :
    ∃ m, Manifest.ofText editorText = .ok m ∧ Compared m .role none "editor" occupied ∧
      ¬ (Refused m occupied ↔ Refused m AllOrNothing.vacant) := by
  obtain ⟨m, hm, h⟩ := exists_editor
  have hsame := same_object_unless_homeless h occupied AllOrNothing.vacant faultless_vacant
    faultless_vacant
  refine ⟨m, hm, hsame.1, fun hagree => ?_⟩
  have hmem := (hsame.2.1 hagree (by decide)).1 (sought_occupied h)
  exact List.not_mem_nil hmem

end Testbed.SameObject
