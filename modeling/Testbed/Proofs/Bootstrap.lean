import Mathlib
import Testbed.Proofs.Bundled
import Testbed.Proofs.Presence

/-!
Setting up a cluster again and again.

An attempt may be cut anywhere and leave a part of its objects behind. The next one takes what is
there for granted, so over all attempts each object is created once, and when an attempt without
faults has come to its end, all later ones find everything present.
-/

namespace Testbed.Bootstrap

open Rehearsal
open Presence
open Install (Outcome Outcomes Target)
open Naming (Names)
open Bundled (Defines Grants)
open Yaml (Value)

/-! ### What is installed -/

/-- The types, each with the name of its definition. -/
def types : List (String × String) :=
  [("Instance", "instances.yaks.citrusframework.org"), ("Test", "tests.yaks.citrusframework.org")]

def typeRef (type : String × String) : ResourceRef :=
  ⟨Install.ownGroup, type.1, Bundled.version, type.2, none⟩

def definitionKey (name : String) : ObjectKey := Store.readKey .definition none name

def roleKey (name : String) : ObjectKey := Store.readKey .clusterRole none name

/-- The manifests that are installed. -/
structure Kit (roleName : String) (ofInstance ofTest ofRole : Manifest) : Prop where
  loadInstance : Bundle.load "crd-instance.yaml" = .ok ofInstance
  loadTest : Bundle.load "crd-test.yaml" = .ok ofTest
  loadRole : ∃ m, Bundle.load "user-cluster-role.yaml" = .ok m ∧ Install.renamed roleName m = ofRole
  forInstance : Defines ofInstance "Instance" "instances.yaks.citrusframework.org"
  forTest : Defines ofTest "Test" "tests.yaks.citrusframework.org"
  forRole : Grants ofRole roleName

lemma exists_kit (roleName : String) :
    ∃ ofInstance ofTest ofRole, Kit roleName ofInstance ofTest ofRole := by
  obtain ⟨ofInstance, hi, instanceDefined⟩ := Bundled.load_instance
  obtain ⟨ofTest, ht, testDefined⟩ := Bundled.load_test
  obtain ⟨m, hm, granted⟩ := Bundled.load_role
  exact ⟨ofInstance, ofTest, _, hi, ht, ⟨m, hm, rfl⟩, instanceDefined, testDefined,
    granted roleName⟩

variable {τ : Type}

/-- Setting up a cluster, as it is tried again and again. -/
def setUp [Seconds τ] (timeout : τ) (roleName : String) : Program τ (Outcomes × Target) :=
  Install.setUpCluster timeout roleName .cluster

/-! ### Its parts -/

/-- The beginning of setting up, up to the first type. -/
def installFirst : Program τ (Outcomes × Target) := do
  Install.add (← Install.bundled "crd-instance.yaml") ([], .cluster)

/-- The beginning of setting up, up to the last type. -/
def installTypes : Program τ (Outcomes × Target) := do
  let done ← installFirst
  Install.add (← Install.bundled "crd-test.yaml") done

lemma add_eq (m : Manifest) (done : Outcomes) :
    (Install.add m (done, .cluster) : Program τ _) =
      (Install.ensure m.ref m.body).bind fun outcome =>
        .done (.ok (done ++ [(m.ref, outcome)], .cluster)) := by
  unfold Install.add Install.ensureIn
  show ((Install.ensure m.ref m.body).bind _).bind _ = _
  rw [Program.bind_assoc]
  rfl

section

variable {roleName : String} {ofInstance ofTest ofRole : Manifest}

lemma Kit.first_eq (kit : Kit roleName ofInstance ofTest ofRole) :
    (installFirst : Program τ _) = Install.add ofInstance ([], .cluster) := by
  unfold installFirst Install.bundled
  rw [kit.loadInstance]
  rfl

lemma Kit.types_eq (kit : Kit roleName ofInstance ofTest ofRole) :
    (installTypes : Program τ _) = installFirst.bind fun done => Install.add ofTest done := by
  unfold installTypes Install.bundled
  rw [kit.loadTest]
  rfl

/-- Setting up goes on from its beginning by waiting for the last type. -/
lemma Kit.setUp_eq [Seconds τ] (kit : Kit roleName ofInstance ofTest ofRole) (timeout : τ) :
    setUp timeout roleName =
      installTypes.bind fun done => (Install.awaitType timeout ofTest .cluster).bind fun _ =>
        Install.add ofRole done := by
  obtain ⟨m, hm, rfl⟩ := kit.loadRole
  rw [kit.types_eq, Program.bind_assoc, kit.first_eq]
  unfold setUp Install.setUpCluster Install.bundled
  rw [kit.loadInstance, kit.loadTest, hm]
  rfl

end

/-! ### What is reported -/

/-- The outcomes of what was not there before. -/
def installed (done : Outcomes) : Outcomes := done.filter (·.2 = .installed)

/-- The object of a reference to a type or a role. -/
def keyOf (ref : ResourceRef) : ObjectKey :=
  if ref.kind = "ClusterRole" then roleKey ref.name else definitionKey ref.name

/-- What is reported as installed has been created, in the same order. -/
def Backed (done : Outcomes) (cs : List (Call τ)) : Prop :=
  ((installed done).map fun x => keyOf x.1).Sublist (created cs)

lemma Backed.append {done done' : Outcomes} {cs cs' : List (Call τ)} (h : Backed done cs)
    (h' : Backed done' cs') : Backed (done ++ done') (cs ++ cs') := by
  unfold Backed installed created at h h' ⊢
  rw [List.filter_append, List.map_append, List.filterMap_append]
  exact h.append h'

lemma backed_nil (cs : List (Call τ)) : Backed [] cs := List.nil_sublist _

lemma Backed.more {done : Outcomes} {cs : List (Call τ)} (h : Backed done cs)
    (cs' : List (Call τ)) : Backed done (cs ++ cs') := by
  have := h.append (backed_nil cs')
  rwa [List.append_nil] at this

variable [Seconds τ]

/-- The outcomes that a program has reported when it comes to its end. -/
def outcomes (p : Program τ (Outcomes × Target)) (r : Rehearsal τ) : Option Outcomes :=
  match (run p r).1 with
  | .ok (done, _) => some done
  | .error _ => none

/-- The outcomes of all installations in an attempt, however it ends. -/
def reports (timeout : τ) (roleName : String) (r : Rehearsal τ) : Outcomes :=
  ((outcomes (setUp timeout roleName) r).or
    ((outcomes installTypes r).or (outcomes installFirst r))).getD []

def reportsOver (timeout : τ) (roleName : String) : List (Attempt τ) → Rehearsal τ → Outcomes
  | [], _ => []
  | a :: rest, r => reports timeout roleName (a.start r) ++ reportsOver timeout roleName rest
      (run (setUp timeout roleName) (a.start r)).2

lemma outcomes_ok {p : Program τ (Outcomes × Target)} {r s : Rehearsal τ} {done : Outcomes}
    {target : Target} (h : run p r = (.ok (done, target), s)) : outcomes p r = some done := by
  unfold outcomes
  rw [h]

lemma outcomes_error {p : Program τ (Outcomes × Target)} {r s : Rehearsal τ} {e : Failure τ}
    (h : run p r = (.error e, s)) : outcomes p r = none := by
  unfold outcomes
  rw [h]

/-- A part that goes on from some outcomes keeps them backed. -/
def Backs (f : Outcomes × Target → Program τ (Outcomes × Target)) : Prop :=
  ∀ done cs r result s, run (f done) r = (.ok result, s) → Backed done.1 cs →
    Backed result.1 (cs ++ calls (f done) r)

lemma backs_add {m : Manifest} {route : Route} {ns : Option String} {name : String}
    (hn : Names m route ns name) (hk : keyOf m.ref = Store.readKey route ns name) :
    Backs (τ := τ) (Install.add m) := by
  rintro ⟨done, target⟩ cs r result s hrun hb
  cases target with
  | nowhere => cases hrun
  | collection c =>
    obtain ⟨⟨outcome, target⟩, t, hin, hdone⟩ := ok_of_run_bind hrun
    obtain ⟨_, u, -, hcollected⟩ := ok_of_run_bind hin
    cases hcollected
    cases hdone
    exact hb.append (by simp [Backed, installed])
  | cluster =>
    rw [add_eq] at hrun ⊢
    obtain ⟨outcome, t, hensure, hdone⟩ := ok_of_run_bind hrun
    rw [calls_bind_ok hensure]
    cases hdone
    refine hb.append (Backed.more ?_ _)
    unfold Backed installed
    by_cases ho : outcome = .installed
    · subst ho
      simpa [hk] using created_of_installed hn hensure
    · simp [ho]

/-- If a program is cut, what it has reported up to some part of it is backed. -/
lemma Backs.bind {p : Program τ (Outcomes × Target)}
    {f : Outcomes × Target → Program τ (Outcomes × Target)} (hf : Backs f) {r : Rehearsal τ}
    {before : Option Outcomes} (hb : Backed (((outcomes p r).or before).getD []) (calls p r)) :
    Backed (((outcomes (p.bind f) r).or ((outcomes p r).or before)).getD [])
      (calls (p.bind f) r) := by
  rcases hp : run p r with ⟨e | ⟨done, target⟩, s⟩
  · rw [outcomes_error (run_bind_error hp), calls_bind_error hp]
    exact hb
  · rw [outcomes_ok hp] at hb ⊢
    rw [calls_bind_ok hp]
    rcases hrest : run (f (done, target)) s with ⟨e | ⟨done', target'⟩, t⟩
    · rw [outcomes_error ((run_bind_ok hp).trans hrest)]
      exact hb.more _
    · rw [outcomes_ok ((run_bind_ok hp).trans hrest)]
      exact hf _ _ _ _ _ hrest hb

lemma keyOf_definition {m : Manifest} {kind name : String} (h : Defines m kind name)
    (hk : kind ≠ "ClusterRole") : keyOf m.ref = definitionKey name := by
  rw [h.ref]
  exact if_neg hk

lemma keyOf_role {m : Manifest} {name : String} (h : Grants m name) :
    keyOf m.ref = roleKey name := by
  rw [h.ref]
  rfl

section

variable {roleName : String} {ofInstance ofTest ofRole : Manifest}

/-- The reports of an attempt are backed by its calls, wherever it is cut. -/
lemma Kit.backed (kit : Kit roleName ofInstance ofTest ofRole) (timeout : τ) (r : Rehearsal τ) :
    Backed (reports timeout roleName r) (calls (setUp timeout roleName) r) := by
  have hfirst : Backs (τ := τ) (Install.add ofInstance) :=
    backs_add kit.forInstance.names (keyOf_definition kit.forInstance (by decide))
  have htest : Backs (τ := τ) (Install.add ofTest) :=
    backs_add kit.forTest.names (keyOf_definition kit.forTest (by decide))
  have hrole : Backs fun done => (Install.awaitType timeout ofTest .cluster).bind fun _ =>
      Install.add ofRole done := by
    intro done cs r result s hrun hb
    obtain ⟨_, t, hwait, hadd⟩ := ok_of_run_bind hrun
    rw [calls_bind_ok hwait, ← List.append_assoc]
    exact backs_add kit.forRole.names (keyOf_role kit.forRole) _ _ _ _ _ hadd (hb.more _)
  have first : Backed (((outcomes installFirst r).or none).getD []) (calls installFirst r) := by
    rw [kit.first_eq]
    rcases h : run (Install.add ofInstance ([], .cluster)) r with ⟨e | ⟨done, target⟩, s⟩
    · rw [outcomes_error h]
      exact backed_nil _
    · rw [outcomes_ok h]
      exact hfirst _ [] _ _ _ h (backed_nil _)
  have types := htest.bind first
  rw [← kit.types_eq, Option.or_none] at types
  have whole := hrole.bind types
  rwa [← kit.setUp_eq] at whole

lemma Kit.backed_over (kit : Kit roleName ofInstance ofTest ofRole) (timeout : τ)
    (attempts : List (Attempt τ)) (r : Rehearsal τ) :
    Backed (reportsOver timeout roleName attempts r)
      (callsOver (setUp timeout roleName) attempts r) := by
  induction attempts generalizing r with
  | nil => exact backed_nil _
  | cons a rest ih => exact (kit.backed timeout _).append (ih _)

end

/-! ### What is there afterwards -/

/-- A request that creates a definition creates that of one of the types. -/
def Declares (request : Request) : Prop :=
  Timely request ∧ ∀ ns body, request = .create .definition ns body →
    ∃ type ∈ types, Store.createKey .definition ns body = definitionKey type.2 ∧
      ∀ {σ : Type} (since : σ), Store.definedBy body since =
        [⟨Install.ownGroup, Bundled.version, [.text type.1], since⟩]

lemma declares_definition {m : Manifest} (type : String × String) (ht : type ∈ types)
    (h : Defines m type.1 type.2) : Declares (.create .definition none m.body) := by
  refine ⟨nofun, ?_⟩
  rintro ns body ⟨⟩
  exact ⟨type, ht, h.names.key, h.served⟩

section

variable {roleName : String} {ofInstance ofTest ofRole : Manifest}

lemma asks_add_named {m : Manifest} {route : Route} {name : String}
    (hn : Names m route none name) (hc : Declares (.create route none m.body))
    (done : Outcomes × Target) : Asks Declares (Install.add m done : Program τ _) :=
  Requests.asks_add (Requests.asks_ensure_named hn ⟨nofun, nofun⟩ ⟨nofun, nofun⟩ hc)

lemma Kit.asks_types (kit : Kit roleName ofInstance ofTest ofRole) :
    Asks Declares (installTypes : Program τ _) := by
  rw [kit.types_eq, kit.first_eq]
  refine .bind (asks_add_named kit.forInstance.names ?_ _) fun done =>
    asks_add_named kit.forTest.names ?_ _
  · exact declares_definition ("Instance", _) (by simp [types]) kit.forInstance
  · exact declares_definition ("Test", _) (by simp [types]) kit.forTest

lemma Kit.asks (kit : Kit roleName ofInstance ofTest ofRole) (timeout : τ) :
    Asks Declares (setUp timeout roleName) := by
  rw [kit.setUp_eq]
  exact .bind kit.asks_types fun done => .bind (Requests.asks_awaitType ⟨nofun, nofun⟩) fun _ =>
    asks_add_named kit.forRole.names ⟨nofun, nofun⟩ _

end

/-! ### Types that are defined are listed -/

/-- The types whose definitions are there are listed at some time. -/
def Served (r : Rehearsal τ) (now : τ) : Prop :=
  ∀ type ∈ types, definitionKey type.2 ∈ r.store.objects →
    Listed r.store Install.ownGroup Bundled.version type.1 now

/-- A state that attempts may lead to. When types are served at once, those that were not defined
before are listed as soon as they are. -/
structure Follows (world r : Rehearsal τ) : Prop where
  later : Later world r
  listed : ∀ type ∈ types, definitionKey type.2 ∈ r.store.objects →
    definitionKey type.2 ∈ world.store.objects ∨ (world.serveDelay = 0 →
      Listed r.store Install.ownGroup Bundled.version type.1 r.clock)

lemma eq_of_definitionKey {type type' : String × String} (ht : type ∈ types) (ht' : type' ∈ types)
    (h : definitionKey type.2 = definitionKey type'.2) : type = type' := by
  have hname : type.2 = type'.2 := by simpa [definitionKey, Store.readKey] using h
  simp only [types, List.mem_cons, List.not_mem_nil, or_false] at ht ht'
  rcases ht with rfl | rfl <;> rcases ht' with rfl | rfl
  · rfl
  · simp at hname
  · simp at hname
  · rfl

namespace Follows

variable [Steady τ] {α : Type} {p : Program τ α} {world r s : Rehearsal τ}

lemma refl (world : Rehearsal τ) : Follows world world :=
  ⟨.refl world, fun _ _ hk => Or.inl hk⟩

lemma served {now : τ} (h : Follows world r) (hd : world.serveDelay = 0) (hs : Served world now)
    (hnow : now ≤ r.clock) : Served r r.clock := by
  intro type ht hk
  rcases h.listed type ht hk with hk | hlisted
  · exact (hs type ht hk).mono h.later.served hnow
  · exact hlisted hd

/-- What was listed before stays listed. -/
lemma kept (h : Follows world r) (hl : Later r s) {type : String × String} (ht : type ∈ types)
    (hk : definitionKey type.2 ∈ r.store.objects) :
    definitionKey type.2 ∈ world.store.objects ∨ (world.serveDelay = 0 →
      Listed s.store Install.ownGroup Bundled.version type.1 s.clock) :=
  (h.listed type ht hk).imp_right fun hlisted h0 => (hlisted h0).later hl

lemma same (h : Follows world r) (hl : Later r s) (hsame : s.store.objects = r.store.objects) :
    Follows world s := by
  refine ⟨h.later.trans hl, fun type ht hk => ?_⟩
  rw [hsame] at hk
  exact h.kept hl ht hk

lemma answer (hc : 0 ≤ world.cost) {request : Request} (hd : Declares request)
    (h : Follows world r) : Follows world (r.answer request).2 := by
  have hl := Later.answer (by rw [h.later.cost]; exact hc) hd.1
  cases hcr : (r.callOf request).created? with
  | none =>
    refine h.same hl ?_
    rw [objects_answer, hcr]
    exact List.append_nil _
  | some key =>
    obtain ⟨-, route, ns, body, rfl, hkey, hstore⟩ := created_cases hcr
    refine ⟨h.later.trans hl, fun type ht hk => ?_⟩
    rw [objects_answer, hcr] at hk
    rcases List.mem_append.1 hk with hk | hk
    · exact h.kept hl ht hk
    · -- the definition is new, and the same request adds what it serves
      obtain rfl := List.mem_singleton.1 hk
      obtain rfl : route = .definition := (congrArg ObjectKey.route hkey).symm
      obtain ⟨type', ht', hkey', hserved⟩ := hd.2 ns body rfl
      obtain rfl := eq_of_definitionKey ht ht' (hkey.trans hkey')
      have hmem : ⟨Install.ownGroup, Bundled.version, [.text type.1],
          (r.answer (.create .definition ns body)).2.clock + r.serveDelay⟩ ∈
            (r.answer (.create .definition ns body)).2.store.served := by
        rw [hstore]
        refine List.mem_append_right _ ?_
        rw [if_pos (show (definitionKey type.2).route = .definition from rfl), hserved]
        exact List.mem_singleton_self _
      refine Or.inr fun h0 => listed_iff.2 ⟨_, hmem, rfl, rfl, ?_, ?_⟩
      · rw [h.later.serveDelay, h0]
        exact Steady.add_zero
      · simp [Value.isText, Value.key?]

lemma run (hc : 0 ≤ world.cost) (hp : Asks Declares p) (h : Follows world r) :
    Follows world (run p r).2 :=
  hp.keeps (fun _ _ hd hs => hs.answer hc hd)
    (fun s length pos hs => hs.same (.pause s pos) (by rw [objects_pause]))
    (fun s _ _ hs => hs.same ⟨Steady.le_refl _, List.prefix_rfl, List.prefix_rfl, rfl, rfl⟩ rfl) h

lemma start (h : Follows world r) (a : Attempt τ) : Follows world (a.start r) :=
  h.same (later_start a r) rfl

lemma after (hc : 0 ≤ world.cost) (hp : Asks Declares p) (h : Follows world r)
    (attempts : List (Attempt τ)) : Follows world (after p attempts r) := by
  induction attempts generalizing r with
  | nil => exact h
  | cons a rest ih => exact ih ((h.start a).run hc hp)

omit [Steady τ] in
lemma calm (hc : 0 ≤ world.cost) (h : Follows world r) (hfree : Faultless r.script) : Calm r :=
  ⟨by rw [h.later.cost]; exact hc, hfree⟩

end Follows

/-! ### Attempts without faults -/

lemma timely_add (m : Manifest) (done : Outcomes × Target) :
    Asks Timely (Install.add m done : Program τ _) :=
  Requests.asks_add (Requests.asks_ensure nofun (fun _ _ => nofun) fun _ _ => nofun)

lemma timely_awaitType (timeout : τ) (m : Manifest) (target : Target) :
    Asks Timely (Install.awaitType timeout m target) :=
  Requests.asks_awaitType nofun

section

variable [Steady τ] {m : Manifest} {route : Route} {ns : Option String} {name : String}

lemma add_provides (hn : Names m route ns name) (done : Outcomes) {r : Rehearsal τ}
    (calm : Calm r) :
    ∃ outcome s, run (Install.add m (done, .cluster)) r =
        (.ok (done ++ [(m.ref, outcome)], .cluster), s) ∧ Later r s ∧ Calm s ∧
      Present m.ref route (Store.readKey route ns name) s := by
  obtain ⟨outcome, s, h, hp⟩ := ensure_provides hn calm
  have hadd : run (Install.add m (done, .cluster)) r =
      (.ok (done ++ [(m.ref, outcome)], .cluster), s) := by
    rw [add_eq, run_bind_ok h]
    rfl
  obtain ⟨hl, calm'⟩ := calm.run (timely_add m _) hadd
  exact ⟨outcome, s, hadd, hl, calm', hp⟩

lemma add_finds (hn : Names m route ns name) (done : Outcomes) {r : Rehearsal τ} (calm : Calm r)
    (hp : Present m.ref route (Store.readKey route ns name) r) :
    ∃ s, run (Install.add m (done, .cluster)) r =
        (.ok (done ++ [(m.ref, .alreadyPresent)], .cluster), s) ∧ Later r s ∧ Calm s ∧
      s.store = r.store ∧ (Found m.ref route (Store.readKey route ns name) r →
        ∀ c ∈ calls (Install.add m (done, .cluster)) r, Looks c.request) := by
  obtain ⟨s, h, hstore, hlooks⟩ := ensure_finds hn calm hp
  have hadd : run (Install.add m (done, .cluster)) r =
      (.ok (done ++ [(m.ref, .alreadyPresent)], .cluster), s) := by
    rw [add_eq, run_bind_ok h]
    rfl
  obtain ⟨hl, calm'⟩ := calm.run (timely_add m _) hadd
  refine ⟨s, hadd, hl, calm', hstore, fun hf c hmem => hlooks hf c ?_⟩
  rw [add_eq, calls_bind_ok h] at hmem
  simpa [calls, trace] using hmem

end

/-- What an attempt without faults leaves when it comes to its end. -/
structure Ready (roleName : String) (r : Rehearsal τ) : Prop where
  defined : definitionKey "instances.yaks.citrusframework.org" ∈ r.store.objects ∨
    Listed r.store Install.ownGroup Bundled.version "Instance" r.clock
  listed : Listed r.store Install.ownGroup Bundled.version "Test" r.clock
  role : roleKey roleName ∈ r.store.objects

lemma Ready.later [Steady τ] {roleName : String} {r s : Rehearsal τ} (h : Ready roleName r)
    (hl : Later r s) : Ready roleName s where
  defined := h.defined.imp (fun hk => hl.objects.subset hk) (fun hf => hf.later hl)
  listed := h.listed.later hl
  role := hl.objects.subset h.role

lemma found_definition {m : Manifest} {kind name : String} (h : Defines m kind name)
    (key : ObjectKey) (r : Rehearsal τ) : Found m.ref .definition key r ↔
      Listed r.store Install.ownGroup Bundled.version kind r.clock := by
  unfold Found
  rw [if_pos rfl, h.ref]

lemma found_role {ref : ResourceRef} {key : ObjectKey} {r : Rehearsal τ} :
    Found ref .clusterRole key r ↔ key ∈ r.store.objects := by
  unfold Found
  rw [if_neg (by decide)]

lemma present_role {ref : ResourceRef} {key : ObjectKey} {r : Rehearsal τ} :
    Present ref .clusterRole key r ↔ key ∈ r.store.objects := by
  unfold Present
  rw [found_role, or_self]

/-- The outcomes of an attempt that has nothing to do. -/
def allPresent (roleName : String) : Outcomes :=
  (types.map typeRef ++ [Bundled.roleRef roleName]).map fun ref => (ref, .alreadyPresent)

section

variable [Steady τ] {roleName : String} {ofInstance ofTest ofRole : Manifest} {r : Rehearsal τ}

omit [Steady τ] in
lemma Kit.run_types (kit : Kit roleName ofInstance ofTest ofRole) {s : Rehearsal τ}
    {done : Outcomes × Target} {x : Except (Failure τ) (Outcomes × Target) × Rehearsal τ}
    (h : run (Install.add ofInstance ([], .cluster)) r = (.ok done, s))
    (h' : run (Install.add ofTest done) s = x) : run installTypes r = x := by
  rw [kit.types_eq, kit.first_eq, run_bind_ok h, h']

/-- Without faults the types are there before they are waited for. -/
lemma Kit.types_provided (kit : Kit roleName ofInstance ofTest ofRole) (calm : Calm r) :
    ∃ done s, run installTypes r = (.ok (done, .cluster), s) ∧ Later r s ∧ Calm s ∧
      Present ofInstance.ref .definition (definitionKey "instances.yaks.citrusframework.org") s ∧
      Present ofTest.ref .definition (definitionKey "tests.yaks.citrusframework.org") s := by
  obtain ⟨o₁, r₁, h₁, hl₁, calm₁, hp₁⟩ := add_provides kit.forInstance.names [] calm
  obtain ⟨o₂, r₂, h₂, hl₂, calm₂, hp₂⟩ :=
    add_provides kit.forTest.names ([] ++ [(ofInstance.ref, o₁)]) calm₁
  exact ⟨_, r₂, kit.run_types h₁ h₂, hl₁.trans hl₂, calm₂, hp₁.later hl₂, hp₂⟩

lemma Kit.awaitType_finds (kit : Kit roleName ofInstance ofTest ofRole) (timeout : τ)
    (calm : Calm r) (h : Listed r.store Install.ownGroup Bundled.version "Test" r.clock) :
    ∃ s, run (Install.awaitType timeout ofTest .cluster) r = (.ok (), s) ∧ Later r s ∧ Calm s ∧
      s.store = r.store := by
  obtain ⟨s, hwait, hstore⟩ : ∃ s, run (Install.awaitType timeout ofTest .cluster) r =
      (.ok (), s) ∧ s.store = r.store := by
    refine awaitServed_finds calm ?_
    rw [kit.forTest.ref]
    exact h
  obtain ⟨hl, calm'⟩ := calm.run (timely_awaitType _ _ _) hwait
  exact ⟨s, hwait, hl, calm', hstore⟩

/-- An attempt without faults that comes to its end leaves everything ready. -/
lemma Kit.ready (kit : Kit roleName ofInstance ofTest ofRole) {timeout : τ} (calm : Calm r)
    {result : Outcomes × Target} {final : Rehearsal τ}
    (h : run (setUp timeout roleName) r = (.ok result, final)) :
    Ready roleName final := by
  rw [kit.setUp_eq] at h
  obtain ⟨done, r₂, htypes, -, calm₂, hinstance, -⟩ := kit.types_provided calm
  rw [run_bind_ok htypes] at h
  obtain ⟨_, r₃, hwait, hrole⟩ := ok_of_run_bind h
  obtain ⟨hl₃, calm₃⟩ := calm₂.run (timely_awaitType _ _ _) hwait
  have hlisted := listed_of_awaitServed hwait
  obtain ⟨o₃, r₄, h₄, hl₄, -, hrole₄⟩ := add_provides kit.forRole.names done calm₃
  obtain rfl : r₄ = final := congrArg Prod.snd (h₄.symm.trans hrole)
  simp only [kit.forTest.ref] at hlisted
  refine ⟨?_, hlisted.later hl₄, ?_⟩
  · rw [← found_definition kit.forInstance]
    exact hinstance.later (hl₃.trans hl₄)
  · exact present_role.1 hrole₄

/-- Without faults an attempt finds everything present that is ready, and if discovery lists both
types nothing is tried to create. -/
lemma Kit.finds (kit : Kit roleName ofInstance ofTest ofRole) (timeout : τ) (calm : Calm r)
    (ready : Ready roleName r) :
    ∃ s, run (setUp timeout roleName) r =
        (.ok (allPresent roleName, .cluster), s) ∧ s.store = r.store ∧
      (Listed r.store Install.ownGroup Bundled.version "Instance" r.clock →
        ∀ c ∈ calls (setUp timeout roleName) r, Looks c.request) := by
  obtain ⟨r₁, h₁, hl₁, calm₁, hs₁, hlooks₁⟩ := add_finds kit.forInstance.names [] calm
    (ready.defined.imp_right (found_definition kit.forInstance _ _).2)
  have ready₁ := ready.later hl₁
  have htest := (found_definition kit.forTest (definitionKey "tests.yaks.citrusframework.org") _).2
    ready₁.listed
  obtain ⟨r₂, h₂, hl₂, calm₂, hs₂, hlooks₂⟩ :=
    add_finds kit.forTest.names ([] ++ [(ofInstance.ref, .alreadyPresent)]) calm₁ (Or.inr htest)
  have ready₂ := ready₁.later hl₂
  obtain ⟨r₃, h₃, hl₃, calm₃, hs₃⟩ := kit.awaitType_finds timeout calm₂ ready₂.listed
  have hrole := (ready₂.later hl₃).role
  obtain ⟨r₄, h₄, -, -, hs₄, hlooks₄⟩ := add_finds kit.forRole.names
    ([] ++ [(ofInstance.ref, .alreadyPresent)] ++ [(ofTest.ref, .alreadyPresent)]) calm₃
      (present_role.2 hrole)
  have htypes := kit.run_types h₁ h₂
  rw [kit.setUp_eq]
  refine ⟨r₄, ?_, by rw [hs₄, hs₃, hs₂, hs₁], fun hlisted c hmem => ?_⟩
  · rw [run_bind_ok htypes, run_bind_ok h₃, h₄]
    simp [allPresent, types, typeRef, kit.forInstance.ref, kit.forTest.ref, kit.forRole.ref]
  · rw [calls_bind_ok htypes, calls_bind_ok h₃, kit.types_eq, kit.first_eq,
      calls_bind_ok h₁] at hmem
    simp only [List.mem_append] at hmem
    rcases hmem with (hmem | hmem) | hmem | hmem
    · exact hlooks₁ ((found_definition kit.forInstance _ _).2 hlisted) c hmem
    · exact hlooks₂ htest c hmem
    · exact (Requests.asks_awaitType (P := Looks) fun _ _ _ => nofun).calls r₂ c hmem
    · exact hlooks₄ (found_role.2 hrole) c hmem

/-- Without faults an attempt comes to its end if types are served at once. -/
lemma Kit.ends (kit : Kit roleName ofInstance ofTest ofRole) (timeout : τ) {world : Rehearsal τ}
    {now : τ} (hc : 0 ≤ world.cost) (follows : Follows world r) (hfree : Faultless r.script)
    (hd : world.serveDelay = 0) (hs : Served world now) (hnow : now ≤ r.clock) :
    ∃ result s, run (setUp timeout roleName) r = (.ok result, s) := by
  obtain ⟨done, r₂, htypes, hl₂, calm₂, -, htest⟩ := kit.types_provided (follows.calm hc hfree)
  have follows₂ := follows.run hc kit.asks_types
  rw [htypes] at follows₂
  have hlisted : Listed r₂.store Install.ownGroup Bundled.version "Test" r₂.clock := by
    rcases htest with hk | hfound
    · exact follows₂.served hd hs (Steady.le_trans hnow hl₂.clock) ("Test", _) (by simp [types]) hk
    · exact (found_definition kit.forTest _ _).1 hfound
  obtain ⟨r₃, h₃, -, calm₃, -⟩ := kit.awaitType_finds timeout calm₂ hlisted
  obtain ⟨o₃, r₄, h₄, -⟩ := add_provides kit.forRole.names done calm₃
  rw [kit.setUp_eq, run_bind_ok htypes, run_bind_ok h₃, h₄]
  exact ⟨_, _, rfl⟩

end

/-! ### Attempt after attempt -/

/-- All attempts together create each object and report it as installed at most once. They leave
what there was and what they have created, and at no point an object is lost. -/
structure Additive (timeout : τ) (roleName : String) (attempts : List (Attempt τ))
    (world : Rehearsal τ) : Prop where
  created : (created (callsOver (setUp timeout roleName) attempts world)).Nodup
  installed : (installed (reportsOver timeout roleName attempts world)).Nodup
  objects : (after (setUp timeout roleName) attempts world).store.objects =
    world.store.objects ++ Rehearsal.created (callsOver (setUp timeout roleName) attempts world)
  kept : (statesOver (setUp timeout roleName) attempts world).Pairwise Keeps

/-- An attempt finds everything present. It does not even try to create anything if types are
served at once and all that the world defines are served when it starts. -/
structure Idle (timeout : τ) (roleName : String) (world start : Rehearsal τ) : Prop where
  finds : ∃ s, run (setUp timeout roleName) start = (.ok (allPresent roleName, .cluster), s) ∧
    s.store.objects = start.store.objects
  looks : world.serveDelay = 0 → Served world start.clock →
    ∀ c ∈ calls (setUp timeout roleName) start, Looks c.request

lemma Kit.additive {roleName : String} {ofInstance ofTest ofRole : Manifest}
    (kit : Kit roleName ofInstance ofTest ofRole) (timeout : τ) (world : Rehearsal τ)
    (attempts : List (Attempt τ)) : Additive timeout roleName attempts world := by
  have hcreated := (created_once (p := setUp timeout roleName) attempts world).1
  refine ⟨hcreated, ?_, objects_after attempts world, statesOver_keep attempts world⟩
  exact List.Nodup.of_map _ ((kit.backed_over timeout attempts world).nodup hcreated)

lemma Kit.idle [Steady τ] {roleName : String} {ofInstance ofTest ofRole : Manifest}
    (kit : Kit roleName ofInstance ofTest ofRole) (timeout : τ) {world start : Rehearsal τ}
    (hc : 0 ≤ world.cost) (follows : Follows world start) (hfree : Faultless start.script)
    (ready : Ready roleName start) : Idle timeout roleName world start := by
  obtain ⟨s, hrun, hstore, hlooks⟩ := kit.finds timeout (follows.calm hc hfree) ready
  refine ⟨⟨s, hrun, by rw [hstore]⟩, fun hd hs => hlooks ?_⟩
  rcases ready.defined with hk | hlisted
  · exact follows.served hd hs (Steady.le_refl _) ("Instance", _) (by simp [types]) hk
  · exact hlisted

/-- **Setting up converges.** Whatever goes wrong in some attempts, nothing is created or reported
as installed twice, and nothing is lost. After an attempt without faults that comes to its end,
the role is there and discovery lists the type of tests; any later attempt without faults, with
others before it or not, finds everything present. -/
theorem attempts_converge [Steady τ] {world : Rehearsal τ} (hc : 0 ≤ world.cost) (timeout : τ)
    (roleName : String) :
    (∀ attempts, Additive timeout roleName attempts world) ∧
      ∀ (attempts : List (Attempt τ)) (last : Attempt τ), Faultless last.script →
        ∀ result final, run (setUp timeout roleName)
            (last.start (after (setUp timeout roleName) attempts world)) = (.ok result, final) →
          roleKey roleName ∈ final.store.objects ∧
            Listed final.store Install.ownGroup Bundled.version "Test" final.clock ∧
            ∀ (more : List (Attempt τ)) (further : Attempt τ), Faultless further.script →
              Idle timeout roleName world
                (further.start (after (setUp timeout roleName) more final)) := by
  obtain ⟨ofInstance, ofTest, ofRole, kit⟩ := exists_kit roleName
  refine ⟨kit.additive timeout world, fun attempts last hfree result final hrun => ?_⟩
  have hasks := kit.asks timeout
  have begun := ((Follows.refl world).after hc hasks attempts).start last
  have ready := kit.ready (begun.calm hc hfree) hrun
  have ended := begun.run hc hasks
  rw [hrun] at ended
  refine ⟨ready.role, ready.listed, fun more further hfree' => ?_⟩
  have hl := later_after hasks (fun _ hd => hd.1) more (by rw [ended.later.cost]; exact hc)
  exact kit.idle timeout hc ((ended.after hc hasks more).start further) hfree'
    (ready.later (hl.trans (later_start further _)))

/-- An empty cluster that serves new types at once and takes a second for each request. -/
def bareWorld : Rehearsal Rat where
  clock := 0
  cost := 1
  serveDelay := 0
  cancelAt := none
  store := ⟨[], []⟩
  script := ⟨[], [], [], [], true, none⟩
  record := .empty

/-- An attempt at once with some faults. -/
def attemptWith (faults : List (Request.Call × List (Option Fault))) : Attempt Rat where
  wait := 0
  wait_nonneg := le_refl _
  script := ⟨faults, [], [], [], true, none⟩
  cancelAt := none

/-- The first attempt may not create the role and the second loses its connection at the start;
the third comes to its end, and the fourth only looks. -/
theorem interrupted_attempts_converge :
    let attempts := [attemptWith [(.create .clusterRole, [some (.status 403 none none)])],
      attemptWith [(.kinds, [some (.broken "connection reset")])]]
    let p := setUp (25 : Rat) "yaks:edit"
    ∃ result final, run p ((attemptWith []).start (after p attempts bareWorld)) =
        (.ok result, final) ∧
      Additive 25 "yaks:edit" (attempts ++ [attemptWith []]) bareWorld ∧
      roleKey "yaks:edit" ∈ final.store.objects ∧
      Listed final.store Install.ownGroup Bundled.version "Test" final.clock ∧
      Idle 25 "yaks:edit" bareWorld ((attemptWith []).start final) ∧
      ∀ c ∈ calls p ((attemptWith []).start final), Looks c.request := by
  intro attempts p
  obtain ⟨ofInstance, ofTest, ofRole, kit⟩ := exists_kit "yaks:edit"
  have hc : 0 ≤ bareWorld.cost := by decide
  have follows := ((Follows.refl bareWorld).after hc (kit.asks 25) attempts).start (attemptWith [])
  have hfree : Faultless (attemptWith []).script := by simp [Faultless, attemptWith]
  have hs (now : Rat) : Served bareWorld now := by simp [Served, bareWorld]
  obtain ⟨result, final, hrun⟩ :=
    kit.ends 25 hc follows hfree rfl (hs _) (Steady.le_refl _)
  obtain ⟨hadd, hlast⟩ := attempts_converge hc 25 "yaks:edit"
  obtain ⟨hrole, hlisted, hidle⟩ := hlast attempts _ hfree result final hrun
  have idle := hidle [] _ hfree
  exact ⟨result, final, hrun, hadd _, hrole, hlisted, idle, idle.looks rfl (hs _)⟩

end Testbed.Bootstrap
