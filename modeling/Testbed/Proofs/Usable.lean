import Mathlib
import Testbed.Proofs.Undisturbed

/-!
Which types can be used when setting up has come to its end.

Only the last type is waited for. Discovery lists the other one as well if it did so before, or if
its definition is new and types are served soon enough; whether the latter holds depends on how
long the wait for the last type was.
-/

namespace Testbed.Usable

open Rehearsal
open Presence
open Bootstrap
open Bundled (Defines)
open Install (Outcomes Target)
open Yaml (Value)

variable {τ α : Type} [Seconds τ]

/-! ### What adds nothing to discovery -/

/-- Whether an entry of discovery lists a type of this testbed. -/
def lists (kind : String) (e : Served τ) : Bool :=
  e.group == Install.ownGroup && e.version == Bundled.version && e.kinds.any (Value.isText kind)

/-- A definition that the request creates, if any, is of another type. -/
def Spares (kind : String) (request : Request) : Prop :=
  ∀ ns body, request = .create .definition ns body →
    ∀ {σ : Type} (since : σ), (Store.definedBy body since).any (lists kind) = false

/-- Discovery has the same entries for a type in both states. -/
def SameEntries (kind : String) (r s : Rehearsal τ) : Prop :=
  s.store.served.filter (lists kind) = r.store.served.filter (lists kind)

lemma listed_iff_lists {store : Store τ} {kind : String} {now : τ} :
    Listed store Install.ownGroup Bundled.version kind now ↔
      ∃ e ∈ store.served.filter (lists kind), e.since ≤ now := by
  rw [listed_iff]
  refine exists_congr fun e => ?_
  simp only [List.mem_filter, lists, Bool.and_eq_true, beq_iff_eq]
  tauto

lemma SameEntries.listed {kind : String} {r s : Rehearsal τ} (h : SameEntries kind r s) (now : τ) :
    Listed s.store Install.ownGroup Bundled.version kind now ↔
      Listed r.store Install.ownGroup Bundled.version kind now := by
  rw [listed_iff_lists, listed_iff_lists, h]

lemma store_serve {request : Request} (h : Looks request) (r : Rehearsal τ) :
    (r.serve request).2.store = r.store := by
  cases request <;> simp only [serve] <;> (repeat' split) <;>
    first | rfl | exact absurd rfl (h _ _ _)

/-- Only a creation changes what the cluster holds. -/
lemma store_answer (request : Request) (r : Rehearsal τ) :
    (r.answer request).2.store = r.store ∨ ∃ route ns body since,
      request = .create route ns body ∧ (r.answer request).2.store =
        r.store.create (Store.createKey route ns body) body since := by
  have same := r.store_reached request
  rcases r.answer_cases request with ⟨f, -, ha⟩ | ⟨-, ha⟩
  · rw [ha]
    exact Or.inl same
  · rw [ha]
    by_cases hlooks : Looks request
    · exact Or.inl ((store_serve hlooks _).trans same)
    · cases request with
      | create route ns body =>
        rw [serve_create]
        split
        · exact Or.inl same
        · exact Or.inr ⟨route, ns, body, _, rfl, by rw [same]⟩
      | _ => exact absurd (fun _ _ _ => nofun) hlooks

lemma sameEntries_run {kind : String} {p : Program τ α} (hp : Asks (Spares kind) p)
    (r : Rehearsal τ) : SameEntries kind r (run p r).2 := by
  refine hp.keeps (fun s request hspares h => ?_) (fun s length _ h => ?_) (fun _ _ _ h => h) rfl
  · refine Eq.trans ?_ h
    rcases store_answer request s with hs | ⟨route, ns, body, since, rfl, hs⟩
    · rw [hs]
    · have none : (if route = .definition then Store.definedBy body since else []).filter
          (lists kind) = [] := by
        split
        · rename_i hroute
          subst hroute
          have hany := hspares ns body rfl since
          rw [List.any_eq_false] at hany
          exact List.filter_eq_nil_iff.2 hany
        · rfl
      rw [hs]
      show (s.store.served ++ _).filter _ = _
      rw [List.filter_append, show (Store.createKey route ns body).route = route from rfl, none,
        List.append_nil]
  · unfold SameEntries at h ⊢
    rwa [objects_pause]

/-! ### New definitions -/

section

variable {m : Manifest} {kind name : String}

omit [Seconds τ] in
lemma lists_defined {other : String} {since : τ} :
    lists other (⟨Install.ownGroup, Bundled.version, [.text kind], since⟩ : Served τ) = true ↔
      kind = other := by
  simp [lists, Value.isText, Value.key?]

/-- A definition is of no other type. -/
lemma spares_definition {other : String} (h : Defines m kind name) (hne : kind ≠ other) :
    Spares other (.create .definition none m.body) := by
  rintro ns body ⟨⟩ σ since
  rw [h.served, List.any_cons, List.any_nil, Bool.or_false, Bool.eq_false_iff]
  exact mt lists_defined.1 hne

/-- From some time on a new definition serves its type. -/
lemma listed_create (h : Defines m kind name) (store : Store τ) (since now : τ) :
    Listed (store.create (definitionKey name) m.body since) Install.ownGroup Bundled.version kind
        now ↔
      Listed store Install.ownGroup Bundled.version kind now ∨ since ≤ now := by
  have hserved : (store.create (definitionKey name) m.body since).served =
      store.served ++ [⟨Install.ownGroup, Bundled.version, [.text kind], since⟩] :=
    congrArg (store.served ++ ·) (h.served since)
  rw [listed_iff_lists, listed_iff_lists, hserved, List.filter_append]
  simp [lists_defined, or_and_right, exists_or]

end

/-- When discovery lists a type whose definition was installed from some state on. -/
def ListedFrom (kind name : String) (r s : Rehearsal τ) : Prop :=
  ∀ now, s.clock ≤ now →
    (Listed s.store Install.ownGroup Bundled.version kind now ↔
      Listed r.store Install.ownGroup Bundled.version kind now ∨
        definitionKey name ∉ r.store.objects ∧ r.clock + r.cost + r.cost + r.serveDelay ≤ now)

/-- A definition that is installed is listed from the time on at which its type was listed before,
or, if it is new, is served. -/
lemma add_defines [Steady τ] {m : Manifest} {kind name : String} (h : Defines m kind name)
    (done : Outcomes) {r : Rehearsal τ} (calm : Calm r) :
    ∃ outcome s, run (Install.add m (done, .cluster)) r =
        (.ok (done ++ [(m.ref, outcome)], .cluster), s) ∧ Later r s ∧ Calm s ∧
      ListedFrom kind name r s := by
  obtain ⟨outcome, s, hrun, hensured⟩ :=
    add_ensured h.names done (calm.faultless.undisturbed _)
  obtain ⟨hl, calm'⟩ := calm.run (timely_add m _) hrun
  refine ⟨outcome, s, hrun, hl, calm', fun now hnow => ?_⟩
  cases hensured with
  | found hfound hstore hclock =>
    rw [found_definition h] at hfound
    have hlisted := hfound.mono List.prefix_rfl (hclock ▸ hnow)
    rw [hstore]
    exact iff_of_true hlisted (Or.inl hlisted)
  | there _ hk hstore _ =>
    rw [hstore]
    exact (or_iff_left fun hnew => hnew.1 hk).symm
  | new _ hk hstore _ =>
    have hnew : s.store = r.store.create (definitionKey name) m.body
      (r.clock + r.cost + r.cost + r.serveDelay) := hstore
    rw [hnew, listed_create h]
    exact or_congr_right (and_iff_right hk).symm

/-! ### What setting up leaves -/

/-- The end of setting up: the wait for the last type, and the role. -/
def finish (timeout : τ) (ofTest ofRole : Manifest) (done : Outcomes × Target) :
    Program τ (Outcomes × Target) :=
  (Install.awaitType timeout ofTest .cluster).bind fun _ => Install.add ofRole done

section

variable {roleName : String} {ofInstance ofTest ofRole : Manifest}

lemma setUp_steps (kit : Kit roleName ofInstance ofTest ofRole) (timeout : τ) :
    setUp timeout roleName = (Install.add ofInstance ([], .cluster)).bind fun done =>
      (Install.add ofTest done).bind (finish timeout ofTest ofRole) := by
  rw [kit.setUp_eq, kit.types_eq, kit.first_eq, Program.bind_assoc]
  rfl

lemma asks_finish (kit : Kit roleName ofInstance ofTest ofRole) (kind : String) (timeout : τ)
    (done : Outcomes × Target) : Asks (Spares kind) (finish timeout ofTest ofRole done) :=
  .bind (Requests.asks_awaitType nofun) fun _ => Requests.asks_add
    (Requests.asks_ensure_named kit.forRole.names nofun nofun nofun)

lemma asks_addDefinition {m : Manifest} {kind name other : String} (h : Defines m kind name)
    (hne : kind ≠ other) (done : Outcomes × Target) :
    Asks (Spares other) (Install.add m done : Program τ _) :=
  Requests.asks_add
    (Requests.asks_ensure_named h.names nofun nofun (spares_definition h hne))

lemma timely_finish (timeout : τ) (done : Outcomes × Target) :
    Asks Timely (finish timeout ofTest ofRole done) :=
  .bind (timely_awaitType _ _ _) fun _ => timely_add _ _

/-- The states that setting up passes through: after the first definition and after the second. -/
structure Passes (r first second final : Rehearsal τ) : Prop where
  toFirst : Later r first
  toSecond : Later first second
  toFinal : Later second final
  instances : ListedFrom "Instance" "instances.yaks.citrusframework.org" r first
  keptInstances : SameEntries "Instance" first final
  keptTests : SameEntries "Test" r first
  tests : ListedFrom "Test" "tests.yaks.citrusframework.org" first second
  stillTests : SameEntries "Test" second final

lemma exists_passes [Steady τ] (kit : Kit roleName ofInstance ofTest ofRole) {timeout : τ}
    {r final : Rehearsal τ} (calm : Calm r) {result : Outcomes × Target}
    (h : run (setUp timeout roleName) r = (.ok result, final)) :
    ∃ first second, Passes r first second final := by
  obtain ⟨o₁, first, h₁, hl₁, calm₁, hlisted₁⟩ := add_defines kit.forInstance [] calm
  obtain ⟨o₂, second, h₂, hl₂, calm₂, hlisted₂⟩ :=
    add_defines kit.forTest ([] ++ [(ofInstance.ref, o₁)]) calm₁
  rw [setUp_steps kit, run_bind_ok h₁, run_bind_ok h₂] at h
  obtain ⟨hl₃, -⟩ := calm₂.run (timely_finish _ _) h
  have firstSpares := sameEntries_run (asks_addDefinition kit.forInstance
    (show "Instance" ≠ "Test" by decide) ([], .cluster)) r
  have secondSpares := sameEntries_run (asks_addDefinition kit.forTest
    (show "Test" ≠ "Instance" by decide) ([] ++ [(ofInstance.ref, o₁)], .cluster)) first
  have restSpares (kind : String) := sameEntries_run (asks_finish kit kind timeout
    ([] ++ [(ofInstance.ref, o₁)] ++ [(ofTest.ref, o₂)], .cluster)) second
  rw [h₁] at firstSpares
  rw [h₂] at secondSpares
  rw [h] at restSpares
  exact ⟨first, second, hl₁, hl₂, hl₃, hlisted₁, (restSpares "Instance").trans secondSpares,
    firstSpares, hlisted₂, restSpares "Test"⟩

end

/-- **Only the type of tests can be relied on.** Without faults a cluster that has been set up has
the role and serves tests. Instances are served only if they were before, or if their definition is
new and its time has come. That it has, if tests had to be waited for as well. -/
theorem setUp_leaves_usable [Steady τ] {r : Rehearsal τ} (calm : Calm r) {timeout : τ}
    {roleName : String} {result : Outcomes × Target} {final : Rehearsal τ}
    (h : run (setUp timeout roleName) r = (.ok result, final)) :
    roleKey roleName ∈ final.store.objects ∧
      Listed final.store Install.ownGroup Bundled.version "Test" final.clock ∧
      (Listed final.store Install.ownGroup Bundled.version "Instance" final.clock ↔
        Listed r.store Install.ownGroup Bundled.version "Instance" final.clock ∨
          definitionKey "instances.yaks.citrusframework.org" ∉ r.store.objects ∧
            r.clock + r.cost + r.cost + r.serveDelay ≤ final.clock) ∧
      ((∀ a b d : τ, a ≤ b → a + d ≤ b + d) →
        (∀ now, ¬ Listed r.store Install.ownGroup Bundled.version "Test" now) →
        definitionKey "instances.yaks.citrusframework.org" ∉ r.store.objects →
          Listed final.store Install.ownGroup Bundled.version "Instance" final.clock) := by
  obtain ⟨ofInstance, ofTest, ofRole, kit⟩ := exists_kit roleName
  obtain ⟨first, second, passes⟩ := exists_passes kit calm h
  have hfirst := Steady.le_trans passes.toSecond.clock passes.toFinal.clock
  have hiff := (passes.keptInstances.listed _).trans (passes.instances _ hfirst)
  have ready := kit.ready calm h
  refine ⟨ready.role, ready.listed, hiff, fun mono unlisted fresh => ?_⟩
  have htests := (passes.tests _ passes.toFinal.clock).1
    ((passes.stillTests.listed _).1 ready.listed)
  -- The type of tests is new, and served no earlier than the other one.
  rcases htests with hlisted | ⟨-, hsince⟩
  · exact absurd ((passes.keptTests.listed _).1 hlisted) (unlisted _)
  · refine hiff.2 (Or.inr ⟨fresh, ?_⟩)
    rw [passes.toFirst.cost, passes.toFirst.serveDelay] at hsince
    exact Steady.le_trans (mono _ _ _ (mono _ _ _ (mono _ _ _ passes.toFirst.clock))) hsince

/-! ### A type that lags behind -/

/-- A type that is listed is waited for as long as it takes to look once. -/
lemma awaitServed_listed {s : Install.Serving τ} {r : Rehearsal τ}
    (free : r.scripted (.kinds s.group s.version) = none)
    (h : Listed r.store s.group s.version s.kind (r.clock + r.cost)) :
    ∃ t, run (Install.awaitServed s) r = (.ok (), t) ∧ t.clock = r.clock + r.cost := by
  obtain ⟨f, hf, htrue, -⟩ := turn_eq (s := s) r.clock 1
  obtain ⟨hclock, hstore, -⟩ := reached_remote (.kinds s.group s.version) rfl r
  obtain ⟨result, hlook, hresult⟩ := (kinds_tells s.kind s.version s.group).run_undisturbed free
  rw [hstore, hclock] at hresult
  obtain rfl := hresult.2 h
  rw [← isServed_eq] at hlook
  obtain ⟨message, hnote⟩ := htrue (r.reached (.kinds s.group s.version))
  have hturn : run (s.turn r.clock 1) r =
      (.ok true, (r.reached (.kinds s.group s.version)).note .info message) := by
    rw [hf, run_bind_ok hlook, hnote]
  have hturns (left : Nat) : run (s.turns r.clock left 1) r =
      (.ok (), (r.reached (.kinds s.group s.version)).note .info message) := by
    cases left <;> rw [Install.Serving.turns, bind_eq, run_bind_ok hturn] <;> rfl
  exact ⟨_, hturns _, hclock⟩

lemma clock_of_ensured {m : Manifest} {route : Route} {key : ObjectKey} {r s : Rehearsal Rat}
    {outcome : Install.Outcome} (h : Ensured m route key r outcome s) (hc : r.cost = 0) :
    s.clock = r.clock := by
  cases h with
  | found _ _ hclock => rw [hclock, hc, add_zero]
  | there _ _ _ hclock => rw [hclock, hc, add_zero, add_zero]
  | new _ _ _ hclock => rw [hclock, hc, add_zero, add_zero]

/-- If requests take no time and the last type is listed, setting up takes no time. -/
lemma setUp_at_once {r : Rehearsal Rat} (calm : Calm r) (hc : r.cost = 0)
    (h : Listed r.store Install.ownGroup Bundled.version "Test" r.clock) (timeout : Rat)
    (roleName : String) :
    ∃ result final, run (setUp timeout roleName) r = (.ok result, final) ∧
      final.clock = r.clock := by
  obtain ⟨ofInstance, ofTest, ofRole, kit⟩ := exists_kit roleName
  have add {m : Manifest} {route : Route} {ns : Option String} {name : String}
      (hn : Naming.Names m route ns name) (done : Outcomes) {s : Rehearsal Rat} (calm' : Calm s)
      (hl : Later r s) (hs : s.clock = r.clock) : ∃ done' t,
        run (Install.add m (done, .cluster)) s = (.ok (done', .cluster), t) ∧ Calm t ∧ Later r t ∧
          t.clock = r.clock := by
    obtain ⟨outcome, t, hrun, hensured⟩ := add_ensured hn done (calm'.faultless.undisturbed _)
    obtain ⟨hl', calm''⟩ := calm'.run (timely_add m _) hrun
    have hclock := clock_of_ensured hensured (hl.cost.trans hc)
    exact ⟨_, t, hrun, calm'', hl.trans hl', hclock.trans hs⟩
  obtain ⟨done₁, r₁, h₁, calm₁, hl₁, hclock₁⟩ := add kit.forInstance.names [] calm (.refl r) rfl
  obtain ⟨done₂, r₂, h₂, calm₂, hl₂, hclock₂⟩ := add kit.forTest.names done₁ calm₁ hl₁ hclock₁
  have hcost := hl₂.cost.trans hc
  let wait : Install.Serving Rat :=
    ⟨ofTest.ref.kind, ofTest.ref.version, ofTest.ref.group, timeout⟩
  have hlisted : Listed r₂.store wait.group wait.version wait.kind (r₂.clock + r₂.cost) := by
    rw [hcost, add_zero]
    simp only [wait, kit.forTest.ref]
    exact h.later hl₂
  obtain ⟨r₃, h₃, hclock₃⟩ :=
    awaitServed_listed (s := wait) calm₂.faultless.reached.1 hlisted
  obtain ⟨hl₃, calm₃⟩ := calm₂.run (timely_awaitType timeout ofTest .cluster) h₃
  rw [hcost, add_zero, hclock₂] at hclock₃
  obtain ⟨done₄, r₄, h₄, -, -, hclock₄⟩ :=
    add kit.forRole.names done₂ calm₃ (hl₂.trans hl₃) hclock₃
  refine ⟨(done₄, .cluster), r₄, ?_, hclock₄⟩
  rw [setUp_steps kit, run_bind_ok h₁, run_bind_ok h₂]
  exact (run_bind_ok h₃).trans h₄

/-- A cluster in which tests are served from before, and new types after ten seconds. -/
def lagging : Rehearsal Rat where
  clock := 0
  cost := 0
  serveDelay := 10
  cancelAt := none
  store := ⟨[], [⟨Install.ownGroup, Bundled.version, [.text "Test"], 0⟩]⟩
  script := ⟨[], [], [], [], true, none⟩
  record := .empty

/-- Setting up returns at once, and the other type is not served yet. -/
theorem instances_lag_behind : ∃ result final,
    run (setUp (25 : Rat) "yaks:edit") lagging = (.ok result, final) ∧
      ¬ Listed final.store Install.ownGroup Bundled.version "Instance" final.clock := by
  have calm : Calm lagging := ⟨by decide, by simp [Faultless, lagging]⟩
  have tests : Listed lagging.store Install.ownGroup Bundled.version "Test" lagging.clock := by
    rw [listed_iff_lists]
    simp [lagging, lists_defined]
  have instances (now : Rat) :
      ¬ Listed lagging.store Install.ownGroup Bundled.version "Instance" now := by
    rw [listed_iff_lists]
    simp [lagging, lists_defined]
  obtain ⟨result, final, hrun, hclock⟩ := setUp_at_once calm rfl tests 25 "yaks:edit"
  obtain ⟨ofInstance, ofTest, ofRole, kit⟩ := exists_kit "yaks:edit"
  obtain ⟨first, second, passes⟩ := exists_passes kit calm hrun
  have hfirst := Steady.le_trans passes.toSecond.clock passes.toFinal.clock
  refine ⟨result, final, hrun, fun hlisted => ?_⟩
  rcases (passes.instances _ hfirst).1 ((passes.keptInstances.listed _).1 hlisted) with
    hlisted | ⟨-, hsince⟩
  · exact instances _ hlisted
  · rw [hclock] at hsince
    revert hsince
    decide +kernel

/-- On a cluster that serves new types at once both are listed. -/
theorem bare_world_usable : ∃ result final,
    run (setUp (25 : Rat) "yaks:edit") bareWorld = (.ok result, final) ∧
      roleKey "yaks:edit" ∈ final.store.objects ∧
      (Listed final.store Install.ownGroup Bundled.version "Instance" final.clock ↔
        Listed bareWorld.store Install.ownGroup Bundled.version "Instance" final.clock ∨
          definitionKey "instances.yaks.citrusframework.org" ∉ bareWorld.store.objects ∧
            bareWorld.clock + bareWorld.cost + bareWorld.cost + bareWorld.serveDelay ≤
              final.clock) ∧
      Listed final.store Install.ownGroup Bundled.version "Instance" final.clock := by
  have calm : Calm bareWorld := ⟨by decide, by simp [Faultless, bareWorld]⟩
  obtain ⟨ofInstance, ofTest, ofRole, kit⟩ := exists_kit "yaks:edit"
  have served : Bootstrap.Served bareWorld bareWorld.clock := by
    simp [Bootstrap.Served, bareWorld]
  obtain ⟨result, final, hrun⟩ := kit.ends 25 calm.cost (Follows.refl bareWorld) calm.faultless rfl
    served (Steady.le_refl _)
  obtain ⟨hrole, -, hiff, hfresh⟩ := setUp_leaves_usable calm hrun
  refine ⟨result, final, hrun, hrole, hiff, hfresh (fun _ _ d hle => add_le_add_left hle d)
    (fun now => ?_) (by simp [bareWorld])⟩
  rw [listed_iff_lists]
  simp [bareWorld]

end Testbed.Usable
