import Testbed.Proofs.Trace
import Testbed.Install.Setup
import Testbed.Verify

/-!
Four errors of a cluster are answers; every other one ends the operation that meets it.

A program fails fast when each of its requests either takes an error as an answer or hands it on
as it is, at once. The property is closed under composition, so it is shown for the operations
on a cluster and passes to everything that is built from them, loops included.
-/

namespace Testbed.Faults

open Rehearsal
open Yaml (Value)
open Install (Target Serving)
open Polling (Poll)

/-- The errors that count as an answer. -/
inductive Absorbed : Request → Fault → Prop where
  | unserved (group version : String) (reason body : Option String) :
    Absorbed (.kinds group version) (.status 404 reason body)
  | missing (route : Route) (ns : Option String) (name : String) (reason body : Option String) :
    Absorbed (.read route ns name) (.status 404 reason body)
  | existing (route : Route) (ns : Option Value) (object : Value) (reason body : Option String) :
    Absorbed (.create route ns object) (.status 409 reason body)
  | unstarted (pod ns : String) (container reason : Option String) {marker body : String}
    (marks : marker ∈ Cluster.notReadyMarkers) (within : marker.toList <:+: body.toList) :
    Absorbed (.log pod ns container) (.status 400 reason (some body))

/-- Every error that is no answer ends the program, as it is. -/
inductive FailsFast {τ α : Type} : Program τ α → Prop where
  | result (a : α) : FailsFast (.done (.ok a))
  | failure {e : Failure τ} (own : ∀ f, e ≠ .fault f) : FailsFast (.done (.error e))
  | ask {request : Request} {next : Except Fault request.Reply → Program τ α}
    (raises : ∀ f, ¬ Absorbed request f → next (.error f) = .fail (.fault f))
    (goes : ∀ answer, (∀ f, answer = .error f → Absorbed request f) → FailsFast (next answer)) :
    FailsFast (.ask request next)
  | now {next : τ → Program τ α} (h : ∀ t, FailsFast (next t)) : FailsFast (.now next)
  | isCancelled {next : Bool → Program τ α} (h : ∀ b, FailsFast (next b)) :
    FailsFast (.isCancelled next)
  | pause {length : τ} {next : Bool → Program τ α} (h : ∀ b, FailsFast (next b)) :
    FailsFast (.pause length next)
  | note {level : Level} {message : String} {next : Program τ α} (h : FailsFast next) :
    FailsFast (.note level message next)

variable {τ α β : Type}

namespace FailsFast

lemma bind {p : Program τ α} {f : α → Program τ β} (hp : FailsFast p)
    (hf : ∀ a, FailsFast (f a)) : FailsFast (p.bind f) := by
  induction hp with
  | result a => exact hf a
  | failure own => exact failure own
  | ask raises _ ih =>
    refine ask (fun f hn => ?_) fun answer ha => ih answer ha
    simp only [raises f hn, Program.bind_fail]
  | now _ ih => exact now ih
  | isCancelled _ ih => exact isCancelled ih
  | pause _ ih => exact pause ih
  | note _ ih => exact note ih

lemma ofExcept {ε : Type} {wrap : ε → Failure τ} (own : ∀ e f, wrap e ≠ .fault f)
    (x : Except ε α) : FailsFast (Program.ofExcept wrap x) := by
  cases x with
  | ok a => exact result a
  | error e => exact failure (own e)

lemma log (level : Level) (message : String) :
    FailsFast (Program.log level message : Program τ _) :=
  note (result ())

lemma clock : FailsFast (Program.clock : Program τ τ) := now result

/-- A request fails fast when it takes as an answer just the errors that are one. -/
lemma sendOr {request : Request} {absorb : Fault → Option α} {accept : request.Reply → α}
    (h : ∀ f, (absorb f).isSome ↔ Absorbed request f) :
    FailsFast (Program.sendOr request absorb accept : Program τ α) := by
  refine ask (fun f hn => ?_) fun answer ha => ?_
  · have : absorb f = none := by simpa using mt (h f).1 hn
    simp only [this]
  · rcases answer with f | reply
    · obtain ⟨a, hs⟩ := Option.isSome_iff_exists.1 ((h f).2 (ha f rfl))
      simp only [hs]
      exact result a
    · exact result _

lemma send {request : Request} (h : ∀ f, ¬ Absorbed request f) :
    FailsFast (Program.send request : Program τ _) := by
  refine ask (fun _ _ => rfl) fun answer ha => ?_
  rcases answer with f | reply
  · exact absurd (ha f rfl) (h f)
  · exact result reply

end FailsFast

/-! ### Operations on a cluster -/

lemma isStatus_iff {code : Int} {f : Fault} :
    f.isStatus code = true ↔ ∃ reason body, f = .status code reason body := by
  cases f with
  | status c reason body => simp [Fault.isStatus]
  | broken message => simp [Fault.isStatus]
  | noAccess message => simp [Fault.isStatus]

lemma absorbed_kinds_iff {group version : String} {f : Fault} :
    Absorbed (.kinds group version) f ↔ f.isStatus 404 = true := by
  rw [isStatus_iff]
  constructor
  · rintro ⟨⟩; exact ⟨_, _, rfl⟩
  · rintro ⟨reason, body, rfl⟩; exact .unserved _ _ _ _

lemma absorbed_read_iff {route : Route} {ns : Option String} {name : String} {f : Fault} :
    Absorbed (.read route ns name) f ↔ f.isStatus 404 = true := by
  rw [isStatus_iff]
  constructor
  · rintro ⟨⟩; exact ⟨_, _, rfl⟩
  · rintro ⟨reason, body, rfl⟩; exact .missing _ _ _ _ _

lemma absorbed_create_iff {route : Route} {ns : Option Value} {object : Value} {f : Fault} :
    Absorbed (.create route ns object) f ↔ f.isStatus 409 = true := by
  rw [isStatus_iff]
  constructor
  · rintro ⟨⟩; exact ⟨_, _, rfl⟩
  · rintro ⟨reason, body, rfl⟩; exact .existing _ _ _ _ _

lemma marker_ne_nil {marker : String} (h : marker ∈ Cluster.notReadyMarkers) :
    marker.toList ≠ [] := by
  simp only [Cluster.notReadyMarkers, List.mem_cons, List.not_mem_nil, or_false] at h
  rcases h with rfl | rfl | rfl <;> simp

lemma isNotReady_iff {f : Fault} :
    Cluster.Fault.isNotReady f = true ↔
      ∃ reason body, f = .status 400 reason (some body) ∧
        ∃ marker ∈ Cluster.notReadyMarkers, marker.toList <:+: body.toList := by
  constructor
  · intro h
    unfold Cluster.Fault.isNotReady at h
    split at h
    · next reason body =>
      obtain ⟨marker, marks, hin⟩ := List.any_eq_true.1 h
      rw [Text.occursIn_iff] at hin
      cases body with
      | none => exact absurd (by simpa using hin) (marker_ne_nil marks)
      | some body => exact ⟨reason, body, rfl, marker, marks, hin⟩
    · simp at h
  · rintro ⟨reason, body, rfl, marker, marks, hin⟩
    exact List.any_eq_true.2 ⟨marker, marks, (Text.occursIn_iff _ _).2 hin⟩

lemma absorbed_log_iff {pod ns : String} {container : Option String} {f : Fault} :
    Absorbed (.log pod ns container) f ↔ Cluster.Fault.isNotReady f = true := by
  rw [isNotReady_iff]
  constructor
  · rintro ⟨⟩
    exact ⟨_, _, rfl, _, ‹_›, ‹_›⟩
  · rintro ⟨reason, body, rfl, marker, marks, within⟩
    exact .unstarted _ _ _ _ marks within

lemma failsFast_kinds (group version : String) :
    FailsFast (Cluster.kinds group version : Program τ _) :=
  .sendOr fun f => by rw [absorbed_kinds_iff]; split <;> simp_all

lemma failsFast_done {x : Except (Failure τ) α} (h : ∀ e, x = .error e → Early e) :
    FailsFast (.done x) := by
  cases x with
  | ok a => exact .result a
  | error e => exact .failure (h e rfl).ne_fault

lemma failsFast_isPresent (ref : ResourceRef) :
    FailsFast (Cluster.isPresent ref : Program τ _) := by
  refine .bind (failsFast_done fun _ => route_early) fun route => .sendOr fun f => ?_
  rw [absorbed_read_iff]
  split <;> simp_all

lemma failsFast_submit (kind : Value) (route : Route) (ns : Option Value) (body : Value) :
    FailsFast (Cluster.submit kind route ns body : Program τ _) := by
  refine .ask (fun f hn => ?_) fun answer ha => ?_
  · rw [absorbed_create_iff, isStatus_iff] at hn
    split
    · simp_all
    · simp_all
    · simp_all
  · split
    · exact .result _
    · exact .note (.result _)
    · next f hn =>
      have := ha f rfl
      rw [absorbed_create_iff, isStatus_iff] at this
      obtain ⟨reason, body, rfl⟩ := this
      exact absurd rfl (hn reason body)

lemma failsFast_create (body : Value) (ns : Option String) :
    FailsFast (Cluster.create body ns : Program τ _) :=
  .bind (.ofExcept (by simp) _) fun kind => .bind (failsFast_done fun _ => route_early) fun route =>
    .bind (failsFast_done fun _ => placement_early) fun _ => failsFast_submit _ _ _ _

lemma failsFast_pods (ns selector : String) : FailsFast (Cluster.pods ns selector : Program τ _) :=
  .bind (.send fun f h => by cases h) fun _ => .result _

lemma failsFast_podLog (name ns : String) (container : Option String) :
    FailsFast (Cluster.podLog name ns container : Program τ _) :=
  .sendOr fun f => by rw [absorbed_log_iff]; split <;> simp_all

/-! ### Installing -/

lemma failsFast_isServed (kind version group : String) :
    FailsFast (Install.isServed kind version group : Program τ _) := by
  refine .bind (failsFast_kinds _ _) fun kinds => ?_
  cases kinds <;> exact .result _

lemma failsFast_isInstalled (ref : ResourceRef) (body : Value) :
    FailsFast (Install.isInstalled ref body : Program τ _) := by
  refine .bind (.ofExcept (by simp) _) fun kind => ?_
  split
  · exact failsFast_isServed _ _ _
  · exact failsFast_isPresent _

lemma failsFast_ensure (ref : ResourceRef) (body : Value) :
    FailsFast (Install.ensure ref body : Program τ _) := by
  refine .bind (failsFast_isInstalled _ _) fun present => ?_
  cases present
  · refine .bind (failsFast_create _ _) fun creation => ?_
    cases creation <;> exact .bind (.log _ _) fun _ => .result _
  · exact .bind (.log _ _) fun _ => .result _

lemma failsFast_ensureIn (target : Target) (ref : ResourceRef) (body : Value) :
    FailsFast (Install.ensureIn target ref body : Program τ _) := by
  cases target with
  | cluster => exact .bind (failsFast_ensure _ _) fun _ => .result _
  | collection c => exact .bind (.log _ _) fun _ => .result _
  | nowhere => exact .failure (by simp)

lemma failsFast_add (m : Manifest) (done : Install.Outcomes × Target) :
    FailsFast (Install.add m done : Program τ _) :=
  .bind (failsFast_ensureIn _ _ _) fun _ => .result _

lemma failsFast_bundled (name : String) : FailsFast (Install.bundled name : Program τ _) :=
  .ofExcept (by simp) _

/-! ### Waiting -/

variable [Seconds τ]

lemma failsFast_sleep (length : τ) : FailsFast (Polling.sleep length) := by
  refine .isCancelled fun cancelled => ?_
  cases cancelled
  · simp only
    split
    · exact .result _
    · refine .pause fun cancelled => ?_
      cases cancelled
      · exact .result _
      · exact .failure (by simp)
  · exact .failure (by simp)

lemma failsFast_expire (s : Serving τ) (start : τ) (attempts : Nat) :
    FailsFast (s.expire start attempts : Program τ α) :=
  .bind .clock fun _ => .failure (by simp)

lemma failsFast_turn (s : Serving τ) (start : τ) (attempts : Nat) :
    FailsFast (s.turn start attempts) := by
  refine .bind (failsFast_isServed _ _ _) fun served => ?_
  cases served
  · refine .bind .clock fun now => ?_
    simp only
    split
    · exact failsFast_expire _ _ _
    · refine .bind (.log _ _) fun _ => .bind (failsFast_sleep _) fun _ => .bind .clock fun now => ?_
      split
      · exact .bind (failsFast_expire _ _ _) fun _ => .result _
      · exact .result _
  · exact .bind (.log _ _) fun _ => .result _

lemma failsFast_turns (s : Serving τ) (start : τ) (left attempts : Nat) :
    FailsFast (s.turns start left attempts) := by
  induction left generalizing attempts with
  | zero =>
    refine .bind (failsFast_turn _ _ _) fun served => ?_
    cases served
    · exact failsFast_expire _ _ _
    · exact .result _
  | succ left ih =>
    refine .bind (failsFast_turn _ _ _) fun served => ?_
    cases served
    · exact ih _
    · exact .result _

lemma failsFast_awaitServed (s : Serving τ) : FailsFast (Install.awaitServed s) :=
  .bind .clock fun _ => failsFast_turns _ _ _ _

lemma failsFast_timeout (p : Poll τ α) (start : τ) (attempts : Nat) :
    FailsFast (p.timeout start attempts : Program τ α) :=
  .bind .clock fun _ => .failure (by simp)

lemma failsFast_await (p : Poll τ α) (start : τ) (attempts : Nat) :
    FailsFast (p.await start attempts) :=
  .bind .clock fun _ => failsFast_sleep _

lemma failsFast_isOver (p : Poll τ α) (start : τ) : FailsFast (p.isOver start) := by
  unfold Poll.isOver
  split
  · exact .bind .clock fun _ => .result _
  · exact .result _

lemma failsFast_attempt {p : Poll τ α} (hc : FailsFast p.check) (start : τ)
    (left attempts : Nat) : FailsFast (p.attempt start left attempts) := by
  induction left generalizing attempts with
  | zero =>
    refine .bind hc fun found => ?_
    cases found
    · exact .bind (failsFast_await _ _ _) fun _ => failsFast_timeout _ _ _
    · exact .result _
  | succ left ih =>
    refine .bind hc fun found => ?_
    cases found
    · refine .bind (.log _ _) fun _ => .bind (failsFast_await _ _ _) fun _ =>
        .bind (failsFast_isOver _ _) fun ended => ?_
      cases ended
      · exact ih _
      · exact .bind (.log _ _) fun _ => failsFast_timeout _ _ _
    · exact .result _

/-- A poll fails fast when its check does. -/
lemma failsFast_pollUntil {p : Poll τ α} (hc : FailsFast p.check) :
    FailsFast (Polling.pollUntil p) := by
  refine .bind .clock fun start => ?_
  split
  · exact .failure (by simp)
  · exact failsFast_attempt hc _ _ _

/-! ### Verifying, and setting up -/

omit [Seconds τ] in
lemma failsFast_findRunning (ns selector : String) :
    FailsFast (Verify.findRunning ns selector : Program τ _) :=
  .bind (.bind (failsFast_pods _ _) fun _ => .ofExcept (by simp) _) fun _ => .result _

omit [Seconds τ] in
lemma failsFast_readLog (pod : Observation) (container : Option String) :
    FailsFast (Verify.readLog pod container : Program τ _) := failsFast_podLog _ _ _

lemma failsFast_awaitRunning (ns selector : String) (policy : Policy τ) :
    FailsFast (Verify.awaitRunning ns selector policy) :=
  .bind (failsFast_pollUntil (failsFast_findRunning _ _)) fun _ =>
    .bind (.log _ _) fun _ => .result _

lemma failsFast_awaitLog (pod : Observation) (text : String) (policy : Policy τ)
    (container : Option String) : FailsFast (Verify.awaitLog pod text policy container) :=
  .bind (failsFast_pollUntil (.bind (failsFast_readLog _ _) fun _ => .result _)) fun _ =>
    .log _ _

lemma failsFast_verify (ns selector : String) (policy : Policy τ)
    (message container : Option String) :
    FailsFast (Verify.verify ns selector policy message container) := by
  refine .bind (failsFast_awaitRunning _ _ _) fun pod => ?_
  cases message
  · exact .result _
  · exact .bind (failsFast_awaitLog _ _ _ _) fun _ => .result _

lemma failsFast_awaitType (timeout : τ) (m : Manifest) (target : Target) :
    FailsFast (Install.awaitType timeout m target) := by
  cases target with
  | collection c => exact .result _
  | cluster => exact failsFast_awaitServed _
  | nowhere => exact failsFast_awaitServed _

lemma failsFast_setUpCluster (timeout : τ) (roleName : String) (target : Target) :
    FailsFast (Install.setUpCluster timeout roleName target) :=
  .bind (failsFast_bundled _) fun _ => .bind (failsFast_add _ _) fun _ =>
    .bind (failsFast_bundled _) fun _ => .bind (failsFast_add _ _) fun _ =>
      .bind (failsFast_awaitType _ _ _) fun _ => .bind (failsFast_bundled _) fun _ =>
        failsFast_add _ _

omit [Seconds τ] in
lemma failsFast_setUpNamespace (ns account : String) (target : Target) :
    FailsFast (Install.setUpNamespace ns account target : Program τ _) :=
  .bind (failsFast_bundled _) fun _ => .bind (failsFast_add _ _) fun _ =>
    .bind (failsFast_bundled _) fun _ => failsFast_add _ _

/-! ### Runs -/

/-- A run that meets an error that is no answer does nothing after it and ends with it. -/
lemma FailsFast.ends {p : Program τ α} (hp : FailsFast p) {r : Rehearsal τ}
    {before after : List (Event τ)} {c : Call τ} {f : Fault}
    (h : trace p r = before ++ .called c :: after) (raised : c.answer = .error f)
    (hn : ¬ Absorbed c.request f) : after = [] ∧ (run p r).1 = .error (.fault f) := by
  induction hp generalizing r before with
  | result a => simp [trace] at h
  | failure own => simp [trace] at h
  | @ask request next raises goes ih =>
    simp only [trace] at h
    rcases before with _ | ⟨e, before⟩
    · -- the call is the first one
      simp only [List.nil_append, List.cons.injEq, Event.called.injEq] at h
      obtain ⟨rfl, h⟩ := h
      have hnext : next (r.answer request).1 = .fail (.fault f) := by
        rw [show (r.answer request).1 = .error f from raised]
        exact raises f hn
      rw [hnext] at h
      exact ⟨h.symm, by simp only [run, hnext, Program.fail]⟩
    · -- it is a later one, so the first was answered
      simp only [List.cons_append, List.cons.injEq] at h
      refine ih _ (fun f' hf => ?_) h.2
      by_contra hn'
      rw [hf, raises f' hn'] at h
      simp [trace, Program.fail] at h
  | now _ ih => exact ih _ h
  | isCancelled _ ih =>
    rcases before with _ | ⟨e, before⟩
    · simp [trace] at h
    · exact ih _ (List.cons.inj h).2
  | pause _ ih =>
    rcases before with _ | ⟨e, before⟩
    · simp [trace] at h
    · exact ih _ (List.cons.inj h).2
  | note _ ih =>
    rcases before with _ | ⟨e, before⟩
    · simp [trace] at h
    · exact ih (List.cons.inj h).2

/-- A run that ends with an error of the cluster has met it in its last call, and it was no
answer there. -/
lemma FailsFast.met {p : Program τ α} (hp : FailsFast p) {r : Rehearsal τ} {f : Fault}
    (h : (run p r).1 = .error (.fault f)) :
    ∃ before c, trace p r = before ++ [.called c] ∧ c.answer = .error f ∧
      ¬ Absorbed c.request f := by
  induction hp generalizing r with
  | result a => simp [run] at h
  | @failure e own => simp [run, own f] at h
  | @ask request next raises goes ih =>
    by_cases ha : ∀ f', (r.answer request).1 = .error f' → Absorbed request f'
    · obtain ⟨before, c, ht, hc⟩ := ih _ ha h
      exact ⟨_ :: before, c, congrArg (_ :: ·) ht, hc⟩
    · push Not at ha
      obtain ⟨f', hf, hn⟩ := ha
      have hnext := raises f' hn
      rw [← hf] at hnext
      simp only [run, hnext, Program.fail, Except.error.injEq, Failure.fault.injEq] at h
      subst h
      refine ⟨[], r.callOf request, ?_, hf, hn⟩
      simp only [trace, hnext, Program.fail, List.nil_append]
  | now _ ih => exact ih _ h
  | isCancelled _ ih =>
    obtain ⟨before, c, ht, hc⟩ := ih _ h
    exact ⟨_ :: before, c, congrArg (_ :: ·) ht, hc⟩
  | pause _ ih =>
    obtain ⟨before, c, ht, hc⟩ := ih _ h
    exact ⟨_ :: before, c, congrArg (_ :: ·) ht, hc⟩
  | note _ ih =>
    obtain ⟨before, c, ht, hc⟩ := ih h
    exact ⟨_ :: before, c, congrArg (_ :: ·) ht, hc⟩

/-- The operations on a cluster, from a single request to setting it up. -/
inductive Operation : {α : Type} → Program τ α → Prop where
  | ensure (target : Target) (ref : ResourceRef) (body : Value) :
    Operation (Install.ensureIn target ref body)
  | isInstalled (ref : ResourceRef) (body : Value) : Operation (Install.isInstalled ref body)
  | setUpCluster (timeout : τ) (roleName : String) (target : Target) :
    Operation (Install.setUpCluster timeout roleName target)
  | setUpNamespace (ns account : String) (target : Target) :
    Operation (Install.setUpNamespace ns account target)
  | isServed (kind version group : String) : Operation (Install.isServed kind version group)
  | awaitServed (s : Serving τ) : Operation (Install.awaitServed s)
  | isPresent (ref : ResourceRef) : Operation (Cluster.isPresent ref)
  | create (body : Value) (ns : Option String) : Operation (Cluster.create body ns)
  | pods (ns selector : String) : Operation (Cluster.pods ns selector)
  | podLog (name ns : String) (container : Option String) :
    Operation (Cluster.podLog name ns container)
  | readLog (pod : Observation) (container : Option String) :
    Operation (Verify.readLog pod container)
  | findRunning (ns selector : String) : Operation (Verify.findRunning ns selector)
  | awaitRunning (ns selector : String) (policy : Policy τ) :
    Operation (Verify.awaitRunning ns selector policy)
  | awaitLog (pod : Observation) (text : String) (policy : Policy τ)
    (container : Option String) : Operation (Verify.awaitLog pod text policy container)
  | verify (ns selector : String) (policy : Policy τ) (message container : Option String) :
    Operation (Verify.verify ns selector policy message container)

lemma Operation.failsFast {p : Program τ α} (h : Operation p) : FailsFast p := by
  cases h with
  | ensure => exact failsFast_ensureIn _ _ _
  | isInstalled => exact failsFast_isInstalled _ _
  | setUpCluster => exact failsFast_setUpCluster _ _ _
  | setUpNamespace => exact failsFast_setUpNamespace _ _ _
  | isServed => exact failsFast_isServed _ _ _
  | awaitServed => exact failsFast_awaitServed _
  | isPresent => exact failsFast_isPresent _
  | create => exact failsFast_create _ _
  | pods => exact failsFast_pods _ _
  | podLog => exact failsFast_podLog _ _ _
  | readLog => exact failsFast_readLog _ _
  | findRunning => exact failsFast_findRunning _ _
  | awaitRunning => exact failsFast_awaitRunning _ _ _
  | awaitLog => exact failsFast_awaitLog _ _ _ _
  | verify => exact failsFast_verify _ _ _ _ _

/-- **Errors are handed on.** In every run of an operation, whatever the cluster holds and the
script lets go wrong, a call that raises an error that is no answer is the last thing the run
does: no call and no wait follows, no object is added by it or after it, and the run ends with
that very error. A run ends with an error of the cluster in no other way, so none of the errors
that are answers ever leaves it. -/
theorem operation_fails_fast {p : Program τ α} (hp : Operation p) (r : Rehearsal τ) :
    (∀ before c after f, trace p r = before ++ .called c :: after → c.answer = .error f →
      ¬ Absorbed c.request f →
        after = [] ∧ (run p r).1 = .error (.fault f) ∧
          (run p r).2.store.objects =
            r.store.objects ++ created (before.filterMap Event.call?)) ∧
      ∀ f, (run p r).1 = .error (.fault f) →
        ∃ before c, trace p r = before ++ [.called c] ∧ c.answer = .error f ∧
          ¬ Absorbed c.request f := by
  refine ⟨fun before c after f h raised hn => ?_, fun f h => hp.failsFast.met h⟩
  obtain ⟨rfl, hr⟩ := hp.failsFast.ends h raised hn
  refine ⟨rfl, hr, ?_⟩
  rw [objects_run, calls, h]
  simp [created, Event.call?, Call.created?_of_error raised]

/-- A cluster that refuses to create roles. -/
def forbidding : Rehearsal Rat where
  clock := 0
  cost := 1
  serveDelay := 0
  cancelAt := none
  store := ⟨[], []⟩
  script := ⟨[(.create .role, [some (.status 403 (some "Forbidden") none)])], [], [], [], true,
    none⟩
  record := .empty

/-- That the role is not there is an answer; that it must not be created is none. -/
theorem ensure_hands_on_forbidden :
    let ref : ResourceRef := ⟨"", "Role", "v1", "reader", some "tests"⟩
    let body := Value.ofFields [("kind", .text "Role"),
      ("metadata", Value.ofFields [("name", .text "reader")])]
    let p : Program Rat _ := Install.ensureIn .cluster ref body
    let read : Call Rat := ⟨0, .read .role (some "tests") "reader", .error notFound, 1⟩
    let create : Call Rat := ⟨1, .create .role (some (.text "tests")) body,
      .error (.status 403 (some "Forbidden") none), 2⟩
    trace p forbidding = [.called read] ++ .called create :: [] ∧
      (run p forbidding).1 = .error (.fault (.status 403 (some "Forbidden") none)) ∧
      (run p forbidding).2.store.objects = [] := by
  intro ref body p read create
  have h : trace p forbidding = [.called read] ++ .called create :: [] := by with_unfolding_all rfl
  exact ⟨h, ((operation_fails_fast (.ensure .cluster ref body) forbidding).1 _ _ _ _ h rfl
    (by rintro ⟨⟩)).2⟩

end Testbed.Faults
