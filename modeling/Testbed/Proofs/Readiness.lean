import Mathlib
import Testbed.Proofs.Verification

/-!
Which pods count as ready, and which one is returned.

A pod is judged by its phase and by the containers that its status reports. What its specification
declares does not enter, so a pod may be returned while a container of it is still unknown.
-/

namespace Testbed.Readiness

open Rehearsal
open Naming (bind_ok)
open Turns
open Verification (spot searching judges_findRunning unfolds_noted)
open Yaml (Value)

variable {τ α : Type}

/-! ### Pods -/

/-- The pod runs, and its status reports some containers, all of them as ready. -/
structure Ready (p : Pod) : Prop where
  running : Validation.text p.phase = .ok "Running"
  reported : p.statuses ≠ []
  ready : ∀ status ∈ p.statuses, status.2.isTruthy = true

/-- The specification has a container of this name. -/
def Declares (p : Pod) (name : String) : Prop := ∃ v ∈ p.declared, Validation.text v = .ok name

/-- The status reports a container of this name, as ready or not. -/
def Reports (p : Pod) (name : String) (ready : Bool) : Prop :=
  ∃ status ∈ p.statuses, Validation.text status.1 = .ok name ∧ status.2.isTruthy = ready

/-- The pod runs with all its containers ready, those that are declared among them. -/
structure Sound (p : Pod) : Prop where
  running : Validation.text p.phase = .ok "Running"
  some : p.declared ≠ [] ∨ p.statuses ≠ []
  declared : ∀ name, Declares p name → Reports p name true

/-- A ready pod is sound as far as its status reports what is declared. -/
lemma Ready.sound_iff {p : Pod} (h : Ready p) :
    Sound p ↔ ∀ name, Declares p name → ∃ ready, Reports p name ready := by
  constructor
  · intro sound name declares
    exact ⟨true, sound.declared name declares⟩
  · intro complete
    refine ⟨h.running, Or.inr h.reported, fun name declares => ?_⟩
    obtain ⟨ready, status, hmem, hname, -⟩ := complete name declares
    exact ⟨status, hmem, hname, h.ready status hmem⟩

/-! ### Observations -/

/-- What of a pod decides whether it is ready. -/
structure Observes (p : Pod) (o : Observation) : Prop where
  phase : Observation.field "phase" (Observation.given p.phase "Unknown") = .ok o.phase
  containers : List.Forall₂ (fun status c => Observation.container status = .ok c) p.statuses
    o.containers

/-- A traversal that comes to its end has a result for each element. -/
lemma forall₂_of_mapM {ε β : Type} {f : α → Except ε β} {as : List α} {bs : List β}
    (h : as.mapM f = .ok bs) : List.Forall₂ (fun a b => f a = .ok b) as bs := by
  induction as generalizing bs with
  | nil =>
    cases h
    exact .nil
  | cons a as ih =>
    rw [List.mapM_cons] at h
    obtain ⟨b, hb, h⟩ := bind_ok h
    obtain ⟨bs, hbs, h⟩ := bind_ok h
    cases h
    exact .cons hb (ih hbs)

lemma mapM_of_forall₂ {ε β : Type} {f : α → Except ε β} {as : List α} {bs : List β}
    (h : List.Forall₂ (fun a b => f a = .ok b) as bs) : as.mapM f = .ok bs := by
  induction h with
  | nil => rfl
  | cons ha _ ih =>
    rw [List.mapM_cons, ha, ih]
    rfl

section

variable {p : Pod} {o : Observation}

lemma observes_of_ofPod (h : Observation.ofPod p = .ok o) : Observes p o := by
  unfold Observation.ofPod at h
  obtain ⟨containers, hc, h⟩ := bind_ok h
  cases hm : p.metadata with
  | none =>
    rw [hm] at h
    cases h
  | some metadata =>
    simp only [hm] at h
    split at h
    · rename_i phase _ _ _ hphase _
      cases h
      exact ⟨hphase, forall₂_of_mapM hc⟩
    · cases h

/-- A phase that is not given is none in which a pod runs. -/
lemma phase_iff {v : Value} {phase : String}
    (h : Observation.field "phase" (Observation.given v "Unknown") = .ok phase) :
    phase = "Running" ↔ Validation.text v = .ok "Running" := by
  unfold Observation.field at h
  split at h
  · rename_i s hs
    obtain rfl := Except.ok.inj h
    unfold Observation.given at hs
    split at hs
    · rw [hs, Except.ok.injEq]
    · rename_i falsy
      obtain rfl : "Unknown" = s := Except.ok.inj hs
      refine iff_of_false (by decide) fun hv => falsy ?_
      cases v with
      | text t =>
        obtain rfl : t = "Running" := Except.ok.inj hv
        rfl
      | bytes b =>
        cases b with
        | nil => exact absurd (Except.ok.inj hv) (by decide)
        | cons n b => rfl
      | _ => cases hv
  · cases h

lemma container_ready {status : Value × Value} {c : Container}
    (h : Observation.container status = .ok c) : c.ready = status.2.isTruthy := by
  unfold Observation.container at h
  split at h
  · cases h
    rfl
  · cases h

lemma all_ready {statuses : List (Value × Value)} {containers : List Container}
    (h : List.Forall₂ (fun status c => Observation.container status = .ok c) statuses containers) :
    containers.all (·.ready) = statuses.all (·.2.isTruthy) := by
  induction h with
  | nil => rfl
  | cons hc _ ih => rw [List.all_cons, List.all_cons, container_ready hc, ih]

/-- Judging the observation is judging the pod. -/
lemma isReady_iff (h : Observation.ofPod p = .ok o) : o.isReady = true ↔ Ready p := by
  obtain ⟨hphase, hcontainers⟩ := observes_of_ofPod h
  have hempty : o.containers = [] ↔ p.statuses = [] := by
    rw [← List.length_eq_zero_iff, ← List.length_eq_zero_iff, hcontainers.length_eq]
  have hall : o.containers.all (·.ready) = p.statuses.all (·.2.isTruthy) :=
    all_ready hcontainers
  unfold Observation.isReady
  rw [hall]
  simp only [Bool.and_eq_true, beq_iff_eq, Bool.not_eq_true', List.isEmpty_eq_false_iff,
    List.all_eq_true, phase_iff hphase, ne_eq, hempty]
  constructor
  · rintro ⟨⟨hrunning, hreported⟩, hready⟩
    exact ⟨hrunning, hreported, hready⟩
  · rintro ⟨hrunning, hreported, hready⟩
    exact ⟨⟨hrunning, hreported⟩, hready⟩

end

/-! ### Lists of pods -/

/-- The pod is the first of the list that is ready, and this is observed of it. -/
structure Picked (listed : List Pod) (p : Pod) (o : Observation) : Prop where
  first : ∃ before after, listed = before ++ p :: after ∧ ∀ q ∈ before, ¬ Ready q
  ready : Ready p
  observed : Observation.ofPod p = .ok o

/-- The search goes by the order of the list. -/
lemma search {listed : List Pod} {observed : List Observation}
    (h : List.Forall₂ (fun p o => Observation.ofPod p = .ok o) listed observed) :
    (∃ p o, observed.find? (·.isReady) = some o ∧ Picked listed p o) ∨
      observed.find? (·.isReady) = none ∧ ∀ p ∈ listed, ¬ Ready p := by
  induction h with
  | nil => exact Or.inr ⟨rfl, nofun⟩
  | @cons p o listed observed hp _ ih =>
    by_cases hready : o.isReady = true
    · refine Or.inl ⟨p, o, List.find?_cons_of_pos hready, ⟨[], listed, rfl, nofun⟩, ?_, hp⟩
      exact (isReady_iff hp).1 hready
    · have hnot : ¬ Ready p := mt (isReady_iff hp).2 hready
      rw [List.find?_cons_of_neg hready]
      rcases ih with ⟨q, o', hfind, ⟨before, after, rfl, hbefore⟩, hq, ho⟩ | ⟨hfind, hnone⟩
      · exact Or.inl ⟨q, o', hfind,
          ⟨p :: before, after, rfl, List.forall_mem_cons.2 ⟨hnot, hbefore⟩⟩, hq, ho⟩
      · exact Or.inr ⟨hfind, List.forall_mem_cons.2 ⟨hnot, hnone⟩⟩

lemma picked_of_spot {answer : Except Fault (Option (List Pod))} {o : Observation}
    (h : spot answer = (.ok (some o) : Except (Failure τ) _)) :
    ∃ listed p, answer = .ok listed ∧ Picked (listed.getD []) p o := by
  unfold spot at h
  split at h
  · cases h
  · rename_i listed
    split at h
    · rename_i observed hobserved
      have hfind : observed.find? (·.isReady) = some o := Except.ok.inj h
      rcases search (forall₂_of_mapM hobserved) with ⟨p, o', hfind', picked⟩ | ⟨hnone, -⟩
      · obtain rfl : o = o' := Option.some.inj (hfind.symm.trans hfind')
        exact ⟨listed, p, rfl, picked⟩
      · cases hfind.symm.trans hnone
    · cases h

/-! ### Where a result comes from -/

/-- The call asks for the pods with a label, and is answered by this list. -/
inductive Answers (ns selector : String) : Call τ → List Pod → Prop
  | mk (start : τ) (answer : Option (List Pod)) (finish : τ) :
    Answers ns selector ⟨start, .pods ns selector, .ok answer, finish⟩ (answer.getD [])

/-- A pod is observed in the answer to one of the calls. -/
def Seen (ns selector : String) (cs : List (Call τ)) (o : Observation) : Prop :=
  ∃ c ∈ cs, ∃ listed p, Answers ns selector c listed ∧ Picked listed p o ∧
    (Sound p ↔ ∀ name, Declares p name → ∃ ready, Reports p name ready)

lemma Seen.mono {ns selector : String} {cs cs' : List (Call τ)} {o : Observation}
    (h : Seen ns selector cs o) (hs : cs ⊆ cs') : Seen ns selector cs' o := by
  obtain ⟨c, hmem, rest⟩ := h
  exact ⟨c, hs hmem, rest⟩

section

variable [Seconds τ] {token : Option τ} {ns selector : String} {start stop : τ}
  {events : List (Event τ)} {o : Observation}

lemma seen_of_findRunning
    (h : Unfolds token (Verify.findRunning ns selector) start events (.ok (some o)) stop) :
    Seen ns selector (callsIn events) o := by
  obtain ⟨c, rfl, -, -, hfinds⟩ := (judges_findRunning ns selector).finds h
  generalize hfound : (Except.ok (some o) : Except (Failure τ) _) = found at hfinds
  cases hfinds with
  | mk now answer finish =>
    obtain ⟨listed, p, rfl, picked⟩ := picked_of_spot hfound.symm
    exact ⟨_, List.mem_singleton_self _, _, p, .mk now listed finish, picked,
      picked.ready.sound_iff⟩

lemma seen_of_awaitRunning {policy : Policy τ}
    (h : Unfolds token (Verify.awaitRunning ns selector policy) start events (.ok o) stop) :
    Seen ns selector (callsIn events) o := by
  obtain ⟨own, rfl, polled⟩ :=
    unfolds_noted (p := Polling.pollUntil (searching ns selector policy)) h
  rcases begins_of_unfolds polled with ⟨-, -, he, -⟩ | ⟨-, hattempt⟩
  · cases he
  · obtain ⟨checks, rounds⟩ := rounds_of_unfolds hattempt
    obtain ⟨began, found, ended, hcheck, hsub⟩ := rounds.met
    rw [callsIn_append]
    refine (seen_of_findRunning hcheck).mono ?_
    exact List.subset_append_of_subset_left _ (List.filterMap_subset _ hsub)

end

/-! ### Main result -/

/-- An operation that returns a pod, with its calls. -/
inductive Returned [Seconds τ] (ns selector : String) (r : Rehearsal τ) :
    List (Call τ) → Observation → Prop
  | found {o : Observation} (h : (run (Verify.findRunning ns selector) r).1 = .ok (some o)) :
    Returned ns selector r (calls (Verify.findRunning ns selector) r) o
  | awaited {o : Observation} (policy : Policy τ)
    (h : (run (Verify.awaitRunning ns selector policy) r).1 = .ok o) :
    Returned ns selector r (calls (Verify.awaitRunning ns selector policy) r) o
  | verified {o : Observation} (policy : Policy τ) (message container : Option String)
    (h : (run (Verify.verify ns selector policy message container) r).1 = .ok o) :
    Returned ns selector r (calls (Verify.verify ns selector policy message container) r) o

/-- **A pod that is returned is ready as far as its status tells.** It was listed in an answer of
the cluster, as the first one that runs and is reported ready. It is sound if and only if its
status reports all containers that are declared. -/
theorem returned_pod_reported_ready [Seconds τ] {ns selector : String} {r : Rehearsal τ}
    {cs : List (Call τ)} {o : Observation} (h : Returned ns selector r cs o) :
    Seen ns selector cs o := by
  cases h with
  | found h =>
    have unfolds := unfolds_run (Verify.findRunning ns selector) r
    rw [h] at unfolds
    exact seen_of_findRunning unfolds
  | awaited policy h =>
    have unfolds := unfolds_run (Verify.awaitRunning ns selector policy) r
    rw [h] at unfolds
    exact seen_of_awaitRunning unfolds
  | verified policy message container h =>
    have unfolds := unfolds_run (Verify.verify ns selector policy message container) r
    rw [h] at unfolds
    show Seen ns selector (callsIn _) o
    generalize trace (Verify.verify ns selector policy message container) r = events at unfolds
    generalize hresult : (Except.ok o : Except (Failure τ) _) = result at unfolds
    cases Deadline.phases_of_unfolds unfolds with
    | missing => cases hresult
    | running _ await =>
      cases hresult
      exact seen_of_awaitRunning await
    | @logged first second pod text found mid stop _ await =>
      cases found with
      | error e => cases hresult
      | ok u =>
        cases hresult
        rw [callsIn_append]
        exact (seen_of_awaitRunning await).mono (List.subset_append_left _ _)

/-- The pod that a verification returns has both of its containers reported. -/
theorem demo_pod_reported_ready :
    let policy : Policy Rat := ⟨3, 2, by decide, by decide⟩
    let p := Verify.verify "tests" "app=demo" policy (some "ready") (some "")
    ∃ o, (run p Verification.lateLog).1 = .ok o ∧
      Seen "tests" "app=demo" (calls p Verification.lateLog) o := by
  intro policy p
  have hsome : (run p Verification.lateLog).1.toOption.isSome = true := by decide +kernel
  cases hrun : (run p Verification.lateLog).1 with
  | error e =>
    rw [hrun] at hsome
    cases hsome
  | ok o => exact ⟨o, rfl, returned_pod_reported_ready (.verified policy _ _ hrun)⟩

/-- A pod of two containers, of which one is not reported yet. -/
def starting : Pod :=
  ⟨some ⟨.text "demo", .text "tests"⟩, .text "Running", [(.text "app", .bool true)],
    [.text "app", .text "proxy"]⟩

/-- Such a pod is found at once. -/
theorem unreported_container_passes :
    let world : Rehearsal Rat :=
      { Truncation.neverMet with script := ⟨[], [some [starting]], [], [], true, none⟩ }
    ∃ o, (run (Verify.findRunning "tests" "app=demo") world).1 = .ok (some o) ∧
      Observation.ofPod starting = .ok o ∧ Declares starting "proxy" ∧
        (∀ ready, ¬ Reports starting "proxy" ready) ∧ ¬ Sound starting := by
  have declares : Declares starting "proxy" := ⟨.text "proxy", by simp [starting], rfl⟩
  have unreported (ready : Bool) : ¬ Reports starting "proxy" ready := by
    rintro ⟨status, hmem, hname, -⟩
    obtain rfl := List.mem_singleton.1 hmem
    exact absurd (Except.ok.inj hname) (by decide)
  refine ⟨⟨"demo", "tests", "Running", [⟨"app", true⟩], ["app", "proxy"]⟩, rfl, rfl, declares,
    unreported, fun sound => ?_⟩
  exact unreported true (sound.declared "proxy" declares)

end Testbed.Readiness
