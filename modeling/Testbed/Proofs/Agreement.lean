import Mathlib
import Testbed.Proofs.Bundled
import Testbed.Proofs.Clients

/-!
Clients that install the same objects agree on who did.

The presence of an object is checked in one request and the object created in another, with any
requests of others between the two; only the answer to the creation tells who came first. What is
kept from step to step is, for each client, where its call stands and which object it has created.
-/

namespace Testbed.Clients

open Rehearsal
open Install (Outcome)
open Naming (settle)

variable {ι τ : Type} [DecidableEq ι] [Seconds τ]

/-! ### One client -/

/-- The state of a client, given the objects that are stored, which of its calls has created
which object, what it has to do and how many steps it has made. -/
structure Good (objects : List ObjectKey) (mine : Nat → ObjectKey → Prop) (plan : List Job)
    (steps : Nat) (c : Client τ) : Prop where
  jobs : c.past.map Prod.fst ++ (c.current.map Prod.fst).toList ++ c.todo = plan
  past : ∀ n job result, c.past[n]? = some (job, result) →
    ∃ outcome, result = .ok outcome ∧ Fits job (job.key ∈ objects) (mine n job.key) outcome
  current : ∀ job p, c.current = some (job, p) →
    ∃ left, Course job (job.key ∈ objects) (mine c.past.length job.key) left p ∧
      steps + left + 6 * c.todo.length ≤ 6 * plan.length
  idle : c.current = none → steps + 6 * c.todo.length ≤ 6 * plan.length
  own : ∀ n key, mine n key → (∃ job, plan[n]? = some job ∧ key = job.key) ∧
    (n < c.past.length ∨ n = c.past.length ∧ c.current ≠ none)

namespace Good

variable {objects objects' : List ObjectKey} {mine mine' : Nat → ObjectKey → Prop}
  {plan : List Job} {steps : Nat} {c : Client τ}

omit [Seconds τ] in
/-- What others do does no harm. -/
lemma mono (h : Good objects mine plan steps c) (ho : objects ⊆ objects')
    (hm : ∀ n key, mine n key ↔ mine' n key) : Good objects' mine' plan steps c := by
  refine ⟨h.jobs, fun n job result hp => ?_, fun job p hc => ?_, h.idle, fun n key hk => ?_⟩
  · obtain ⟨outcome, hr, fits⟩ := h.past n job result hp
    exact ⟨outcome, hr, fits.notCollected, fits.installed.trans (hm n job.key),
      fun hne => ho (fits.stored hne)⟩
  · obtain ⟨left, course, hle⟩ := h.current job p hc
    exact ⟨left, course.mono (fun hk => ho hk) (hm _ _), hle⟩
  · exact h.own n key ((hm n key).2 hk)

omit [Seconds τ] in
lemma start (h : Good objects mine plan steps c) {job : Job} {rest : List Job}
    (idle : c.current = none) (next : c.todo = job :: rest) :
    Good objects mine plan (steps + 1) ⟨c.past, some (job, job.call), rest⟩ := by
  have fresh : ¬ mine c.past.length job.key := fun hk => by
    rcases (h.own _ _ hk).2 with hlt | ⟨-, hc⟩
    · exact Nat.lt_irrefl _ hlt
    · exact hc idle
  have hsteps := h.idle idle
  rw [next, List.length_cons] at hsteps
  refine ⟨?_, h.past, fun job' p hc => ?_, by simp, fun n key hk => ?_⟩
  · have := h.jobs
    rw [idle, next] at this
    simpa using this
  · cases hc
    exact ⟨5, .checking fresh, by simp only; omega⟩
  · obtain ⟨hjob, hn⟩ := h.own n key hk
    exact ⟨hjob, hn.imp id fun hn => ⟨hn.1, by simp⟩⟩

lemma request (h : Good objects mine plan steps c) {job : Job} {request : Request}
    {next : Except Fault request.Reply → Program τ Outcome} {world : Rehearsal τ}
    (hc : c.current = some (job, .ask request next)) (ho : world.store.objects = objects)
    (hm : ∀ n key, mine' n key ↔
      mine n key ∨ n = c.past.length ∧ creates request world = some key) :
    Good (world.serve request).2.store.objects mine' plan (steps + 1)
        ⟨c.past, some (job, next (world.serve request).1), c.todo⟩ ∧
      ∀ key, creates request world = some key → key ∉ objects := by
  obtain ⟨left, course, hle⟩ := h.current job _ hc
  rw [← ho] at course
  obtain ⟨hcreates, left', hlt, course'⟩ := course.request
  have new {key : ObjectKey} (hk : creates request world = some key) :
      key = job.key ∧ key ∉ objects := by
    rcases hcreates with hn | ⟨hs, hnew⟩
    · rw [hn] at hk
      cases hk
    · obtain rfl : job.key = key := Option.some.inj (hs.symm.trans hk)
      exact ⟨rfl, ho ▸ hnew⟩
  refine ⟨⟨?_, fun n job' result hp => ?_, fun job' p hc' => ?_, by simp, ?_⟩,
    fun key hk => (new hk).2⟩
  · have := h.jobs
    rw [hc] at this
    exact this
  · have hn : n < c.past.length := (List.getElem?_eq_some_iff.1 hp).1
    obtain ⟨outcome, hr, fits⟩ := h.past n job' result hp
    refine ⟨outcome, hr, fits.notCollected, ?_, fun hne => ?_⟩
    · rw [hm, fits.installed]
      exact ⟨Or.inl, fun hk => hk.elim id fun hk => absurd hk.1 (by omega)⟩
    · rw [objects_serve, ho]
      exact List.mem_append_left _ (fits.stored hne)
  · cases hc'
    refine ⟨left', course'.mono id ?_, by simp only; omega⟩
    simp only [hm, true_and]
  · intro n key hk
    rcases (hm n key).1 hk with hold | ⟨rfl, hcreated⟩
    · obtain ⟨hjob, hn⟩ := h.own n key hold
      exact ⟨hjob, hn.imp id fun hn => ⟨hn.1, by simp⟩⟩
    · refine ⟨⟨job, ?_, (new hcreated).1⟩, Or.inr ⟨rfl, by simp⟩⟩
      have := h.jobs
      rw [hc] at this
      rw [← this]
      simp

lemma note (h : Good objects mine plan steps c) {job : Job} {level : Level} {message : String}
    {next : Program τ Outcome} (hc : c.current = some (job, .note level message next)) :
    Good objects mine plan (steps + 1) ⟨c.past, some (job, next), c.todo⟩ := by
  obtain ⟨left, course, hle⟩ := h.current job _ hc
  obtain ⟨left', hlt, course'⟩ := course.note
  refine ⟨?_, h.past, fun job' p hc' => ?_, by simp, fun n key hk => ?_⟩
  · have := h.jobs
    rw [hc] at this
    exact this
  · cases hc'
    exact ⟨left', course', by simp only; omega⟩
  · obtain ⟨hjob, hn⟩ := h.own n key hk
    exact ⟨hjob, hn.imp id fun hn => ⟨hn.1, by simp⟩⟩

lemma finish (h : Good objects mine plan steps c) {job : Job}
    {result : Except (Failure τ) Outcome} (hc : c.current = some (job, .done result)) :
    Good objects mine plan (steps + 1) ⟨c.past ++ [(job, result)], none, c.todo⟩ := by
  obtain ⟨left, course, hle⟩ := h.current job _ hc
  obtain ⟨hpos, outcome, hr, fits⟩ := course.finish
  refine ⟨?_, fun n job' result' hp => ?_, by simp, fun _ => ?_,
    fun n key hk => ?_⟩
  · have := h.jobs
    rw [hc] at this
    simpa using this
  · rcases Nat.lt_or_ge n c.past.length with hn | hn
    · rw [List.getElem?_append_left hn] at hp
      exact h.past n job' result' hp
    · rw [List.getElem?_append_right hn] at hp
      obtain ⟨hlt, hp⟩ := List.getElem?_eq_some_iff.1 hp
      obtain rfl : n = c.past.length := by simp at hlt; omega
      simp only [Nat.sub_self, List.getElem_cons_zero, Prod.mk.injEq] at hp
      obtain ⟨rfl, rfl⟩ := hp
      exact ⟨outcome, hr, fits⟩
  · simp only
    omega
  · obtain ⟨hjob, hn⟩ := h.own n key hk
    refine ⟨hjob, Or.inl ?_⟩
    rw [List.length_append, List.length_singleton]
    rcases hn with hn | ⟨rfl, -⟩ <;> omega

end Good

/-! ### All clients -/

/-- What holds of the system after the steps of a schedule. -/
structure Invariant (world : Rehearsal τ) (plan : ι → List Job) (schedule : List ι)
    (s : System ι τ) : Prop where
  objects : s.world.store.objects = world.store.objects ++ s.creations.map Creation.key
  once : (s.creations.map Creation.key).Nodup
  fresh : ∀ c ∈ s.creations, c.key ∉ world.store.objects
  clients : ∀ i, Good s.world.store.objects (fun n key => ⟨i, n, key⟩ ∈ s.creations) (plan i)
    (schedule.count i) (s.clients i)

omit [Seconds τ] in
lemma invariant_initial (world : Rehearsal τ) (plan : ι → List Job) :
    Invariant world plan [] (System.initial world plan) := by
  refine ⟨by simp [System.initial], by simp [System.initial], by simp [System.initial], fun i => ?_⟩
  refine ⟨by simp [System.initial], by simp [System.initial], by simp [System.initial],
    by simp [System.initial], by simp [System.initial]⟩

omit [Seconds τ] in
/-- A step within one client leaves the others as they are. -/
lemma Invariant.put {world : Rehearsal τ} {plan : ι → List Job} {schedule : List ι}
    {s : System ι τ} (h : Invariant world plan schedule s) (i : ι) {c : Client τ}
    (hc : Good s.world.store.objects (fun n key => ⟨i, n, key⟩ ∈ s.creations) (plan i)
      (schedule.count i + 1) c) : Invariant world plan (schedule ++ [i]) (s.put i c) := by
  refine ⟨h.objects, h.once, h.fresh, fun j => ?_⟩
  by_cases hj : j = i
  · subst hj
    simpa [System.put] using hc
  · have := h.clients j
    simpa [System.put, Function.update_of_ne hj, List.count_append, Ne.symm hj] using this

/-- An object that a request adds is new. -/
lemma Invariant.answered {world : Rehearsal τ} {plan : ι → List Job} {schedule : List ι}
    {s : System ι τ} (h : Invariant world plan schedule s) {i : ι} {job : Job}
    {request : Request} {next : Except Fault request.Reply → Program τ Outcome}
    (hc : (s.clients i).current = some (job, .ask request next)) (clock delay : τ) :
    Invariant world plan (schedule ++ [i]) (s.answered i (s.worldAt clock delay) request
      ⟨(s.clients i).past, some (job, next ((s.worldAt clock delay).serve request).1),
        (s.clients i).todo⟩) := by
  have mem (j : ι) (n : Nat) (key : ObjectKey) :
      ⟨j, n, key⟩ ∈ s.creations ++ (creates request (s.worldAt clock delay)).toList.map
          (fun key => (⟨i, (s.clients i).past.length, key⟩ : Creation ι)) ↔
        ⟨j, n, key⟩ ∈ s.creations ∨
          j = i ∧ n = (s.clients i).past.length ∧
            creates request (s.worldAt clock delay) = some key := by
    cases creates request (s.worldAt clock delay) <;> simp [eq_comm]
  obtain ⟨hgood, hnew⟩ := (h.clients i).request hc
    (show (s.worldAt clock delay).store.objects = s.world.store.objects from rfl)
    (fun n key => (mem i n key).trans (by simp))
  have hobjects := objects_serve request (s.worldAt clock delay)
  refine ⟨?_, ?_, ?_, fun j => ?_⟩
  · show ((s.worldAt clock delay).serve request).2.store.objects = _
    rw [hobjects, show (s.worldAt clock delay).store.objects = s.world.store.objects from rfl,
      h.objects, System.answered, List.map_append, List.append_assoc]
    cases creates request (s.worldAt clock delay) <;> rfl
  · unfold System.answered
    rw [List.map_append]
    cases hk : creates request (s.worldAt clock delay) with
    | none => simpa using h.once
    | some key =>
      have := hnew key hk
      rw [h.objects, List.mem_append, not_or] at this
      refine List.nodup_append.2 ⟨h.once, by simp, ?_⟩
      rintro a ha b hb rfl
      obtain rfl : a = key := by simpa using hb
      exact this.2 ha
  · intro c hmem
    rcases (mem c.client c.number c.key).1 hmem with hold | ⟨-, -, hk⟩
    · exact h.fresh c hold
    · intro hin
      refine hnew c.key hk ?_
      rw [h.objects]
      exact List.mem_append_left _ hin
  · by_cases hj : j = i
    · subst hj
      simpa [System.answered] using hgood
    · have := (h.clients j).mono (hobjects ▸ List.subset_append_left _ _) fun n key =>
        ((mem j n key).trans (by simp [hj])).symm
      simpa [System.answered, Function.update_of_ne hj, List.count_append, Ne.symm hj] using this

lemma Invariant.step {world : Rehearsal τ} {plan : ι → List Job} {schedule : List ι}
    {s s' : System ι τ} {i : ι} (h : Invariant world plan schedule s) (hs : Step s i s') :
    Invariant world plan (schedule ++ [i]) s' := by
  cases hs with
  | start idle next => exact h.put i ((h.clients i).start idle next)
  | note hc => exact h.put i ((h.clients i).note hc)
  | finish hc => exact h.put i ((h.clients i).finish hc)
  | @request job request next hc clock delay =>
    exact h.answered hc clock delay

/-- A run keeps it. -/
theorem Run.invariant {world : Rehearsal τ} {plan : ι → List Job} {schedule : List ι}
    {s : System ι τ} (h : Run (System.initial world plan) schedule s) :
    Invariant world plan schedule s := by
  induction h with
  | nil => exact invariant_initial world plan
  | snoc _ step ih => exact ih.step step

/-! ### Main result -/

omit [Seconds τ] in
/-- Created objects tell calls apart. -/
lemma Invariant.unique {world : Rehearsal τ} {plan : ι → List Job} {schedule : List ι}
    {s : System ι τ} (h : Invariant world plan schedule s) {c c' : Creation ι}
    (hc : c ∈ s.creations) (hc' : c' ∈ s.creations) (hk : c.key = c'.key) : c = c' :=
  List.inj_on_of_nodup_map h.once hc hc' hk

/-- A client that has something left to do can take a step. -/
lemma Invariant.progress {world : Rehearsal τ} {plan : ι → List Job} {schedule : List ι}
    {s : System ι τ} (h : Invariant world plan schedule s) (i : ι)
    (hi : (s.clients i).current ≠ none ∨ (s.clients i).todo ≠ []) : ∃ s', Step s i s' := by
  rcases hc : (s.clients i).current with _ | ⟨job, p⟩
  · obtain ⟨job, rest, ht⟩ := List.exists_cons_of_ne_nil (hi.resolve_left (· hc))
    exact ⟨_, .start hc ht⟩
  · obtain ⟨left, course, -⟩ := (h.clients i).current job p hc
    rcases course.asks_or_ends with ⟨request, next, rfl⟩ | ⟨outcome, n, -, hends, -⟩
    · exact ⟨_, .request hc s.world.clock s.world.serveDelay⟩
    · cases hends with
      | done => exact ⟨_, .finish hc⟩
      | note => exact ⟨_, .note hc⟩

lemma Step.objects {s s' : System ι τ} {i : ι} (h : Step s i s') :
    s.world.store.objects <+: s'.world.store.objects := by
  cases h with
  | start => exact List.prefix_rfl
  | note => exact List.prefix_rfl
  | finish => exact List.prefix_rfl
  | @request job request next hc clock delay =>
    show s.world.store.objects <+: ((s.worldAt clock delay).serve request).2.store.objects
    rw [objects_serve]
    exact List.prefix_append _ _

lemma Run.objects {s s' : System ι τ} {schedule : List ι} (h : Run s schedule s') :
    s.world.store.objects <+: s'.world.store.objects := by
  induction h with
  | nil => exact List.prefix_rfl
  | snoc _ step ih => exact ih.trans step.objects

/-- What the clients can rely on after the steps of a schedule. -/
structure Agreement (world : Rehearsal τ) (plan : ι → List Job) (schedule : List ι)
    (s : System ι τ) : Prop where
  /-- No call fails. It has installed its object if and only if it has created it. -/
  ended : ∀ i n job result, (s.clients i).past[n]? = some (job, result) →
    (result = .ok .installed ∨ result = .ok .alreadyPresent) ∧
      (result = .ok .installed ↔ ⟨i, n, job.key⟩ ∈ s.creations) ∧
      (job.route ≠ .definition → job.key ∈ s.world.store.objects)
  oneInstaller : ∀ (i i' : ι) (n n' : Nat) (job job' : Job),
    (s.clients i).past[n]? = some (job, .ok .installed) →
    (s.clients i').past[n']? = some (job', .ok .installed) → job.key = job'.key →
      i = i' ∧ n = n'
  /-- Nothing is removed, and what is added is added by one call that is about it. -/
  objects : s.world.store.objects = world.store.objects ++ s.creations.map Creation.key
  once : (s.creations.map Creation.key).Nodup
  fresh : ∀ c ∈ s.creations, c.key ∉ world.store.objects
  creators : ∀ c ∈ s.creations, ∃ job, (plan c.client)[c.number]? = some job ∧ c.key = job.key
  jobs : ∀ i, (s.clients i).past.map Prod.fst ++ ((s.clients i).current.map Prod.fst).toList ++
    (s.clients i).todo = plan i
  /-- No client is ever stuck, and each comes to the end of its calls. -/
  progress : ∀ i, (s.clients i).current ≠ none ∨ (s.clients i).todo ≠ [] → ∃ s', Step s i s'
  bounded : ∀ i, schedule.count i ≤ 6 * (plan i).length

/-- **Concurrent installs agree.** Any number of clients install any objects in one cluster, in
any interleaving of their requests and with any times until new types are served. Each object has
at most one call that reports to have installed it, and that call has created it; no call fails;
and no object is ever removed or added twice. -/
theorem concurrent_installs_agree {world : Rehearsal τ} {plan : ι → List Job}
    {schedule : List ι} {s : System ι τ} (h : Run (System.initial world plan) schedule s) :
    Agreement world plan schedule s ∧
      ∀ later s', Run s later s' → s.world.store.objects <+: s'.world.store.objects := by
  have hs := h.invariant
  have ended (i : ι) (n : Nat) (job : Job) (result : Except (Failure τ) Outcome)
      (hp : (s.clients i).past[n]? = some (job, result)) :
      (result = .ok .installed ∨ result = .ok .alreadyPresent) ∧
        (result = .ok .installed ↔ ⟨i, n, job.key⟩ ∈ s.creations) ∧
        (job.route ≠ .definition → job.key ∈ s.world.store.objects) := by
    obtain ⟨outcome, rfl, fits⟩ := (hs.clients i).past n job result hp
    refine ⟨?_, by simpa using fits.installed, fits.stored⟩
    have := fits.notCollected
    cases outcome <;> simp_all
  refine ⟨⟨ended, fun i i' n n' job job' hp hp' hk => ?_, hs.objects, hs.once, hs.fresh,
    fun c hc => ((hs.clients c.client).own c.number c.key hc).1, fun i => (hs.clients i).jobs,
    hs.progress, fun i => ?_⟩, fun later s' h' => h'.objects⟩
  · have hc := (ended i n job _ hp).2.1.1 rfl
    have hc' := (ended i' n' job' _ hp').2.1.1 rfl
    have := hs.unique hc hc' hk
    simp only [Creation.mk.injEq] at this
    exact ⟨this.1, this.2.1⟩
  · rcases hc : (s.clients i).current with _ | ⟨job, p⟩
    · have := (hs.clients i).idle hc
      omega
    · obtain ⟨left, -, hle⟩ := (hs.clients i).current job p hc
      omega

/-- A role in a namespace, as a user might write it. -/
def readerText : String :=
  "\n".intercalate ["apiVersion: v1", "kind: Role", "metadata:", "  name: reader",
    "  namespace: tests", ""]

def isReader (m : Manifest) : Bool :=
  Bundled.states "Role" (Manifest.field m.body m.body "kind") &&
    Bundled.states "reader" (Naming.inMetadata m.body "name") &&
    Bundled.states "tests" (Naming.inMetadata m.body "namespace")

lemma exists_reader : ∃ job : Job, job.key = Store.readKey .role (some "tests") "reader" := by
  have h : Bundled.holds isReader (Bundled.ofChars readerText.toList) = true := by
    unfold readerText
    rw [String.toList_intercalate]
    repeat rw [Bundled.map_toList_cons]
    decide +kernel
  obtain ⟨m, hm, hc⟩ := Bundled.exists_of_holds h
  unfold isReader at hc
  simp only [Bool.and_eq_true] at hc
  obtain ⟨⟨hkind, hname⟩, hns⟩ := hc
  exact ⟨⟨m, .role, some "tests", "reader", ⟨Or.inl ⟨readerText, hm⟩, Bundled.eq_of_states hkind,
    Bundled.eq_of_states hname, Or.inr ⟨rfl, "tests", rfl, by decide, Bundled.eq_of_states hns⟩⟩⟩,
    rfl⟩

def emptyWorld : Rehearsal Rat where
  clock := 0
  cost := 0
  serveDelay := 0
  cancelAt := none
  store := ⟨[], []⟩
  script := ⟨[], [], [], [], true, none⟩
  record := .empty

section

lemma Run.append {s s' s'' : System ι τ} {first second : List ι} (h : Run s first s')
    (h' : Run s' second s'') : Run s (first ++ second) s'' := by
  induction h' with
  | nil => rwa [List.append_nil]
  | snoc _ step ih =>
    rw [← List.append_assoc]
    exact .snoc ih step

variable {s : System ι τ} {i : ι} {job : Job} {past : List (Job × Except (Failure τ) Outcome)}
  {todo : List Job}

/-- A call that has nothing left but log records comes to its end. -/
lemma exists_run_ends {outcome : Outcome} {n : Nat} {p : Program τ Outcome}
    (h : Ends outcome n p) (hc : s.clients i = ⟨past, some (job, p), todo⟩) :
    ∃ schedule, Run s schedule (s.put i ⟨past ++ [(job, .ok outcome)], none, todo⟩) := by
  induction h generalizing s with
  | done =>
    have step : Step s i (s.put i ⟨(s.clients i).past ++ [(job, .ok outcome)], none,
        (s.clients i).todo⟩) := .finish (by rw [hc])
    rw [hc] at step
    exact ⟨[] ++ [i], .snoc .nil step⟩
  | @note n level message next _ ih =>
    have step : Step s i (s.put i ⟨(s.clients i).past, some (job, next), (s.clients i).todo⟩) :=
      .note (by rw [hc])
    rw [hc] at step
    obtain ⟨schedule, run⟩ := ih (show (s.put i ⟨past, some (job, next), todo⟩).clients i = _ by
      simp [System.put])
    have same : (s.put i ⟨past, some (job, next), todo⟩).put i
        ⟨past ++ [(job, .ok outcome)], none, todo⟩ =
          s.put i ⟨past ++ [(job, .ok outcome)], none, todo⟩ := by
      simp [System.put]
    rw [same] at run
    exact ⟨([] ++ [i]) ++ schedule, (Run.snoc .nil step).append run⟩

/-- The check of a role that is not there. -/
lemma step_check (hc : s.clients i = ⟨past, some (job, job.call), todo⟩)
    (hr : job.route ≠ .definition) (hk : job.key ∉ s.world.store.objects) :
    Step s i (s.put i
      ⟨past, some (job, settle job.manifest.ref job.manifest.body false), todo⟩) := by
  obtain ⟨request, next, hask, hserve⟩ := job.call_asks (τ := τ)
  rw [hask] at hc
  have step : Step s i _ := .request (by rw [hc]) s.world.clock s.world.serveDelay
  obtain ⟨hworld, hnone, present, hnext, hstored⟩ :=
    hserve (s.worldAt s.world.clock s.world.serveDelay)
  obtain rfl : present = false := by
    cases present
    · rfl
    · exact absurd (hstored rfl hr) hk
  rw [System.answered, hworld, hnone, hnext, hc] at step
  simpa [System.put, System.worldAt] using step

/-- The creation, whichever answer it gets. -/
lemma exists_step_create
    (hc : s.clients i = ⟨past, some (job, settle job.manifest.ref job.manifest.body false), todo⟩) :
    ∃ s' p, Step s i s' ∧ s'.clients = Function.update s.clients i ⟨past, some (job, p), todo⟩ ∧
      (job.key ∈ s.world.store.objects ∧ Ends .alreadyPresent 2 p ∨
        job.key ∉ s.world.store.objects ∧ Ends .installed 1 p ∧
          job.key ∈ s'.world.store.objects) := by
  obtain ⟨request, next, hask, hserve⟩ := job.settle_asks (τ := τ)
  rw [hask] at hc
  have step : Step s i _ := .request (by rw [hc]) s.world.clock s.world.serveDelay
  refine ⟨_, _, step, by rw [hc]; rfl, ?_⟩
  rcases hserve (s.worldAt s.world.clock s.world.serveDelay) with
    ⟨hk, -, hends⟩ | ⟨hk, hsome, hends⟩
  · exact Or.inl ⟨hk, hends⟩
  · refine Or.inr ⟨hk, hends, ?_⟩
    show job.key ∈ (serve request (s.worldAt s.world.clock s.world.serveDelay)).2.store.objects
    rw [objects_serve, hsome]
    simp

end

/-- Both clients find that the role is not there before either creates it. -/
theorem race_has_one_installer : ∃ (job : Job) (schedule : List Bool) (s : System Bool Rat),
    Run (System.initial emptyWorld fun _ => [job]) schedule s ∧
      (s.clients false).past = [(job, .ok .installed)] ∧
      (s.clients true).past = [(job, .ok .alreadyPresent)] ∧
      Agreement emptyWorld (fun _ => [job]) schedule s := by
  obtain ⟨job, hkey⟩ := exists_reader
  have hr : job.route ≠ .definition := by
    rw [show job.route = .role from congrArg ObjectKey.route hkey]
    decide
  let begun : Client Rat := ⟨[], some (job, job.call), []⟩
  let checked : Client Rat :=
    ⟨[], some (job, settle job.manifest.ref job.manifest.body false), []⟩
  let s₀ : System Bool Rat := System.initial emptyWorld fun _ => [job]
  have h₁ : Step s₀ false (s₀.put false begun) := .start rfl rfl
  have h₂ : Step (s₀.put false begun) true ((s₀.put false begun).put true begun) := .start rfl rfl
  have h₃ : Step _ false (((s₀.put false begun).put true begun).put false checked) :=
    step_check rfl hr (by simp [s₀, System.put, System.initial, emptyWorld])
  let s₄ := (((s₀.put false begun).put true begun).put false checked).put true checked
  have h₄ : Step _ true s₄ :=
    step_check rfl hr (by simp [s₀, System.put, System.initial, emptyWorld])
  -- the first to create the role has installed it, the other finds it there
  obtain ⟨s₅, p, h₅, hc₅, ⟨hk, -⟩ | ⟨-, hp, hk₅⟩⟩ :=
    exists_step_create (show s₄.clients false = _ from rfl)
  · simp [s₄, s₀, System.put, System.initial, emptyWorld] at hk
  obtain ⟨s₆, q, h₆, hc₆, ⟨-, hq⟩ | ⟨hk, -⟩⟩ := exists_step_create
    (show s₅.clients true = _ by rw [hc₅]; rfl)
  · obtain ⟨first, hfirst⟩ := exists_run_ends hp (show s₆.clients false = ⟨[], _, []⟩ by
      rw [hc₆, hc₅]; rfl)
    obtain ⟨second, hsecond⟩ := exists_run_ends hq
      (show (s₆.put false ⟨[] ++ [(job, .ok .installed)], none, []⟩).clients true = ⟨[], _, []⟩ by
        unfold System.put
        rw [hc₆]; rfl)
    have run := ((((((Run.nil.snoc h₁).snoc h₂).snoc h₃).snoc h₄).snoc h₅).snoc h₆).append hfirst
      |>.append hsecond
    exact ⟨job, _, _, run, rfl, rfl, (concurrent_installs_agree run).1⟩
  · exact absurd hk₅ hk

end Testbed.Clients
