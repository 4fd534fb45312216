import Mathlib
import Testbed.Cluster
import Testbed.Rehearsal

/-!
What a run does, in order: its calls with their answers, its looks at the token, its waits and
its log records.

A run is cut at any of these, so what holds of a run at every point is a statement about the
events before that point.
-/

namespace Testbed.Rehearsal

open Yaml (Value)

/-- A request with its answer, and when it was sent and answered. -/
structure Call (τ : Type) where
  start : τ
  request : Request
  answer : Except Fault request.Reply
  finish : τ

/-- The object that a call adds. -/
def Call.created? {τ : Type} (c : Call τ) : Option ObjectKey :=
  match c.request, c.answer with
  | .create route ns body, .ok _ => some (Store.createKey route ns body)
  | _, _ => none

lemma Call.created?_of_error {τ : Type} {c : Call τ} {f : Fault} (h : c.answer = .error f) :
    c.created? = none := by
  obtain ⟨start, request, answer, finish⟩ := c
  simp only at h
  subst h
  cases request <;> rfl

inductive Event (τ : Type) where
  | called (c : Call τ)
  | looked (cancelled : Bool)
  | waited (length : τ) (cancelled : Bool)
  | noted (level : Level) (message : String)

def Event.call? {τ : Type} : Event τ → Option (Call τ)
  | called c => some c
  | _ => none

variable {τ α β : Type}

lemma bind_eq (p : Program τ α) (f : α → Program τ β) : p >>= f = p.bind f := rfl

lemma pure_eq (a : α) : (pure a : Program τ α) = .done (.ok a) := rfl

/-! ### What is found out before a request -/

/-- Failures for which nothing was asked of the cluster. -/
inductive Early : Failure τ → Prop where
  | refused (r : Refusal) : Early (.refused r)
  | unsupported (kind : Value) : Early (.unsupported kind)
  | noNamespace (kind : Value) : Early (.noNamespace kind)

lemma Early.ne_fault {e : Failure τ} (h : Early e) (f : Fault) : e ≠ .fault f := by
  cases h <;> simp

lemma Early.ne_cancelled {e : Failure τ} (h : Early e) : e ≠ .cancelled := by
  cases h <;> simp

lemma route_early {kind : Value} {e : Failure τ} (h : Cluster.route kind = .error e) :
    Early e := by
  unfold Cluster.route at h
  repeat' split at h
  all_goals cases h
  · exact .refused _
  · exact .unsupported _
  · exact .unsupported _

lemma placement_early {route : Route} {kind body : Value} {ns : Option String} {e : Failure τ}
    (h : Cluster.placement route kind body ns = .error e) : Early e := by
  unfold Cluster.placement Cluster.targetNamespace at h
  repeat' split at h
  all_goals cases h
  · exact .noNamespace _
  · exact .refused _

/-! ### Everything that a run does -/

variable [Seconds τ]

/-- The call that a request makes of a cluster in a given state. -/
def callOf (request : Request) (r : Rehearsal τ) : Call τ :=
  ⟨r.clock, request, (r.answer request).1, (r.answer request).2.clock⟩

/-- Everything that a run does. -/
def trace : Program τ α → Rehearsal τ → List (Event τ)
  | .done _, _ => []
  | .ask request next, r =>
    .called (r.callOf request) :: trace (next (r.answer request).1) (r.answer request).2
  | .now next, r => trace (next r.clock) r
  | .isCancelled next, r => .looked r.isCancelled :: trace (next r.isCancelled) r
  | .pause length next, r =>
    .waited length (r.pause length).1 :: trace (next (r.pause length).1) (r.pause length).2
  | .note level message next, r => .noted level message :: trace next (r.note level message)

def calls (p : Program τ α) (r : Rehearsal τ) : List (Call τ) := (trace p r).filterMap Event.call?

/-! ### Runs one after the other -/

lemma run_bind (p : Program τ α) (f : α → Program τ β) (r : Rehearsal τ) :
    run (p.bind f) r =
      match run p r with
      | (.ok a, s) => run (f a) s
      | (.error e, s) => (.error e, s) := by
  induction p generalizing r with
  | done result => cases result <;> rfl
  | ask request next ih => exact ih _ _
  | now next ih => exact ih _ _
  | isCancelled next ih => exact ih _ _
  | pause length next ih => exact ih _ _
  | note level message next ih => exact ih _

lemma trace_bind (p : Program τ α) (f : α → Program τ β) (r : Rehearsal τ) :
    trace (p.bind f) r =
      trace p r ++
        match run p r with
        | (.ok a, s) => trace (f a) s
        | (.error _, _) => [] := by
  induction p generalizing r with
  | done result => cases result <;> rfl
  | ask request next ih => exact congrArg (_ :: ·) (ih _ _)
  | now next ih => exact ih _ _
  | isCancelled next ih => exact congrArg (_ :: ·) (ih _ _)
  | pause length next ih => exact congrArg (_ :: ·) (ih _ _)
  | note level message next ih => exact congrArg (_ :: ·) (ih _)

/-- A program whose first part comes to its end goes on with the second. -/
lemma run_bind_ok {p : Program τ α} {f : α → Program τ β} {r s : Rehearsal τ} {a : α}
    (h : run p r = (.ok a, s)) : run (p.bind f) r = run (f a) s := by
  rw [run_bind, h]

lemma run_bind_error {p : Program τ α} {f : α → Program τ β} {r s : Rehearsal τ}
    {e : Failure τ} (h : run p r = (.error e, s)) : run (p.bind f) r = (.error e, s) := by
  rw [run_bind, h]

/-- A result of both parts comes with a result of the first. -/
lemma ok_of_run_bind {p : Program τ α} {f : α → Program τ β} {r t : Rehearsal τ} {b : β}
    (h : run (p.bind f) r = (.ok b, t)) :
    ∃ a s, run p r = (.ok a, s) ∧ run (f a) s = (.ok b, t) := by
  rcases hp : run p r with ⟨e | a, s⟩
  · rw [run_bind_error hp] at h
    cases h
  · exact ⟨a, s, rfl, (run_bind_ok hp).symm.trans h⟩

lemma trace_bind_ok {p : Program τ α} {f : α → Program τ β} {r s : Rehearsal τ} {a : α}
    (h : run p r = (.ok a, s)) : trace (p.bind f) r = trace p r ++ trace (f a) s := by
  rw [trace_bind, h]

lemma trace_bind_error {p : Program τ α} {f : α → Program τ β} {r s : Rehearsal τ}
    {e : Failure τ} (h : run p r = (.error e, s)) : trace (p.bind f) r = trace p r := by
  rw [trace_bind, h, List.append_nil]

lemma calls_ask (request : Request) (next : Except Fault request.Reply → Program τ α)
    (r : Rehearsal τ) :
    calls (.ask request next) r =
      r.callOf request :: calls (next (r.answer request).1) (r.answer request).2 := rfl

lemma calls_bind_ok {p : Program τ α} {f : α → Program τ β} {r s : Rehearsal τ} {a : α}
    (h : run p r = (.ok a, s)) : calls (p.bind f) r = calls p r ++ calls (f a) s := by
  unfold calls
  rw [trace_bind_ok h, List.filterMap_append]

lemma calls_bind_error {p : Program τ α} {f : α → Program τ β} {r s : Rehearsal τ}
    {e : Failure τ} (h : run p r = (.error e, s)) : calls (p.bind f) r = calls p r := by
  unfold calls
  rw [trace_bind_error h]

/-! ### What a program asks -/

/-- All requests of the program have a property, and it never waits for no time. -/
inductive Asks (P : Request → Prop) : Program τ α → Prop where
  | done (result : Except (Failure τ) α) : Asks P (.done result)
  | ask {request : Request} {next : Except Fault request.Reply → Program τ α} (h : P request)
    (goes : ∀ answer, Asks P (next answer)) : Asks P (.ask request next)
  | now {next : τ → Program τ α} (h : ∀ t, Asks P (next t)) : Asks P (.now next)
  | isCancelled {next : Bool → Program τ α} (h : ∀ b, Asks P (next b)) :
    Asks P (.isCancelled next)
  | pause {length : τ} {next : Bool → Program τ α} (pos : ¬ length ≤ 0)
    (h : ∀ b, Asks P (next b)) : Asks P (.pause length next)
  | note {level : Level} {message : String} {next : Program τ α} (h : Asks P next) :
    Asks P (.note level message next)

namespace Asks

variable {P : Request → Prop}

lemma bind {p : Program τ α} {f : α → Program τ β} (hp : Asks P p) (hf : ∀ a, Asks P (f a)) :
    Asks P (p.bind f) := by
  induction hp with
  | done result =>
    cases result with
    | ok a => exact hf a
    | error e => exact done _
  | ask h _ ih => exact ask h ih
  | now _ ih => exact now ih
  | isCancelled _ ih => exact isCancelled ih
  | pause pos _ ih => exact pause pos ih
  | note _ ih => exact note ih

lemma ofExcept {ε : Type} (wrap : ε → Failure τ) (x : Except ε α) :
    Asks P (Program.ofExcept wrap x) := by
  cases x <;> exact done _

lemma log (level : Level) (message : String) :
    Asks P (Program.log level message : Program τ _) := note (done _)

lemma clock : Asks P (Program.clock : Program τ τ) := now fun _ => done _

lemma sendOr {request : Request} (h : P request) (absorb : Fault → Option β)
    (accept : request.Reply → β) :
    Asks P (Program.sendOr request absorb accept : Program τ _) := by
  refine ask h fun answer => ?_
  split
  · exact done _
  · split <;> exact done _

/-- So have the requests of all its calls. -/
lemma calls {p : Program τ α} (hp : Asks P p) (r : Rehearsal τ) :
    ∀ c ∈ Rehearsal.calls p r, P c.request := by
  induction hp generalizing r with
  | done result => simp [Rehearsal.calls, trace]
  | ask h _ ih =>
    rw [calls_ask]
    exact List.forall_mem_cons.2 ⟨h, ih _ _⟩
  | now _ ih => exact ih _ r
  | isCancelled _ ih => exact ih _ r
  | pause _ _ ih => exact ih _ _
  | note _ ih => exact ih _

/-- What its requests and its waits keep, its runs keep. -/
lemma keeps {p : Program τ α} (hp : Asks P p) {Q : Rehearsal τ → Prop}
    (answer : ∀ r request, P request → Q r → Q (r.answer request).2)
    (pause : ∀ r length, ¬ length ≤ 0 → Q r → Q (r.pause length).2)
    (note : ∀ r level message, Q r → Q (r.note level message)) {r : Rehearsal τ} (h : Q r) :
    Q (run p r).2 := by
  induction hp generalizing r with
  | done result => exact h
  | ask hr _ ih => exact ih _ (answer r _ hr h)
  | now _ ih => exact ih _ h
  | isCancelled _ ih => exact ih _ h
  | pause pos _ ih => exact ih _ (pause r _ pos h)
  | note _ ih => exact ih (note r _ _ h)

/-- Where each request moves the cluster on by one step, its calls are told by their numbers. -/
lemma steps {p : Program τ α} (hp : Asks P p) {I : Nat → Rehearsal τ → Prop}
    {C : Nat → Call τ → Prop} (ask : ∀ k r request, P request → I k r →
      C k (r.callOf request) ∧ I (k + 1) (r.answer request).2)
    (pause : ∀ k r length, I k r → I k (r.pause length).2)
    (note : ∀ k r level message, I k r → I k (r.note level message)) {r : Rehearsal τ} {k : Nat}
    (h : I k r) {i : Nat} {c : Call τ} (hc : (Rehearsal.calls p r)[i]? = some c) :
    C (k + i) c := by
  induction hp generalizing r k i with
  | done result => simp [Rehearsal.calls, trace] at hc
  | ask hr _ ih =>
    obtain ⟨hcall, hnext⟩ := ask k r _ hr h
    rw [calls_ask] at hc
    cases i with
    | zero =>
      obtain rfl := Option.some.inj hc
      exact hcall
    | succ i =>
      have hrest := ih _ hnext hc
      rwa [show k + 1 + i = k + (i + 1) by omega] at hrest
  | now _ ih => exact ih _ h hc
  | isCancelled _ ih => exact ih _ h hc
  | pause _ _ ih => exact ih _ (pause k r _ h) hc
  | note _ ih => exact ih (note k r _ _ h) hc

end Asks

/-! ### One request -/

/-- The cluster when a request has reached it. -/
def reached (request : Request) (r : Rehearsal τ) : Rehearsal τ :=
  if isRemote request then (r.dispatch request).2 else r.send request

/-- The fault that the script has for a request. -/
def scripted (request : Request) (r : Rehearsal τ) : Option Fault :=
  if isRemote request then (r.dispatch request).1 else none

/-- A request is answered by the fault of the script, if there is one, and else by the cluster. -/
lemma answer_cases (request : Request) (r : Rehearsal τ) :
    (∃ f, r.scripted request = some f ∧ r.answer request = (.error f, r.reached request)) ∨
      (r.scripted request = none ∧ r.answer request = (r.reached request).serve request) := by
  unfold scripted answer reached
  by_cases hr : isRemote request
  · simp only [hr, if_true]
    rcases r.dispatch request with ⟨_ | f, s⟩
    · exact Or.inr ⟨rfl, rfl⟩
    · exact Or.inl ⟨f, rfl, rfl⟩
  · simp [hr]

lemma reached_eq (request : Request) (r : Rehearsal τ) :
    ∃ clock faults, r.reached request = { r.send request with
      clock, script := { r.script with faults } } := by
  unfold reached
  split
  · exact ⟨_, _, rfl⟩
  · exact ⟨r.clock, r.script.faults, rfl⟩

lemma store_reached (request : Request) (r : Rehearsal τ) :
    (r.reached request).store = r.store := by
  obtain ⟨clock, faults, h⟩ := r.reached_eq request
  rw [h]
  rfl

/-! ### What the cluster answers -/

/-- A group and version that is not known is an answer in its own right. -/
lemma serve_kinds (group version : String) (r : Rehearsal τ) :
    r.serve (.kinds group version) = (.error notFound, r) ∨
      ∃ kinds, r.serve (.kinds group version) = (.ok kinds, r) := by
  simp only [serve]
  split
  · exact Or.inl rfl
  · exact Or.inr ⟨_, rfl⟩
  · exact Or.inr ⟨_, rfl⟩

lemma serve_read (route : Route) (ns : Option String) (name : String) (r : Rehearsal τ) :
    r.serve (.read route ns name) =
      (if Store.readKey route ns name ∈ r.store.objects then .ok () else .error notFound, r) := by
  simp only [serve, outcome, Store.contains, List.contains_iff_mem]

lemma serve_create (route : Route) (ns : Option Value) (body : Value) (r : Rehearsal τ) :
    r.serve (.create route ns body) =
      if Store.createKey route ns body ∈ r.store.objects then (.error conflict, r)
      else (.ok (), { r with
        store := r.store.create (Store.createKey route ns body) body
          (r.clock + r.serveDelay) }) := by
  simp only [serve, Store.contains, List.contains_iff_mem]

/-- Apart from an object that it creates, the cluster does not change when it serves a request. -/
lemma serve_frame (request : Request) (r : Rehearsal τ) :
    (r.serve request).2.record = r.record ∧ (r.serve request).2.cost = r.cost ∧
      (r.serve request).2.serveDelay = r.serveDelay ∧
      (r.serve request).2.cancelAt = r.cancelAt ∧
      (r.serve request).2.script.faults = r.script.faults := by
  cases request <;> simp only [serve] <;> (repeat' split) <;> simp

/-- A run changes neither how long things take nor the token. -/
lemma frame_run (p : Program τ α) (r : Rehearsal τ) :
    (run p r).2.cost = r.cost ∧ (run p r).2.serveDelay = r.serveDelay ∧
      (run p r).2.cancelAt = r.cancelAt := by
  have answer (request : Request) (r : Rehearsal τ) : (r.answer request).2.cost = r.cost ∧
      (r.answer request).2.serveDelay = r.serveDelay ∧
      (r.answer request).2.cancelAt = r.cancelAt := by
    obtain ⟨clock, faults, h⟩ := r.reached_eq request
    rcases r.answer_cases request with ⟨f, -, ha⟩ | ⟨-, ha⟩
    · rw [ha, h]; exact ⟨rfl, rfl, rfl⟩
    · obtain ⟨-, hc, hd, ht, -⟩ := serve_frame request (r.reached request)
      rw [ha, hc, hd, ht, h]; exact ⟨rfl, rfl, rfl⟩
  have pause (length : τ) (r : Rehearsal τ) : (r.pause length).2.cost = r.cost ∧
      (r.pause length).2.serveDelay = r.serveDelay ∧
      (r.pause length).2.cancelAt = r.cancelAt := by
    unfold Rehearsal.pause sleep
    repeat' split
    all_goals simp_all
  induction p generalizing r with
  | done result => exact ⟨rfl, rfl, rfl⟩
  | ask request next ih =>
    obtain ⟨hc, hd, ht⟩ := answer request r
    rw [← hc, ← hd, ← ht]
    exact ih _ _
  | now next ih => exact ih _ r
  | isCancelled next ih => exact ih _ r
  | pause length next ih =>
    obtain ⟨hc, hd, ht⟩ := pause length r
    rw [← hc, ← hd, ← ht]
    exact ih _ _
  | note level message next ih => exact ih (r.note level message)

lemma serve_objects (request : Request) (r : Rehearsal τ) (start finish : τ) :
    (r.serve request).2.store.objects =
      r.store.objects ++
        (Call.created? ⟨start, request, (r.serve request).1, finish⟩).toList := by
  cases request <;> simp only [serve, Call.created?] <;> (repeat' split) <;>
    simp_all [Store.create]

/-! ### What a run adds to the cluster -/

/-- The objects that the calls of a list add, in order. -/
def created (cs : List (Call τ)) : List ObjectKey := cs.filterMap Call.created?

lemma objects_answer (request : Request) (r : Rehearsal τ) :
    (r.answer request).2.store.objects =
      r.store.objects ++ (r.callOf request).created?.toList := by
  obtain ⟨clock, faults, h⟩ := r.reached_eq request
  unfold callOf
  rcases r.answer_cases request with ⟨f, -, ha⟩ | ⟨-, ha⟩
  · rw [ha, h]
    cases request <;> simp [Call.created?, send]
  · rw [ha, serve_objects request _ r.clock, h]; rfl

lemma objects_pause (length : τ) (r : Rehearsal τ) :
    (r.pause length).2.store = r.store := by
  unfold pause sleep
  repeat' split
  all_goals rfl

/-- A run leaves the objects that there are, and adds those that its calls create. -/
theorem objects_run (p : Program τ α) (r : Rehearsal τ) :
    (run p r).2.store.objects = r.store.objects ++ created (calls p r) := by
  induction p generalizing r with
  | done result => simp [run, calls, trace, created]
  | ask request next ih =>
    simp only [run, ih, objects_answer, calls, trace, List.filterMap_cons, Event.call?, created,
      List.append_assoc, List.append_cancel_left_eq]
    cases (r.callOf request).created? <;> rfl
  | now next ih => exact ih _ _
  | isCancelled next ih => exact ih _ _
  | pause length next ih =>
    simp only [run, ih, objects_pause, calls, trace, List.filterMap_cons, Event.call?]
  | note level message next ih => exact ih _

end Testbed.Rehearsal
