import Mathlib
import Testbed.Proofs.Bundled
import Testbed.Proofs.Cancellation
import Testbed.Proofs.Requests

/-!
Once the token is set no polling loop starts another check.

A loop looks at the token after each check, at once or while it waits, and goes on only if the
token is not set at that time. So before every check but the first the token is known not to be
set, and no time passes from there to the check.
-/

namespace Testbed.Pacing

open Rehearsal
open Cancellation
open Install (Target Serving)
open Polling (Poll)

variable {τ α β : Type}

/-- The program makes a call only when it is known that the token is not set. The first flag
tells whether that is known at the start, the second whether it is at the end, depending on the
result. -/
inductive Paced : Bool → (α → Bool) → Program τ α → Prop where
  | result {known : Bool} {after : α → Bool} (a : α) (h : after a → known) :
    Paced known after (.done (.ok a))
  | failure {known : Bool} {after : α → Bool} (e : Failure τ) :
    Paced known after (.done (.error e))
  | ask {after : α → Bool} {request : Request} {next : Except Fault request.Reply → Program τ α}
    (h : ∀ answer, Paced false after (next answer)) : Paced true after (.ask request next)
  | now {known : Bool} {after : α → Bool} {next : τ → Program τ α}
    (h : ∀ t, Paced known after (next t)) : Paced known after (.now next)
  | isCancelled {known : Bool} {after : α → Bool} {next : Bool → Program τ α}
    (stops : next true = .fail .cancelled) (goes : Paced true after (next false)) :
    Paced known after (.isCancelled next)
  | pause {known : Bool} {after : α → Bool} {length : τ} {next : Bool → Program τ α}
    (stops : next true = .fail .cancelled) (goes : Paced true after (next false)) :
    Paced known after (.pause length next)
  | note {known : Bool} {after : α → Bool} {level : Level} {message : String}
    {next : Program τ α} (h : Paced known after next) : Paced known after (.note level message next)

namespace Paced

variable {known known' : Bool} {mid : α → Bool} {after : β → Bool}

lemma weaken {p : Program τ α} (hp : Paced known mid p) (h : known → known') :
    Paced known' mid p := by
  induction hp generalizing known' with
  | result a ha => exact result a fun h' => h (ha h')
  | failure e => exact failure e
  | ask goes _ => rw [h rfl]; exact ask goes
  | now _ ih => exact now fun t => ih t h
  | isCancelled stops goes _ => exact isCancelled stops goes
  | pause stops goes _ => exact pause stops goes
  | note _ ih => exact note (ih h)

lemma bind {p : Program τ α} {f : α → Program τ β} (hp : Paced known mid p)
    (hf : ∀ a, Paced (mid a) after (f a)) : Paced known after (p.bind f) := by
  induction hp with
  | result a h => exact (hf a).weaken h
  | failure e => exact failure e
  | ask _ ih => exact ask fun answer => ih answer hf
  | now _ ih => exact now fun t => ih t hf
  | isCancelled stops _ ih => exact isCancelled (by simp only [stops, Program.bind_fail]) (ih hf)
  | pause stops _ ih => exact pause (by simp only [stops, Program.bind_fail]) (ih hf)
  | note _ ih => exact note (ih hf)

lemma pure (a : α) : Paced known (fun _ => known) (.done (.ok a) : Program τ α) := result a id

lemma log (level : Level) (message : String) :
    Paced known (fun _ => known) (Program.log level message : Program τ _) := note (pure ())

lemma clock : Paced known (fun _ => known) (Program.clock : Program τ τ) := now pure

/-- In a run with a token all calls of such a program start before the token is set. -/
lemma calls [Seconds τ] {p : Program τ α} (hp : Paced known mid p) (r : Rehearsal τ) (token : τ)
    (h : known = true → ¬ token ≤ r.clock) :
    ∀ c ∈ calls p (withToken (some token) r), ¬ token ≤ c.start := by
  induction hp generalizing r with
  | result a _ => simp [Rehearsal.calls, trace]
  | failure e => simp [Rehearsal.calls, trace]
  | ask _ ih =>
    rw [calls_ask, answer_withToken]
    exact List.forall_mem_cons.2 ⟨h rfl, ih _ _ (by simp)⟩
  | now _ ih => exact ih _ r h
  | @isCancelled known after next stops _ ih =>
    have ht : (withToken (some token) r).isCancelled = decide (token ≤ r.clock) := rfl
    unfold Rehearsal.calls trace
    by_cases hc : token ≤ r.clock
    · simp only [ht, hc, decide_true, stops, Program.fail, trace]
      simp [Event.call?]
    · simp only [ht, hc, decide_false]
      exact ih r fun _ => hc
  | @pause known after length next stops _ ih =>
    unfold Rehearsal.calls trace
    by_cases hc : token ≤ r.clock + length
    · obtain ⟨s, hs, -⟩ := pause_cut r hc
      simp only [hs, stops, Program.fail, trace]
      simp [Event.call?]
    · simp only [pause_goes r hc]
      exact ih (r.sleep length) fun _ => hc
  | note _ ih => exact ih (r.note _ _) h

end Paced

/-- The program starts with a call at any time, and is paced after it. -/
inductive Loop (after : α → Bool) : Program τ α → Prop where
  | failure (e : Failure τ) : Loop after (.done (.error e))
  | ask {request : Request} {next : Except Fault request.Reply → Program τ α}
    (h : ∀ answer, Paced false after (next answer)) : Loop after (.ask request next)
  | now {next : τ → Program τ α} (h : ∀ t, Loop after (next t)) : Loop after (.now next)

namespace Loop

variable {mid : α → Bool} {after : β → Bool}

lemma paced {p : Program τ α} (hp : Loop mid p) : Paced true mid p := by
  induction hp with
  | failure e => exact .failure e
  | ask h => exact .ask h
  | now _ ih => exact .now ih

lemma bind {p : Program τ α} {f : α → Program τ β} (hp : Loop mid p)
    (hf : ∀ a, Paced (mid a) after (f a)) : Loop after (p.bind f) := by
  induction hp with
  | failure e => exact failure e
  | ask h => exact ask fun answer => (h answer).bind hf
  | now _ ih => exact now ih

lemma ofCall {p : Program τ α} (hp : IsCall p) : Loop (fun _ => false) p := by
  obtain ⟨request, next, rfl, h⟩ := hp
  refine ask fun answer => ?_
  obtain ⟨result, hr, -⟩ := h answer
  rw [hr]
  cases result with
  | ok a => exact .pure a
  | error e => exact .failure e

/-- No check but the first starts when the token is set. -/
lemma tail [Seconds τ] {p : Program τ α} (hp : Loop mid p) (r : Rehearsal τ) (token : τ) :
    ∀ c ∈ (calls p (withToken (some token) r)).tail, ¬ token ≤ c.start := by
  induction hp with
  | failure e => simp [calls, trace]
  | ask h =>
    rw [calls_ask, List.tail_cons, answer_withToken]
    exact (h _).calls _ token (by simp)
  | now _ ih => exact ih _

end Loop

/-! ### The loops of the operations -/

variable [Seconds τ] {known : Bool}

lemma paced_sleep (length : τ) : Paced known (fun _ => true) (Polling.sleep length) := by
  refine .isCancelled rfl ?_
  simp only
  split
  · exact .pure _
  · exact .pause rfl (.pure _)

lemma paced_expire {after : α → Bool} (s : Serving τ) (start : τ) (attempts : Nat) :
    Paced known after (s.expire start attempts : Program τ α) :=
  .bind .clock fun _ => .failure _

lemma loop_turn (s : Serving τ) (start : τ) (attempts : Nat) :
    Loop (fun served => !served) (s.turn start attempts) := by
  refine (Loop.ofCall (isCall_isServed _ _ _)).bind fun served => ?_
  cases served
  · refine .bind .clock fun now => ?_
    simp only
    split
    · exact paced_expire _ _ _
    · refine .bind (.log _ _) fun _ => .bind (paced_sleep _) fun _ => .bind .clock fun now => ?_
      split
      · have expires : Paced true (fun _ => true) (s.expire start attempts : Program τ Unit) :=
          paced_expire _ _ _
        exact .bind expires fun _ => .result _ fun _ => rfl
      · exact .result _ fun _ => rfl
  · exact .bind (.log _ _) fun _ => .result _ (by simp)

lemma loop_turns (s : Serving τ) (start : τ) (left attempts : Nat) :
    Loop (fun _ => false) (s.turns start left attempts) := by
  induction left generalizing attempts with
  | zero =>
    refine (loop_turn _ _ _).bind fun served => ?_
    cases served
    · exact paced_expire _ _ _
    · exact .pure _
  | succ left ih =>
    refine (loop_turn _ _ _).bind fun served => ?_
    cases served
    · exact (ih _).paced
    · exact .pure _

lemma loop_awaitServed (s : Serving τ) : Loop (fun _ => false) (Install.awaitServed s) :=
  .now fun _ => loop_turns _ _ _ _

lemma paced_timeout {after : α → Bool} (p : Poll τ α) (start : τ) (attempts : Nat) :
    Paced known after (p.timeout start attempts : Program τ α) :=
  .bind .clock fun _ => .failure _

lemma paced_await (p : Poll τ α) (start : τ) (attempts : Nat) :
    Paced known (fun _ => true) (p.await start attempts) :=
  .bind .clock fun _ => paced_sleep _

lemma paced_isOver (p : Poll τ α) (start : τ) :
    Paced known (fun _ => known) (p.isOver start) := by
  unfold Poll.isOver
  split
  · exact .bind .clock fun _ => .pure _
  · exact .pure _

lemma loop_attempt {p : Poll τ α} (hc : IsCall p.check) (start : τ) (left attempts : Nat) :
    Loop (fun _ => false) (p.attempt start left attempts) := by
  induction left generalizing attempts with
  | zero =>
    refine (Loop.ofCall hc).bind fun found => ?_
    cases found
    · exact .bind (paced_await _ _ _) fun _ => paced_timeout _ _ _
    · exact .pure _
  | succ left ih =>
    refine (Loop.ofCall hc).bind fun found => ?_
    cases found
    · refine .bind (.log _ _) fun _ => .bind (paced_await _ _ _) fun _ =>
        .bind (paced_isOver _ _) fun ended => ?_
      cases ended
      · exact (ih _).paced
      · exact .bind (.log _ _) fun _ => paced_timeout _ _ _
    · exact .pure _

lemma loop_pollUntil {p : Poll τ α} (hc : IsCall p.check) :
    Loop (fun _ => false) (Polling.pollUntil p) := by
  unfold Polling.pollUntil
  rw [bind_eq]
  refine .now fun start => ?_
  rw [Program.bind_done_ok]
  split
  · exact .failure _
  · exact loop_attempt hc _ _ _

lemma loop_awaitRunning (ns selector : String) (policy : Policy τ) :
    Loop (fun _ => false) (Verify.awaitRunning ns selector policy) :=
  (loop_pollUntil (isCall_findRunning _ _)).bind fun _ => .bind (.log _ _) fun _ => .pure _

lemma loop_awaitLog (pod : Observation) (text : String) (policy : Policy τ)
    (container : Option String) :
    Loop (fun _ => false) (Verify.awaitLog pod text policy container) :=
  (loop_pollUntil (isCall_holds _ _ _)).bind fun _ => .log _ _

/-! ### Several loops -/

/-- The calls of one kind, in order. -/
def only (kind : Request.Call) (cs : List (Call τ)) : List (Call τ) :=
  cs.filter fun c => c.request.call = kind

omit [Seconds τ] in
lemma only_append (kind : Request.Call) (cs ds : List (Call τ)) :
    only kind (cs ++ ds) = only kind cs ++ only kind ds := List.filter_append _ _

lemma only_eq_nil {p : Program τ α} {kind : Request.Call}
    (h : Asks (fun request => request.call ≠ kind) p) (r : Rehearsal τ) :
    only kind (calls p r) = [] :=
  List.filter_eq_nil_iff.2 fun c hc => by simpa using h.calls r c hc

/-- All calls of a kind but the first few start before the token is set. -/
def PacedFrom (kind : Request.Call) (n : Nat) (p : Program τ α) : Prop :=
  ∀ (r : Rehearsal τ) (token : τ),
    ∀ c ∈ (only kind (calls p (withToken (some token) r))).drop n, ¬ token ≤ c.start

namespace PacedFrom

variable {kind : Request.Call} {n k : Nat}

lemma ofLoop {p : Program τ α} {after : α → Bool} (hp : Loop after p) : PacedFrom kind 1 p := by
  intro r token c hc
  refine hp.tail r token c ?_
  cases h : calls p (withToken (some token) r) with
  | nil => simp [h, only] at hc
  | cons first rest =>
    rw [h, only, List.filter_cons] at hc
    split at hc
    · exact List.mem_of_mem_filter hc
    · exact List.mem_of_mem_filter (List.mem_of_mem_drop hc)

lemma ofAsks {p : Program τ α} (hp : Asks (fun request => request.call ≠ kind) p) :
    PacedFrom kind 0 p := by
  intro r token c hc
  rw [only_eq_nil hp] at hc
  cases hc

lemma mono {p : Program τ α} (hp : PacedFrom kind n p) (h : n ≤ k) : PacedFrom kind k p := by
  intro r token c hc
  refine hp r token c ?_
  rw [show k = n + (k - n) by omega, ← List.drop_drop] at hc
  exact List.mem_of_mem_drop hc

/-- A program that comes after a few calls of the kind. -/
lemma after {p : Program τ α} {f : α → Program τ β}
    (hp : ∀ r : Rehearsal τ, (only kind (calls p r)).length ≤ k)
    (hf : ∀ a, PacedFrom kind n (f a)) : PacedFrom kind (k + n) (p.bind f) := by
  intro r token c hc
  have hle := hp (withToken (some token) r)
  rcases h : run p (withToken (some token) r) with ⟨e | a, s⟩
  · rw [calls_bind_error h, List.drop_eq_nil_of_le (by omega)] at hc
    cases hc
  · have hs : s = withToken (some token) s := by
      have := (frame_run p (withToken (some token) r)).2.2
      rw [h] at this
      rw [withToken, ← show s.cancelAt = some token from this]
    refine hf a s token c ?_
    rw [← hs]
    rw [calls_bind_ok h, only_append, List.drop_append, List.drop_eq_nil_of_le (by omega),
      List.nil_append] at hc
    -- the calls of the first program are at most as many as are left out
    obtain ⟨d, hd⟩ := Nat.exists_eq_add_of_le hle
    rw [show k + n - (only kind (calls p (withToken (some token) r))).length = n + d by omega,
      ← List.drop_drop] at hc
    exact List.mem_of_mem_drop hc

/-- A program that comes before others make calls, but not of the kind. -/
lemma before {p : Program τ α} {f : α → Program τ β} (hp : PacedFrom kind n p)
    (hf : ∀ a, Asks (fun request => request.call ≠ kind) (f a)) :
    PacedFrom kind n (p.bind f) := by
  intro r token c hc
  refine hp r token c ?_
  rcases h : run p (withToken (some token) r) with ⟨e | a, s⟩
  · rwa [calls_bind_error h] at hc
  · rwa [calls_bind_ok h, only_append, only_eq_nil (hf a), List.append_nil] at hc

end PacedFrom

/-! ### Setting up a cluster asks for the served types once for each definition -/

lemma length_calls_isInstalled (ref : ResourceRef) (body : Yaml.Value) (r : Rehearsal τ) :
    (calls (Install.isInstalled ref body) r).length ≤ 1 := by
  have single {p : Program τ Bool} (hp : IsCall p) : (calls p r).length ≤ 1 := by
    obtain ⟨request, next, rfl, h⟩ := hp
    obtain ⟨result, hr, -⟩ := h (r.answer request).1
    rw [calls_ask, hr]
    simp [calls, trace]
  unfold Install.isInstalled
  cases Manifest.field body body "kind" with
  | error e => exact Nat.zero_le 1
  | ok kind =>
    show (calls (if kind.isText Manifest.definitionKind then _ else _) r).length ≤ 1
    split
    · exact single (isCall_isServed _ _ _)
    · unfold Cluster.isPresent
      cases Cluster.route (.text ref.kind) with
      | error e => exact Nat.zero_le 1
      | ok route => exact single (isCall_sendOr _ _ _)

lemma length_only_bind {kind : Request.Call} {n : Nat} {p : Program τ α} {f : α → Program τ β}
    {r : Rehearsal τ} (hp : (only kind (calls p r)).length ≤ n)
    (hf : ∀ a, Asks (fun request => request.call ≠ kind) (f a)) :
    (only kind (calls (p.bind f) r)).length ≤ n := by
  rcases h : run p r with ⟨e | a, s⟩
  · rwa [calls_bind_error h]
  · rwa [calls_bind_ok h, only_append, only_eq_nil (hf a), List.append_nil]

lemma length_kinds_add (m : Manifest) (d : Install.Outcomes × Target) (r : Rehearsal τ) :
    (only .kinds (calls (Install.add m d) r)).length ≤ 1 := by
  refine length_only_bind ?_ fun _ => .done _
  unfold Install.ensureIn
  cases d.2 with
  | cluster =>
    refine length_only_bind ?_ fun _ => .done _
    rw [Naming.ensure_eq]
    exact length_only_bind ((List.length_filter_le _ _).trans (length_calls_isInstalled _ _ _))
      fun present => Requests.asks_settle (by simp [Request.call]) present
  | collection c => exact Nat.zero_le 1
  | nowhere => exact Nat.zero_le 1

/-- A role is not a type, so nothing is asked about types. -/
lemma asks_addRole {m : Manifest} {name : String} (h : Bundled.Grants m name)
    (d : Install.Outcomes × Target) :
    Asks (fun request => request.call ≠ .kinds) (Install.add m d : Program τ _) := by
  refine Requests.asks_add ?_
  rw [Naming.ensure_eq, h.names.isInstalled]
  exact .bind (.sendOr (by simp [Request.call]) _ _) fun present =>
    Requests.asks_settle (by simp [Request.call]) present

/-! ### Main result -/

/-- The operations that look at the token, each with its polling loops: how the checks of every
loop are found among the calls of a run. When a cluster is set up, two calls for the served types
come before those of the loop, one for each definition. -/
inductive Waits : {α : Type} → Program τ α → (List (Call τ) → List (List (Call τ))) → Prop where
  | poll {α : Type} (p : Poll τ α) (h : IsCall p.check) :
    Waits (Polling.pollUntil p) fun cs => [cs]
  | served (s : Serving τ) : Waits (Install.awaitServed s) fun cs => [cs]
  | running (ns selector : String) (policy : Policy τ) :
    Waits (Verify.awaitRunning ns selector policy) fun cs => [cs]
  | logged (pod : Observation) (text : String) (policy : Policy τ) (container : Option String) :
    Waits (Verify.awaitLog pod text policy container) fun cs => [cs]
  | verified (ns selector : String) (policy : Policy τ) (message container : Option String) :
    Waits (Verify.verify ns selector policy message container)
      fun cs => [only .pods cs, only .log cs]
  | setUp (timeout : τ) (roleName : String) (target : Target) :
    Waits (Install.setUpCluster timeout roleName target) fun cs => [(only .kinds cs).drop 2]

section

variable (ns selector : String) (policy : Policy τ) (message container : Option String)

/-- The first loop of a verification lists pods, and nothing after it does. -/
lemma pacedFrom_pods : PacedFrom .pods 1 (Verify.verify ns selector policy message container) := by
  refine .before (.ofLoop (loop_awaitRunning _ _ _)) fun pod => ?_
  cases message with
  | none => exact .done _
  | some text =>
    exact .bind (Requests.asks_awaitLog (by simp [Request.call]) text policy container)
      fun _ => .done _

/-- The second loop reads logs, and nothing before it does. -/
lemma pacedFrom_logs : PacedFrom .log 1 (Verify.verify ns selector policy message container) := by
  show PacedFrom .log (0 + 1) (Program.bind _ _)
  refine .after (fun r => ?_) fun pod => ?_
  · rw [only_eq_nil (Requests.asks_awaitRunning (by simp [Request.call]) policy)]
    exact Nat.le_refl 0
  · cases message with
    | none => exact (PacedFrom.ofAsks (.done _)).mono (Nat.zero_le 1)
    | some text => exact .before (.ofLoop (loop_awaitLog _ _ _ _)) fun _ => .done _

end

lemma pacedFrom_setUpCluster (timeout : τ) (roleName : String) (target : Target) :
    PacedFrom .kinds 3 (Install.setUpCluster timeout roleName target) := by
  obtain ⟨role, hload, hrole⟩ := Bundled.load_role
  have bundled (name : String) (r : Rehearsal τ) :
      (only .kinds (calls (Install.bundled name) r)).length ≤ 0 := by
    have none : Asks (fun request => request.call ≠ .kinds) (Install.bundled name : Program τ _) :=
      .ofExcept _ _
    rw [only_eq_nil none]
    exact Nat.le_refl 0
  have wait (m : Manifest) : PacedFrom .kinds 1 (Install.awaitType timeout m target) := by
    cases target with
    | collection c => exact (PacedFrom.ofAsks (.done _)).mono (Nat.zero_le 1)
    | cluster => exact .ofLoop (loop_awaitServed _)
    | nowhere => exact .ofLoop (loop_awaitServed _)
  refine (PacedFrom.after (bundled _) fun _ => .after (length_kinds_add _ _) fun _ =>
    .after (bundled _) fun _ => .after (length_kinds_add _ _) fun _ =>
      .before (wait _) fun _ => ?_).mono (by decide)
  show Asks _ ((Program.ofExcept Failure.refused (Bundle.load "user-cluster-role.yaml")).bind _)
  rw [hload]
  exact asks_addRole (hrole roleName) _

/-- **No check starts once the token is set**, but for the first of a loop. -/
theorem Waits.paced {p : Program τ α} {loops : List (Call τ) → List (List (Call τ))}
    (hp : Waits p loops) (r : Rehearsal τ) (token : τ) :
    ∀ loop ∈ loops (calls p (withToken (some token) r)), ∀ c ∈ loop.tail, ¬ token ≤ c.start := by
  cases hp with
  | poll p h => simpa using (loop_pollUntil h).tail r token
  | served s => simpa using (loop_awaitServed s).tail r token
  | running ns selector policy => simpa using (loop_awaitRunning ns selector policy).tail r token
  | logged pod text policy container =>
    simpa using (loop_awaitLog pod text policy container).tail r token
  | verified ns selector policy message container =>
    have pods := pacedFrom_pods ns selector policy message container
    have logs := pacedFrom_logs ns selector policy message container
    intro loop hl c hc
    rw [← List.drop_one] at hc
    rcases List.mem_pair.1 hl with rfl | rfl
    · exact pods r token c hc
    · exact logs r token c hc
  | setUp timeout roleName target =>
    intro loop hl c hc
    rw [List.mem_singleton.1 hl, List.tail_drop] at hc
    exact pacedFrom_setUpCluster timeout roleName target r token c hc

end Testbed.Pacing
