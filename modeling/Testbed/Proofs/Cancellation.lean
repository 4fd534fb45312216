import Testbed.Proofs.Trace
import Testbed.Install.Setup
import Testbed.Verify

/-!
Cancelling an operation cuts its run short and changes nothing before the cut.

The token is looked at only between a call and the next one, and when it is seen to be set the
operation ends at once. So the runs with and without a token go on in step until then. The
invariant that carries this also keeps track of whether time has passed since the last call: a
look at the token always comes before that, hence the time of the cut is known.
-/

namespace Testbed.Cancellation

open Rehearsal
open Yaml (Value)
open Install (Target Serving)
open Polling (Poll)

variable {τ α β : Type}

/-- The same cluster with another token: one that is set at a time, or none. -/
def withToken (token : Option τ) (r : Rehearsal τ) : Rehearsal τ := { r with cancelAt := token }

/-- The program heeds the token. The flags tell whether no time passes between the last call
and the start of the program, and between its last call and its end. -/
inductive Heeds : Bool → Bool → Program τ α → Prop where
  | result {fresh after : Bool} (a : α) (h : after → fresh) : Heeds fresh after (.done (.ok a))
  | failure {fresh after : Bool} {e : Failure τ} (own : e ≠ .cancelled) :
    Heeds fresh after (.done (.error e))
  | ask {fresh after : Bool} {request : Request} {next : Except Fault request.Reply → Program τ α}
    (h : ∀ answer, Heeds true after (next answer)) : Heeds fresh after (.ask request next)
  | now {fresh after : Bool} {next : τ → Program τ α} (h : ∀ t, Heeds fresh after (next t)) :
    Heeds fresh after (.now next)
  | isCancelled {after : Bool} {next : Bool → Program τ α} (stops : next true = .fail .cancelled)
    (goes : Heeds true after (next false)) : Heeds true after (.isCancelled next)
  | pause {after : Bool} {length : τ} {next : Bool → Program τ α}
    (stops : next true = .fail .cancelled) (goes : Heeds false after (next false)) :
    Heeds true after (.pause length next)
  | note {fresh after : Bool} {level : Level} {message : String} {next : Program τ α}
    (h : Heeds fresh after next) : Heeds fresh after (.note level message next)

namespace Heeds

variable {fresh fresh' mid after after' : Bool}

lemma weaken {p : Program τ α} (hp : Heeds fresh after p) (hf : fresh → fresh')
    (ha : after' → after) : Heeds fresh' after' p := by
  induction hp generalizing fresh' with
  | result a h => exact result a fun h' => hf (h (ha h'))
  | failure own => exact failure own
  | ask _ ih => exact ask fun answer => ih answer id ha
  | now _ ih => exact now fun t => ih t hf ha
  | isCancelled stops _ ih => rw [hf rfl]; exact isCancelled stops (ih id ha)
  | pause stops _ ih => rw [hf rfl]; exact pause stops (ih id ha)
  | note _ ih => exact note (ih hf ha)

lemma bind {p : Program τ α} {f : α → Program τ β} (hp : Heeds fresh mid p)
    (hf : ∀ a, Heeds mid after (f a)) : Heeds fresh after (p.bind f) := by
  induction hp with
  | result a h => exact (hf a).weaken h id
  | failure own => exact failure own
  | ask _ ih => exact ask fun answer => ih answer hf
  | now _ ih => exact now fun t => ih t hf
  | isCancelled stops _ ih => exact isCancelled (by simp only [stops, Program.bind_fail]) (ih hf)
  | pause stops _ ih => exact pause (by simp only [stops, Program.bind_fail]) (ih hf)
  | note _ ih => exact note (ih hf)

lemma pure (a : α) : Heeds fresh fresh (.done (.ok a) : Program τ α) := result a id

lemma done {x : Except (Failure τ) α} (h : ∀ e, x = .error e → Early e) :
    Heeds fresh fresh (.done x) := by
  cases x with
  | ok a => exact pure a
  | error e => exact failure (h e rfl).ne_cancelled

lemma ofExcept {ε : Type} {wrap : ε → Failure τ} (own : ∀ e, wrap e ≠ .cancelled)
    (x : Except ε α) : Heeds fresh fresh (Program.ofExcept wrap x) := by
  cases x with
  | ok a => exact pure a
  | error e => exact failure (own e)

lemma log (level : Level) (message : String) :
    Heeds fresh fresh (Program.log level message : Program τ _) := note (pure ())

lemma clock : Heeds fresh fresh (Program.clock : Program τ τ) := now pure

end Heeds

/-! ### Single calls -/

/-- One call, and then a result that depends on the answer alone. -/
def IsCall (p : Program τ α) : Prop :=
  ∃ request next, p = .ask request next ∧
    ∀ answer, ∃ result, next answer = .done result ∧ result ≠ .error .cancelled

lemma IsCall.heeds {p : Program τ α} {fresh after : Bool} (h : IsCall p) :
    Heeds fresh after p := by
  obtain ⟨request, next, rfl, h⟩ := h
  refine .ask fun answer => ?_
  obtain ⟨result, hr, own⟩ := h answer
  rw [hr]
  rcases result with e | a
  · exact .failure fun h => own (by rw [h])
  · exact .result a fun _ => rfl

lemma IsCall.bind {p : Program τ α} {f : α → Program τ β} (hp : IsCall p)
    (hf : ∀ a, ∃ result, f a = .done result ∧ result ≠ .error .cancelled) :
    IsCall (p.bind f) := by
  obtain ⟨request, next, rfl, h⟩ := hp
  refine ⟨request, _, rfl, fun answer => ?_⟩
  obtain ⟨result, hr, own⟩ := h answer
  rcases result with e | a
  · exact ⟨.error e, by simp only [hr, Program.bind], by simpa using own⟩
  · obtain ⟨b, hb, own⟩ := hf a
    exact ⟨b, by simp only [hr, Program.bind, hb], own⟩

lemma isCall_send (request : Request) : IsCall (Program.send request : Program τ _) := by
  refine ⟨request, _, rfl, fun answer => ?_⟩
  rcases answer with f | reply
  · exact ⟨_, rfl, by simp⟩
  · exact ⟨_, rfl, by simp⟩

lemma isCall_sendOr (request : Request) (absorb : Fault → Option α)
    (accept : request.Reply → α) :
    IsCall (Program.sendOr request absorb accept : Program τ _) := by
  refine ⟨request, _, rfl, fun answer => ?_⟩
  rcases answer with f | reply
  · cases h : absorb f with
    | none => exact ⟨_, by simp only [h]; rfl, by simp⟩
    | some a => exact ⟨_, by simp only [h]; rfl, by simp⟩
  · exact ⟨_, rfl, by simp⟩

lemma isCall_isServed (kind version group : String) :
    IsCall (Install.isServed kind version group : Program τ _) := by
  refine (isCall_sendOr _ _ _).bind fun kinds => ?_
  cases kinds <;> exact ⟨_, rfl, by simp⟩

lemma isCall_findRunning (ns selector : String) :
    IsCall (Verify.findRunning ns selector : Program τ _) := by
  refine ((isCall_send _).bind fun pods => ⟨_, rfl, by simp⟩).bind (fun pods => ?_) |>.bind
    fun observed => ⟨_, rfl, by simp⟩
  generalize pods.mapM Observation.ofPod = observed
  cases observed <;> exact ⟨_, rfl, by simp⟩

lemma isCall_readLog (pod : Observation) (container : Option String) :
    IsCall (Verify.readLog pod container : Program τ _) := isCall_sendOr _ _ _

/-! ### Operations -/

variable {fresh after : Bool}

lemma heeds_submit (kind : Value) (route : Route) (ns : Option Value) (body : Value) :
    Heeds fresh true (Cluster.submit kind route ns body : Program τ _) := by
  refine .ask fun answer => ?_
  split
  · exact .pure _
  · exact .note (.pure _)
  · exact .failure (by simp)

lemma heeds_create (body : Value) (ns : Option String) :
    Heeds fresh fresh (Cluster.create body ns : Program τ _) :=
  .bind (.ofExcept (by simp) _) fun _ => .bind (.done fun _ => route_early) fun _ =>
    .bind (.done fun _ => placement_early) fun _ => (heeds_submit _ _ _ _).weaken id fun _ => rfl

lemma heeds_isInstalled (ref : ResourceRef) (body : Value) :
    Heeds fresh fresh (Install.isInstalled ref body : Program τ _) := by
  refine .bind (.ofExcept (by simp) _) fun kind => ?_
  split
  · exact (isCall_isServed _ _ _).heeds
  · exact .bind (.done fun _ => route_early) fun _ => (isCall_sendOr _ _ _).heeds

lemma heeds_ensure (ref : ResourceRef) (body : Value) :
    Heeds fresh fresh (Install.ensure ref body : Program τ _) := by
  refine .bind (heeds_isInstalled _ _) fun present => ?_
  cases present
  · refine .bind (heeds_create _ _) fun creation => ?_
    cases creation <;> exact .bind (.log _ _) fun _ => .pure _
  · exact .bind (.log _ _) fun _ => .pure _

lemma heeds_add (m : Manifest) (done : Install.Outcomes × Target) :
    Heeds fresh fresh (Install.add m done : Program τ _) := by
  refine .bind ?_ fun _ => .pure _
  unfold Install.ensureIn
  split
  · exact .bind (heeds_ensure _ _) fun _ => .pure _
  · exact .bind (.log _ _) fun _ => .pure _
  · exact .failure (by simp)

lemma heeds_bundled (name : String) :
    Heeds fresh fresh (Install.bundled name : Program τ _) := .ofExcept (by simp) _

variable [Seconds τ]

/-- Waiting takes time, so it comes at once after a call or not at all. -/
lemma heeds_sleep (length : τ) : Heeds true false (Polling.sleep length) := by
  refine .isCancelled rfl ?_
  simp only
  split
  · exact .result _ (by simp)
  · exact .pause rfl (.result _ id)

lemma heeds_expire (s : Serving τ) (start : τ) (attempts : Nat) :
    Heeds fresh after (s.expire start attempts : Program τ α) :=
  .bind .clock fun _ => .failure (by simp)

lemma heeds_turn (s : Serving τ) (start : τ) (attempts : Nat) :
    Heeds fresh false (s.turn start attempts) := by
  have check : Heeds fresh true (Install.isServed s.kind s.version s.group : Program τ _) :=
    (isCall_isServed _ _ _).heeds
  refine .bind check fun served => ?_
  cases served
  · refine .bind .clock fun now => ?_
    simp only
    split
    · exact heeds_expire _ _ _
    · refine .bind (.log _ _) fun _ => .bind (heeds_sleep _) fun _ => .bind .clock fun now => ?_
      split
      · have expires : Heeds false false (s.expire start attempts : Program τ Unit) :=
          heeds_expire _ _ _
        exact .bind expires fun _ => .pure _
      · exact .pure _
  · exact .bind (.log _ _) fun _ => .result _ (by simp)

lemma heeds_turns (s : Serving τ) (start : τ) (left attempts : Nat) :
    Heeds fresh false (s.turns start left attempts) := by
  induction left generalizing fresh attempts with
  | zero =>
    refine .bind (heeds_turn _ _ _) fun served => ?_
    cases served
    · exact heeds_expire _ _ _
    · exact .pure _
  | succ left ih =>
    refine .bind (heeds_turn _ _ _) fun served => ?_
    cases served
    · exact ih _
    · exact .pure _

lemma heeds_awaitServed (s : Serving τ) : Heeds fresh false (Install.awaitServed s) :=
  .bind .clock fun _ => heeds_turns _ _ _ _

lemma heeds_timeout (p : Poll τ α) (start : τ) (attempts : Nat) :
    Heeds fresh after (p.timeout start attempts : Program τ α) :=
  .bind .clock fun _ => .failure (by simp)

lemma heeds_await (p : Poll τ α) (start : τ) (attempts : Nat) :
    Heeds true false (p.await start attempts) :=
  .bind .clock fun _ => heeds_sleep _

lemma heeds_isOver (p : Poll τ α) (start : τ) : Heeds fresh fresh (p.isOver start) := by
  unfold Poll.isOver
  split
  · exact .bind .clock fun _ => .pure _
  · exact .pure _

lemma heeds_attempt {p : Poll τ α} (hc : IsCall p.check) (start : τ) (left attempts : Nat) :
    Heeds fresh false (p.attempt start left attempts) := by
  have check {fresh : Bool} : Heeds fresh true p.check := hc.heeds
  induction left generalizing fresh attempts with
  | zero =>
    refine .bind check fun found => ?_
    cases found
    · exact .bind (heeds_await _ _ _) fun _ => heeds_timeout _ _ _
    · exact .result _ (by simp)
  | succ left ih =>
    refine .bind check fun found => ?_
    cases found
    · refine .bind (.log _ _) fun _ => .bind (heeds_await _ _ _) fun _ =>
        .bind (heeds_isOver _ _) fun ended => ?_
      cases ended
      · exact ih _
      · exact .bind (.log _ _) fun _ => heeds_timeout _ _ _
    · exact .result _ (by simp)

lemma heeds_pollUntil {p : Poll τ α} (hc : IsCall p.check) :
    Heeds fresh false (Polling.pollUntil p) := by
  refine .bind .clock fun start => ?_
  split
  · exact .failure (by simp)
  · exact heeds_attempt hc _ _ _

lemma heeds_awaitRunning (ns selector : String) (policy : Policy τ) :
    Heeds fresh false (Verify.awaitRunning ns selector policy) :=
  .bind (heeds_pollUntil (isCall_findRunning _ _)) fun _ => .bind (.log _ _) fun _ => .pure _

omit [Seconds τ] in
lemma isCall_holds (pod : Observation) (text : String) (container : Option String) :
    IsCall (do
      let logged ← Verify.readLog pod container
      return if Text.occursIn text.toList logged.toList then some () else none :
      Program τ (Option Unit)) :=
  (isCall_readLog _ _).bind fun _ => ⟨_, rfl, by simp⟩

lemma heeds_awaitLog (pod : Observation) (text : String) (policy : Policy τ)
    (container : Option String) :
    Heeds fresh false (Verify.awaitLog pod text policy container) :=
  .bind (heeds_pollUntil (isCall_holds _ _ _)) fun _ => .log _ _

lemma heeds_verify (ns selector : String) (policy : Policy τ)
    (message container : Option String) :
    Heeds fresh false (Verify.verify ns selector policy message container) := by
  refine .bind (heeds_awaitRunning _ _ _) fun pod => ?_
  cases message
  · exact .pure _
  · exact .bind (heeds_awaitLog _ _ _ _) fun _ => .pure _

lemma heeds_setUpCluster (timeout : τ) (roleName : String) (target : Target) :
    Heeds fresh false (Install.setUpCluster timeout roleName target) := by
  have wait (m : Manifest) : Heeds fresh false (Install.awaitType timeout m target) := by
    cases target with
    | collection c => exact .result _ (by simp)
    | cluster => exact heeds_awaitServed _
    | nowhere => exact heeds_awaitServed _
  exact .bind (heeds_bundled _) fun _ => .bind (heeds_add _ _) fun _ =>
    .bind (heeds_bundled _) fun _ => .bind (heeds_add _ _) fun _ =>
      .bind (wait _) fun _ => .bind (heeds_bundled _) fun _ => heeds_add _ _

/-! ### The run with a token beside the run without one -/

omit [Seconds τ] in
/-- The end of the last call, or a given time when there is none. -/
def lastEnd (start : τ) (cs : List (Call τ)) : τ := (cs.getLast?.map Call.finish).getD start

omit [Seconds τ] in
lemma lastEnd_cons (start : τ) (c : Call τ) (cs : List (Call τ)) :
    lastEnd start (c :: cs) = lastEnd c.finish cs := by
  cases cs with
  | nil => rfl
  | cons d cs => simp [lastEnd, List.getLast?_cons]

omit [Seconds τ] in
lemma lastEnd_of_ne_nil (start start' : τ) {cs : List (Call τ)} (h : cs ≠ []) :
    lastEnd start cs = lastEnd start' cs := by
  cases cs with
  | nil => exact absurd rfl h
  | cons c cs => rw [lastEnd_cons, lastEnd_cons]

/-- The token is seen to be set. -/
inductive SeesToken : Event τ → Prop where
  | look : SeesToken (.looked true)
  | wait (length : τ) : SeesToken (.waited length true)

/-- The later of two times, as a run finds it: the token is set by the end of the last call, or
it is waited for. -/
def AtCut (token last now : τ) : Prop :=
  token ≤ last ∧ now = last ∨ now = Seconds.latest last token

lemma answer_withToken (token : Option τ) (request : Request) (r : Rehearsal τ) :
    (withToken token r).answer request =
      ((r.answer request).1, withToken token (r.answer request).2) := by
  unfold answer dispatch
  cases request <;> simp only [isRemote, Rehearsal.send, withToken] <;>
    (try cases (takeFault _ r.script.faults).1) <;> simp [serve] <;> split <;> rfl

/-- The time of the token comes before the end of a pause. -/
lemma pause_cut {token length : τ} (r : Rehearsal τ) (h : token ≤ r.clock + length) :
    ∃ s, (withToken (some token) r).pause length = (true, s) ∧
      s.clock = Seconds.latest r.clock token := by
  unfold pause
  simp only [withToken, h, if_true]
  exact ⟨_, rfl, rfl⟩

lemma pause_goes {token length : τ} (r : Rehearsal τ) (h : ¬ token ≤ r.clock + length) :
    (withToken (some token) r).pause length =
      (false, withToken (some token) (r.sleep length)) := by
  unfold pause
  simp only [withToken, h, if_false]
  rfl

/-- The run with the token is the run without it. -/
structure InStep (p : Program τ α) (r : Rehearsal τ) (token : τ) : Prop where
  goes : (run p (withToken (some token) r)).1 ≠ .error .cancelled
  result : (run p (withToken (some token) r)).1 = (run p (withToken none r)).1
  state : (run p (withToken (some token) r)).2 =
    withToken (some token) (run p (withToken none r)).2
  trace : trace p (withToken (some token) r) = trace p (withToken none r)

/-- The run with the token ends when it is seen, and is the run without it up to there. -/
structure CutShort (p : Program τ α) (r : Rehearsal τ) (token : τ)
    (before : List (Event τ)) (stop : Event τ) : Prop where
  result : (run p (withToken (some token) r)).1 = .error .cancelled
  trace : trace p (withToken (some token) r) = before ++ [stop]
  sees : SeesToken stop
  isStart : before <+: Rehearsal.trace p (withToken none r)
  clock : AtCut token (lastEnd r.clock (before.filterMap Event.call?))
    (run p (withToken (some token) r)).2.clock

/-- Both runs take the same steps and go on with the same program from there. -/
structure Together (p p' : Program τ α) (r r' : Rehearsal τ) (token : τ)
    (steps : List (Event τ)) : Prop where
  runs : ∀ t, t = none ∨ t = some token → run p (withToken t r) = run p' (withToken t r')
  traces : ∀ t, t = none ∨ t = some token →
    trace p (withToken t r) = steps ++ trace p' (withToken t r')

namespace Together

variable {p p' : Program τ α} {r r' : Rehearsal τ} {token : τ} {steps before : List (Event τ)}
  {stop : Event τ}

lemma inStep (h : Together p p' r r' token steps) (h' : InStep p' r' token) :
    InStep p r token where
  goes := by rw [h.runs _ (Or.inr rfl)]; exact h'.goes
  result := by rw [h.runs _ (Or.inr rfl), h.runs _ (Or.inl rfl)]; exact h'.result
  state := by rw [h.runs _ (Or.inr rfl), h.runs _ (Or.inl rfl)]; exact h'.state
  trace := by rw [h.traces _ (Or.inr rfl), h.traces _ (Or.inl rfl), h'.trace]

lemma cutShort (h : Together p p' r r' token steps) (h' : CutShort p' r' token before stop)
    (hlast : lastEnd r.clock ((steps ++ before).filterMap Event.call?) =
      lastEnd r'.clock (before.filterMap Event.call?)) :
    CutShort p r token (steps ++ before) stop where
  result := by rw [h.runs _ (Or.inr rfl)]; exact h'.result
  trace := by rw [h.traces _ (Or.inr rfl), h'.trace, List.append_assoc]
  sees := h'.sees
  isStart := by
    rw [h.traces _ (Or.inl rfl)]
    exact (List.prefix_append_right_inj steps).2 h'.isStart
  clock := by
    rw [h.runs _ (Or.inr rfl), hlast]
    exact h'.clock

end Together

/-! ### One step of both runs -/

section

variable {r : Rehearsal τ} {token length : τ}

lemma together_ask (request : Request) (next : Except Fault request.Reply → Program τ α) :
    Together (.ask request next) (next (r.answer request).1) r (r.answer request).2 token
      [.called (r.callOf request)] := by
  refine ⟨fun t _ => ?_, fun t _ => ?_⟩
  · simp only [run, answer_withToken]
  · simp only [Rehearsal.trace, callOf, answer_withToken]
    rfl

lemma together_look (next : Bool → Program τ α) (h : ¬ token ≤ r.clock) :
    Together (.isCancelled next) (next false) r r token [.looked false] := by
  have hlook (t : Option τ) (ht : t = none ∨ t = some token) :
      (withToken t r).isCancelled = false := by
    rcases ht with rfl | rfl
    · rfl
    · exact decide_eq_false h
  refine ⟨fun t ht => ?_, fun t ht => ?_⟩
  · simp only [run, hlook t ht]
  · simp only [Rehearsal.trace, hlook t ht]
    rfl

lemma together_wait (next : Bool → Program τ α) (h : ¬ token ≤ r.clock + length) :
    Together (.pause length next) (next false) r (r.sleep length) token
      [.waited length false] := by
  have hwait (t : Option τ) (ht : t = none ∨ t = some token) :
      (withToken t r).pause length = (false, withToken t (r.sleep length)) := by
    rcases ht with rfl | rfl
    · rfl
    · exact pause_goes r h
  refine ⟨fun t ht => ?_, fun t ht => ?_⟩
  · simp only [run, hwait t ht]
  · simp only [Rehearsal.trace, hwait t ht]
    rfl

lemma cutShort_look {next : Bool → Program τ α} (stops : next true = .fail .cancelled)
    (h : token ≤ r.clock) : CutShort (.isCancelled next) r token [] (.looked true) := by
  have hlook : (withToken (some token) r).isCancelled = true := decide_eq_true h
  refine ⟨?_, ?_, .look, List.nil_prefix, ?_⟩
  · simp only [run, hlook, stops, Program.fail]
  · simp only [Rehearsal.trace, hlook, stops, Program.fail, List.nil_append]
  · simp only [run, hlook, stops, Program.fail]
    exact Or.inl ⟨h, rfl⟩

lemma cutShort_wait {next : Bool → Program τ α} (stops : next true = .fail .cancelled)
    (h : token ≤ r.clock + length) :
    CutShort (.pause length next) r token [] (.waited length true) := by
  obtain ⟨s, hwait, hclock⟩ := pause_cut r h
  refine ⟨?_, ?_, .wait _, List.nil_prefix, ?_⟩
  · simp only [run, hwait, stops, Program.fail]
  · simp only [Rehearsal.trace, hwait, stops, Program.fail, List.nil_append]
  · simp only [run, hwait, stops, Program.fail]
    exact Or.inr hclock

end

/-- **The runs stay in step until the cut.** A cut that comes before any call needs that no time
has passed since the call before. -/
theorem Heeds.inStep_or_cutShort {fresh after : Bool} {p : Program τ α} (hp : Heeds fresh after p)
    (r : Rehearsal τ) (token : τ) :
    InStep p r token ∨ ∃ before stop, CutShort p r token before stop ∧
      (fresh = false → before.filterMap Event.call? ≠ []) := by
  induction hp generalizing r with
  | result a h => exact Or.inl ⟨by simp [run], rfl, rfl, rfl⟩
  | failure own => exact Or.inl ⟨by simpa [run] using own, rfl, rfl, rfl⟩
  | @ask fresh after request next _ ih =>
    have asked : Together _ _ r _ token _ := together_ask request next
    rcases ih (r.answer request).1 (r.answer request).2 with h | ⟨before, stop, h, -⟩
    · exact Or.inl (asked.inStep h)
    · refine Or.inr ⟨_, stop, asked.cutShort h ?_, fun _ => by simp [Event.call?]⟩
      simp only [List.cons_append, List.nil_append, List.filterMap_cons, Event.call?, lastEnd_cons]
      rfl
  | now _ ih =>
    rcases ih r.clock r with h | ⟨before, stop, h, called⟩
    · exact Or.inl ⟨h.goes, h.result, h.state, h.trace⟩
    · exact Or.inr ⟨before, stop, ⟨h.result, h.trace, h.sees, h.isStart, h.clock⟩, called⟩
  | @isCancelled after next stops _ ih =>
    by_cases hc : token ≤ r.clock
    · exact Or.inr ⟨[], _, cutShort_look stops hc, by simp⟩
    · have looked := together_look next hc
      rcases ih r with h | ⟨before, stop, h, -⟩
      · exact Or.inl (looked.inStep h)
      · exact Or.inr ⟨_, stop, looked.cutShort h rfl, by simp⟩
  | @pause after length next stops _ ih =>
    by_cases hc : token ≤ r.clock + length
    · exact Or.inr ⟨[], _, cutShort_wait stops hc, by simp⟩
    · have waited := together_wait next hc
      rcases ih (r.sleep length) with h | ⟨before, stop, h, called⟩
      · exact Or.inl (waited.inStep h)
      · -- the time of the pause does not matter, since a call comes before the cut
        refine Or.inr ⟨_, stop, waited.cutShort h ?_, by simp⟩
        exact lastEnd_of_ne_nil r.clock (r.sleep length).clock (called rfl)
  | @note fresh after level message next _ ih =>
    have noted : Together (.note level message next) next r (r.note level message) token
        [.noted level message] := ⟨fun _ _ => rfl, fun _ _ => rfl⟩
    rcases ih (r.note level message) with h | ⟨before, stop, h, called⟩
    · exact Or.inl (noted.inStep h)
    · exact Or.inr ⟨_, stop, noted.cutShort h rfl, called⟩

end Testbed.Cancellation
