import Mathlib
import Testbed.Proofs.Unfolding

/-!
Worlds that answer calls.

A world answers each call by what has been called before, as it likes and after any time. In one
world a program unfolds in one way only, so two programs can be compared in the same world. A
rehearsal is such a world, since its cluster only changes with the calls.
-/

namespace Testbed.Rehearsal

variable {τ α : Type}

/-! ### Answers -/

/-- The answer to a request and when it is given, by the calls before and the time of the
request. -/
abbrev World (τ : Type) : Type :=
  List (Call τ) → τ → (request : Request) → Except Fault request.Reply × τ

/-- The world gives the answers to the calls among some events, after some calls in the past. -/
def Answers (w : World τ) : (past : List (Call τ)) → List (Event τ) → Prop
  | _, [] => True
  | past, .called c :: events =>
    (c.answer, c.finish) = w past c.start c.request ∧ Answers w (past ++ [c]) events
  | past, .looked _ :: events => Answers w past events
  | past, .waited _ _ :: events => Answers w past events
  | past, .noted _ _ :: events => Answers w past events

lemma answers_append {w : World τ} {past : List (Call τ)} {events events' : List (Event τ)} :
    Answers w past (events ++ events') ↔
      Answers w past events ∧ Answers w (past ++ callsIn events) events' := by
  induction events generalizing past with
  | nil => simp [Answers]
  | cons event events ih =>
    cases event with
    | called c =>
      have hcalls : past ++ callsIn (.called c :: events) = past ++ [c] ++ callsIn events := by
        rw [List.append_assoc]
        rfl
      rw [hcalls]
      simp only [List.cons_append, Answers, ih, and_assoc]
    | looked cancelled => exact ih
    | waited length cancelled => exact ih
    | noted level message => exact ih

variable [Seconds τ]

/-- **In one world a program unfolds in one way.** -/
theorem Unfolds.unique {w : World τ} {past : List (Call τ)} {token : Option τ} {p : Program τ α}
    {now stop stop' : τ} {events events' : List (Event τ)} {result result' : Except (Failure τ) α}
    (h : Unfolds token p now events result stop) (hw : Answers w past events)
    (h' : Unfolds token p now events' result' stop') (hw' : Answers w past events') :
    events' = events ∧ result' = result ∧ stop' = stop := by
  induction h generalizing past events' with
  | done result now =>
    cases h'
    exact ⟨rfl, rfl, rfl⟩
  | ask answer finish _ ih =>
    cases h' with
    | ask answer' finish' h' =>
      obtain ⟨hanswer, hw⟩ := hw
      obtain ⟨hanswer', hw'⟩ := hw'
      obtain ⟨rfl, rfl⟩ := Prod.mk.inj (hanswer'.trans hanswer.symm)
      obtain ⟨rfl, hrest⟩ := ih hw h' hw'
      exact ⟨rfl, hrest⟩
  | now _ ih => cases h' with | now h' => exact ih hw h' hw'
  | isCancelled _ ih =>
    cases h' with
    | isCancelled h' =>
      obtain ⟨rfl, hrest⟩ := ih hw h' hw'
      exact ⟨rfl, hrest⟩
  | pause _ ih =>
    cases h' with
    | pause h' =>
      obtain ⟨rfl, hrest⟩ := ih hw h' hw'
      exact ⟨rfl, hrest⟩
  | note _ ih =>
    cases h' with
    | note h' =>
      obtain ⟨rfl, hrest⟩ := ih hw h' hw'
      exact ⟨rfl, hrest⟩

/-! ### The story of a program -/

/-- What a program does, how it ends, and when. -/
structure Story (τ α : Type) where
  events : List (Event τ)
  result : Except (Failure τ) α
  stop : τ

/-- What a program does in a world from a time on, after some calls in the past. -/
def tell (w : World τ) (token : Option τ) : Program τ α → List (Call τ) → τ → Story τ α
  | .done result, _, now => ⟨[], result, now⟩
  | .ask request next, past, now =>
    let (answer, finish) := w past now request
    let c : Call τ := ⟨now, request, answer, finish⟩
    let story := tell w token (next answer) (past ++ [c]) finish
    { story with events := .called c :: story.events }
  | .now next, past, now => tell w token (next now) past now
  | .isCancelled next, past, now =>
    let cancelled := isSet token now
    let story := tell w token (next cancelled) past now
    { story with events := .looked cancelled :: story.events }
  | .pause length next, past, now =>
    let cancelled := isSet token (now + length)
    let story := tell w token (next cancelled) past (wake token now length)
    { story with events := .waited length cancelled :: story.events }
  | .note level message next, past, now =>
    let story := tell w token next past now
    { story with events := .noted level message :: story.events }

/-- What is told is a way to unfold, with the answers of the world. -/
lemma unfolds_tell (w : World τ) (token : Option τ) (p : Program τ α) (past : List (Call τ))
    (now : τ) :
    Unfolds token p now (tell w token p past now).events (tell w token p past now).result
        (tell w token p past now).stop ∧
      Answers w past (tell w token p past now).events := by
  induction p generalizing past now with
  | done result => exact ⟨.done result now, trivial⟩
  | ask request next ih =>
    obtain ⟨h, hw⟩ := ih (w past now request).1 _ (w past now request).2
    exact ⟨.ask _ _ h, rfl, hw⟩
  | now next ih =>
    obtain ⟨h, hw⟩ := ih now past now
    exact ⟨.now h, hw⟩
  | isCancelled next ih =>
    obtain ⟨h, hw⟩ := ih (isSet token now) past now
    exact ⟨.isCancelled h, hw⟩
  | pause length next ih =>
    obtain ⟨h, hw⟩ := ih (isSet token (now + length)) past (wake token now length)
    exact ⟨.pause h, hw⟩
  | note level message next ih =>
    obtain ⟨h, hw⟩ := ih past now
    exact ⟨.note h, hw⟩

/-! ### Rehearsals as worlds -/

/-- The clusters are in the same state. They may differ in their clocks, their tokens and what they
have recorded. -/
structure Akin (r s : Rehearsal τ) : Prop where
  store : s.store = r.store
  script : s.script = r.script
  cost : s.cost = r.cost
  serveDelay : s.serveDelay = r.serveDelay

/-- The state in which a call finds a cluster, after some calls. -/
def meets (r : Rehearsal τ) (past : List (Call τ)) : Rehearsal τ :=
  past.foldl (fun s c => ({ s with clock := c.start }.answer c.request).2) r

/-- The world of a cluster. -/
def world (r : Rehearsal τ) : World τ := fun past start request =>
  let answered := { r.meets past with clock := start }.answer request
  (answered.1, answered.2.clock)

/-- A cluster with another token and another record. -/
def besides (cancelAt : Option τ) (record : Record τ) (r : Rehearsal τ) : Rehearsal τ :=
  { r with cancelAt := cancelAt, record := record }

lemma serve_besides (cancelAt : Option τ) (record : Record τ) (request : Request)
    (r : Rehearsal τ) : (r.besides cancelAt record).serve request =
      ((r.serve request).1, (r.serve request).2.besides cancelAt record) := by
  cases request <;> simp only [serve, besides] <;> split <;> simp_all

lemma answer_besides (cancelAt : Option τ) (record : Record τ) (request : Request)
    (r : Rehearsal τ) : ∃ record', (r.besides cancelAt record).answer request =
      ((r.answer request).1, (r.answer request).2.besides cancelAt record') := by
  have hscripted : (r.besides cancelAt record).scripted request = r.scripted request := by
    unfold scripted
    split <;> rfl
  have hreached : ∃ record', (r.besides cancelAt record).reached request =
      (r.reached request).besides cancelAt record' := by
    unfold reached
    split <;> exact ⟨_, rfl⟩
  obtain ⟨record', hreached⟩ := hreached
  refine ⟨record', ?_⟩
  rcases r.answer_cases request with ⟨f, hf, ha⟩ | ⟨hf, ha⟩
  · rcases (r.besides cancelAt record).answer_cases request with ⟨f', hf', ha'⟩ | ⟨hf', -⟩
    · rw [hscripted, hf] at hf'
      cases hf'
      rw [ha', ha, hreached]
    · rw [hscripted, hf] at hf'
      cases hf'
  · rcases (r.besides cancelAt record).answer_cases request with ⟨f', hf', -⟩ | ⟨-, ha'⟩
    · rw [hscripted, hf] at hf'
      cases hf'
    · rw [ha', ha, hreached, serve_besides]

/-- Clusters in the same state give the same answer at the same time. -/
lemma Akin.answer {r s : Rehearsal τ} (h : Akin r s) (request : Request) :
    ({ s with clock := r.clock }.answer request).1 = (r.answer request).1 ∧
      ({ s with clock := r.clock }.answer request).2.clock = (r.answer request).2.clock ∧
        Akin (r.answer request).2 ({ s with clock := r.clock }.answer request).2 := by
  have heq : { s with clock := r.clock } = r.besides s.cancelAt s.record := by
    unfold besides
    rw [← h.store, ← h.script, ← h.cost, ← h.serveDelay]
  obtain ⟨record, hanswer⟩ := answer_besides s.cancelAt s.record request r
  rw [heq, hanswer]
  exact ⟨rfl, rfl, ⟨rfl, rfl, rfl, rfl⟩⟩

/-- What a run does between its calls leaves the state of the cluster as it is. -/
lemma Akin.pause {r s : Rehearsal τ} (h : Akin r s) (length : τ) : Akin (r.pause length).2 s := by
  have same : Akin r (r.pause length).2 := by
    unfold Rehearsal.pause sleep
    repeat' split
    all_goals exact ⟨rfl, rfl, rfl, rfl⟩
  exact ⟨h.store.trans same.store.symm, h.script.trans same.script.symm,
    h.cost.trans same.cost.symm, h.serveDelay.trans same.serveDelay.symm⟩

lemma answers_trace (p : Program τ α) {r₀ r : Rehearsal τ} {past : List (Call τ)}
    (h : Akin r (r₀.meets past)) : Answers r₀.world past (trace p r) := by
  induction p generalizing r past with
  | done result => trivial
  | ask request next ih =>
    obtain ⟨hanswer, hfinish, hakin⟩ := h.answer request
    have hmeets : r₀.meets (past ++ [r.callOf request]) =
        ({ r₀.meets past with clock := r.clock }.answer request).2 := by
      unfold meets
      rw [List.foldl_append]
      rfl
    refine ⟨?_, ih _ (hmeets ▸ hakin)⟩
    exact Prod.ext hanswer.symm hfinish.symm
  | now next ih => exact ih _ h
  | isCancelled next ih => exact ih _ h
  | pause length next ih => exact ih _ (h.pause length)
  | note level message next ih => exact ih ⟨h.store, h.script, h.cost, h.serveDelay⟩

/-- The story of a run. -/
def ran (p : Program τ α) (r : Rehearsal τ) : Story τ α :=
  ⟨trace p r, (run p r).1, (run p r).2.clock⟩

/-- **Every run takes place in the world of its cluster.** -/
theorem ran_eq_tell (p : Program τ α) (r : Rehearsal τ) :
    ran p r = tell r.world r.cancelAt p [] r.clock := by
  obtain ⟨h, hw⟩ := unfolds_tell r.world r.cancelAt p [] r.clock
  obtain ⟨hevents, hresult, hstop⟩ :=
    h.unique hw (unfolds_run p r) (answers_trace p ⟨rfl, rfl, rfl, rfl⟩)
  unfold ran
  rw [hevents, hresult, hstop]

end Testbed.Rehearsal
