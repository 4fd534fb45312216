import Mathlib
import Testbed.Proofs.Truncation
import Testbed.Proofs.Unfolding

/-!
A wait for a condition is over in time, and its timeout tells what happened.

Both loops make a check only while the budget lasts, so a run goes beyond the budget by no more
than the last check. The invariant of a poll is that a check starts before the deadline. The wait
for a type has it too, and a second one: a turn takes at least as long as the interval unless it
ends the wait, so the number of turns that is set aside for a length of time is never used up.
-/

namespace Testbed.Deadline

open Rehearsal
open Cancellation (IsCall isCall_send)
open Truncation (goOn proceed attempt_eq latest_eq_max)
open Install (Serving)
open Polling (Poll)

variable {τ α β : Type} [Seconds τ]

/-! ### Checks -/

/-- However the program unfolds, it does not say that time is up. -/
def NeverTimesOut (p : Program τ α) : Prop :=
  ∀ token now events t stop, ¬ Unfolds token p now events (.error (.timedOut t)) stop

namespace NeverTimesOut

lemma bind {p : Program τ α} {f : α → Program τ β} (hp : NeverTimesOut p)
    (hf : ∀ a, NeverTimesOut (f a)) : NeverTimesOut (p.bind f) := by
  intro token now events t stop h
  rcases unfolds_bind h with ⟨e, he, hfirst⟩ | ⟨a, mid, first, second, -, -, hsecond⟩
  · cases he
    exact hp _ _ _ _ _ hfirst
  · exact hf a _ _ _ _ _ hsecond

lemma ok (a : α) : NeverTimesOut (.done (.ok a) : Program τ α) := by
  intro token now events t stop h
  cases h

lemma ofExcept {ε : Type} {wrap : ε → Failure τ} (own : ∀ e t, wrap e ≠ .timedOut t)
    (x : Except ε α) : NeverTimesOut (Program.ofExcept wrap x) := by
  intro token now events t stop h
  cases x with
  | ok a => cases h
  | error e =>
    have hdone : Unfolds token (.done (.error (wrap e))) now events
      (.error (.timedOut t) : Except (Failure τ) α) stop := h
    generalize hw : wrap e = failure at hdone
    cases hdone
    exact own e t hw

lemma sendOr (request : Request) (absorb : Fault → Option α) (accept : request.Reply → α) :
    NeverTimesOut (Program.sendOr request absorb accept : Program τ _) := by
  intro token now events t stop h
  cases h with
  | ask answer finish h =>
    rcases answer with f | reply
    · simp only at h
      split at h <;> cases h
    · cases h

lemma send (request : Request) : NeverTimesOut (Program.send request : Program τ _) := by
  intro token now events t stop h
  cases h with
  | ask answer finish h => cases answer <;> cases h

end NeverTimesOut

/-- One check of a loop: when it starts and ends, what it does and what it finds. -/
structure Checked (τ β : Type) where
  start : τ
  events : List (Event τ)
  found : Except (Failure τ) β
  finish : τ

/-- The events are those of the checks, one after the other, and others that call nothing. -/
inductive Consists (token : Option τ) (check : Program τ β) :
    List (Checked τ β) → List (Event τ) → Prop where
  | nil {events : List (Event τ)} (quiet : callsIn events = []) : Consists token check [] events
  | cons {before after : List (Event τ)} {checks : List (Checked τ β)} (quiet : callsIn before = [])
    (k : Checked τ β) (h : Unfolds token check k.start k.events k.found k.finish)
    (rest : Consists token check checks after) :
    Consists token check (k :: checks) (before ++ (k.events ++ after))

namespace Consists

variable {token : Option τ} {check : Program τ β} {checks : List (Checked τ β)}
  {events : List (Event τ)}

lemma prepend {before : List (Event τ)} (quiet : callsIn before = [])
    (h : Consists token check checks events) : Consists token check checks (before ++ events) := by
  cases h with
  | nil hevents => exact .nil (by rw [callsIn_append, quiet, hevents]; rfl)
  | cons hbefore k hk rest =>
    rw [← List.append_assoc]
    exact .cons (by rw [callsIn_append, quiet, hbefore]; rfl) k hk rest

lemma append {after : List (Event τ)} (h : Consists token check checks events)
    (quiet : callsIn after = []) : Consists token check checks (events ++ after) := by
  induction h with
  | nil hevents => exact .nil (by rw [callsIn_append, quiet, hevents]; rfl)
  | cons hbefore k hk _ ih =>
    rw [List.append_assoc, List.append_assoc]
    exact .cons hbefore k hk ih

lemma first {k : Checked τ β} (hk : Unfolds token check k.start k.events k.found k.finish)
    (h : Consists token check checks events) :
    Consists token check (k :: checks) (k.events ++ events) :=
  show Consists token check (k :: checks) ([] ++ (k.events ++ events)) from .cons rfl k hk h

lemma only {k : Checked τ β} (hk : Unfolds token check k.start k.events k.found k.finish)
    (quiet : callsIn events = []) : Consists token check [k] (k.events ++ events) :=
  .first hk (.nil quiet)

end Consists

lemma unfolds_call {token : Option τ} {check : Program τ β} (hc : IsCall check) {now stop : τ}
    {events : List (Event τ)} {found : Except (Failure τ) β}
    (h : Unfolds token check now events found stop) :
    ∃ c : Call τ, events = [.called c] ∧ c.start = now ∧ c.finish = stop := by
  obtain ⟨request, next, rfl, hnext⟩ := hc
  cases h with
  | ask answer finish h =>
    obtain ⟨result, hr, -⟩ := hnext answer
    rw [hr] at h
    cases h
    exact ⟨_, rfl, rfl, rfl⟩

/-- Where a check is a single call, the checks are the calls. -/
lemma Consists.spans {token : Option τ} {check : Program τ β} (hc : IsCall check)
    {checks : List (Checked τ β)} {events : List (Event τ)}
    (h : Consists token check checks events) :
    checks.map (fun k => (k.start, k.finish)) =
      (callsIn events).map fun c => (c.start, c.finish) := by
  induction h with
  | nil quiet => rw [quiet]; rfl
  | cons quiet k hk _ ih =>
    obtain ⟨c, hevents, hstart, hfinish⟩ := unfolds_call hc hk
    rw [callsIn_append, quiet, List.nil_append, callsIn_append, List.map_append, ← ih, hevents,
      List.map_cons, ← hstart, ← hfinish]
    rfl

/-! ### Waits -/

lemma wake_le (token : Option Rat) (now length : Rat) :
    wake token now length ≤ max now (now + length) := by
  cases token with
  | none => exact le_max_right _ _
  | some t =>
    unfold wake
    simp only
    split
    · rename_i ht
      rw [latest_eq_max]
      exact max_le_max (le_refl now) ht
    · exact le_max_right _ _

/-- A wait makes no call, and ends at its time unless it is cancelled before. -/
lemma sleep_unfolds {token : Option Rat} {length now stop : Rat} {events : List (Event Rat)}
    {result : Except (Failure Rat) Unit}
    (h : Unfolds token (Polling.sleep length) now events result stop) :
    callsIn events = [] ∧
      (result = .ok () ∧ stop = max now (now + length) ∨
        result = .error .cancelled ∧ stop ≤ max now (now + length)) := by
  cases slept_of_unfolds h with
  | refused => exact ⟨rfl, Or.inr ⟨rfl, le_max_left _ _⟩⟩
  | skipped hle => exact ⟨rfl, Or.inl ⟨rfl, (max_eq_left (by linarith)).symm⟩⟩
  | cut => exact ⟨rfl, Or.inr ⟨rfl, wake_le _ _ _⟩⟩
  | full pos => exact ⟨rfl, Or.inl ⟨rfl, (max_eq_right (by linarith)).symm⟩⟩

/-! ### What is left of a wait -/

section

variable {no : β} {n : Nat} {entry budget longest : Rat} {checks : List (Checked Rat β)}
  {result : Except (Failure Rat) α} {stop : Rat}

/-- A check takes some time, but no more than the longest one may. -/
def Lasts (longest : Rat) (k : Checked Rat β) : Prop :=
  k.start ≤ k.finish ∧ k.finish ≤ k.start + longest

/-- What holds of a wait that has entered its loop before and now makes check number `n`. -/
structure Remains (no : β) (n : Nat) (entry budget longest : Rat) (checks : List (Checked Rat β))
    (result : Except (Failure Rat) α) (stop : Rat) : Prop where
  checked : checks ≠ []
  starts : ∀ k ∈ checks, k.start < entry + budget
  stop_le : stop ≤ entry + budget + longest
  timedOut : ∀ t, result = .error (.timedOut t) → (∀ k ∈ checks, k.found = .ok no) ∧
    t.attempts + 1 = n + checks.length ∧ t.timeout = budget ∧ t.elapsed = stop - entry ∧
      entry + budget ≤ stop

namespace Remains

variable {k : Checked Rat β}

/-- The wait ends after this check, and not because time is up. -/
lemma last (hs : k.start < entry + budget) (hl : Lasts longest k)
    (hstop : stop ≤ max k.finish (entry + budget)) (own : ∀ t, result ≠ .error (.timedOut t)) :
    Remains no n entry budget longest [k] result stop := by
  obtain ⟨hstart, hfinish⟩ := hl
  refine ⟨List.cons_ne_nil _ _, by simpa using hs, ?_, fun t ht => absurd ht (own t)⟩
  exact hstop.trans (max_le (by linarith) (by linarith))

/-- Time is up after this check. -/
lemma expired (hs : k.start < entry + budget) (hl : Lasts longest k) (hu : k.found = .ok no)
    (hfrom : entry + budget ≤ stop) (hstop : stop ≤ max k.finish (entry + budget))
    (description : String) :
    Remains no n entry budget longest [k]
      (.error (.timedOut ⟨description, budget, n, stop - entry⟩) : Except (Failure Rat) α)
      stop := by
  obtain ⟨hstart, hfinish⟩ := hl
  refine ⟨List.cons_ne_nil _ _, by simpa using hs, ?_, ?_⟩
  · exact hstop.trans (max_le (by linarith) (by linarith))
  · rintro t ⟨⟩
    exact ⟨by simpa using hu, rfl, rfl, rfl, hfrom⟩

/-- Other checks follow this one. -/
lemma cons (hs : k.start < entry + budget) (hu : k.found = .ok no)
    (h : Remains no (n + 1) entry budget longest checks result stop) :
    Remains no n entry budget longest (k :: checks) result stop := by
  refine ⟨List.cons_ne_nil _ _, List.forall_mem_cons.2 ⟨hs, h.starts⟩, h.stop_le, fun t ht => ?_⟩
  obtain ⟨hall, hattempts, hrest⟩ := h.timedOut t ht
  refine ⟨List.forall_mem_cons.2 ⟨hu, hall⟩, ?_, hrest⟩
  rw [hattempts, List.length_cons]
  push_cast
  ring

end Remains

end

/-! ### Polling -/

section

variable {p : Poll Rat α} {entry longest now stop : Rat} {token : Option Rat} {n left : Nat}
  {events : List (Event Rat)} {result : Except (Failure Rat) α}

lemma unfolds_timeout {q : Poll Rat α}
    (h : Unfolds token (q.timeout entry n : Program Rat α) now events result stop) :
    callsIn events = [] ∧ stop = now ∧
      ∃ description,
        result = .error (.timedOut ⟨description, q.policy.budget, n, now - entry⟩) := by
  cases h with
  | now h =>
    cases h
    exact ⟨rfl, rfl, _, rfl⟩

lemma unfolds_isOver {result : Except (Failure Rat) Bool} (pos : 0 < p.policy.delay)
    (h : Unfolds token (p.isOver entry) now events result stop) :
    callsIn events = [] ∧ stop = now ∧
      result = .ok (decide (entry + p.policy.budget ≤ now)) := by
  unfold Poll.isOver at h
  rw [if_pos pos] at h
  cases h with
  | now h =>
    cases h
    exact ⟨rfl, rfl, rfl⟩

lemma unfolds_await {result : Except (Failure Rat) Unit}
    (h : Unfolds token (p.await entry n) now events result stop) :
    callsIn events = [] ∧
      (result = .ok () ∧ stop = max now (entry + n * p.policy.delay) ∨
        result = .error .cancelled ∧ stop ≤ max now (entry + n * p.policy.delay)) := by
  have due : now + (entry + n * p.policy.delay - now) = entry + n * p.policy.delay := by ring
  cases h with
  | now h =>
    have := sleep_unfolds h
    rwa [show now + (entry + Seconds.ofNat n * p.policy.delay - now) =
      entry + n * p.policy.delay from due] at this

/-- When the next check is due, time is up or the check is made. -/
lemma unfolds_proceed (pos : 0 < p.policy.delay)
    (h : Unfolds token (proceed p entry left n) now events result stop) :
    entry + p.policy.budget ≤ now ∧ callsIn events = [] ∧ stop = now ∧
        (∃ description, result =
          .error (.timedOut ⟨description, p.policy.budget, n, now - entry⟩)) ∨
      now < entry + p.policy.budget ∧ ∃ before after, events = before ++ after ∧
        callsIn before = [] ∧
          Unfolds token (p.attempt entry left (n + 1)) now after result stop := by
  rcases unfolds_bind h with ⟨e, rfl, he⟩ | ⟨ended, mid, first, second, rfl, hfirst, hsecond⟩
  · obtain ⟨-, -, he⟩ := unfolds_isOver pos he
    cases he
  · obtain ⟨quiet, rfl, hended⟩ := unfolds_isOver pos hfirst
    cases hended
    by_cases hle : entry + p.policy.budget ≤ mid
    · simp only [hle, decide_true, if_true] at hsecond
      cases hsecond with
      | note hsecond =>
        obtain ⟨quiet', hstop, hresult⟩ := unfolds_timeout hsecond
        refine Or.inl ⟨hle, ?_, hstop, hresult⟩
        rw [callsIn_append, quiet]
        exact quiet'
    · simp only [hle, decide_false, Bool.false_eq_true, if_false] at hsecond
      exact Or.inr ⟨not_le.1 hle, first, second, rfl, quiet, hsecond⟩

/-- The next check of a poll is due before its deadline. -/
lemma due_le (policy : Policy Rat) (hn : n ≤ policy.maxAttempts) :
    entry + n * policy.delay ≤ entry + policy.budget := by
  have : (n : Rat) * policy.delay ≤ policy.maxAttempts * policy.delay :=
    mul_le_mul_of_nonneg_right (by exact_mod_cast hn) policy.delay_nonneg
  exact add_le_add_right this entry

/-- What follows a wait is done when the next check is due, unless the wait is cancelled before. -/
lemma unfolds_await_bind {f : Unit → Program Rat α}
    (h : Unfolds token ((p.await entry n).bind f) now events result stop) :
    result = .error .cancelled ∧ callsIn events = [] ∧
        stop ≤ max now (entry + n * p.policy.delay) ∨
      ∃ before after, events = before ++ after ∧ callsIn before = [] ∧
        Unfolds token (f ()) (max now (entry + n * p.policy.delay)) after result stop := by
  rcases unfolds_bind h with ⟨e, rfl, he⟩ | ⟨_, mid, first, second, rfl, hfirst, hsecond⟩
  · obtain ⟨quiet, ⟨he, -⟩ | ⟨he, hstop⟩⟩ := unfolds_await he
    · cases he
    · cases he
      exact Or.inl ⟨rfl, quiet, hstop⟩
  · obtain ⟨quiet, ⟨-, rfl⟩ | ⟨he, -⟩⟩ := unfolds_await hfirst
    · exact Or.inr ⟨first, second, rfl, quiet, hsecond⟩
    · cases he

/-- What a poll does after an unmet check. -/
lemma unfolds_goOn (pos : 0 < p.policy.delay) (hn : n + left = p.policy.maxAttempts)
    (h : Unfolds token (goOn p entry left n) now events result stop) :
    stop ≤ max now (entry + p.policy.budget) ∧ callsIn events = [] ∧
        (result = .error .cancelled ∨ entry + p.policy.budget ≤ stop ∧ ∃ description,
          result = .error (.timedOut ⟨description, p.policy.budget, n, stop - entry⟩)) ∨
      ∃ left' due before after, left = left' + 1 ∧ due < entry + p.policy.budget ∧
        events = before ++ after ∧ callsIn before = [] ∧
          Unfolds token (p.attempt entry left' (n + 1)) due after result stop := by
  have due : entry + n * p.policy.delay ≤ entry + p.policy.budget := due_le p.policy (by omega)
  have hmax : max now (entry + n * p.policy.delay) ≤ max now (entry + p.policy.budget) :=
    max_le_max (le_refl now) due
  cases left with
  | zero =>
    rcases unfolds_await_bind h with ⟨rfl, quiet, hstop⟩ | ⟨first, second, rfl, quiet, hsecond⟩
    · exact Or.inl ⟨hstop.trans hmax, quiet, Or.inl rfl⟩
    · obtain ⟨quiet', rfl, hresult⟩ := unfolds_timeout hsecond
      refine Or.inl ⟨hmax, by rw [callsIn_append, quiet, quiet']; rfl, Or.inr ⟨?_, hresult⟩⟩
      -- the last check is followed by a wait until the deadline
      obtain rfl : n = p.policy.maxAttempts := hn
      exact le_max_right _ _
  | succ left =>
    cases h with
    | note h =>
      rcases unfolds_await_bind h with ⟨rfl, quiet, hstop⟩ | ⟨first, second, rfl, quiet, hsecond⟩
      · exact Or.inl ⟨hstop.trans hmax, quiet, Or.inl rfl⟩
      · rcases unfolds_proceed pos hsecond with
          ⟨hle, quiet', rfl, hresult⟩ | ⟨hlt, before, after, rfl, quiet', hnext⟩
        · refine Or.inl ⟨hmax, ?_, Or.inr ⟨hle, hresult⟩⟩
          exact (callsIn_append first second).trans (by rw [quiet, quiet', List.nil_append])
        · refine Or.inr ⟨left, _, _, after, rfl, hlt,
            (List.append_assoc (_ :: first) before after).symm, ?_, hnext⟩
          exact (callsIn_append first before).trans (by rw [quiet, quiet', List.nil_append])

/-- A poll from one of its checks on. -/
lemma unfolds_attempt (ht : NeverTimesOut p.check) (pos : 0 < p.policy.delay)
    (hn : n + left = p.policy.maxAttempts) (hnow : now < entry + p.policy.budget)
    (h : Unfolds token (p.attempt entry left n) now events result stop) :
    ∃ checks, Consists token p.check checks events ∧ checks.length ≤ left + 1 ∧
      ∀ longest, (∀ k ∈ checks, Lasts longest k) →
        Remains none n entry p.policy.budget longest checks result stop := by
  induction left using Nat.strong_induction_on generalizing n now events with
  | _ left ih =>
  rw [attempt_eq] at h
  rcases unfolds_bind h with ⟨e, rfl, he⟩ | ⟨found, mid, first, second, rfl, hfirst, hsecond⟩
  · -- the check fails
    let k : Checked Rat (Option α) := ⟨now, events, .error e, stop⟩
    refine ⟨[k], ?_, Nat.le_add_left 1 _, fun longest hl => ?_⟩
    · have := Consists.only (k := k) he callsIn_nil
      rwa [List.append_nil] at this
    · refine .last hnow (hl k (List.mem_singleton_self k)) (le_max_left _ _) ?_
      rintro t ⟨⟩
      exact ht _ _ _ _ _ he
  · let k : Checked Rat (Option α) := ⟨now, first, .ok found, mid⟩
    cases found with
    | some a =>
      cases hsecond
      exact ⟨[k], .only hfirst callsIn_nil, Nat.le_add_left 1 _, fun longest hl =>
        .last hnow (hl k (List.mem_singleton_self k)) (le_max_left _ _) (by simp)⟩
    | none =>
      rcases unfolds_goOn pos hn hsecond with
        ⟨hstop, quiet, hends⟩ | ⟨left', due, before, after, rfl, hlt, rfl, quiet, h⟩
      · refine ⟨[k], .only hfirst quiet, Nat.le_add_left 1 _, fun longest hl => ?_⟩
        have hlast := hl k (List.mem_singleton_self k)
        rcases hends with rfl | ⟨hfrom, description, rfl⟩
        · exact .last hnow hlast hstop (by simp)
        · exact .expired hnow hlast rfl hfrom hstop description
      · obtain ⟨checks, hchecks, hlen, hrest⟩ := ih left' (Nat.lt_succ_self _) (by omega) hlt h
        exact ⟨k :: checks, .first hfirst (hchecks.prepend quiet), Nat.succ_le_succ hlen,
          fun longest hl => .cons hnow rfl (hrest longest (List.forall_mem_cons.1 hl).2)⟩

end

/-! ### Waiting for a type -/

lemma neverTimesOut_isServed (kind version group : String) :
    NeverTimesOut (Install.isServed kind version group : Program τ _) := by
  refine .bind (.sendOr _ _ _) fun kinds => ?_
  cases kinds <;> exact .ok _

/-- What a wait for a type says when it gives up. -/
def expiry (s : Serving Rat) (entry : Rat) (attempts : Nat) (now : Rat) : Timeout Rat :=
  ⟨s.text ++ " is not registered after " ++ toString attempts ++ " checks", s.timeout, attempts,
    now - entry⟩

/-- What is done from a point of time on calls nothing, and does not sleep past the deadline. -/
structure Rests (deadline finish : Rat) (after : List (Event Rat)) : Prop where
  quiet : callsIn after = []
  naps : ∀ length cut, .waited length cut ∈ after → finish + length ≤ deadline

/-- What comes of a check that does not find the type, with the time that it ends at. -/
inductive Missed (token : Option Rat) (s : Serving Rat) (entry : Rat) (n : Nat) (finish : Rat) :
    Except (Failure Rat) Bool → Rat → Prop
  | late (h : entry + s.timeout ≤ finish) :
    Missed token s entry n finish (.error (.timedOut (expiry s entry n finish))) finish
  | expired (h : finish < entry + s.timeout) (short : entry + s.timeout ≤ finish + 2) :
    Missed token s entry n finish (.error (.timedOut (expiry s entry n (entry + s.timeout))))
      (entry + s.timeout)
  | cancelled {stop : Rat} (given : token ≠ none) (inTime : stop ≤ entry + s.timeout) :
    Missed token s entry n finish (.error .cancelled) stop
  | again (h : finish + 2 < entry + s.timeout) :
    Missed token s entry n finish (.ok false) (finish + 2)

section

variable {s : Serving Rat} {entry longest now finish stop : Rat} {token : Option Rat} {n left : Nat}
  {events : List (Event Rat)}

/-- What a turn does after its check. -/
def goAround (s : Serving τ) (start : τ) (attempts : Nat) : Bool → Program τ Bool
  | true => .note .info (s.text ++ " is registered") (.done (.ok true))
  | false => .now fun now =>
    if s.deadline start - now ≤ 0 then s.expire start attempts
    else .note .warning
      ("Waiting for " ++ s.text ++ " - retry in " ++ Seconds.text (Install.interval : τ) ++ "s")
      ((Polling.sleep (Seconds.least Install.interval (s.deadline start - now))).bind fun _ =>
        .now fun now =>
          if s.deadline start ≤ now then (s.expire start attempts).bind fun _ : Unit =>
            .done (.ok false)
          else .done (.ok false))

lemma turn_eq (s : Serving τ) (start : τ) (attempts : Nat) :
    s.turn start attempts =
      (Install.isServed s.kind s.version s.group).bind (goAround s start attempts) := by
  unfold Serving.turn
  rw [bind_eq]
  congr 1
  funext served
  cases served <;> rfl

lemma asks_goAround {P : Request → Prop} (s : Serving τ) (start : τ) (attempts : Nat)
    (served : Bool) : Asks P (goAround s start attempts served) := by
  cases served
  · refine .now fun now => ?_
    split
    · exact Requests.asks_expire _ _ _
    · refine .note (.bind (Requests.asks_sleep _) fun _ => .now fun now => ?_)
      split
      · exact .bind (Requests.asks_expire _ _ _) fun _ => .done _
      · exact .done _
  · exact .note (.done _)

lemma unfolds_expire {result : Except (Failure Rat) α}
    (h : Unfolds token (s.expire entry n : Program Rat α) now events result stop) :
    events = [] ∧ result = .error (.timedOut (expiry s entry n now)) ∧ stop = now := by
  cases h with
  | now h =>
    cases h
    exact ⟨rfl, rfl, rfl⟩

/-- A sleep lasts as long as it should, unless there is a token to cut it. -/
lemma sleep_of_pos {length : Rat} {result : Except (Failure Rat) Unit} (pos : 0 < length)
    (h : Unfolds token (Polling.sleep length) now events result stop) :
    callsIn events = [] ∧ (∀ l cut, .waited l cut ∈ events → l = length) ∧
      (result = .ok () ∧ stop = now + length ∨
        result = .error .cancelled ∧ token ≠ none ∧ stop ≤ now + length) := by
  have given {t : Rat} (hset : isSet token t = true) : token ≠ none := by
    rintro rfl
    cases hset
  cases slept_of_unfolds h with
  | refused set => exact ⟨rfl, by simp, Or.inr ⟨rfl, given set, by linarith⟩⟩
  | skipped hle => exact absurd pos (not_lt.2 hle)
  | cut _ set =>
    have hwake := wake_le token now length
    rw [max_eq_right (by linarith)] at hwake
    exact ⟨rfl, by simp, Or.inr ⟨rfl, given set, hwake⟩⟩
  | full _ => exact ⟨rfl, by simp, Or.inl ⟨rfl, rfl⟩⟩

lemma least_eq_min (a b : Rat) : Seconds.least a b = min a b := by
  unfold Seconds.least
  split
  · rename_i h
    exact (min_eq_right h.le).symm
  · rename_i h
    exact (min_eq_left (not_lt.1 h)).symm

/-- What the wait does when it has slept. -/
lemma missed_of_slept {length mid : Rat} {result : Except (Failure Rat) Bool}
    (hlength : length = min 2 (entry + s.timeout - finish)) (early : finish < entry + s.timeout)
    (hmid : mid = finish + length)
    (h : Unfolds token (.now fun now =>
      if entry + s.timeout ≤ now then (s.expire entry n).bind fun _ : Unit => .done (.ok false)
      else .done (.ok false)) mid events result stop) :
    events = [] ∧ Missed token s entry n finish result stop := by
  have htwo : length ≤ 2 := hlength ▸ min_le_left _ _
  have hrest : length ≤ entry + s.timeout - finish := hlength ▸ min_le_right _ _
  cases h with
  | now h =>
    beta_reduce at h
    by_cases hover : entry + s.timeout ≤ mid
    · rw [if_pos hover] at h
      have hend : mid = entry + s.timeout := by linarith
      rcases unfolds_bind h with ⟨e, rfl, he⟩ | ⟨_, _, _, _, -, he, -⟩
      · obtain ⟨rfl, herror, rfl⟩ := unfolds_expire he
        cases herror
        rw [hend]
        exact ⟨rfl, .expired early (by linarith)⟩
      · obtain ⟨-, he, -⟩ := unfolds_expire he
        cases he
    · rw [if_neg hover] at h
      -- the deadline has not cut the sleep
      have hfull : length = 2 := by
        rw [hlength]
        refine min_eq_left (le_of_not_ge fun hge => ?_)
        rw [min_eq_right hge] at hlength
        linarith
      cases h
      rw [hmid, hfull]
      exact ⟨rfl, .again (by linarith)⟩

/-- After a check that does not find the type, the wait sleeps for the interval or what is left of
its time. -/
lemma missed_of_unfolds {result : Except (Failure Rat) Bool}
    (h : Unfolds token (goAround s entry n false) finish events result stop) :
    Rests (entry + s.timeout) finish events ∧ Missed token s entry n finish result stop := by
  have hdeadline : s.deadline entry = entry + s.timeout := rfl
  have hinterval : (Install.interval : Rat) = 2 := rfl
  cases h with
  | now h =>
    beta_reduce at h
    rw [hdeadline, hinterval, least_eq_min] at h
    by_cases hlate : entry + s.timeout - finish ≤ 0
    · rw [if_pos hlate] at h
      obtain ⟨rfl, rfl, rfl⟩ := unfolds_expire h
      exact ⟨⟨rfl, by simp⟩, .late (by linarith)⟩
    · rw [if_neg hlate] at h
      have hleft : 0 < entry + s.timeout - finish := not_le.1 hlate
      have hnap : 0 < min 2 (entry + s.timeout - finish) := lt_min two_pos hleft
      have hfits : finish + min 2 (entry + s.timeout - finish) ≤ entry + s.timeout := by
        have := min_le_right 2 (entry + s.timeout - finish)
        linarith
      cases h with
      | note h =>
        rcases unfolds_bind h with ⟨e, rfl, he⟩ | ⟨_, mid, first, second, rfl, hfirst, hsecond⟩
        · obtain ⟨quiet, naps, ⟨he, -⟩ | ⟨he, given, hstop⟩⟩ := sleep_of_pos hnap he
          · cases he
          · cases he
            refine ⟨⟨quiet, fun l cut hmem => ?_⟩, .cancelled given (hstop.trans hfits)⟩
            rw [naps l cut (by simpa using hmem)]
            exact hfits
        · obtain ⟨quiet, naps, ⟨-, hmid⟩ | ⟨he, -⟩⟩ := sleep_of_pos hnap hfirst
          · obtain ⟨rfl, hmissed⟩ := missed_of_slept rfl (by linarith) hmid hsecond
            rw [List.append_nil]
            refine ⟨⟨quiet, fun l cut hmem => ?_⟩, hmissed⟩
            rw [naps l cut (by simpa using hmem)]
            exact hfits
          · cases he

/-- How a turn ends whose check finds that the type is not served, as far as its time goes. -/
inductive Misses (s : Serving Rat) (entry : Rat) (n : Nat) (finish : Rat) :
    Except (Failure Rat) Bool → Rat → Prop where
  | again {stop : Rat} (waited : finish + 2 ≤ stop) (inTime : stop < entry + s.timeout) :
    Misses s entry n finish (.ok false) stop
  | cancelled {stop : Rat} (h : stop ≤ max finish (entry + s.timeout)) :
    Misses s entry n finish (.error .cancelled) stop
  | expired {stop : Rat} (description : String) (hfrom : entry + s.timeout ≤ stop)
    (h : stop ≤ max finish (entry + s.timeout)) :
    Misses s entry n finish (.error (.timedOut ⟨description, s.timeout, n, stop - entry⟩)) stop

lemma unfolds_miss {result : Except (Failure Rat) Bool}
    (h : Unfolds token (goAround s entry n false) now events result stop) :
    callsIn events = [] ∧ Misses s entry n now result stop := by
  obtain ⟨rests, missed⟩ := missed_of_unfolds h
  refine ⟨rests.quiet, ?_⟩
  cases missed with
  | late late => exact .expired _ late (le_max_left _ _)
  | expired _ _ => exact .expired _ (le_refl _) (le_max_right _ _)
  | cancelled _ inTime => exact .cancelled (inTime.trans (le_max_right _ _))
  | again inTime => exact .again (le_refl _) inTime

/-- A turn makes one check, and the wait ends with it unless the check is unmet. -/
lemma unfolds_turn {result : Except (Failure Rat) Bool}
    (h : Unfolds token (s.turn entry n) now events result stop) :
    ∃ (k : Checked Rat Bool) (after : List (Event Rat)),
      Unfolds token (Install.isServed s.kind s.version s.group) k.start k.events k.found k.finish ∧
      k.start = now ∧ events = k.events ++ after ∧ callsIn after = [] ∧
        (stop = k.finish ∧ result ≠ .ok false ∧ (∀ t, result ≠ .error (.timedOut t)) ∨
          k.found = .ok false ∧ Misses s entry n k.finish result stop) := by
  rw [turn_eq] at h
  rcases unfolds_bind h with ⟨e, rfl, he⟩ | ⟨served, mid, first, second, rfl, hfirst, hsecond⟩
  · refine ⟨⟨now, events, .error e, stop⟩, [], he, rfl, (List.append_nil _).symm, rfl,
      Or.inl ⟨rfl, by simp, ?_⟩⟩
    rintro t ⟨⟩
    exact neverTimesOut_isServed _ _ _ _ _ _ _ _ he
  · refine ⟨⟨now, first, .ok served, mid⟩, second, hfirst, rfl, rfl, ?_⟩
    cases served with
    | true =>
      cases hsecond with
      | note hsecond =>
        cases hsecond
        exact ⟨rfl, Or.inl ⟨rfl, by simp, by simp⟩⟩
    | false =>
      obtain ⟨quiet, hmiss⟩ := unfolds_miss hsecond
      exact ⟨quiet, Or.inr ⟨rfl, hmiss⟩⟩

/-- What a wait for a type does after a turn. -/
def nextTurn (s : Serving τ) (start : τ) : (left attempts : Nat) → Program τ Unit
  | 0, attempts => s.expire start attempts
  | left + 1, attempts => s.turns start left (attempts + 1)

lemma turns_eq (s : Serving τ) (start : τ) (left attempts : Nat) :
    s.turns start left attempts = (s.turn start attempts).bind fun served =>
      if served then .done (.ok ()) else nextTurn s start left attempts := by
  cases left <;> rfl

/-- A wait for a type from one of its turns on. The turns last: each of those before took at least
the interval, and the time is not up yet. -/
lemma unfolds_turns {result : Except (Failure Rat) Unit} (hnow : now < entry + s.timeout)
    (hleft : s.timeout < (n + left : Nat))
    (h : Unfolds token (s.turns entry left (n + 1)) now events result stop) :
    ∃ checks, Consists token (Install.isServed s.kind s.version s.group) checks events ∧
      ∀ longest, entry + n * 2 ≤ now → (∀ k ∈ checks, Lasts longest k) →
        Remains false (n + 1 : Nat) entry s.timeout longest checks result stop := by
  induction left using Nat.strong_induction_on generalizing n now events with
  | _ left ih =>
  rw [turns_eq] at h
  rcases unfolds_bind h with ⟨e, rfl, he⟩ | ⟨served, mid, first, second, rfl, hfirst, hsecond⟩
  · obtain ⟨k, after, hk, rfl, rfl, quiet, hends⟩ := unfolds_turn he
    refine ⟨[k], .only hk quiet, fun longest _ hl => ?_⟩
    have hlast := hl k (List.mem_singleton_self k)
    rcases hends with ⟨rfl, -, own⟩ | ⟨hu, hmiss⟩
    · exact .last hnow hlast (le_max_left _ _) fun t ht => own t (by cases ht; rfl)
    · cases hmiss with
      | cancelled hstop => exact .last hnow hlast hstop (by simp)
      | expired description hfrom hstop => exact .expired hnow hlast hu hfrom hstop description
  · obtain ⟨k, after, hk, rfl, rfl, quiet, ⟨rfl, hserved, -⟩ | ⟨hu, hmiss⟩⟩ := unfolds_turn hfirst
    · cases served with
      | true =>
        cases hsecond
        refine ⟨[k], ?_, fun longest _ hl =>
          .last hnow (hl k (List.mem_singleton_self k)) (le_max_left _ _) (by simp)⟩
        rw [List.append_nil]
        exact .only hk quiet
      | false => exact absurd rfl hserved
    · cases hmiss with
      | again waited inTime =>
        rw [List.append_assoc]
        cases left with
        | zero =>
          obtain ⟨rfl, -⟩ := unfolds_expire hsecond
          refine ⟨[k], .only hk (by rw [callsIn_append, quiet]; rfl), fun _ hspent _ => ?_⟩
          -- the turns before this one have taken all the time
          have : (0 : Rat) ≤ n := Nat.cast_nonneg n
          rw [Nat.add_zero] at hleft
          linarith
        | succ left =>
          obtain ⟨checks, hchecks, hrest⟩ :=
            ih left (Nat.lt_succ_self _) inTime (by rwa [Nat.add_right_comm]) hsecond
          refine ⟨k :: checks, .first hk (hchecks.prepend quiet), fun longest hspent hl => ?_⟩
          obtain ⟨hlast, hl⟩ := List.forall_mem_cons.1 hl
          refine .cons hnow hu (hrest longest ?_ hl)
          have := hlast.1
          push_cast
          linarith

end

/-! ### Main result -/

/-- A wait that was entered at a time and is left at another is over in time, and its timeout
tells what happened. -/
structure InTime (no : β) (limit : Option Nat) (entry budget longest : Rat)
    (checks : List (Checked Rat β)) (result : Except (Failure Rat) α) (stop : Rat) : Prop where
  starts : ∀ k ∈ checks, k.start < entry + budget
  stop_le : stop ≤ entry + budget + longest
  honest : ∀ t, result = .error (.timedOut t) →
    (∀ k ∈ checks, k.found = .ok no) ∧
      t.attempts = checks.length ∧ 1 ≤ t.attempts ∧ (∀ n ∈ limit, t.attempts ≤ n) ∧
      t.timeout = budget ∧ t.elapsed = stop - entry ∧
      t.timeout ≤ t.elapsed ∧ t.elapsed ≤ t.timeout + longest

/-- However the wait unfolds, it makes its checks one after the other and is over in time. -/
def KeepsTime (p : Program Rat α) (check : Program Rat β) (no : β) (limit : Option Nat)
    (budget : Rat) : Prop :=
  ∀ token entry events result stop, Unfolds token p entry events result stop →
    ∃ checks, Consists token check checks events ∧
      ∀ longest, (∀ k ∈ checks, Lasts longest k) →
        InTime no limit entry budget longest checks result stop

/-- The waits for a condition, each with its check, what an unmet check finds, how many checks it
allows and how much time. -/
inductive Limited : {α β : Type} → Program Rat α → Program Rat β → β → Option Nat → Rat → Prop
  | poll {α : Type} (p : Poll Rat α) (own : NeverTimesOut p.check) (pos : 0 < p.policy.delay) :
    Limited (Polling.pollUntil p) p.check none (some p.policy.maxAttempts)
      (p.policy.maxAttempts * p.policy.delay)
  | served (s : Serving Rat) (pos : 0 < s.timeout) :
    Limited (Install.awaitServed s) (Install.isServed s.kind s.version s.group) false none s.timeout
  | running (ns selector : String) (policy : Policy Rat) (pos : 0 < policy.delay) :
    Limited (Verify.awaitRunning ns selector policy) (Verify.findRunning ns selector) none
      (some policy.maxAttempts) (policy.maxAttempts * policy.delay)
  | logged (pod : Observation) (text : String) (policy : Policy Rat) (container : Option String)
    (pos : 0 < policy.delay) :
    Limited (Verify.awaitLog pod text policy container)
      (do
        let logged ← Verify.readLog pod container
        return if Text.occursIn text.toList logged.toList then some () else none)
      none (some policy.maxAttempts) (policy.maxAttempts * policy.delay)

lemma Remains.inTime {no : β} {limit : Option Nat} {entry budget longest stop : Rat}
    {checks : List (Checked Rat β)} {result : Except (Failure Rat) α}
    (h : Remains no 1 entry budget longest checks result stop)
    (hlimit : ∀ n ∈ limit, checks.length ≤ n) :
    InTime no limit entry budget longest checks result stop := by
  refine ⟨h.starts, h.stop_le, fun t ht => ?_⟩
  obtain ⟨hall, hattempts, htimeout, helapsed, hfrom⟩ := h.timedOut t ht
  have hone := List.length_pos_iff.2 h.checked
  have hle := h.stop_le
  refine ⟨hall, by omega, by omega, fun n hn => ?_, htimeout, helapsed, ?_, ?_⟩
  · have := hlimit n hn
    omega
  · rw [htimeout, helapsed]
    linarith
  · rw [htimeout, helapsed]
    linarith

lemma keepsTime_pollUntil (p : Poll Rat α) (own : NeverTimesOut p.check)
    (pos : 0 < p.policy.delay) :
    KeepsTime (Polling.pollUntil p) p.check none (some p.policy.maxAttempts)
      (p.policy.maxAttempts * p.policy.delay) := by
  intro token entry events result stop h
  have hmax := p.policy.maxAttempts_pos
  have hattempts : (0 : Rat) < p.policy.maxAttempts := by exact_mod_cast hmax
  have hbudget : 0 < p.policy.budget := mul_pos hattempts pos
  cases h with
  | now h =>
    obtain ⟨checks, hchecks, hlen, hrest⟩ :=
      unfolds_attempt own pos (by omega) (lt_add_of_pos_right entry hbudget) h
    refine ⟨checks, hchecks, fun longest hl => (hrest longest hl).inTime ?_⟩
    rintro n ⟨⟩
    omega

/-- More turns are set aside than the wait has seconds. -/
lemma lt_bound (time : Rat) : time < (Seconds.bound time : Nat) := by
  have hceil : time ≤ (time.ceil.toNat : Rat) :=
    Rat.le_ceil.trans (by exact_mod_cast Int.self_le_toNat _)
  have hbound : Seconds.bound time = time.ceil.toNat + 1 := rfl
  rw [hbound]
  push_cast
  linarith

lemma keepsTime_awaitServed (s : Serving Rat) (pos : 0 < s.timeout) :
    KeepsTime (Install.awaitServed s) (Install.isServed s.kind s.version s.group) false none
      s.timeout := by
  intro token entry events result stop h
  have hbound : s.timeout < (0 + Seconds.bound s.timeout : Nat) := by
    rw [Nat.zero_add]
    exact lt_bound s.timeout
  cases h with
  | now h =>
    obtain ⟨checks, hchecks, hrest⟩ :=
      unfolds_turns (n := 0) (lt_add_of_pos_right entry pos) hbound h
    exact ⟨checks, hchecks, fun longest hl => (hrest longest (by simp) hl).inTime (by simp)⟩

/-- What is written to the log after a wait takes no time. -/
lemma KeepsTime.thenNote {p : Program Rat α} {check : Program Rat β} {no : β}
    {limit : Option Nat} {budget : Rat} (h : KeepsTime p check no limit budget) (level : Level)
    (message : α → String) {γ : Type} (f : α → γ) :
    KeepsTime (p.bind fun a => .note level (message a) (.done (.ok (f a)))) check no limit
      budget := by
  intro token entry events result stop hp
  rcases unfolds_bind hp with ⟨e, rfl, he⟩ | ⟨a, mid, first, second, rfl, hfirst, hsecond⟩
  · obtain ⟨checks, hchecks, hrest⟩ := h _ _ _ _ _ he
    refine ⟨checks, hchecks, fun longest hl => ?_⟩
    obtain ⟨hstarts, hstop, honest⟩ := hrest longest hl
    exact ⟨hstarts, hstop, fun t ht => honest t (by cases ht; rfl)⟩
  · obtain ⟨checks, hchecks, hrest⟩ := h _ _ _ _ _ hfirst
    cases hsecond with
    | note hsecond =>
      cases hsecond
      refine ⟨checks, ?_, fun longest hl => ?_⟩
      · exact hchecks.append rfl
      · obtain ⟨hstarts, hstop, -⟩ := hrest longest hl
        exact ⟨hstarts, hstop, by simp⟩

lemma neverTimesOut_findRunning (ns selector : String) :
    NeverTimesOut (Verify.findRunning ns selector : Program τ _) := by
  have observed : NeverTimesOut (Verify.observe ns selector : Program τ _) :=
    .bind (.bind (.send _) fun _ => .ok _) fun _ => .ofExcept (by simp) _
  exact .bind observed fun _ => .ok _

lemma keepsTime_of_limited {p : Program Rat α} {check : Program Rat β} {no : β}
    {limit : Option Nat} {budget : Rat} (h : Limited p check no limit budget) :
    KeepsTime p check no limit budget := by
  cases h with
  | poll p own pos => exact keepsTime_pollUntil p own pos
  | served s pos => exact keepsTime_awaitServed s pos
  | running ns selector policy pos =>
    exact (keepsTime_pollUntil _ (neverTimesOut_findRunning _ _) pos).thenNote .info _ id
  | logged pod text policy container pos =>
    exact (keepsTime_pollUntil _ (.bind (.sendOr _ _ _) fun _ => .ok _) pos).thenNote .info _ id

/-- What a verification does: it waits for a pod, and then for the message if there is one. -/
inductive Phases (token : Option τ) (ns selector : String) (policy : Policy τ)
    (message container : Option String) (entry : τ) :
    List (Event τ) → Except (Failure τ) Observation → τ → Prop
  | missing {events : List (Event τ)} {e : Failure τ} {stop : τ}
    (h : Unfolds token (Verify.awaitRunning ns selector policy) entry events (.error e) stop) :
    Phases token ns selector policy message container entry events (.error e) stop
  | running {events : List (Event τ)} {pod : Observation} {stop : τ} (none : message = none)
    (h : Unfolds token (Verify.awaitRunning ns selector policy) entry events (.ok pod) stop) :
    Phases token ns selector policy message container entry events (.ok pod) stop
  | logged {first second : List (Event τ)} {pod : Observation} {text : String}
    {found : Except (Failure τ) Unit} {mid stop : τ} (some : message = some text)
    (h : Unfolds token (Verify.awaitRunning ns selector policy) entry first (.ok pod) mid)
    (h' : Unfolds token (Verify.awaitLog pod text policy container) mid second found stop) :
    Phases token ns selector policy message container entry (first ++ second)
      (found.map fun _ => pod) stop

lemma phases_of_unfolds {token : Option τ} {ns selector : String} {policy : Policy τ}
    {message container : Option String} {entry stop : τ} {events : List (Event τ)}
    {result : Except (Failure τ) Observation}
    (h : Unfolds token (Verify.verify ns selector policy message container) entry events result
      stop) : Phases token ns selector policy message container entry events result stop := by
  rcases unfolds_bind h with ⟨e, rfl, he⟩ | ⟨pod, mid, first, second, rfl, hfirst, hsecond⟩
  · exact .missing he
  · cases message with
    | none =>
      cases hsecond
      rw [List.append_nil]
      exact .running rfl hfirst
    | some text =>
      rcases unfolds_bind hsecond with ⟨e, rfl, he⟩ | ⟨_, stop', second, rest, rfl, he, hrest⟩
      · exact @Phases.logged _ _ _ _ _ _ _ _ _ _ _ _ _ (.error e) _ _ rfl hfirst he
      · cases hrest
        rw [List.append_nil]
        exact @Phases.logged _ _ _ _ _ _ _ _ _ _ _ _ _ (.ok _) _ _ rfl hfirst he

/-- **Timeouts are honest, and neither early nor late.** Over exact time, however long the checks
take and whatever they find, with a token and without: a wait makes all of its checks before its
deadline and is left no later than one longest check after it, in whichever way it ends. If it ends
because time is up, every check was unmet and the error counts them all, names the time that was
set aside and tells the time that has passed, which is at least that. The two phases of a
verification are such waits, the second one from the end of the first. -/
theorem timeout_honest :
    (∀ {α β : Type} {p : Program Rat α} {check : Program Rat β} {no : β} {limit : Option Nat}
      {budget : Rat}, Limited p check no limit budget → KeepsTime p check no limit budget) ∧
    ∀ (token : Option Rat) (ns selector : String) (policy : Policy Rat)
      (message container : Option String) (entry : Rat) (events : List (Event Rat))
      (result : Except (Failure Rat) Observation) (stop : Rat),
        Unfolds token (Verify.verify ns selector policy message container) entry events result
            stop →
          Phases token ns selector policy message container entry events result stop :=
  ⟨fun h => keepsTime_of_limited h, fun _ _ _ _ _ _ _ _ _ _ h => phases_of_unfolds h⟩

/-- The attempts and the time that a timeout names. -/
def figures {α : Type} : Except (Failure Rat) α → Option (Int × Rat)
  | .error (.timedOut t) => some (t.attempts, t.elapsed)
  | _ => none

lemma exists_of_figures {α : Type} {result : Except (Failure Rat) α} {attempts : Int}
    {elapsed : Rat} (h : figures result = some (attempts, elapsed)) :
    ∃ t, result = .error (.timedOut t) ∧ t.attempts = attempts ∧ t.elapsed = elapsed := by
  match result, h with
  | .error (.timedOut t), h => exact ⟨t, rfl, Prod.mk.inj (Option.some.inj h)⟩

/-- Three checks of a second each, two seconds apart: the last one leaves a second until the
deadline, and at that time the wait is over. -/
theorem probing_times_out :
    let p := Polling.pollUntil Truncation.probing
    let r := Truncation.neverMet
    let found := Verify.verify "tests" "app=demo" Truncation.probing.policy none none
    (∃ t, (run p r).1 = .error (.timedOut t) ∧ t.attempts = 3 ∧ t.elapsed = 6) ∧
      (∃ checks, Consists none Truncation.probing.check checks (trace p r) ∧
        checks.map (·.start) = [0, 2, 4] ∧
          InTime none (some 3) 0 6 1 checks (run p r).1 (run p r).2.clock) ∧
      Phases none "tests" "app=demo" Truncation.probing.policy none none 0 (trace found r)
        (run found r).1 (run found r).2.clock := by
  intro p r found
  have own : NeverTimesOut Truncation.probing.check := .send .probe
  obtain ⟨checks, hchecks, hrest⟩ :=
    timeout_honest.1 (.poll Truncation.probing own (by decide +kernel)) _ _ _ _ _ (unfolds_run p r)
  have calls : (callsIn (trace p r)).map (fun c => (c.start, c.finish)) =
      [(0, 1), (2, 3), (4, 5)] := by
    decide +kernel
  have spans := (hchecks.spans (isCall_send .probe)).trans calls
  have starts : checks.map (·.start) = [0, 2, 4] := by
    have h := congrArg (List.map Prod.fst) spans
    rwa [List.map_map] at h
  have lasts : ∀ k ∈ checks, Lasts 1 k := by
    intro k hk
    have hspan := List.mem_map_of_mem (f := fun k => (k.start, k.finish)) hk
    rw [spans] at hspan
    simp only [List.mem_cons, Prod.mk.injEq, List.not_mem_nil, or_false] at hspan
    unfold Lasts
    rcases hspan with ⟨hs, hf⟩ | ⟨hs, hf⟩ | ⟨hs, hf⟩
    all_goals
      rw [hs, hf]
      decide +kernel
  have budget :
      (Truncation.probing.policy.maxAttempts * Truncation.probing.policy.delay : Rat) = 6 := by
    decide +kernel
  have h := hrest 1 lasts
  rw [budget] at h
  have ends : figures (run p r).1 = some (3, 6) := by decide +kernel
  exact ⟨exists_of_figures ends, ⟨checks, hchecks, starts, h⟩,
    timeout_honest.2 _ _ _ _ _ _ _ _ _ _ (unfolds_run found r)⟩

end Testbed.Deadline
