import Mathlib
import Testbed.Proofs.Pacing

/-!
A token only truncates, and over exact time the check after which it does is known.

The runs with and without the token are compared call by call. In the one with the token every
call but the last is followed by a wait in which the token is not seen; so the first unmet check
whose wait the token falls into is the last one.
-/

namespace Testbed.Truncation

open Rehearsal
open Cancellation
open Pacing
open Polling (Poll)

variable {τ α : Type}

/-! ### Waiting over exact time -/

lemma latest_eq_max (a b : Rat) : Seconds.latest a b = max a b := by
  unfold Seconds.latest
  by_cases h : a < b
  · rw [if_pos h, max_eq_right h.le]
  · rw [if_neg h, max_eq_left (not_lt.1 h)]

lemma calls_eq_nil [Seconds τ] {p : Program τ α} (h : Asks (fun _ => False) p)
    (r : Rehearsal τ) : calls p r = [] :=
  List.eq_nil_iff_forall_not_mem.2 fun c hc => h.calls r c hc

/-- A wait is cut if and only if the token is set by its end. -/
lemma sleep_cases (length token : Rat) (r : Rehearsal Rat) :
    token ≤ max r.clock (r.clock + length) ∧
        (run (Polling.sleep length) (withToken (some token) r)).1 = .error .cancelled ∨
      ¬ token ≤ max r.clock (r.clock + length) ∧
        ∃ s, run (Polling.sleep length) (withToken (some token) r) =
          (.ok (), withToken (some token) s) := by
  have ht : (withToken (some token) r).isCancelled = decide (token ≤ r.clock) := rfl
  unfold Polling.sleep
  simp only [run, ht]
  by_cases hc : token ≤ r.clock
  · refine Or.inl ⟨hc.trans (le_max_left _ _), ?_⟩
    simp only [hc, decide_true]
    rfl
  · simp only [hc, decide_false]
    by_cases hl : length ≤ 0
    · have hmax : max r.clock (r.clock + length) = r.clock := max_eq_left (by linarith)
      refine Or.inr ⟨by rwa [hmax], r, ?_⟩
      rw [if_pos hl]
      rfl
    · have hmax : max r.clock (r.clock + length) = r.clock + length := max_eq_right (by linarith)
      rw [if_neg hl, hmax]
      by_cases hd : token ≤ r.clock + length
      · obtain ⟨s, hs, -⟩ := pause_cut r hd
        refine Or.inl ⟨hd, ?_⟩
        simp only [run, hs]
        rfl
      · refine Or.inr ⟨hd, r.sleep length, ?_⟩
        simp only [run, pause_goes r hd]
        rfl

/-! ### The check after which a poll is cut -/

/-- A check of the poll that finds its condition unmet. -/
def Unmet [Seconds τ] (p : Poll τ α) (c : Call τ) : Prop :=
  ∃ next, p.check = .ask c.request next ∧ next c.answer = .done (.ok none)

/-- Check number `n` is unmet, and the token is set by its end or before the next check is due. -/
def CutAfter (p : Poll Rat α) (start token : Rat) (n : Nat) (c : Call Rat) : Prop :=
  Unmet p c ∧ token ≤ max c.finish (start + n * p.policy.delay)

/-- What a poll does after it has waited, unless it is cut. -/
lemma await_cases (p : Poll Rat α) (start token : Rat) (n : Nat) (next : Unit → Program Rat α)
    (r : Rehearsal Rat) :
    token ≤ max r.clock (start + n * p.policy.delay) ∧
        (run ((p.await start n).bind next) (withToken (some token) r)).1 = .error .cancelled ∧
        calls ((p.await start n).bind next) (withToken (some token) r) = [] ∨
      ¬ token ≤ max r.clock (start + n * p.policy.delay) ∧
        ∃ s, run ((p.await start n).bind next) (withToken (some token) r) =
            run (next ()) (withToken (some token) s) ∧
          calls ((p.await start n).bind next) (withToken (some token) r) =
            calls (next ()) (withToken (some token) s) := by
  have quiet : calls (p.await start n) (withToken (some token) r) = [] :=
    calls_eq_nil (Requests.asks_await p start n) _
  have h := sleep_cases (start + n * p.policy.delay - r.clock) token r
  rw [show r.clock + (start + n * p.policy.delay - r.clock) = start + n * p.policy.delay by ring]
    at h
  rcases h with ⟨hc, hrun⟩ | ⟨hc, s, hrun⟩
  · have hrun : run (p.await start n) (withToken (some token) r) = (.error .cancelled, _) :=
      Prod.ext hrun rfl
    refine Or.inl ⟨hc, ?_, ?_⟩
    · rw [run_bind_error hrun]
    · rw [calls_bind_error hrun, quiet]
  · have hrun : run (p.await start n) (withToken (some token) r) =
        (.ok (), withToken (some token) s) := hrun
    refine Or.inr ⟨hc, s, run_bind_ok hrun, ?_⟩
    rw [calls_bind_ok hrun, quiet, List.nil_append]

/-- What a poll does when the next check is due. -/
def proceed [Seconds τ] (p : Poll τ α) (start : τ) (left attempts : Nat) : Program τ α :=
  (p.isOver start).bind fun ended =>
    if ended then
      .note .warning ("Deadline passed after " ++ toString attempts ++ " of "
        ++ toString p.policy.maxAttempts ++ " attempts") (p.timeout start attempts)
    else p.attempt start left (attempts + 1)

lemma timeout_run [Seconds τ] (p : Poll τ α) (start : τ) (n : Nat) (r : Rehearsal τ) :
    (run (p.timeout start n : Program τ α) r).1 ≠ .error .cancelled ∧
      calls (p.timeout start n : Program τ α) r = [] := by
  refine ⟨?_, rfl⟩
  show (.error (.timedOut _) : Except (Failure τ) α) ≠ _
  simp

/-- Either the time is up, or another check follows. -/
lemma proceed_cases [Seconds τ] (p : Poll τ α) (start : τ) (left n : Nat) (r : Rehearsal τ) :
    (run (proceed p start left n) r).1 ≠ .error .cancelled ∧ calls (proceed p start left n) r = [] ∨
      run (proceed p start left n) r = run (p.attempt start left (n + 1)) r ∧
        calls (proceed p start left n) r = calls (p.attempt start left (n + 1)) r := by
  have ended : ∃ b, run (p.isOver start) r = (.ok b, r) ∧ calls (p.isOver start) r = [] := by
    unfold Poll.isOver
    split <;> exact ⟨_, rfl, rfl⟩
  obtain ⟨b, hrun, hcalls⟩ := ended
  unfold proceed
  rw [run_bind_ok hrun, calls_bind_ok hrun, hcalls, List.nil_append]
  cases b
  · exact Or.inr ⟨rfl, rfl⟩
  · exact Or.inl (timeout_run p start n (r.note _ _))

/-- What a poll does after an unmet check. -/
def goOn [Seconds τ] (p : Poll τ α) (start : τ) : (left attempts : Nat) → Program τ α
  | 0, attempts => (p.await start attempts).bind fun _ => p.timeout start attempts
  | left + 1, attempts =>
    .note .warning (p.waiting ++ " - retry in " ++ Seconds.text p.policy.delay ++ "s")
      ((p.await start attempts).bind fun _ => proceed p start left attempts)

lemma attempt_eq [Seconds τ] (p : Poll τ α) (start : τ) (left attempts : Nat) :
    p.attempt start left attempts = p.check.bind fun
      | some a => .done (.ok a)
      | none => goOn p start left attempts := by
  cases left with
  | zero => exact congrArg p.check.bind (funext fun found => by cases found <;> rfl)
  | succ left =>
    refine congrArg p.check.bind (funext fun found => ?_)
    cases found with
    | some a => rfl
    | none =>
      refine congrArg (Program.note _ _) (congrArg (p.await start attempts).bind ?_)
      exact funext fun _ =>
        congrArg (p.isOver start).bind (funext fun ended => by cases ended <;> rfl)

/-- A poll makes a check. If that is unmet the poll goes on, and else it ends. -/
lemma attempt_cases [Seconds τ] {p : Poll τ α} (hc : IsCall p.check) (start : τ)
    (left n : Nat) (r : Rehearsal τ) :
    ∃ c s, c.start = r.clock ∧ c.finish = s.clock ∧
      (Unmet p c ∧ (∀ t, run (p.attempt start left n) (withToken t r) =
            run (goOn p start left n) (withToken t s)) ∧
          (∀ t, calls (p.attempt start left n) (withToken t r) =
            c :: calls (goOn p start left n) (withToken t s)) ∨
        ¬ Unmet p c ∧
          (∀ t, (run (p.attempt start left n) (withToken t r)).1 ≠ .error .cancelled) ∧
          ∀ t, calls (p.attempt start left n) (withToken t r) = [c]) := by
  obtain ⟨request, next, hp, h⟩ := hc
  obtain ⟨result, hr, own⟩ := h (r.answer request).1
  refine ⟨r.callOf request, (r.answer request).2, rfl, rfl, ?_⟩
  have ha (t : Option τ) : (withToken t r).callOf request = r.callOf request := by
    simp only [callOf, answer_withToken]; rfl
  rw [attempt_eq, hp]
  simp only [Program.bind, run, calls_ask, answer_withToken, ha, hr]
  rcases result with e | _ | a
  · refine Or.inr ⟨?_, fun t => by simpa [Program.bind, run] using own, fun t => rfl⟩
    rintro ⟨next', hp', hn⟩
    rw [hp] at hp'
    cases hp'
    cases hr.symm.trans hn
  · exact Or.inl ⟨⟨next, hp, hr⟩, fun t => rfl, fun t => rfl⟩
  · refine Or.inr ⟨?_, fun t => by simp [Program.bind, run], fun t => rfl⟩
    rintro ⟨next', hp', hn⟩
    rw [hp] at hp'
    cases hp'
    cases hr.symm.trans hn

/-- What follows an unmet check: the token is seen, or the poll ends, or it makes the next
check. -/
lemma goOn_cases (p : Poll Rat α) (start token : Rat) (left n : Nat) (r : Rehearsal Rat) :
    token ≤ max r.clock (start + n * p.policy.delay) ∧
        (run (goOn p start left n) (withToken (some token) r)).1 = .error .cancelled ∧
        calls (goOn p start left n) (withToken (some token) r) = [] ∨
      ¬ token ≤ max r.clock (start + n * p.policy.delay) ∧
        ((run (goOn p start left n) (withToken (some token) r)).1 ≠ .error .cancelled ∧
            calls (goOn p start left n) (withToken (some token) r) = [] ∨
          ∃ left' s, left = left' + 1 ∧
            run (goOn p start left n) (withToken (some token) r) =
              run (p.attempt start left' (n + 1)) (withToken (some token) s) ∧
            calls (goOn p start left n) (withToken (some token) r) =
              calls (p.attempt start left' (n + 1)) (withToken (some token) s)) := by
  cases left with
  | zero =>
    rcases await_cases p start token n (fun _ => p.timeout start n) r with h | ⟨hc, s, hrun, hcalls⟩
    · exact Or.inl h
    · refine Or.inr ⟨hc, Or.inl ⟨?_, hcalls⟩⟩
      rw [show goOn p start 0 n = (p.await start n).bind fun _ => p.timeout start n from rfl, hrun]
      exact (timeout_run p start n _).1
  | succ left =>
    -- the log record changes neither the clock nor the calls
    let warned :=
      r.note .warning (p.waiting ++ " - retry in " ++ Seconds.text p.policy.delay ++ "s")
    rcases await_cases p start token n (fun _ => proceed p start left n) warned with
      h | ⟨hc, s, hrun, hcalls⟩
    · exact Or.inl h
    · refine Or.inr ⟨hc, ?_⟩
      rcases proceed_cases p start left n (withToken (some token) s) with
        ⟨hends, hnone⟩ | ⟨hnext, hsame⟩
      · refine Or.inl ⟨?_, hcalls.trans hnone⟩
        rw [← hrun] at hends
        exact hends
      · exact Or.inr ⟨left, s, rfl, hrun.trans hnext, hcalls.trans hsame⟩

lemma attempt_calls_ne_nil [Seconds τ] {p : Poll τ α} (hc : IsCall p.check) (start : τ)
    (left n : Nat) (t : Option τ) (r : Rehearsal τ) :
    calls (p.attempt start left n) (withToken t r) ≠ [] := by
  obtain ⟨c, s, -, -, ⟨-, -, hcalls⟩ | ⟨-, -, hcalls⟩⟩ := attempt_cases hc start left n r
  all_goals
    rw [hcalls]
    exact List.cons_ne_nil _ _

/-- In a run with a token, the check that it is cut after is the last one of a cancelled run. -/
lemma cutAfter_iff {p : Poll Rat α} (hc : IsCall p.check) (start token : Rat) (left n : Nat)
    (r : Rehearsal Rat) (j : Nat) (c : Call Rat)
    (hj : (calls (p.attempt start left n) (withToken (some token) r))[j]? = some c) :
    CutAfter p start token (n + j) c ↔
      (run (p.attempt start left n) (withToken (some token) r)).1 = .error .cancelled ∧
        (calls (p.attempt start left n) (withToken (some token) r)).length = j + 1 := by
  induction left using Nat.strong_induction_on generalizing n r j with
  | _ left ih =>
  have only {c₀ : Call Rat} (h : [c₀][j]? = some c) : j = 0 ∧ c₀ = c := by
    cases j with
    | zero => exact ⟨rfl, by simpa using h⟩
    | succ j => simp at h
  obtain ⟨c₀, s, -, hfinish, ⟨hu, hrun, hcalls⟩ | ⟨hu, hrun, hcalls⟩⟩ :=
    attempt_cases hc start left n r
  · rw [hcalls] at hj ⊢
    rw [hrun]
    rcases goOn_cases p start token left n s with
      ⟨hcut, hr, hn⟩ | ⟨hcut, ⟨hr, hn⟩ | ⟨left', s', rfl, hr, hn⟩⟩
    · -- the token is seen in the wait after this check
      rw [hn] at hj ⊢
      obtain ⟨rfl, rfl⟩ := only hj
      exact ⟨fun _ => ⟨hr, rfl⟩, fun _ => ⟨hu, by rwa [hfinish]⟩⟩
    · -- the poll ends otherwise
      rw [hn] at hj ⊢
      obtain ⟨rfl, rfl⟩ := only hj
      refine ⟨fun h => absurd h.2 ?_, fun h => absurd h.1 hr⟩
      rwa [hfinish]
    · -- another check follows
      rw [hn] at hj ⊢
      rw [hr]
      cases j with
      | zero =>
        obtain rfl : c₀ = c := by simpa using hj
        refine ⟨fun h => absurd h.2 (by rwa [hfinish]), fun h => absurd h.2 ?_⟩
        have := List.length_pos_iff.2 (attempt_calls_ne_nil hc start left' (n + 1) (some token) s')
        rw [List.length_cons]
        omega
      | succ j =>
        have := ih left' (Nat.lt_succ_self _) (n + 1) s' j hj
        rw [show n + (j + 1) = n + 1 + j by omega, this, List.length_cons, Nat.add_right_cancel_iff]
  · rw [hcalls] at hj ⊢
    obtain ⟨rfl, rfl⟩ := only hj
    exact ⟨fun h => absurd h.1 hu, fun h => absurd h.1 (hrun _)⟩

/-! ### Main result -/

/-- What a token that is set at some time makes of the run of a program with polling loops. -/
structure Truncates [Seconds τ] (p : Program τ α) (loops : List (Call τ) → List (List (Call τ)))
    (r : Rehearsal τ) (token : τ) : Prop where
  calls : calls p (withToken (some token) r) <+: Rehearsal.calls p (withToken none r)
  inStep : (run p (withToken (some token) r)).1 ≠ .error .cancelled → InStep p r token
  cut : (run p (withToken (some token) r)).1 = .error .cancelled →
    ∃ before stop c, CutShort p r token before stop ∧
      (Rehearsal.calls p (withToken (some token) r)).getLast? = some c ∧
      AtCut token c.finish (run p (withToken (some token) r)).2.clock
  paced : ∀ loop ∈ loops (Rehearsal.calls p (withToken (some token) r)),
    ∀ c ∈ loop.tail, ¬ token ≤ c.start

/-- A call of the run with the token is the same call of the run without it. -/
lemma Truncates.same_call [Seconds τ] {p : Program τ α}
    {loops : List (Call τ) → List (List (Call τ))} {r : Rehearsal τ} {token : τ}
    (h : Truncates p loops r token) {j : Nat}
    (hj : j < (Rehearsal.calls p (withToken (some token) r)).length) :
    (Rehearsal.calls p (withToken none r))[j]? =
      (Rehearsal.calls p (withToken (some token) r))[j]? := by
  obtain ⟨rest, hrest⟩ := h.calls
  rw [← hrest, List.getElem?_append_left hj]

lemma heeds_of_waits [Seconds τ] {p : Program τ α} {loops : List (Call τ) → List (List (Call τ))}
    (h : Waits p loops) : Heeds false false p := by
  cases h with
  | poll p hc => exact heeds_pollUntil hc
  | served => exact heeds_awaitServed _
  | running => exact heeds_awaitRunning _ _ _
  | logged => exact heeds_awaitLog _ _ _ _
  | verified => exact heeds_verify _ _ _ _ _
  | setUp => exact heeds_setUpCluster _ _ _

lemma truncates_of_waits [Seconds τ] {p : Program τ α}
    {loops : List (Call τ) → List (List (Call τ))} (h : Waits p loops) (r : Rehearsal τ)
    (token : τ) : Truncates p loops r token := by
  rcases (heeds_of_waits h).inStep_or_cutShort r token with hs | ⟨before, stop, hs, called⟩
  · refine ⟨?_, fun _ => hs, fun hc => absurd hc hs.goes, h.paced r token⟩
    unfold calls
    rw [hs.trace]
  · have hcalls : calls p (withToken (some token) r) = before.filterMap Event.call? := by
      unfold calls
      rw [hs.trace, List.filterMap_append]
      cases hs.sees <;> simp [Event.call?]
    refine ⟨?_, fun hg => absurd hs.result hg, fun _ => ?_, h.paced r token⟩
    · rw [hcalls]
      exact hs.isStart.filterMap _
    · have hlast := List.getLast?_eq_some_getLast (called rfl)
      refine ⟨before, stop, _, hs, by rw [hcalls, hlast], ?_⟩
      have := hs.clock
      unfold lastEnd at this
      rwa [hlast] at this

/-- Before a run is cancelled it makes a call. -/
lemma Truncates.exists_length [Seconds τ] {p : Program τ α}
    {loops : List (Call τ) → List (List (Call τ))} {r : Rehearsal τ} {token : τ}
    (h : Truncates p loops r token)
    (cancelled : (run p (withToken (some token) r)).1 = .error .cancelled) :
    ∃ l, (Rehearsal.calls p (withToken (some token) r)).length = l + 1 := by
  obtain ⟨-, -, last, -, hlast, -⟩ := h.cut cancelled
  obtain ⟨before, hbefore⟩ := List.getLast?_eq_some_iff.1 hlast
  exact ⟨before.length, by rw [hbefore, List.length_append, List.length_singleton]⟩

/-- A poll is cut after a call that it makes if and only if it is cancelled, and this is its last
call. -/
lemma cutAfter_iff_last {p : Poll Rat α} (hc : IsCall p.check) {r : Rehearsal Rat} {token : Rat}
    {j : Nat} {c : Call Rat}
    (hj : (calls (Polling.pollUntil p) (withToken (some token) r))[j]? = some c) :
    CutAfter p r.clock token (j + 1) c ↔
      (run (Polling.pollUntil p) (withToken (some token) r)).1 = .error .cancelled ∧
        (calls (Polling.pollUntil p) (withToken (some token) r)).length = j + 1 := by
  rw [Nat.add_comm j 1]
  exact (cutAfter_iff hc r.clock token (p.policy.maxAttempts - 1) 1 r j c hj).trans
    (by rw [Nat.add_comm 1 j]; rfl)

/-- A poll is cancelled after a check if and only if it is the first one that it is cut after. -/
lemma cancelled_iff {p : Poll Rat α} (hc : IsCall p.check) (r : Rehearsal Rat) (token : Rat)
    (k : Nat) :
    (run (Polling.pollUntil p) (withToken (some token) r)).1 = .error .cancelled ∧
        (calls (Polling.pollUntil p) (withToken (some token) r)).length = k + 1 ↔
      (∃ c, (calls (Polling.pollUntil p) (withToken none r))[k]? = some c ∧
        CutAfter p r.clock token (k + 1) c) ∧
      ∀ j < k, ∀ c, (calls (Polling.pollUntil p) (withToken none r))[j]? = some c →
        ¬ CutAfter p r.clock token (j + 1) c := by
  have truncates := truncates_of_waits (Waits.poll p hc) r token
  constructor
  · rintro ⟨hcan, hlen⟩
    have hk : k < (calls (Polling.pollUntil p) (withToken (some token) r)).length := by omega
    have hget := List.getElem?_eq_getElem hk
    refine ⟨⟨_, (truncates.same_call hk).trans hget, (cutAfter_iff_last hc hget).2 ⟨hcan, hlen⟩⟩,
      fun j hj c hget => ?_⟩
    rw [truncates.same_call (by omega)] at hget
    intro hcut
    have := ((cutAfter_iff_last hc hget).1 hcut).2
    omega
  · rintro ⟨⟨c, hget, hcut⟩, first⟩
    by_cases hcan : (run (Polling.pollUntil p) (withToken (some token) r)).1 = .error .cancelled
    · -- it is cut after its last check, which is not before check `k`, the first one to cut after
      refine ⟨hcan, ?_⟩
      obtain ⟨l, hl⟩ := truncates.exists_length hcan
      have hltl : l < (calls (Polling.pollUntil p) (withToken (some token) r)).length := by omega
      have hgetl := List.getElem?_eq_getElem hltl
      rcases lt_trichotomy l k with hlt | rfl | hgt
      · exact absurd ((cutAfter_iff_last hc hgetl).2 ⟨hcan, hl⟩)
          (first l hlt _ ((truncates.same_call hltl).trans hgetl))
      · exact hl
      · rw [truncates.same_call (by omega)] at hget
        exact ((cutAfter_iff_last hc hget).1 hcut).2
    · -- without a cut both runs make the same checks, and this one would be cut after
      have hsame : calls (Polling.pollUntil p) (withToken (some token) r) =
          calls (Polling.pollUntil p) (withToken none r) := by
        unfold calls
        rw [(truncates.inStep hcan).trace]
      exact absurd ((cutAfter_iff_last hc (by rw [hsame, hget])).1 hcut).1 hcan

/-- **A token only truncates.** For every operation that looks at a token, every cluster and
every time at which the token is set: the calls are a first part of those of the run without the
token; a run that is not cancelled is that run, in all it does and leaves behind; one that is
cancelled does so when it sees the token, after its last call, and no loop starts another check
once the token is set. Over exact time the run ends at the later of the time of the token and the
end of the last check, and a poll is cancelled after the first unmet check whose end or whose next
due time the token does not come after. -/
theorem token_truncates :
    (∀ {τ : Type} [Seconds τ] {α : Type} {p : Program τ α}
      {loops : List (Call τ) → List (List (Call τ))}, Waits p loops →
        ∀ (r : Rehearsal τ) (token : τ), Truncates p loops r token) ∧
    (∀ {α : Type} {p : Program Rat α} {loops : List (Call Rat) → List (List (Call Rat))},
      Waits p loops → ∀ (r : Rehearsal Rat) (token : Rat),
        (run p (withToken (some token) r)).1 = .error .cancelled →
          ∃ c, (calls p (withToken (some token) r)).getLast? = some c ∧
            (run p (withToken (some token) r)).2.clock = max token c.finish) ∧
    ∀ {α : Type} (p : Poll Rat α), IsCall p.check → ∀ (r : Rehearsal Rat) (token : Rat) (k : Nat),
      (run (Polling.pollUntil p) (withToken (some token) r)).1 = .error .cancelled ∧
          (calls (Polling.pollUntil p) (withToken (some token) r)).length = k + 1 ↔
        (∃ c, (calls (Polling.pollUntil p) (withToken none r))[k]? = some c ∧
          CutAfter p r.clock token (k + 1) c) ∧
        ∀ j < k, ∀ c, (calls (Polling.pollUntil p) (withToken none r))[j]? = some c →
          ¬ CutAfter p r.clock token (j + 1) c := by
  refine ⟨fun h r token => truncates_of_waits h r token, fun h r token hc => ?_,
    fun p hc r token k => ?_⟩
  · obtain ⟨-, -, c, -, hlast, ⟨hle, hclock⟩ | hclock⟩ := (truncates_of_waits h r token).cut hc
    · exact ⟨c, hlast, by rw [hclock, max_eq_right hle]⟩
    · exact ⟨c, hlast, by rw [hclock, latest_eq_max, max_comm]⟩
  · exact cancelled_iff hc r token k

/-- A poll that allows three checks, two seconds apart. -/
def probing : Poll Rat Yaml.Value where
  check := .send .probe
  policy := ⟨3, 2, by decide, by decide⟩
  description := "The condition does not hold"
  waiting := "Waiting for the condition"

/-- A cluster where a condition never holds, and each look at it takes a second. -/
def neverMet : Rehearsal Rat where
  clock := 0
  cost := 0
  serveDelay := 0
  cancelAt := none
  store := ⟨[], []⟩
  script := ⟨[], [], [], [⟨1, .ok none⟩], true, none⟩
  record := .empty

/-- The second check ends at the very time at which the token is set. -/
theorem probing_cut_after_second :
    let p := Polling.pollUntil probing
    Truncates p (fun cs => [cs]) neverMet 3 ∧
      ((run p (withToken (some 3) neverMet)).1 = .error .cancelled ∧
        (calls p (withToken (some 3) neverMet)).length = 1 + 1) ∧
      ∃ c, (calls p (withToken (some 3) neverMet)).getLast? = some c ∧
        (run p (withToken (some 3) neverMet)).2.clock = max 3 c.finish := by
  intro p
  have hc : IsCall probing.check := isCall_send .probe
  have check (start finish : Rat) : Unmet probing ⟨start, .probe, .ok none, finish⟩ :=
    ⟨_, rfl, rfl⟩
  have h : (run p (withToken (some 3) neverMet)).1 = .error .cancelled ∧
      (calls p (withToken (some 3) neverMet)).length = 1 + 1 := by
    refine (token_truncates.2.2 probing hc neverMet 3 1).2 ⟨⟨⟨2, .probe, .ok none, 3⟩, ?_, ?_⟩, ?_⟩
    · with_unfolding_all rfl
    · exact ⟨check 2 3, le_max_left _ _⟩
    · intro j hj c hget
      obtain rfl : j = 0 := by omega
      have hfirst : c = ⟨0, .probe, .ok none, 1⟩ := by
        refine Option.some.inj (hget.symm.trans ?_)
        with_unfolding_all rfl
      rintro ⟨-, hle⟩
      rw [hfirst] at hle
      revert hle
      decide +kernel
  exact ⟨token_truncates.1 (.poll probing hc) neverMet 3, h,
    token_truncates.2.1 (.poll probing hc) neverMet 3 h.1⟩

end Testbed.Truncation
