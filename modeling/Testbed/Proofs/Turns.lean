import Mathlib
import Testbed.Proofs.Deadline

/-!
Polls, turn by turn.

Each turn makes the check and then ends the poll with what it finds, or rests until the next check
is due, if no token cuts the rest. Without a token all checks but the last are unmet, and the last
one decides how the poll ends. Where a check is a single request with a verdict on the answer, the
poll is told by its calls.
-/

namespace Testbed.Turns

open Rehearsal
open Deadline (Checked)
open Truncation (goOn proceed attempt_eq)
open Polling (Poll)

variable {τ α β : Type}

/-! ### Turns -/

/-- A check of a poll, and what is done after it until the next one. -/
structure Turn (τ β : Type) extends Checked τ β where
  after : List (Event τ)

/-- All that is done in some turns. -/
def happened (turns : List (Turn τ β)) : List (Event τ) :=
  turns.flatMap fun t => t.events ++ t.after

lemma happened_cons (t : Turn τ β) (turns : List (Turn τ β)) :
    happened (t :: turns) = t.events ++ (t.after ++ happened turns) := by
  unfold happened
  rw [List.flatMap_cons, List.append_assoc]

lemma happened_single (t : Turn τ β) : happened [t] = t.events ++ t.after := by
  rw [happened_cons, show happened ([] : List (Turn τ β)) = [] from rfl, List.append_nil]

lemma happened_append (turns turns' : List (Turn τ β)) :
    happened (turns ++ turns') = happened turns ++ happened turns' := List.flatMap_append

/-- Nothing is done after a check that ends the poll. -/
lemma happened_check (start : τ) (own : List (Event τ)) (found : Except (Failure τ) β)
    (finish : τ) : own = happened [⟨⟨start, own, found, finish⟩, []⟩] := by
  rw [happened_single, List.append_nil]

variable [Seconds τ]

/-! ### Between two checks -/

/-- The time from the end of check number `n` until the next one is due. -/
def gap (p : Poll τ α) (start : τ) (n : Nat) (finish : τ) : τ :=
  start + Seconds.ofNat n * p.policy.delay - finish

/-- When a rest of some length is over. None is made for a length that is not positive. -/
def wakes (length now : τ) : τ := if length ≤ 0 then now else now + length

/-- What is done in a rest. -/
def rest (length : τ) : List (Event τ) :=
  .looked false :: if length ≤ 0 then [] else [.waited length false]

/-- When check `n` has ended at some time, this is when the poll goes on. -/
def resumes (p : Poll τ α) (start : τ) (n : Nat) (finish : τ) : τ :=
  wakes (gap p start n finish) finish

/-- The time of the poll is up. It never is without a delay. -/
def IsOver (p : Poll τ α) (start now : τ) : Prop :=
  0 < p.policy.delay ∧ start + p.policy.budget ≤ now

/-- What the poll says when it gives up. -/
def expiry (p : Poll τ α) (start : τ) (attempts : Nat) (now : τ) : Timeout τ :=
  ⟨p.description ++ " after " ++ toString attempts ++ " attempts", p.policy.budget, attempts,
    now - start⟩

def retrying (p : Poll τ α) : Event τ :=
  .noted .warning (p.waiting ++ " - retry in " ++ Seconds.text p.policy.delay ++ "s")

def abandoning (p : Poll τ α) (attempts : Nat) : Event τ :=
  .noted .warning ("Deadline passed after " ++ toString attempts ++ " of "
    ++ toString p.policy.maxAttempts ++ " attempts")

/-! ### Rounds -/

/-- The end that a check puts to a poll, if it does. -/
def decision : Except (Failure τ) (Option α) → Option (Except (Failure τ) α)
  | .ok none => none
  | .ok (some a) => some (.ok a)
  | .error e => some (.error e)

/-- How a poll ends after check number `n` that is unmet, without another one; up to `left` others
were allowed. -/
inductive GivesUp (token : Option τ) (p : Poll τ α) (start : τ) (n : Nat) (finish : τ) :
    (left : Nat) → List (Event τ) → Except (Failure τ) α → τ → Prop where
  | last {due : τ} {nap : List (Event τ)}
    (waited : Unfolds token (p.await start n) finish nap (.ok ()) due) :
    GivesUp token p start n finish 0 nap (.error (.timedOut (expiry p start n due))) due
  | lastCut {stop : τ} {nap : List (Event τ)}
    (waited : Unfolds token (p.await start n) finish nap (.error .cancelled) stop) :
    GivesUp token p start n finish 0 nap (.error .cancelled) stop
  | expired {left : Nat} {due : τ} {nap : List (Event τ)}
    (waited : Unfolds token (p.await start n) finish nap (.ok ()) due)
    (ended : IsOver p start due) :
    GivesUp token p start n finish (left + 1) (retrying p :: (nap ++ [abandoning p n]))
      (.error (.timedOut (expiry p start n due))) due
  | cut {left : Nat} {stop : τ} {nap : List (Event τ)}
    (waited : Unfolds token (p.await start n) finish nap (.error .cancelled) stop) :
    GivesUp token p start n finish (left + 1) (retrying p :: nap) (.error .cancelled) stop

/-- The checks of a poll from number `n` on, which it makes at some time, with all that it does and
how it ends; up to `left` others are allowed. -/
inductive Rounds (token : Option τ) (p : Poll τ α) (start : τ) :
    (left n : Nat) → τ → List (Checked τ (Option α)) → List (Event τ) → Except (Failure τ) α → τ →
      Prop where
  | decided {left n : Nat} {now finish : τ} {own : List (Event τ)}
    {found : Except (Failure τ) (Option α)} {result : Except (Failure τ) α}
    (made : Unfolds token p.check now own found finish) (decides : decision found = some result) :
    Rounds token p start left n now [⟨now, own, found, finish⟩] own result finish
  | givenUp {left n : Nat} {now finish stop : τ} {own after : List (Event τ)}
    {result : Except (Failure τ) α} (made : Unfolds token p.check now own (.ok none) finish)
    (ends : GivesUp token p start n finish left after result stop) :
    Rounds token p start left n now [⟨now, own, .ok none, finish⟩] (own ++ after) result stop
  | again {left n : Nat} {now finish due stop : τ} {own nap events : List (Event τ)}
    {checks : List (Checked τ (Option α))} {result : Except (Failure τ) α}
    (made : Unfolds token p.check now own (.ok none) finish)
    (waited : Unfolds token (p.await start n) finish nap (.ok ()) due)
    (goes : ¬ IsOver p start due)
    (more : Rounds token p start left (n + 1) due checks events result stop) :
    Rounds token p start (left + 1) n now (⟨now, own, .ok none, finish⟩ :: checks)
      (own ++ (retrying p :: (nap ++ events))) result stop

section

variable {token : Option τ} {p : Poll τ α} {start now finish stop : τ} {left n : Nat}
  {events : List (Event τ)}

lemma unfolds_done {ended result : Except (Failure τ) α}
    (h : Unfolds token (.done ended) now events result stop) :
    result = ended ∧ events = [] ∧ stop = now := by
  cases h
  exact ⟨rfl, rfl, rfl⟩

lemma unfolds_isOver {result : Except (Failure τ) Bool}
    (h : Unfolds token (p.isOver start) now events result stop) :
    events = [] ∧ stop = now ∧
      (IsOver p start now ∧ result = .ok true ∨ ¬ IsOver p start now ∧ result = .ok false) := by
  unfold Poll.isOver at h
  unfold IsOver
  split at h
  · rename_i pos
    cases h with
    | now h =>
      cases h
      refine ⟨rfl, rfl, ?_⟩
      by_cases hle : start + p.policy.budget ≤ now <;> simp [pos, hle]
  · rename_i pos
    cases h
    exact ⟨rfl, rfl, Or.inr ⟨fun h => pos h.1, rfl⟩⟩

lemma unfolds_timeout {result : Except (Failure τ) α}
    (h : Unfolds token (p.timeout start n) now events result stop) :
    events = [] ∧ result = .error (.timedOut (expiry p start n now)) ∧ stop = now := by
  cases h with
  | now h =>
    cases h
    exact ⟨rfl, rfl, rfl⟩

/-- When the rest is over, time is up or the next check is made. -/
lemma unfolds_proceed {result : Except (Failure τ) α}
    (h : Unfolds token (proceed p start left n) now events result stop) :
    IsOver p start now ∧ events = [abandoning p n] ∧
        result = .error (.timedOut (expiry p start n now)) ∧ stop = now ∨
      ¬ IsOver p start now ∧
        Unfolds token (p.attempt start left (n + 1)) now events result stop := by
  rcases unfolds_bind h with ⟨e, rfl, he⟩ | ⟨ended, mid, first, second, rfl, hfirst, hsecond⟩
  · obtain ⟨-, -, ⟨-, he⟩ | ⟨-, he⟩⟩ := unfolds_isOver he <;> cases he
  · obtain ⟨rfl, rfl, ⟨hover, he⟩ | ⟨hgoes, he⟩⟩ := unfolds_isOver hfirst
    · cases he
      cases hsecond with
      | note hsecond =>
        obtain ⟨rfl, hresult, hstop⟩ := unfolds_timeout hsecond
        exact Or.inl ⟨hover, rfl, hresult, hstop⟩
    · cases he
      exact Or.inr ⟨hgoes, hsecond⟩

/-- A turn begins with the check, and ends the poll unless that is unmet. -/
lemma unfolds_check {result : Except (Failure τ) α}
    (h : Unfolds token (p.attempt start left n) now events result stop) :
    (∃ a, result = .ok a ∧ Unfolds token p.check now events (.ok (some a)) stop) ∨
      (∃ e, result = .error e ∧ Unfolds token p.check now events (.error e) stop) ∨
      ∃ own after finish, events = own ++ after ∧ Unfolds token p.check now own (.ok none) finish ∧
        Unfolds token (goOn p start left n) finish after result stop := by
  rw [attempt_eq] at h
  rcases unfolds_bind h with ⟨e, rfl, he⟩ | ⟨found, mid, first, second, rfl, hfirst, hsecond⟩
  · exact Or.inr (Or.inl ⟨e, rfl, he⟩)
  · cases found with
    | some a =>
      cases hsecond
      rw [List.append_nil]
      exact Or.inl ⟨a, rfl, hfirst⟩
    | none => exact Or.inr (Or.inr ⟨first, second, mid, rfl, hfirst, hsecond⟩)

/-- A wait only breaks off because it is cancelled. -/
lemma await_error {e : Failure τ}
    (h : Unfolds token (p.await start n) now events (.error e) stop) : e = .cancelled := by
  cases h with
  | now h => cases slept_of_unfolds h <;> rfl

/-- A poll that gives up says that it was cancelled or that time is up. -/
lemma GivesUp.says {result : Except (Failure τ) α}
    (h : GivesUp token p start n finish left events result stop) :
    result = .error .cancelled ∨ ∃ t, result = .error (.timedOut t) := by
  cases h with
  | last => exact Or.inr ⟨_, rfl⟩
  | lastCut => exact Or.inl rfl
  | expired => exact Or.inr ⟨_, rfl⟩
  | cut => exact Or.inl rfl

/-- After an unmet check the poll gives up, or waits and makes the next one. -/
lemma goOn_cases {result : Except (Failure τ) α}
    (h : Unfolds token (goOn p start left n) finish events result stop) :
    GivesUp token p start n finish left events result stop ∨
      ∃ left' due nap others, left = left' + 1 ∧ events = retrying p :: (nap ++ others) ∧
        Unfolds token (p.await start n) finish nap (.ok ()) due ∧ ¬ IsOver p start due ∧
          Unfolds token (p.attempt start left' (n + 1)) due others result stop := by
  cases left with
  | zero =>
    rcases unfolds_bind h with ⟨e, rfl, he⟩ | ⟨_, due, nap, last, rfl, waited, hlast⟩
    · obtain rfl := await_error he
      exact Or.inl (.lastCut he)
    · obtain ⟨rfl, rfl, rfl⟩ := unfolds_timeout hlast
      rw [List.append_nil]
      exact Or.inl (.last waited)
  | succ left =>
    cases h with
    | note h =>
      rcases unfolds_bind h with ⟨e, rfl, he⟩ | ⟨_, due, nap, others, rfl, waited, hnext⟩
      · obtain rfl := await_error he
        exact Or.inl (.cut he)
      · rcases unfolds_proceed hnext with ⟨ended, rfl, rfl, rfl⟩ | ⟨goes, hattempt⟩
        · exact Or.inl (.expired waited ended)
        · exact Or.inr ⟨left, due, nap, others, rfl, rfl, waited, goes, hattempt⟩

/-- A poll begins with its first check, unless there are too many to tell how long they may
take. -/
lemma begins_of_unfolds {result : Except (Failure τ) α}
    (h : Unfolds token (Polling.pollUntil p) now events result stop) :
    p.policy.budget? = none ∧ events = [] ∧ result = .error .tooManyChecks ∧ stop = now ∨
      p.policy.budget?.isSome = true ∧
        Unfolds token (p.attempt now (p.policy.maxAttempts - 1) 1) now events result stop := by
  unfold Polling.pollUntil at h
  cases h with
  | now h =>
    cases hb : p.policy.budget? with
    | none =>
      simp only [Program.bind, hb] at h
      cases h
      exact Or.inl ⟨rfl, rfl, rfl, rfl⟩
    | some budget =>
      simp only [Program.bind, hb] at h
      exact Or.inr ⟨rfl, h⟩

/-- **A poll goes round by round.** -/
theorem rounds_of_unfolds {result : Except (Failure τ) α}
    (h : Unfolds token (p.attempt start left n) now events result stop) :
    ∃ checks, Rounds token p start left n now checks events result stop := by
  induction left using Nat.strong_induction_on generalizing n now events with
  | _ left ih =>
  rcases unfolds_check h with ⟨a, rfl, made⟩ | ⟨e, rfl, made⟩ | ⟨own, after, mid, rfl, made, h⟩
  · exact ⟨_, .decided made rfl⟩
  · exact ⟨_, .decided made rfl⟩
  · rcases goOn_cases h with ends | ⟨left', due, nap, others, rfl, rfl, waited, goes, hattempt⟩
    · exact ⟨_, .givenUp made ends⟩
    · obtain ⟨checks, more⟩ := ih left' (Nat.lt_succ_self _) hattempt
      exact ⟨_, .again made waited goes more⟩

/-- A poll that has a result got it from one of its checks. -/
lemma Rounds.met {checks : List (Checked τ (Option α))} {a : α}
    (h : Rounds token p start left n now checks events (.ok a) stop) :
    ∃ began own ended, Unfolds token p.check began own (.ok (some a)) ended ∧ own ⊆ events := by
  generalize hresult : (Except.ok a : Except (Failure τ) α) = result at h
  induction h with
  | @decided left n now finish own found result made decides =>
    subst hresult
    match found, decides with
    | .ok (some _), rfl => exact ⟨_, _, _, made, List.Subset.refl _⟩
  | givenUp made ends =>
    rcases ends.says with he | ⟨t, he⟩
    · cases hresult.trans he
    · cases hresult.trans he
  | again made waited goes more ih =>
    obtain ⟨began, own, ended, hcheck, hown⟩ := ih hresult
    refine ⟨began, own, ended, hcheck, fun e he => ?_⟩
    exact List.mem_append_right _ (List.mem_cons_of_mem _ (List.mem_append_right _ (hown he)))

end

/-! ### Turns without a token -/

/-- The turns of a poll from check number `n` on, which it makes at some time, and how it ends; up
to `left` checks follow. -/
inductive Polled (p : Poll τ α) (start : τ) :
    (left n : Nat) → τ → List (Turn τ (Option α)) → Except (Failure τ) α → τ → Prop where
  | value {left n : Nat} {now finish : τ} {own : List (Event τ)} {a : α}
    (made : Unfolds none p.check now own (.ok (some a)) finish) :
    Polled p start left n now [⟨⟨now, own, .ok (some a), finish⟩, []⟩] (.ok a) finish
  | raised {left n : Nat} {now finish : τ} {own : List (Event τ)} {e : Failure τ}
    (made : Unfolds none p.check now own (.error e) finish) :
    Polled p start left n now [⟨⟨now, own, .error e, finish⟩, []⟩] (.error e) finish
  | last {n : Nat} {now finish : τ} {own : List (Event τ)}
    (made : Unfolds none p.check now own (.ok none) finish) :
    Polled p start 0 n now [⟨⟨now, own, .ok none, finish⟩, rest (gap p start n finish)⟩]
      (.error (.timedOut (expiry p start n (resumes p start n finish)))) (resumes p start n finish)
  | expired {left n : Nat} {now finish : τ} {own : List (Event τ)}
    (made : Unfolds none p.check now own (.ok none) finish)
    (ended : IsOver p start (resumes p start n finish)) :
    Polled p start (left + 1) n now
      [⟨⟨now, own, .ok none, finish⟩,
        retrying p :: (rest (gap p start n finish) ++ [abandoning p n])⟩]
      (.error (.timedOut (expiry p start n (resumes p start n finish)))) (resumes p start n finish)
  | again {left n : Nat} {now finish stop : τ} {own : List (Event τ)}
    {turns : List (Turn τ (Option α))} {result : Except (Failure τ) α}
    (made : Unfolds none p.check now own (.ok none) finish)
    (goes : ¬ IsOver p start (resumes p start n finish))
    (more : Polled p start left (n + 1) (resumes p start n finish) turns result stop) :
    Polled p start (left + 1) n now
      (⟨⟨now, own, .ok none, finish⟩, retrying p :: rest (gap p start n finish)⟩ :: turns)
      result stop

section

variable {p : Poll τ α} {start now stop : τ} {left n : Nat} {events : List (Event τ)}

lemma unfolds_sleep {length : τ} {result : Except (Failure τ) Unit}
    (h : Unfolds none (Polling.sleep length) now events result stop) :
    result = .ok () ∧ events = rest length ∧ stop = wakes length now := by
  unfold rest wakes
  cases slept_of_unfolds h with
  | refused set => cases set
  | skipped hle =>
    rw [if_pos hle, if_pos hle]
    exact ⟨rfl, rfl, rfl⟩
  | cut pos set => cases set
  | full pos =>
    rw [if_neg pos, if_neg pos]
    exact ⟨rfl, rfl, rfl⟩

lemma unfolds_await {result : Except (Failure τ) Unit}
    (h : Unfolds none (p.await start n) now events result stop) :
    result = .ok () ∧ events = rest (gap p start n now) ∧ stop = resumes p start n now := by
  cases h with
  | now h => exact unfolds_sleep h

/-- **Without a token a poll goes turn by turn.** -/
theorem polled_of_unfolds {result : Except (Failure τ) α}
    (h : Unfolds none (p.attempt start left n) now events result stop) :
    ∃ turns, events = happened turns ∧ Polled p start left n now turns result stop := by
  obtain ⟨checks, rounds⟩ := rounds_of_unfolds h
  clear h
  induction rounds with
  | @decided left n now finish own found result made decides =>
    refine ⟨_, happened_check now own found finish, ?_⟩
    match found, decides with
    | .ok (some _), rfl => exact .value made
    | .error _, rfl => exact .raised made
  | givenUp made ends =>
    cases ends with
    | last waited =>
      obtain ⟨-, rfl, rfl⟩ := unfolds_await waited
      refine ⟨_, ?_, .last made⟩
      rw [happened_single]
    | lastCut waited => cases (unfolds_await waited).1
    | expired waited ended =>
      obtain ⟨-, rfl, rfl⟩ := unfolds_await waited
      refine ⟨_, ?_, .expired made ended⟩
      rw [happened_single]
    | cut waited => cases (unfolds_await waited).1
  | again made waited goes _ ih =>
    obtain ⟨-, rfl, rfl⟩ := unfolds_await waited
    obtain ⟨turns, rfl, hturns⟩ := ih
    refine ⟨_, ?_, .again made goes hturns⟩
    rw [happened_cons]
    rfl

/-- A poll makes its checks, unless there are too many to tell how long they may take. -/
lemma unfolds_pollUntil {result : Except (Failure τ) α}
    (h : Unfolds none (Polling.pollUntil p) now events result stop) :
    p.policy.budget? = none ∧ events = [] ∧ result = .error .tooManyChecks ∧ stop = now ∨
      ∃ turns, events = happened turns ∧
        Polled p now (p.policy.maxAttempts - 1) 1 now turns result stop :=
  (begins_of_unfolds h).imp id fun h => polled_of_unfolds h.2

end

/-! ### All turns but the last -/

/-- How the last check ends a poll, with the number of its checks. -/
inductive Ends (p : Poll τ α) (start : τ) (attempts : Nat) (finish : τ) :
    Except (Failure τ) (Option α) → Except (Failure τ) α → τ → Prop where
  | value (a : α) : Ends p start attempts finish (.ok (some a)) (.ok a) finish
  | raised (e : Failure τ) : Ends p start attempts finish (.error e) (.error e) finish
  | timedOut : Ends p start attempts finish (.ok none)
      (.error (.timedOut (expiry p start attempts (resumes p start attempts finish))))
      (resumes p start attempts finish)

/-- The turn makes the check, and calls nothing else. -/
def Makes (check : Program τ β) (t : Turn τ β) : Prop :=
  Unfolds none check t.start t.events t.found t.finish ∧ callsIn t.after = []

lemma callsIn_rest (length : τ) : callsIn (rest length) = [] := by
  unfold rest
  split <;> rfl

section

variable {p : Poll τ α} {start now stop : τ} {left n : Nat} {turns : List (Turn τ (Option α))}
  {result : Except (Failure τ) α}

lemma Polled.made (h : Polled p start left n now turns result stop) :
    ∀ t ∈ turns, Makes p.check t := by
  induction h with
  | value made => exact List.forall_mem_singleton.2 ⟨made, rfl⟩
  | raised made => exact List.forall_mem_singleton.2 ⟨made, rfl⟩
  | last made => exact List.forall_mem_singleton.2 ⟨made, callsIn_rest _⟩
  | @expired left n now finish own made _ =>
    refine List.forall_mem_singleton.2 ⟨made, ?_⟩
    show callsIn (rest _ ++ [abandoning p n]) = []
    rw [callsIn_append, callsIn_rest]
    rfl
  | again made _ _ ih => exact List.forall_mem_cons.2 ⟨⟨made, callsIn_rest _⟩, ih⟩

/-- **The last check decides.** All others are unmet. -/
theorem Polled.decided (h : Polled p start left n now turns result stop) :
    ∃ before last, turns = before ++ [last] ∧ before.length ≤ left ∧
      (∀ t ∈ before, t.found = .ok none) ∧
        Ends p start (n + before.length) last.finish last.found result stop := by
  induction h with
  | @value left n now finish own a _ =>
    exact ⟨[], _, rfl, Nat.zero_le left, nofun, .value a⟩
  | @raised left n now finish own e _ =>
    exact ⟨[], _, rfl, Nat.zero_le left, nofun, .raised e⟩
  | last _ => exact ⟨[], _, rfl, Nat.le_refl 0, nofun, .timedOut⟩
  | expired _ _ => exact ⟨[], _, rfl, Nat.zero_le _, nofun, .timedOut⟩
  | again _ _ _ ih =>
    obtain ⟨before, last, rfl, hlength, hunmet, hends⟩ := ih
    refine ⟨_ :: before, last, rfl, Nat.succ_le_succ hlength,
      List.forall_mem_cons.2 ⟨rfl, hunmet⟩, ?_⟩
    rwa [List.length_cons, Nat.add_comm before.length, ← Nat.add_assoc]

end

/-! ### Checks that are single requests -/

/-- The check is one request, and a verdict on its answer. -/
def Judges (check : Program τ β) (request : Request)
    (verdict : Except Fault request.Reply → Except (Failure τ) β) : Prop :=
  check = .ask request fun answer => .done (verdict answer)

/-- The call makes the request, and this is the verdict on its answer. -/
inductive Finds {request : Request} (verdict : Except Fault request.Reply → Except (Failure τ) β) :
    Call τ → Except (Failure τ) β → Prop where
  | mk (start : τ) (answer : Except Fault request.Reply) (finish : τ) :
    Finds verdict ⟨start, request, answer, finish⟩ (verdict answer)

section

variable {request : Request} {verdict : Except Fault request.Reply → Except (Failure τ) β}

omit [Seconds τ] in
lemma Finds.asked {c : Call τ} {found : Except (Failure τ) β} (h : Finds verdict c found) :
    c.request = request := by
  cases h
  rfl

omit [Seconds τ] in
lemma Finds.unique {c : Call τ} {found found' : Except (Failure τ) β} (h : Finds verdict c found)
    (h' : Finds verdict c found') : found = found' := by
  cases h
  cases h'
  rfl

lemma Judges.finds {check : Program τ β} (hc : Judges check request verdict) {token : Option τ}
    {now finish : τ} {own : List (Event τ)} {found : Except (Failure τ) β}
    (h : Unfolds token check now own found finish) :
    ∃ c : Call τ, own = [.called c] ∧ c.start = now ∧ c.finish = finish ∧
      Finds verdict c found := by
  rw [hc] at h
  cases h with
  | ask answer finish h =>
    obtain ⟨rfl, rfl, rfl⟩ := unfolds_done h
    exact ⟨_, rfl, rfl, rfl, .mk now answer _⟩

end

section

variable {request : Request}

/-- The call is all that is asked in the turn. -/
structure Matches (verdict : Except Fault request.Reply → Except (Failure τ) β) (t : Turn τ β)
    (c : Call τ) : Prop where
  start : c.start = t.start
  finish : c.finish = t.finish
  finds : Finds verdict c t.found

/-- There is one call in each turn. -/
lemma matches_of_turns {check : Program τ β}
    {verdict : Except Fault request.Reply → Except (Failure τ) β}
    (hc : Judges check request verdict) {token : Option τ} {turns : List (Turn τ β)}
    (made : ∀ t ∈ turns, Unfolds token check t.start t.events t.found t.finish ∧
      callsIn t.after = []) :
    List.Forall₂ (Matches verdict) turns (callsIn (happened turns)) := by
  induction turns with
  | nil => exact .nil
  | cons t turns ih =>
    obtain ⟨⟨made, quiet⟩, rest⟩ := List.forall_mem_cons.1 made
    obtain ⟨c, hown, hstart, hfinish, hfinds⟩ := hc.finds made
    rw [happened_cons, callsIn_append, callsIn_append, hown, quiet]
    exact .cons ⟨hstart, hfinish, hfinds⟩ (ih rest)

omit [Seconds τ] in
lemma exists_call_of_mem {verdict : Except Fault request.Reply → Except (Failure τ) β}
    {turns : List (Turn τ β)} {cs : List (Call τ)}
    (h : List.Forall₂ (Matches verdict) turns cs) : ∀ t ∈ turns, ∃ c ∈ cs, Matches verdict t c := by
  induction h with
  | nil => exact fun t ht => absurd ht List.not_mem_nil
  | cons hmatches _ ih =>
    refine List.forall_mem_cons.2 ⟨⟨_, List.mem_cons_self, hmatches⟩, fun t ht => ?_⟩
    obtain ⟨c, hc, hm⟩ := ih t ht
    exact ⟨c, List.mem_cons_of_mem _ hc, hm⟩

omit [Seconds τ] in
/-- Turns and calls go together by their numbers. -/
lemma exists_call_of_getElem? {verdict : Except Fault request.Reply → Except (Failure τ) β}
    {turns : List (Turn τ β)} {cs : List (Call τ)} (h : List.Forall₂ (Matches verdict) turns cs)
    {i : Nat} {t : Turn τ β} (ht : turns[i]? = some t) :
    ∃ c, cs[i]? = some c ∧ Matches verdict t c := by
  obtain ⟨hi, rfl⟩ := List.getElem?_eq_some_iff.1 ht
  have hi' : i < cs.length := h.length_eq ▸ hi
  exact ⟨cs[i], List.getElem?_eq_getElem hi', h.get hi hi'⟩

variable {p : Poll τ α} {verdict : Except Fault request.Reply → Except (Failure τ) (Option α)}

lemma calls_of_turns (hc : Judges p.check request verdict) {turns : List (Turn τ (Option α))}
    (made : ∀ t ∈ turns, Makes p.check t) :
    List.Forall₂ (Matches verdict) turns (callsIn (happened turns)) := matches_of_turns hc made

/-- **A poll is told by its calls.** -/
theorem Polled.told {start now stop : τ} {left n : Nat} {turns : List (Turn τ (Option α))}
    {result : Except (Failure τ) α} (hc : Judges p.check request verdict)
    (h : Polled p start left n now turns result stop) :
    ∃ before last found, callsIn (happened turns) = before ++ [last] ∧ before.length ≤ left ∧
      (∀ c ∈ before, Finds verdict c (.ok none)) ∧ Finds verdict last found ∧
        Ends p start (n + before.length) last.finish found result stop := by
  have made := h.made
  obtain ⟨before, last, rfl, hle, hunmet, hends⟩ := h.decided
  have hbefore := calls_of_turns hc fun t ht => made t (List.mem_append_left _ ht)
  have hlast := calls_of_turns hc fun t ht => made t (List.mem_append_right _ ht)
  obtain ⟨c, _, hc, ⟨⟩, hcalls⟩ := List.forall₂_cons_left_iff.1 hlast
  refine ⟨callsIn (happened before), c, last.found, ?_, hbefore.length_eq ▸ hle, fun d hd => ?_,
    hc.finds, ?_⟩
  · rw [happened_append, callsIn_append, hcalls]
  · obtain ⟨i, hi, rfl⟩ := List.mem_iff_getElem.1 hd
    have hi' : i < before.length := hbefore.length_eq ▸ hi
    exact hunmet _ (List.getElem_mem hi') ▸ (hbefore.get hi' hi).finds
  · rwa [← hbefore.length_eq, hc.finish]

/-- What the calls of a poll tell of it. -/
inductive Told (p : Poll τ α) (start : τ)
    (verdict : Except Fault request.Reply → Except (Failure τ) (Option α)) :
    List (Call τ) → Except (Failure τ) α → τ → Prop where
  /-- Nothing is known of how long so many checks may take. -/
  | tooMany (h : p.policy.budget? = none) : Told p start verdict [] (.error .tooManyChecks) start
  | ended {before : List (Call τ)} {last : Call τ} {found : Except (Failure τ) (Option α)}
    {result : Except (Failure τ) α} {stop : τ} (le : before.length + 1 ≤ p.policy.maxAttempts)
    (unmet : ∀ c ∈ before, Finds verdict c (.ok none)) (decides : Finds verdict last found)
    (ends : Ends p start (before.length + 1) last.finish found result stop) :
    Told p start verdict (before ++ [last]) result stop

lemma told_of_unfolds (hc : Judges p.check request verdict) {start stop : τ}
    {events : List (Event τ)} {result : Except (Failure τ) α}
    (h : Unfolds none (Polling.pollUntil p) start events result stop) :
    Told p start verdict (callsIn events) result stop := by
  rcases unfolds_pollUntil h with ⟨hnone, rfl, rfl, rfl⟩ | ⟨turns, rfl, hpolled⟩
  · exact .tooMany hnone
  · obtain ⟨before, last, found, hcalls, hle, hunmet, hlast, hends⟩ := hpolled.told hc
    have hmax := p.policy.maxAttempts_pos
    rw [hcalls]
    rw [Nat.add_comm] at hends
    exact .ended (by omega) hunmet hlast hends

end

end Testbed.Turns
