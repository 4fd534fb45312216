import Mathlib
import Testbed.Proofs.Verification
import Testbed.Proofs.Worlds

/-!
What a larger number of attempts changes.

The number of checks that a poll allows enters its last turn and its deadline. Two polls that only
differ in it are compared in one world, round by round: as long as both go on they do the same, the
one that allows more goes on whenever the other does, and a check that decides ends both.
-/

namespace Testbed.Extension

open Rehearsal
open Deadline (Checked)
open Polling (Poll)
open Turns (IsOver GivesUp Rounds decision rounds_of_unfolds)
open Verification (closing searching listening unfolds_noted)

variable {τ α : Type} [Seconds τ]

/-! ### Two polls in one world -/

/-- The last check decides how a poll ends, and all others are unmet. -/
def Decided (checks : List (Checked τ (Option α))) (result : Except (Failure τ) α) : Prop :=
  ∃ before k, checks = before ++ [k] ∧ (∀ b ∈ before, b.found = .ok none) ∧
    decision k.found = some result

/-- All checks are unmet, and the poll is cancelled or its time is up. -/
def Undecided (checks : List (Checked τ (Option α))) (result : Except (Failure τ) α) : Prop :=
  (∀ k ∈ checks, k.found = .ok none) ∧
    (result = .error .cancelled ∨ ∃ t, result = .error (.timedOut t))

omit [Seconds τ] in
lemma Decided.cons {k : Checked τ (Option α)} {checks : List (Checked τ (Option α))}
    {result : Except (Failure τ) α} (hk : k.found = .ok none) (h : Decided checks result) :
    Decided (k :: checks) result := by
  obtain ⟨before, last, rfl, hbefore, hlast⟩ := h
  exact ⟨k :: before, last, rfl, List.forall_mem_cons.2 ⟨hk, hbefore⟩, hlast⟩

/-- The polls make the same checks and say the same, with the same delay, and the second one allows
as many checks as the first, or more. -/
structure Widens (p p' : Poll Rat α) : Prop where
  check : p'.check = p.check
  waiting : p'.waiting = p.waiting
  delay : p'.policy.delay = p.policy.delay
  attempts : p.policy.maxAttempts ≤ p'.policy.maxAttempts

namespace Widens

variable {p p' : Poll Rat α}

section

variable {token : Option Rat} {w : World Rat} {past : List (Call Rat)} {now stop stop' : Rat}
  {events events' : List (Event Rat)}

/-- In one world both polls make the same check. -/
lemma check_unique (h : Widens p p') {found found' : Except (Failure Rat) (Option α)}
    (made : Unfolds token p.check now events found stop) (hw : Answers w past events)
    (made' : Unfolds token p'.check now events' found' stop') (hw' : Answers w past events') :
    events' = events ∧ found' = found ∧ stop' = stop := by
  rw [h.check] at made'
  exact made.unique hw made' hw'

/-- In one world both polls wait for the next check in the same way. -/
lemma await_unique (h : Widens p p') {start : Rat} {n : Nat}
    {result result' : Except (Failure Rat) Unit}
    (waited : Unfolds token (p.await start n) now events result stop) (hw : Answers w past events)
    (waited' : Unfolds token (p'.await start n) now events' result' stop')
    (hw' : Answers w past events') :
    events' = events ∧ result' = result ∧ stop' = stop := by
  unfold Poll.await at waited'
  rw [h.delay] at waited'
  exact waited.unique hw waited' hw'

end

lemma retrying (h : Widens p p') : Turns.retrying p' = Turns.retrying p := by
  unfold Turns.retrying
  rw [h.waiting, h.delay]

/-- Where the time of the second poll is up, that of the first is. -/
lemma isOver (h : Widens p p') {start now : Rat} (ended : IsOver p' start now) :
    IsOver p start now := by
  obtain ⟨pos, hle⟩ := ended
  rw [h.delay] at pos
  have hattempts : (p.policy.maxAttempts : Rat) ≤ p'.policy.maxAttempts := by
    exact_mod_cast h.attempts
  have hbudget : p.policy.budget ≤ p'.policy.budget := by
    calc p.policy.budget = p.policy.maxAttempts * p.policy.delay := rfl
      _ ≤ p'.policy.maxAttempts * p.policy.delay := mul_le_mul_of_nonneg_right hattempts pos.le
      _ = p'.policy.budget := by rw [← h.delay]; rfl
  exact ⟨pos, (add_le_add_right hbudget start).trans hle⟩

end Widens

section

variable {token : Option Rat} {p p' : Poll Rat α} {start now stop stop' : Rat}
  {left left' n : Nat} {checks checks' : List (Checked Rat (Option α))}
  {events events' : List (Event Rat)} {result result' : Except (Failure Rat) α}

/-- A poll that allows more checks does not give up where the other one goes on. -/
lemma not_givesUp (widens : Widens p p') {w : World Rat} {past : List (Call Rat)}
    {finish due : Rat} {rest : List (Event Rat)}
    (waited : Unfolds token (p.await start n) finish rest (.ok ()) due)
    (hrest : Answers w past rest) (goes : ¬ IsOver p start due) (hle : left + 1 ≤ left')
    (hw : Answers w past events) :
    ¬ GivesUp token p' start n finish left' events result stop := by
  intro h
  cases h with
  | last => cases hle
  | lastCut => cases hle
  | expired waited' ended =>
    obtain ⟨hrest', -⟩ := answers_append.1 (show Answers w past (_ ++ _) from hw)
    obtain ⟨-, -, rfl⟩ := widens.await_unique waited hrest waited' hrest'
    exact goes (widens.isOver ended)
  | cut waited' =>
    obtain ⟨-, hresult, -⟩ := widens.await_unique waited hrest waited' hw
    cases hresult

/-- **A poll that allows more checks goes on from where the other ends.** -/
theorem goes_on_of_rounds (widens : Widens p p') {w : World Rat} {past : List (Call Rat)}
    (h : Rounds token p start left n now checks events result stop) (hw : Answers w past events)
    (hle : left ≤ left')
    (h' : Rounds token p' start left' n now checks' events' result' stop')
    (hw' : Answers w past events') :
    checks <+: checks' ∧
      (Decided checks result ∧ checks' = checks ∧ events' = events ∧ result' = result ∧
          stop' = stop ∨
        Undecided checks result) := by
  -- in each round the other poll makes the same check, so it can only part where this one gives up
  induction h generalizing past left' checks' events' with
  | @decided left n now finish own found result made decides =>
    cases h' with
    | decided made' decides' =>
      obtain ⟨rfl, rfl, rfl⟩ := widens.check_unique made hw made' hw'
      obtain rfl : result' = result := Option.some.inj (decides'.symm.trans decides)
      exact ⟨List.prefix_rfl, Or.inl ⟨⟨[], _, rfl, nofun, decides⟩, rfl, rfl, rfl, rfl⟩⟩
    | givenUp made' ends' =>
      obtain ⟨-, rfl, -⟩ := widens.check_unique made hw made' (answers_append.1 hw').1
      cases decides
    | again made' _ _ _ =>
      obtain ⟨-, rfl, -⟩ := widens.check_unique made hw made' (answers_append.1 hw').1
      cases decides
  | @givenUp left n now finish stop own after result made ends =>
    have undecided : Undecided [⟨now, own, .ok none, finish⟩] result :=
      ⟨List.forall_mem_singleton.2 rfl, ends.says⟩
    have hown := (answers_append.1 hw).1
    cases h' with
    | decided made' decides' =>
      obtain ⟨-, rfl, -⟩ := widens.check_unique made hown made' hw'
      cases decides'
    | givenUp made' ends' =>
      obtain ⟨rfl, -, rfl⟩ := widens.check_unique made hown made' (answers_append.1 hw').1
      exact ⟨List.prefix_rfl, Or.inr undecided⟩
    | again made' _ _ _ =>
      obtain ⟨rfl, -, rfl⟩ := widens.check_unique made hown made' (answers_append.1 hw').1
      exact ⟨⟨_, rfl⟩, Or.inr undecided⟩
  | @again left n now finish due stop own rest events checks result made waited goes more ih =>
    obtain ⟨hown, hw⟩ := answers_append.1 hw
    obtain ⟨hrest, hevents⟩ := answers_append.1 (show Answers w _ (rest ++ events) from hw)
    cases h' with
    | decided made' decides' =>
      obtain ⟨-, rfl, -⟩ := widens.check_unique made hown made' hw'
      cases decides'
    | givenUp made' ends' =>
      obtain ⟨hown', hw'⟩ := answers_append.1 hw'
      obtain ⟨rfl, -, rfl⟩ := widens.check_unique made hown made' hown'
      exact absurd ends' (not_givesUp widens waited hrest goes hle hw')
    | again made' waited' goes' more' =>
      obtain ⟨hown', hw'⟩ := answers_append.1 hw'
      obtain ⟨rfl, -, rfl⟩ := widens.check_unique made hown made' hown'
      obtain ⟨hrest', hevents'⟩ := answers_append.1 (show Answers w _ (_ ++ _) from hw')
      obtain ⟨rfl, -, rfl⟩ := widens.await_unique waited hrest waited' hrest'
      obtain ⟨hfirst, hends⟩ := ih hevents (Nat.le_of_succ_le_succ hle) more' hevents'
      refine ⟨(List.prefix_cons_inj _).2 hfirst, ?_⟩
      rcases hends with ⟨hdecided, rfl, rfl, rfl, rfl⟩ | hundecided
      · rw [widens.retrying]
        exact Or.inl ⟨hdecided.cons rfl, rfl, rfl, rfl, rfl⟩
      · exact Or.inr ⟨List.forall_mem_cons.2 ⟨rfl, hundecided.1⟩, hundecided.2⟩

end

/-! ### Polls and what follows them -/

/-- The story consists of the checks of a poll that starts at some time, and what is said after its
success. -/
inductive Consists (token : Option τ) (entry : τ) (p : Poll τ α) (said : α → List (Event τ)) :
    List (Checked τ (Option α)) → Story τ α → Prop
  | mk {checks : List (Checked τ (Option α))} {events : List (Event τ)}
    {result : Except (Failure τ) α} {stop : τ}
    (rounds : Rounds token p entry (p.policy.maxAttempts - 1) 1 entry checks events result stop) :
    Consists token entry p said checks ⟨events ++ closing said result, result, stop⟩

/-- The programs that poll with some policy: a poll by itself, the wait for a running pod and the
wait for a message in a log. -/
inductive Polls : {α : Type} → (Policy Rat → Poll Rat α) → (α → List (Event Rat)) →
    (Policy Rat → Program Rat α) → Prop
  | poll {α : Type} (check : Program Rat (Option α)) (description waiting : String) :
    Polls (fun policy => ⟨check, policy, description, waiting⟩) (fun _ => [])
      fun policy => Polling.pollUntil ⟨check, policy, description, waiting⟩
  | running (ns selector : String) :
    Polls (searching ns selector)
      (fun pod => [.noted .info ("Verified pod '" ++ pod.name ++ "' state running")])
      (Verify.awaitRunning ns selector)
  | logged (pod : Observation) (text : String) (container : Option String) :
    Polls (fun policy => listening pod text policy container)
      (fun _ => [.noted .info ("Verified pod '" ++ pod.name ++ "' logs contain '" ++ text ++ "'")])
      fun policy => Verify.awaitLog pod text policy container

/-- The story `x'` of a poll goes on from where the story `x` of another one ends. Once a check
decides `x`, they are the same. -/
structure Extends (token : Option Rat) (entry : Rat) (p p' : Poll Rat α)
    (said : α → List (Event Rat)) (x x' : Story Rat α) : Prop where
  checks : ∃ checks checks', Consists token entry p said checks x ∧
    Consists token entry p' said checks' x' ∧ checks <+: checks' ∧
      (Decided checks x.result ∧ checks' = checks ∧ x' = x ∨ Undecided checks x.result)
  keeps : ∀ a, x.result = .ok a → x' = x

section

variable {token : Option Rat} {entry : Rat} {said : α → List (Event Rat)}

/-- Over exact time no number of checks is too large. -/
lemma rounds_of_pollUntil {p : Poll Rat α} {events : List (Event Rat)}
    {result : Except (Failure Rat) α} {stop : Rat}
    (h : Unfolds token (Polling.pollUntil p) entry events result stop) :
    ∃ checks,
      Rounds token p entry (p.policy.maxAttempts - 1) 1 entry checks events result stop := by
  cases h with
  | now h => exact rounds_of_unfolds h

lemma Polls.consists {poll : Policy Rat → Poll Rat α} {program : Policy Rat → Program Rat α}
    (polls : Polls poll said program) (policy : Policy Rat) {events : List (Event Rat)}
    {result : Except (Failure Rat) α} {stop : Rat}
    (h : Unfolds token (program policy) entry events result stop) :
    ∃ checks, Consists token entry (poll policy) said checks ⟨events, result, stop⟩ := by
  cases polls with
  | poll check description waiting =>
    obtain ⟨checks, rounds⟩ := rounds_of_pollUntil h
    have hclosing : events ++ closing (fun _ => []) result = events := by
      cases result <;> exact List.append_nil events
    rw [← hclosing]
    exact ⟨checks, .mk rounds⟩
  | running ns selector =>
    obtain ⟨own, rfl, polled⟩ :=
      unfolds_noted (p := Polling.pollUntil (searching ns selector policy)) h
    obtain ⟨checks, rounds⟩ := rounds_of_pollUntil polled
    exact ⟨checks, .mk rounds⟩
  | logged pod text container =>
    obtain ⟨own, rfl, polled⟩ :=
      unfolds_noted (p := Polling.pollUntil (listening pod text policy container)) h
    obtain ⟨checks, rounds⟩ := rounds_of_pollUntil polled
    exact ⟨checks, .mk rounds⟩

lemma Polls.widens {poll : Policy Rat → Poll Rat α} {program : Policy Rat → Program Rat α}
    (polls : Polls poll said program) {small large : Policy Rat} (delay : large.delay = small.delay)
    (attempts : small.maxAttempts ≤ large.maxAttempts) : Widens (poll small) (poll large) := by
  cases polls <;> exact ⟨rfl, rfl, delay, attempts⟩

lemma Undecided.not_ok {checks : List (Checked Rat (Option α))} {a : α} :
    ¬ Undecided checks (.ok a : Except (Failure Rat) α) := by
  rintro ⟨-, h | ⟨t, h⟩⟩ <;> cases h

/-- In one world the story of a poll that allows more checks extends that of the other. -/
lemma Consists.goes_on {p p' : Poll Rat α} (widens : Widens p p') {w : World Rat}
    {checks checks' : List (Checked Rat (Option α))} {x x' : Story Rat α}
    (h : Consists token entry p said checks x) (hw : Answers w [] x.events)
    (h' : Consists token entry p' said checks' x') (hw' : Answers w [] x'.events) :
    Extends token entry p p' said x x' := by
  have hle : p.policy.maxAttempts - 1 ≤ p'.policy.maxAttempts - 1 :=
    Nat.sub_le_sub_right widens.attempts 1
  cases h with
  | mk rounds =>
  cases h' with
  | mk rounds' =>
  obtain ⟨isPrefix, hends⟩ := goes_on_of_rounds widens rounds (answers_append.1 hw).1 hle rounds'
    (answers_append.1 hw').1
  rcases hends with ⟨hdecided, rfl, rfl, rfl, rfl⟩ | hundecided
  · exact ⟨⟨_, _, .mk rounds, .mk rounds', isPrefix, Or.inl ⟨hdecided, rfl, rfl⟩⟩, fun _ _ => rfl⟩
  · refine ⟨⟨_, _, .mk rounds, .mk rounds', isPrefix, Or.inr hundecided⟩, ?_⟩
    rintro a rfl
    exact absurd hundecided Undecided.not_ok

end

/-- **A larger number of attempts only extends a poll.** With the same delay, in every world and
with any token or none, the checks of a poll are the first ones of the poll that allows more. Once
a check gives a value or fails, both do the same at the same times and come to the same end, so a
value is never lost and never another one. -/
theorem larger_budget_only_extends {α : Type} {poll : Policy Rat → Poll Rat α}
    {said : α → List (Event Rat)} {program : Policy Rat → Program Rat α}
    (polls : Polls poll said program) {small large : Policy Rat} (delay : large.delay = small.delay)
    (attempts : small.maxAttempts ≤ large.maxAttempts) :
    (∀ (w : World Rat) (token : Option Rat) (entry : Rat),
      Extends token entry (poll small) (poll large) said (tell w token (program small) [] entry)
        (tell w token (program large) [] entry)) ∧
    ∀ r : Rehearsal Rat, Extends r.cancelAt r.clock (poll small) (poll large) said
      (ran (program small) r) (ran (program large) r) := by
  have inWorld (w : World Rat) (token : Option Rat) (entry : Rat) :
      Extends token entry (poll small) (poll large) said (tell w token (program small) [] entry)
        (tell w token (program large) [] entry) := by
    obtain ⟨h, hw⟩ := unfolds_tell w token (program small) [] entry
    obtain ⟨h', hw'⟩ := unfolds_tell w token (program large) [] entry
    obtain ⟨checks, hconsists⟩ := polls.consists small h
    obtain ⟨checks', hconsists'⟩ := polls.consists large h'
    exact hconsists.goes_on (polls.widens delay attempts) hw hconsists' hw'
  refine ⟨inWorld, fun r => ?_⟩
  rw [ran_eq_tell, ran_eq_tell]
  exact inWorld r.world r.cancelAt r.clock

/-- A pod is found by the second list: one attempt is too few, and two do the same as five. -/
theorem second_list_decides :
    let one : Policy Rat := ⟨1, 2, by decide, by decide⟩
    let two : Policy Rat := ⟨2, 2, by decide, by decide⟩
    let five : Policy Rat := ⟨5, 2, by decide, by decide⟩
    let p := Verify.awaitRunning "tests" "app=demo"
    let search := searching "tests" "app=demo"
    let said (pod : Observation) : List (Event Rat) :=
      [.noted .info ("Verified pod '" ++ pod.name ++ "' state running")]
    let r := Verification.lateLog
    Extends none 0 (search one) (search two) said (ran (p one) r) (ran (p two) r) ∧
      (calls (p one) r).map (·.start) = [0] ∧ (calls (p two) r).map (·.start) = [0, 2] ∧
      (ran (p two) r).result.toOption.isSome ∧ ran (p five) r = ran (p two) r := by
  intro one two five p search said r
  have polls := Polls.running "tests" "app=demo"
  have further (small large : Policy Rat) (delay : large.delay = small.delay)
      (attempts : small.maxAttempts ≤ large.maxAttempts) :=
    (larger_budget_only_extends polls delay attempts).2 r
  have found : (run (p two) r).1.toOption.isSome := by decide +kernel
  have returns : ∃ pod, (run (p two) r).1 = .ok pod := by
    cases h : (run (p two) r).1 with
    | ok pod => exact ⟨pod, rfl⟩
    | error e =>
      rw [h] at found
      cases found
  obtain ⟨pod, hpod⟩ := returns
  exact ⟨further one two rfl (by decide), by decide +kernel, by decide +kernel, found,
    (further two five rfl (by decide)).keeps pod hpod⟩

end Testbed.Extension
