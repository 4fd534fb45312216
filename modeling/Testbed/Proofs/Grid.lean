import Mathlib
import Testbed.Proofs.Requests
import Testbed.Proofs.Turns

/-!
The schedule of a poll over exact time.

Checks are due on a grid of points one delay apart, and start when they are due or, if the one
before takes longer, as soon as that has ended. A slow check moves the checks after it, but neither
the grid nor the deadline.
-/

namespace Testbed.Grid

open Rehearsal
open Polling (Poll)
open Turns
open Yaml (Value)

variable {α : Type}

/-! ### The schedule -/

/-- How long each check takes, and what it finds; the first one has number 0. -/
structure Course (α : Type) where
  cost : Nat → Rat
  found : Nat → Except (Failure Rat) (Option α)
  cost_nonneg : ∀ k, 0 ≤ cost k

namespace Course

variable (course : Course α)

/-- When each check starts. -/
def starts (start delay : Rat) : Nat → Rat
  | 0 => start
  | k + 1 => max (starts start delay k + course.cost k) (start + (k + 1 : Nat) * delay)

/-- After this check no other is made: it is met, or it is the last one, or the next one would not
start before the deadline. -/
def Stops (p : Poll Rat α) (start : Rat) (k : Nat) : Prop :=
  course.found k ≠ .ok none ∨ k + 1 = p.policy.maxAttempts ∨
    0 < p.policy.delay ∧
      start + p.policy.maxAttempts * p.policy.delay ≤ course.starts start p.policy.delay (k + 1)

/-- The turns of a poll take this course from check number `k` on. -/
def Governs (k : Nat) (turns : List (Turn Rat (Option α))) : Prop :=
  ∀ i t, turns[i]? = some t →
    t.finish = t.start + course.cost (k + i) ∧ t.found = course.found (k + i)

variable {course}

lemma Governs.first {k : Nat} {t : Turn Rat (Option α)} {turns : List (Turn Rat (Option α))}
    (h : course.Governs k (t :: turns)) :
    t.finish = t.start + course.cost k ∧ t.found = course.found k := h 0 t rfl

lemma Governs.others {k : Nat} {t : Turn Rat (Option α)} {turns : List (Turn Rat (Option α))}
    (h : course.Governs k (t :: turns)) : course.Governs (k + 1) turns := by
  intro i t' ht
  rw [Nat.add_right_comm, Nat.add_assoc]
  exact h (i + 1) t' ht

lemma starts_succ (start delay : Rat) (k : Nat) : course.starts start delay (k + 1) =
    max (course.starts start delay k + course.cost k) (start + (k + 1 : Nat) * delay) := rfl

end Course

/-! ### A poll on its schedule -/

lemma resumes_eq_max (p : Poll Rat α) (start : Rat) (n : Nat) (finish : Rat) :
    resumes p start n finish = max finish (start + n * p.policy.delay) := by
  have hgap : gap p start n finish = start + n * p.policy.delay - finish := rfl
  unfold resumes wakes
  rw [hgap]
  split
  · rw [max_eq_left (by linarith)]
  · rw [max_eq_right (by linarith)]
    ring

section

variable {p : Poll Rat α} {start now stop : Rat} {left k : Nat}
  {turns : List (Turn Rat (Option α))} {result : Except (Failure Rat) α} {course : Course α}

/-- From check number `k` on the poll keeps to its schedule, and makes `i` checks after that. -/
structure Keeps (p : Poll Rat α) (start : Rat) (course : Course α) (k i : Nat)
    (turns : List (Turn Rat (Option α))) (result : Except (Failure Rat) α) (stop : Rat) :
    Prop where
  stops : course.Stops p start (k + i)
  goes : ∀ j < i, ¬ course.Stops p start (k + j)
  starts : turns.map (·.start) = (List.range' k (i + 1)).map (course.starts start p.policy.delay)
  ends : Ends p start (k + i + 1) (course.starts start p.policy.delay (k + i) + course.cost (k + i))
    (course.found (k + i)) result stop

/-- The poll ends with this check. -/
lemma Keeps.only {t : Turn Rat (Option α)} (ht : t.start = course.starts start p.policy.delay k)
    (h : course.Governs k [t]) (stops : course.Stops p start k)
    (ends : Ends p start (k + 1) t.finish t.found result stop) :
    Keeps p start course k 0 [t] result stop := by
  obtain ⟨hfinish, hfound⟩ := h.first
  refine ⟨stops, nofun, by simpa using ht, ?_⟩
  rw [hfinish, hfound, ht] at ends
  exact ends

/-- The poll goes on after this check. -/
lemma Keeps.cons {i : Nat} {t : Turn Rat (Option α)}
    (ht : t.start = course.starts start p.policy.delay k) (goes : ¬ course.Stops p start k)
    (h : Keeps p start course (k + 1) i turns result stop) :
    Keeps p start course k (i + 1) (t :: turns) result stop := by
  have hnext (j : Nat) : k + (j + 1) = k + 1 + j := by omega
  refine ⟨by rw [hnext]; exact h.stops, fun j hj => ?_, ?_, by rw [hnext]; exact h.ends⟩
  · cases j with
    | zero => exact goes
    | succ j =>
      rw [hnext]
      exact h.goes j (Nat.lt_of_succ_lt_succ hj)
  · rw [List.map_cons, h.starts, ht, ← List.map_cons, ← List.range'_succ]

/-- When a check has ended that finds the condition unmet, the poll goes on as scheduled. -/
lemma resumes_eq_starts {finish : Rat}
    (hnow : finish = course.starts start p.policy.delay k + course.cost k) :
    resumes p start (k + 1) finish = course.starts start p.policy.delay (k + 1) := by
  rw [resumes_eq_max, hnow, Course.starts_succ]

/-- **A poll keeps to its schedule**, from each of its checks on. -/
theorem keeps_of_polled (h : Polled p start left (k + 1) now turns result stop)
    (hleft : left + (k + 1) = p.policy.maxAttempts)
    (hnow : now = course.starts start p.policy.delay k) (hc : course.Governs k turns) :
    ∃ i, Keeps p start course k i turns result stop := by
  have met {found : Except (Failure Rat) (Option α)} (hfound : found = course.found k)
      (hmet : found ≠ .ok none) : course.Stops p start k := Or.inl (hfound ▸ hmet)
  generalize hn : k + 1 = n at h
  induction h generalizing k with
  | value made =>
    subst hn
    exact ⟨0, .only hnow hc (met hc.first.2 nofun) (.value _)⟩
  | raised made =>
    subst hn
    exact ⟨0, .only hnow hc (met hc.first.2 nofun) (.raised _)⟩
  | last made =>
    subst hn
    have hlast : k + 1 = p.policy.maxAttempts := by omega
    exact ⟨0, .only hnow hc (Or.inr (Or.inl hlast)) .timedOut⟩
  | expired made ended =>
    subst hn
    have hfinish := hc.first.1
    rw [hnow] at hfinish
    rw [resumes_eq_starts hfinish] at ended
    exact ⟨0, .only hnow hc (Or.inr (Or.inr ended)) .timedOut⟩
  | @again left n now finish stop own turns result made goes more ih =>
    subst hn
    obtain ⟨hfinish, hfound⟩ := hc.first
    have hnext := resumes_eq_starts (hfinish.trans (congrArg (· + _) hnow))
    obtain ⟨i, hkeeps⟩ := ih (by omega) hnext hc.others
      (fun hfound hmet => Or.inl (hfound ▸ hmet)) rfl
    refine ⟨i + 1, .cons hnow ?_ hkeeps⟩
    rintro (hmet | hlast | hover)
    · exact hmet hfound.symm
    · omega
    · exact goes (hnext ▸ hover)

/-- The poll rests between two checks, and for no longer than a delay. -/
def NapsWithin (delay : Rat) (t : Turn Rat (Option α)) : Prop :=
  ∀ length cut, .waited length cut ∈ t.after → 0 < length ∧ length ≤ delay ∧ cut = false

lemma waited_of_rest {length delay : Rat} (hle : length ≤ delay) {nap : Rat} {cut : Bool}
    (h : .waited nap cut ∈ rest length) : 0 < nap ∧ nap ≤ delay ∧ cut = false := by
  unfold rest at h
  split at h
  · simp at h
  · rename_i hpos
    simp only [List.mem_cons, reduceCtorEq, Event.waited.injEq, List.not_mem_nil, or_false,
      false_or] at h
    obtain ⟨rfl, rfl⟩ := h
    exact ⟨not_le.1 hpos, hle, rfl⟩

/-- A rest ends when the next check is due, and starts no earlier than the last one was. -/
lemma napsWithin_of_polled (h : Polled p start left (k + 1) now turns result stop)
    (hnow : start + k * p.policy.delay ≤ now) (hc : ∀ t ∈ turns, t.start ≤ t.finish) :
    ∀ t ∈ turns, NapsWithin p.policy.delay t := by
  have short {k : Nat} {finish : Rat} (h : start + k * p.policy.delay ≤ finish) :
      gap p start (k + 1) finish ≤ p.policy.delay := by
    show start + (k + 1 : Nat) * p.policy.delay - finish ≤ _
    push_cast
    linarith
  generalize hn : k + 1 = n at h
  induction h generalizing k with
  | value made => exact List.forall_mem_singleton.2 nofun
  | raised made => exact List.forall_mem_singleton.2 nofun
  | last made =>
    subst hn
    have hfinish := hnow.trans (hc _ (List.mem_singleton_self _))
    exact List.forall_mem_singleton.2 fun _ _ hw => waited_of_rest (short hfinish) hw
  | expired made ended =>
    subst hn
    have hfinish := hnow.trans (hc _ (List.mem_singleton_self _))
    refine List.forall_mem_singleton.2 fun _ _ hw => waited_of_rest (short hfinish) ?_
    simpa [retrying, abandoning] using hw
  | again made goes more ih =>
    subst hn
    obtain ⟨hle, hrest⟩ := List.forall_mem_cons.1 hc
    have hfinish := hnow.trans hle
    refine List.forall_mem_cons.2 ⟨fun _ _ hw => waited_of_rest (short hfinish) ?_, ih ?_ hrest rfl⟩
    · simpa [retrying] using hw
    · rw [resumes_eq_max]
      exact le_max_right _ _

end

/-! ### Checks that all take the same time -/

section

variable {course : Course α} {cost : Rat}

lemma starts_const (hcost : ∀ k, course.cost k = cost) (start delay : Rat) (k : Nat) :
    course.starts start delay k = start + k * max cost delay := by
  induction k with
  | zero => simp [Course.starts]
  | succ k ih =>
    rw [Course.starts_succ, ih, hcost]
    push_cast
    rcases le_total cost delay with hle | hle
    · rw [max_eq_right hle, max_eq_right (by linarith)]
    · have : (k + 1 : Rat) * delay ≤ (k + 1) * cost :=
        mul_le_mul_of_nonneg_left hle (by positivity)
      rw [max_eq_left hle, max_eq_left (by linarith)]
      ring

/-- Unmet checks that all take some time go on until there are as many as allowed, or as many as
fit into the budget. -/
lemma attempts_eq_min {p : Poll Rat α} {start : Rat} {m : Nat} (pos : 0 < cost)
    (hdelay : 0 < p.policy.delay) (hcost : ∀ k, course.cost k = cost)
    (hfound : ∀ k, course.found k = .ok none) (h : IsLeast {k | course.Stops p start k} m) :
    m + 1 = min p.policy.maxAttempts ⌈p.policy.maxAttempts * p.policy.delay / cost⌉₊ := by
  obtain ⟨hstops, hleast⟩ := h
  have hmax := p.policy.maxAttempts_pos
  have hbudget : 0 < p.policy.maxAttempts * p.policy.delay / cost := by
    have : (0 : Rat) < p.policy.maxAttempts := by exact_mod_cast hmax
    positivity
  have stops_iff (k : Nat) : course.Stops p start k ↔ k + 1 = p.policy.maxAttempts ∨
      p.policy.maxAttempts * p.policy.delay ≤ (k + 1 : Nat) * max cost p.policy.delay := by
    unfold Course.Stops
    rw [starts_const hcost]
    simp [hfound, hdelay]
  refine le_antisymm (le_min ?_ ?_) ?_
  · have : m ≤ p.policy.maxAttempts - 1 := hleast ((stops_iff _).2 (Or.inl (by omega)))
    omega
  · have hceil := Nat.ceil_pos.2 hbudget
    have : m ≤ ⌈p.policy.maxAttempts * p.policy.delay / cost⌉₊ - 1 := by
      refine hleast ((stops_iff _).2 (Or.inr ?_))
      rw [Nat.sub_add_cancel hceil]
      calc (p.policy.maxAttempts : Rat) * p.policy.delay
          ≤ ⌈p.policy.maxAttempts * p.policy.delay / cost⌉₊ * cost :=
            (div_le_iff₀ pos).1 (Nat.le_ceil _)
        _ ≤ ⌈p.policy.maxAttempts * p.policy.delay / cost⌉₊ * max cost p.policy.delay :=
            mul_le_mul_of_nonneg_left (le_max_left _ _) (Nat.cast_nonneg _)
    omega
  · rcases (stops_iff m).1 hstops with hlast | hover
    · exact hlast ▸ min_le_left _ _
    · rcases le_total cost p.policy.delay with hle | hle
      · rw [max_eq_right hle] at hover
        have := le_of_mul_le_mul_right hover hdelay
        exact (min_le_left _ _).trans (by exact_mod_cast this)
      · rw [max_eq_left hle] at hover
        exact (min_le_right _ _).trans (Nat.ceil_le.2 ((div_le_iff₀ pos).2 hover))

end

/-! ### Scripted checks -/

lemma script_pause {τ : Type} [Seconds τ] (length : τ) (r : Rehearsal τ) :
    (r.pause length).2.script = r.script := by
  unfold pause sleep
  repeat' split
  all_goals rfl

/-- A probe takes the first of the script, and leaves the others. -/
lemma answer_probe (r : Rehearsal Rat) :
    (∀ probe, r.script.probes[0]? = some probe →
        r.callOf .probe = ⟨r.clock, .probe, probe.outcome, r.clock + probe.cost⟩) ∧
      ∀ j probe, r.script.probes[j + 1]? = some probe →
        (r.answer .probe).2.script.probes[j]? = some probe := by
  cases hs : r.script.probes with
  | nil => simp
  | cons a rest =>
    constructor
    · intro probe hprobe
      obtain rfl : a = probe := Option.some.inj hprobe
      cases rest <;> simp [callOf, answer, isRemote, serve, send, hs, advance]
    · intro j probe hprobe
      cases rest with
      | nil => simp at hprobe
      | cons b rest => simpa [answer, isRemote, serve, send, hs, advance] using hprobe

/-- A run that only probes is answered by the probes of its script, one after the other. -/
lemma calls_of_probes {β : Type} {p : Program Rat β} (hp : Asks (· = .probe) p) (r : Rehearsal Rat)
    {k : Nat} {c : Call Rat} (hc : (calls p r)[k]? = some c) {probe : Probe Rat}
    (hprobe : r.script.probes[k]? = some probe) :
    c = ⟨c.start, .probe, probe.outcome, c.start + probe.cost⟩ := by
  let Left (k : Nat) (s : Rehearsal Rat) : Prop :=
    ∀ j probe, r.script.probes[k + j]? = some probe → s.script.probes[j]? = some probe
  let Takes (k : Nat) (c : Call Rat) : Prop := ∀ probe, r.script.probes[k]? = some probe →
    c = ⟨c.start, .probe, probe.outcome, c.start + probe.cost⟩
  have htakes : Takes (0 + k) c := by
    refine hp.steps (I := Left) (C := Takes) (fun k s request h left => ?_)
      (fun k s length left => ?_) (fun k s _ _ left => left) (fun j probe h => ?_) hc
    · subst h
      obtain ⟨hcall, hnext⟩ := answer_probe s
      refine ⟨fun probe h => ?_, fun j probe h => hnext j probe (left _ _ ?_)⟩
      · rw [hcall probe (left 0 probe h)]
      · rwa [show k + (j + 1) = k + 1 + j by omega]
    · intro j probe h
      rw [script_pause]
      exact left j probe h
    · rwa [Nat.zero_add] at h
  rw [Nat.zero_add] at htakes
  exact htakes probe hprobe

/-- What a probe finds. -/
def probed : Except Fault Request.probe.Reply → Except (Failure Rat) (Option Value) :=
  Except.mapError .fault

/-- The course that probes of a script take. -/
def courseOf (probe : Nat → Probe Rat) (nonneg : ∀ k, 0 ≤ (probe k).cost) : Course Value :=
  ⟨fun k => (probe k).cost, fun k => probed (probe k).outcome, nonneg⟩

/-- A poll that probes. -/
def probing (policy : Policy Rat) (description waiting : String) : Poll Rat Value :=
  ⟨.send .probe, policy, description, waiting⟩

lemma judges_probe : Judges (Program.send .probe) .probe probed := by
  refine congrArg (Program.ask Request.probe) (funext fun answer => ?_)
  cases answer <;> rfl

/-- Each turn of a poll that probes takes the course of the next probe. -/
lemma governs_of_probes {policy : Policy Rat} {description waiting : String}
    {probe : Nat → Probe Rat} (nonneg : ∀ k, 0 ≤ (probe k).cost) {r : Rehearsal Rat}
    (hprobes : r.script.probes = (List.range policy.maxAttempts).map probe)
    {turns : List (Turn Rat (Option Value))} (hlength : turns.length ≤ policy.maxAttempts)
    (h : List.Forall₂ (Matches probed) turns
      (calls (Polling.pollUntil (probing policy description waiting)) r)) :
    (courseOf probe nonneg).Governs 0 turns := by
  have asks : Asks (· = .probe) (Polling.pollUntil (probing policy description waiting)) :=
    Requests.asks_pollUntil (.ask rfl fun answer => by cases answer <;> exact .done _)
  intro i t ht
  obtain ⟨c, hc, hstart, hfinish, hfinds⟩ := exists_call_of_getElem? h ht
  have hi : i < turns.length := (List.getElem?_eq_some_iff.1 ht).1
  have hprobe : r.script.probes[i]? = some (probe i) := by
    rw [hprobes, List.getElem?_map, List.getElem?_range (hi.trans_le hlength)]
    rfl
  have hcall := calls_of_probes asks r hc hprobe
  rw [hcall] at hstart hfinish hfinds
  rw [Nat.zero_add]
  constructor
  · rw [← hfinish, ← hstart]
    rfl
  · generalize t.found = found at hfinds
    cases hfinds
    rfl

/-! ### Main result -/

/-- A poll makes its checks as scheduled, up to the first one after which it stops, and ends with
what that finds. It rests between its checks, for no longer than a delay. -/
structure OnGrid (p : Poll Rat α) (start : Rat) (course : Course α)
    (turns : List (Turn Rat (Option α))) (result : Except (Failure Rat) α) (stop : Rat) :
    Prop where
  scheduled : ∃ m, IsLeast {k | course.Stops p start k} m ∧
    turns.map (·.start) = (List.range (m + 1)).map (course.starts start p.policy.delay) ∧
    Ends p start (m + 1) (course.starts start p.policy.delay m + course.cost m) (course.found m)
      result stop
  naps : ∀ t ∈ turns, NapsWithin p.policy.delay t
  unmet : ∀ cost, 0 < cost → 0 < p.policy.delay → (∀ k, course.cost k = cost) →
    (∀ k, course.found k = .ok none) → turns.length =
      min p.policy.maxAttempts ⌈p.policy.maxAttempts * p.policy.delay / cost⌉₊

lemma Course.Governs.finishes {course : Course α} {k : Nat} {turns : List (Turn Rat (Option α))}
    (h : course.Governs k turns) : ∀ t ∈ turns, t.start ≤ t.finish := by
  intro t ht
  obtain ⟨i, hi⟩ := List.mem_iff_getElem?.1 ht
  rw [(h i t hi).1]
  exact le_add_of_nonneg_right (course.cost_nonneg _)

lemma onGrid_of_polled {p : Poll Rat α} {start stop : Rat} {turns : List (Turn Rat (Option α))}
    {result : Except (Failure Rat) α}
    (h : Polled p start (p.policy.maxAttempts - 1) 1 start turns result stop) {course : Course α}
    (hc : course.Governs 0 turns) : OnGrid p start course turns result stop := by
  have hmax := p.policy.maxAttempts_pos
  obtain ⟨m, hkeeps⟩ := keeps_of_polled h (by omega) rfl hc
  obtain ⟨hstops, hgoes, hstarts, hends⟩ := hkeeps
  simp only [Nat.zero_add] at hstops hgoes hends
  have hleast : IsLeast {k | course.Stops p start k} m :=
    ⟨hstops, fun k hk => not_lt.1 fun hlt => hgoes k hlt hk⟩
  rw [← List.range_eq_range'] at hstarts
  refine ⟨⟨m, hleast, hstarts, hends⟩, napsWithin_of_polled h (by simp) hc.finishes,
    fun cost pos hdelay hcost hfound => ?_⟩
  have hlength := congrArg List.length hstarts
  rw [List.length_map, List.length_map, List.length_range] at hlength
  rw [hlength, attempts_eq_min pos hdelay hcost hfound hleast]

lemma polled_of_pollUntil {p : Poll Rat α} {start stop : Rat} {events : List (Event Rat)}
    {result : Except (Failure Rat) α}
    (h : Unfolds none (Polling.pollUntil p) start events result stop) :
    ∃ turns, events = happened turns ∧
      Polled p start (p.policy.maxAttempts - 1) 1 start turns result stop := by
  rcases unfolds_pollUntil h with ⟨hnone, -⟩ | hturns
  · cases hnone
  · exact hturns

/-- **A poll follows its grid.** Over exact time and without a token, however long the checks take
and whatever they find, they start as scheduled, and the first one after which the poll stops is
its last and decides how it ends. In particular this holds for every script of probes. -/
theorem poll_follows_grid :
    (∀ {α : Type} (p : Poll Rat α) {start stop : Rat} {events : List (Event Rat)}
      {result : Except (Failure Rat) α},
      Unfolds none (Polling.pollUntil p) start events result stop →
        ∃ turns, events = happened turns ∧ (∀ t ∈ turns, Makes p.check t) ∧
          ∀ course : Course α, course.Governs 0 turns →
            OnGrid p start course turns result stop) ∧
    ∀ (policy : Policy Rat) (description waiting : String) (probe : Nat → Probe Rat)
      (nonneg : ∀ k, 0 ≤ (probe k).cost) (r : Rehearsal Rat), r.cancelAt = none →
      r.script.probes = (List.range policy.maxAttempts).map probe →
        let p := probing policy description waiting
        ∃ turns, trace (Polling.pollUntil p) r = happened turns ∧
          List.Forall₂ (Matches probed) turns (calls (Polling.pollUntil p) r) ∧
            OnGrid p r.clock (courseOf probe nonneg) turns (run (Polling.pollUntil p) r).1
              (run (Polling.pollUntil p) r).2.clock := by
  refine ⟨fun p _ _ _ _ h => ?_, ?_⟩
  · obtain ⟨turns, hevents, hpolled⟩ := polled_of_pollUntil h
    exact ⟨turns, hevents, hpolled.made, fun course hc => onGrid_of_polled hpolled hc⟩
  · intro policy description waiting probe nonneg r htoken hprobes p
    have h := unfolds_run (Polling.pollUntil p) r
    rw [htoken] at h
    obtain ⟨turns, hevents, hpolled⟩ := polled_of_pollUntil h
    have hmatches := calls_of_turns (p := p) judges_probe hpolled.made
    rw [← hevents] at hmatches
    have hlength : turns.length ≤ policy.maxAttempts := by
      obtain ⟨before, last, rfl, hle, -⟩ := hpolled.decided
      have hmax := policy.maxAttempts_pos
      have : before.length ≤ policy.maxAttempts - 1 := hle
      rw [List.length_append, List.length_singleton]
      omega
    exact ⟨turns, hevents, hmatches,
      onGrid_of_polled hpolled (governs_of_probes nonneg hprobes hlength hmatches)⟩

/-- A cluster where a condition never holds, and each look at it takes five seconds. -/
def sluggish : Rehearsal Rat :=
  { Truncation.neverMet with
    script := ⟨[], [], [], (List.range 3).map fun _ => ⟨5, .ok none⟩, true, none⟩ }

/-- Of three checks two seconds apart only two are made if each takes five seconds: the second one
starts late and ends after the deadline. -/
theorem slow_checks_take_budget :
    let policy : Policy Rat := ⟨3, 2, by decide, by decide⟩
    let p := probing policy "The condition does not hold" "Waiting"
    let course := courseOf (fun _ => ⟨5, .ok none⟩) fun _ => by decide
    let ended := run (Polling.pollUntil p) sluggish
    (∃ turns, trace (Polling.pollUntil p) sluggish = happened turns ∧ course.Governs 0 turns ∧
        OnGrid p 0 course turns ended.1 ended.2.clock ∧ turns.length = 2) ∧
      (∃ turns, List.Forall₂ (Matches probed) turns (calls (Polling.pollUntil p) sluggish) ∧
        OnGrid p 0 course turns ended.1 ended.2.clock) ∧
      (calls (Polling.pollUntil p) sluggish).map (·.start) = [0, 5] := by
  intro policy p course ended
  have nonneg (k : Nat) : 0 ≤ course.cost k := course.cost_nonneg k
  have hcalls : (calls (Polling.pollUntil p) sluggish).map (·.start) = [0, 5] := by decide +kernel
  obtain ⟨turns, hevents, made, hgrid⟩ :=
    poll_follows_grid.1 p (unfolds_run (Polling.pollUntil p) sluggish)
  have hmatches := calls_of_turns (p := p) judges_probe made
  rw [← hevents] at hmatches
  have hlength : turns.length = 2 := by
    have := congrArg List.length hcalls
    rw [List.length_map] at this
    exact hmatches.length_eq.trans this
  have hgoverns : course.Governs 0 turns :=
    governs_of_probes nonneg rfl (by rw [hlength]; decide) hmatches
  obtain ⟨turns', -, hmatches', hgrid'⟩ :=
    poll_follows_grid.2 policy _ _ (fun _ => ⟨5, .ok none⟩) nonneg sluggish rfl rfl
  exact ⟨⟨turns, hevents, hgoverns, hgrid course hgoverns, hlength⟩, ⟨turns', hmatches', hgrid'⟩,
    hcalls⟩

end Testbed.Grid
