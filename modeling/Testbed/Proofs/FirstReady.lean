import Mathlib
import Testbed.Proofs.Attempts
import Testbed.Proofs.Grid
import Testbed.Proofs.Readiness

/-!
Waiting for a pod is over with the first list that shows one.

Without faults and without a token the lists come one after the other from the script of the
cluster, and the poll keeps to a schedule that only depends on how long a request takes. So it is
known in advance which lists are asked for, and the first one of them with a ready pod decides.
-/

namespace Testbed.FirstReady

open Rehearsal
open Polling (Poll)
open Readiness
open Turns
open Verification (spot searching judges_findRunning unfolds_noted notRunning)

variable {τ α : Type}

/-! ### Lists -/

/-- What is answered to the request for pods with this number, from lists that come in order, the
last one again and again. -/
def response (pods : List (Option (List Pod))) : Nat → Option (List Pod)
  | 0 => (advance (some []) pods).1
  | k + 1 => response (advance (some []) pods).2 k

/-- The pods that the cluster lists when it is asked for the time with this number. -/
def lists (r : Rehearsal τ) (k : Nat) : List Pod := (response r.script.pods k).getD []

/-- All pods of all lists can be observed. -/
def Observable (r : Rehearsal τ) : Prop :=
  ∀ listed ∈ r.script.pods, ∀ p ∈ listed.getD [], ∃ o, Observation.ofPod p = .ok o

/-- One of the pods of a list is ready. -/
def Shows (r : Rehearsal τ) (k : Nat) : Prop := ∃ p ∈ lists r k, Ready p

lemma response_mem (pods : List (Option (List Pod))) (k : Nat) :
    response pods k ∈ pods ∨ response pods k = some [] := by
  induction k generalizing pods with
  | zero =>
    match pods with
    | [] => exact Or.inr rfl
    | [a] => exact Or.inl (List.mem_singleton_self a)
    | a :: b :: rest => exact Or.inl List.mem_cons_self
  | succ k ih =>
    match pods with
    | [] => exact ih []
    | [a] => exact ih [a]
    | a :: b :: rest => exact (ih (b :: rest)).imp_left (List.mem_cons_of_mem a)

lemma exists_observed {listed : List Pod}
    (h : ∀ p ∈ listed, ∃ o, Observation.ofPod p = .ok o) :
    ∃ observed, List.Forall₂ (fun p o => Observation.ofPod p = .ok o) listed observed := by
  induction listed with
  | nil => exact ⟨[], .nil⟩
  | cons p listed ih =>
    obtain ⟨⟨o, ho⟩, hrest⟩ := List.forall_mem_cons.1 h
    obtain ⟨observed, hobserved⟩ := ih hrest
    exact ⟨o :: observed, .cons ho hobserved⟩

/-- The check of a list finds its first ready pod, or none. -/
lemma Observable.spot {r : Rehearsal τ} (h : Observable r) (k : Nat) :
    (∃ p o, spot (.ok (response r.script.pods k)) = (.ok (some o) : Except (Failure τ) _) ∧
        Picked (lists r k) p o) ∨
      spot (.ok (response r.script.pods k)) = (.ok none : Except (Failure τ) _) ∧
        ¬ Shows r k := by
  have hall : ∀ p ∈ lists r k, ∃ o, Observation.ofPod p = .ok o := by
    intro p hp
    unfold lists at hp
    rcases response_mem r.script.pods k with hmem | hnone
    · exact h _ hmem p hp
    · rw [hnone] at hp
      cases hp
  obtain ⟨observed, hobserved⟩ := exists_observed hall
  have hspot : Verification.spot (.ok (response r.script.pods k)) =
      (.ok (observed.find? (·.isReady)) : Except (Failure τ) _) := by
    have hmap := mapM_of_forall₂ hobserved
    unfold lists at hmap
    simp only [Verification.spot, hmap]
  rw [hspot]
  rcases search hobserved with ⟨p, o, hfind, picked⟩ | ⟨hfind, hnone⟩
  · exact Or.inl ⟨p, o, congrArg Except.ok hfind, picked⟩
  · refine Or.inr ⟨congrArg Except.ok hfind, ?_⟩
    rintro ⟨p, hp, hready⟩
    exact hnone p hp hready

lemma Picked.shows {r : Rehearsal τ} {k : Nat} {p : Pod} {o : Observation}
    (h : Picked (lists r k) p o) : Shows r k := by
  obtain ⟨before, after, hlisted, -⟩ := h.first
  refine ⟨p, ?_, h.ready⟩
  rw [hlisted]
  exact List.mem_append_right _ List.mem_cons_self

section

variable [Seconds τ] {ns selector : String}

/-- Without faults a request for pods gets the next list. -/
lemma answer_pods (ns selector : String) {r : Rehearsal τ} (free : Faultless r.script) :
    r.callOf (.pods ns selector) = ⟨r.clock, .pods ns selector, .ok (response r.script.pods 0),
        r.clock + r.cost⟩ ∧
      (r.answer (.pods ns selector)).2.cost = r.cost ∧
      Faultless (r.answer (.pods ns selector)).2.script ∧
      ∀ k, response (r.answer (.pods ns selector)).2.script.pods k =
        response r.script.pods (k + 1) := by
  have hfree : Faultless (r.reached (.pods ns selector)).script := free.reached.2
  unfold callOf
  rw [free.answer]
  exact ⟨rfl, rfl, hfree, fun k => rfl⟩

/-- A run that only asks for pods gets the lists one after the other. -/
lemma calls_of_lists {p : Program τ α} (hp : Asks (· = .pods ns selector) p) {r : Rehearsal τ}
    (free : Faultless r.script) {k : Nat} {c : Call τ} (hc : (calls p r)[k]? = some c) :
    c = ⟨c.start, .pods ns selector, .ok (response r.script.pods k), c.start + r.cost⟩ := by
  let Left (k : Nat) (s : Rehearsal τ) : Prop := s.cost = r.cost ∧ Faultless s.script ∧
    ∀ j, response s.script.pods j = response r.script.pods (k + j)
  let Gets (k : Nat) (c : Call τ) : Prop :=
    c = ⟨c.start, .pods ns selector, .ok (response r.script.pods k), c.start + r.cost⟩
  have hgets : Gets (0 + k) c := by
    refine hp.steps (I := Left) (C := Gets) (fun k s request h left => ?_)
      (fun k s length left => ?_) (fun k s _ _ left => left) ⟨rfl, free, fun j => ?_⟩ hc
    · subst h
      obtain ⟨hcost, hfree, hlists⟩ := left
      obtain ⟨hcall, hcost', hfree', hnext⟩ := answer_pods ns selector hfree
      refine ⟨?_, hcost'.trans hcost, hfree', fun j => ?_⟩
      · rw [hcall, hcost, hlists]
        rfl
      · rw [hnext, hlists, show k + (j + 1) = k + 1 + j by omega]
    · have hcost : (s.pause length).2.cost = s.cost :=
        (frame_run (.pause length fun _ => .done (.ok ()) : Program τ Unit) s).1
      show _ = r.cost ∧ Faultless (s.pause length).2.script ∧ _
      rw [hcost, Grid.script_pause]
      exact left
    · rw [Nat.zero_add]
  rwa [Nat.zero_add] at hgets

end

/-! ### The schedule -/

section

variable [Seconds τ]

/-- When a poll that starts at some time comes to each check, if those before are unmet and all
take the same time; the first check has number 0. -/
def due (p : Poll τ α) (start cost : τ) : Nat → τ
  | 0 => start
  | k + 1 => resumes p start (k + 1) (due p start cost k + cost)

/-- The poll comes to the check with this number, if those before are unmet. -/
structure Reaches (p : Poll τ α) (start cost : τ) (k : Nat) : Prop where
  budget : p.policy.budget?.isSome = true
  allowed : k < p.policy.maxAttempts
  inTime : ∀ j < k, ¬ IsOver p start (due p start cost (j + 1))

variable {p : Poll τ α} {start cost now stop : τ} {left k : Nat} {turns : List (Turn τ (Option α))}
  {result : Except (Failure τ) α}

/-- From check `k` on the poll goes on while it is in time, and its last check is met or is the
last one that is allowed. -/
structure OnTime (p : Poll τ α) (start cost : τ) (k : Nat) (turns : List (Turn τ (Option α))) :
    Prop where
  goes : ∀ j, j + 1 < turns.length → ¬ IsOver p start (due p start cost (k + j + 1))
  ended : ∀ t, turns.getLast? = some t → t.found = .ok none →
    k + turns.length = p.policy.maxAttempts ∨ IsOver p start (due p start cost (k + turns.length))

lemma OnTime.only {t : Turn τ (Option α)} (h : t.found = .ok none →
    k + 1 = p.policy.maxAttempts ∨ IsOver p start (due p start cost (k + 1))) :
    OnTime p start cost k [t] := by
  refine ⟨fun j hj => ?_, fun t' ht => ?_⟩
  · simp at hj
  · obtain rfl := Option.some.inj ht
    exact h

lemma OnTime.cons {t : Turn τ (Option α)} (goes : ¬ IsOver p start (due p start cost (k + 1)))
    (some : turns ≠ []) (h : OnTime p start cost (k + 1) turns) :
    OnTime p start cost k (t :: turns) := by
  refine ⟨fun j hj => ?_, fun t' ht hunmet => ?_⟩
  · cases j with
    | zero => exact goes
    | succ j =>
      have hnext := h.goes j (by simpa using hj)
      rwa [show k + 1 + j + 1 = k + (j + 1) + 1 by omega] at hnext
  · rw [List.getLast?_cons_of_ne_nil some] at ht
    have hended := h.ended t' ht hunmet
    rwa [show k + 1 + turns.length = k + (t :: turns).length by
      rw [List.length_cons]; omega] at hended

lemma onTime_of_polled (h : Polled p start left (k + 1) now turns result stop)
    (hleft : left + (k + 1) = p.policy.maxAttempts) (hnow : now = due p start cost k)
    (lasts : ∀ t ∈ turns, t.finish = t.start + cost) : OnTime p start cost k turns := by
  generalize hn : k + 1 = n at h
  induction h generalizing k with
  | value made => exact .only nofun
  | raised made => exact .only nofun
  | last made =>
    subst hn
    exact .only fun _ => Or.inl (by omega)
  | @expired left n now finish own made ended =>
    subst hn
    have hfinish : finish = now + cost := lasts _ (List.mem_singleton_self _)
    rw [hfinish, hnow] at ended
    exact .only fun _ => Or.inr ended
  | @again left n now finish stop own turns result made goes more ih =>
    subst hn
    obtain ⟨hfinish, hrest⟩ := List.forall_mem_cons.1 lasts
    have hnext : resumes p start (k + 1) finish = due p start cost (k + 1) := by
      rw [show finish = now + cost from hfinish, hnow]
      rfl
    have some : turns ≠ [] := by
      obtain ⟨before, last, rfl, -⟩ := more.decided
      exact List.append_ne_nil_of_right_ne_nil _ (List.cons_ne_nil _ _)
    exact .cons (hnext ▸ goes) some (ih (by omega) hnext hrest rfl)

end

/-! ### Main result -/

/-- What comes of waiting for a pod, with the calls that are made. -/
structure Searched [Seconds τ] (ns selector : String) (policy : Policy τ) (r : Rehearsal τ)
    (cs : List (Call τ)) (result : Except (Failure τ) Observation) : Prop where
  asked : ∀ c ∈ cs, c.request = .pods ns selector
  /-- The first list that shows a ready pod is the last one that is asked for, if the poll comes so
  far. -/
  found : ∀ k, IsLeast {k | Shows r k} k → Reaches (searching ns selector policy) r.clock r.cost k →
    cs.length = k + 1 ∧ ∃ p o, Picked (lists r k) p o ∧ result = .ok o
  /-- Otherwise all lists that are asked for show none. -/
  missed : (∀ k, IsLeast {k | Shows r k} k →
      ¬ Reaches (searching ns selector policy) r.clock r.cost k) →
    (∀ k < cs.length, ¬ Shows r k) ∧
      (policy.budget? = none ∧ cs = [] ∧ result = .error .tooManyChecks ∨
        cs ≠ [] ∧ ∃ t, result = .error (.timedOut t) ∧
          ∃ before after, t.message = before ++ selector ++ after)

section

variable [Seconds τ] {ns selector : String} {policy : Policy τ} {r : Rehearsal τ}

lemma message_names_selector (start now : τ) (attempts : Nat) :
    ∃ before after, (expiry (searching ns selector policy) start attempts now).message =
      before ++ selector ++ after := by
  refine ⟨"Pods matching '", "' are not running" ++ " after " ++ toString attempts ++
    " attempts" ++ " (timeout " ++ Seconds.text policy.budget ++ "s)", ?_⟩
  simp only [Timeout.message, expiry, searching, notRunning, String.append_assoc]

/-- Each turn gets the next list, and takes as long as a request takes. -/
def Served (r : Rehearsal τ) (turns : List (Turn τ (Option Observation))) : Prop :=
  ∀ i t, turns[i]? = some t →
    t.finish = t.start + r.cost ∧ t.found = spot (.ok (response r.script.pods i))

lemma served_of_matches {p : Program τ α} (asks : Asks (· = .pods ns selector) p)
    (free : Faultless r.script) {turns : List (Turn τ (Option Observation))}
    (h : List.Forall₂ (@Matches τ (Option Observation) (.pods ns selector) spot) turns (calls p r)) :
    Served r turns := by
  intro i t ht
  obtain ⟨c, hc, hstart, hfinish, hfinds⟩ := exists_call_of_getElem? h ht
  have hcall := calls_of_lists asks free hc
  rw [hcall] at hstart hfinish hfinds
  constructor
  · rw [← hfinish, ← hstart]
  · generalize t.found = found at hfinds
    cases hfinds
    rfl

/-- A list that leaves the check unmet shows no ready pod. -/
lemma Served.not_shows {turns : List (Turn τ (Option Observation))} (served : Served r turns)
    (observable : Observable r) {i : Nat} {t : Turn τ (Option Observation)}
    (ht : turns[i]? = some t) (unmet : t.found = .ok none) : ¬ Shows r i := by
  have hspot := (served i t ht).2.symm.trans unmet
  rcases observable.spot i with ⟨p, o, hsome, -⟩ | ⟨-, hnone⟩
  · cases hsome.symm.trans hspot
  · exact hnone

lemma Served.not_shows_before {before : List (Turn τ (Option Observation))}
    {last : Turn τ (Option Observation)} (served : Served r (before ++ [last]))
    (observable : Observable r) (unmet : ∀ t ∈ before, t.found = .ok none) :
    ∀ i < before.length, ¬ Shows r i := by
  intro i hi
  refine served.not_shows observable ?_ (unmet before[i] (List.getElem_mem hi))
  rw [List.getElem?_append_left hi, List.getElem?_eq_getElem hi]

/-- The last list shows a pod and those before it show none, so it is the first one that does. -/
lemma searched_of_shown {cs : List (Call τ)} {k : Nat} {p : Pod} {o : Observation}
    (asked : ∀ c ∈ cs, c.request = .pods ns selector) (hcs : cs.length = k + 1)
    (reaches : Reaches (searching ns selector policy) r.clock r.cost k)
    (hbefore : ∀ i < k, ¬ Shows r i) (picked : Picked (lists r k) p o) :
    Searched ns selector policy r cs (.ok o) := by
  have hleast : IsLeast {k | Shows r k} k :=
    ⟨Picked.shows picked, fun j hj => not_lt.1 fun hlt => hbefore j hlt hj⟩
  refine ⟨asked, fun j hj _ => ?_, fun hmissed => absurd reaches (hmissed k hleast)⟩
  obtain rfl := hj.unique hleast
  exact ⟨hcs, p, o, picked, rfl⟩

/-- No list shows a pod, so the poll stops for lack of checks or of time, and it would have stopped
there before it came to any list that does. -/
lemma searched_of_unshown {cs : List (Call τ)} {n attempts : Nat} {start now : τ}
    (asked : ∀ c ∈ cs, c.request = .pods ns selector) (hcs : cs.length = n + 1)
    (unshown : ∀ i < cs.length, ¬ Shows r i)
    (ended : n + 1 = policy.maxAttempts ∨ IsOver (searching ns selector policy) r.clock
      (due (searching ns selector policy) r.clock r.cost (n + 1))) :
    Searched ns selector policy r cs
      (.error (.timedOut (expiry (searching ns selector policy) start attempts now))) := by
  refine ⟨asked, fun k hk reaches => ?_, fun _ => ⟨unshown, Or.inr ⟨?_, _, rfl, ?_⟩⟩⟩
  · have hlt : n < k := by
      by_contra hge
      exact unshown k (by omega) hk.1
    have hallowed : k < policy.maxAttempts := reaches.allowed
    rcases ended with hlimit | hover
    · omega
    · exact absurd hover (reaches.inTime n hlt)
  · exact List.ne_nil_of_length_eq_add_one hcs
  · exact message_names_selector _ _ _

lemma searched_of_polled {stop : τ} {turns : List (Turn τ (Option Observation))}
    {cs : List (Call τ)} {result : Except (Failure τ) Observation}
    (budget : policy.budget?.isSome = true)
    (h : Polled (searching ns selector policy) r.clock (policy.maxAttempts - 1) 1 r.clock turns
      result stop)
    (served : Served r turns) (observable : Observable r) (hlength : cs.length = turns.length)
    (asked : ∀ c ∈ cs, c.request = .pods ns selector) :
    Searched ns selector policy r cs result := by
  have hmax := policy.maxAttempts_pos
  have onTime : OnTime (searching ns selector policy) r.clock r.cost 0 turns := by
    refine onTime_of_polled h (Nat.sub_add_cancel hmax) rfl fun t ht => ?_
    obtain ⟨i, hi⟩ := List.mem_iff_getElem?.1 ht
    exact (served i t hi).1
  obtain ⟨before, last, rfl, hle, hunmet, hends⟩ := h.decided
  obtain ⟨goes, ended⟩ := onTime
  simp only [List.length_append, List.length_singleton, Nat.zero_add] at goes ended
  have hcs : cs.length = before.length + 1 := by rw [hlength, List.length_append]; rfl
  have hbefore : ∀ i < before.length, ¬ Shows r i := served.not_shows_before observable hunmet
  have hlast := (served before.length last List.getElem?_concat_length).2
  rcases observable.spot before.length with ⟨p, o, hspot, picked⟩ | ⟨hspot, hnone⟩
  · rw [hlast, hspot] at hends
    cases hends
    have reaches : Reaches (searching ns selector policy) r.clock r.cost before.length := by
      refine ⟨budget, ?_, fun j hj => goes j (Nat.succ_lt_succ hj)⟩
      show before.length < policy.maxAttempts
      omega
    exact searched_of_shown asked hcs reaches hbefore picked
  · have unshown : ∀ i < cs.length, ¬ Shows r i := by
      intro i hi
      rcases Nat.lt_succ_iff_lt_or_eq.1 (hcs ▸ hi) with hlt | rfl
      · exact hbefore i hlt
      · exact hnone
    have hended := ended last List.getLast?_concat (hlast.trans hspot)
    rw [hlast, hspot] at hends
    cases hends
    exact searched_of_unshown asked hcs unshown hended

/-- Without a budget the wait is over before the first check. Else the poll makes its checks. -/
lemma refused_or_attempted (ns selector : String) (policy : Policy τ) (r : Rehearsal τ) :
    let p := Verify.awaitRunning ns selector policy
    policy.budget? = none ∧ calls p r = [] ∧ (run p r).1 = .error .tooManyChecks ∨
      policy.budget?.isSome = true ∧ ∃ own, calls p r = callsIn own ∧
        Unfolds r.cancelAt
          ((searching ns selector policy).attempt r.clock (policy.maxAttempts - 1) 1) r.clock own
          (run p r).1 (run p r).2.clock := by
  intro p
  have unfolds := unfolds_run p r
  obtain ⟨own, hevents, polled⟩ :=
    unfolds_noted (p := Polling.pollUntil (searching ns selector policy)) unfolds
  have hcalls : calls p r = callsIn own := by
    show callsIn (trace p r) = _
    rw [hevents, callsIn_append, Verification.callsIn_closing_noted, List.append_nil]
  rcases begins_of_unfolds polled with ⟨hnone, rfl, hresult, -⟩ | ⟨hsome, hattempt⟩
  · exact Or.inl ⟨hnone, hcalls, hresult⟩
  · exact Or.inr ⟨hsome, own, hcalls, hattempt⟩

/-- **The first ready pod of the first list that has one is returned**, if the schedule of the poll
comes to that list. Otherwise the poll gives up, and none of the lists that it got shows one. -/
theorem first_ready_pod_returned (ns selector : String) (policy : Policy τ) (r : Rehearsal τ)
    (free : Faultless r.script) (untold : r.cancelAt = none) (observable : Observable r) :
    Searched ns selector policy r (calls (Verify.awaitRunning ns selector policy) r)
      (run (Verify.awaitRunning ns selector policy) r).1 := by
  have asks : Asks (· = .pods ns selector) (Verify.awaitRunning ns selector policy) :=
    Requests.asks_awaitRunning (P := (· = .pods ns selector)) rfl policy
  have asked := asks.calls r
  rcases refused_or_attempted ns selector policy r with
    ⟨hnone, hcalls, hresult⟩ | ⟨hsome, own, hcalls, hattempt⟩
  · rw [hcalls, hresult]
    refine ⟨by simp, fun k _ hreaches => ?_, fun _ => ⟨by simp, Or.inl ⟨hnone, rfl, rfl⟩⟩⟩
    have hsome : policy.budget?.isSome = true := hreaches.budget
    rw [hnone] at hsome
    cases hsome
  · rw [untold] at hattempt
    obtain ⟨turns, rfl, hpolled⟩ := polled_of_unfolds hattempt
    have hmatches : List.Forall₂ (@Matches τ (Option Observation) (.pods ns selector) spot) turns
        (callsIn (happened turns)) :=
      calls_of_turns (judges_findRunning ns selector) hpolled.made
    rw [← hcalls] at hmatches
    exact searched_of_polled hsome hpolled (served_of_matches asks free hmatches) observable
      hmatches.length_eq.symm asked

end

/-- A cluster that lists no pod at first, and then two of which the second one is ready. -/
def filling : Rehearsal Rat :=
  let pod (name : String) (ready : Bool) : Pod := ⟨some ⟨.text name, .text "tests"⟩,
    .text "Running", [(.text "app", .bool ready)], [.text "app"]⟩
  { Truncation.neverMet with
    cost := 1
    script := ⟨[], [some [], some [pod "demo-0" false, pod "demo-1" true]], [], [], true, none⟩ }

/-- The second list is the last one that is asked for. -/
theorem second_pod_of_second_list :
    let policy : Policy Rat := ⟨3, 2, by decide, by decide⟩
    let p := Verify.awaitRunning "tests" "app=demo" policy
    (calls p filling).length = 2 ∧
      ∃ pod o, Picked (lists filling 1) pod o ∧ (run p filling).1 = .ok o := by
  intro policy p
  have free : Faultless filling.script := by simp [Faultless, filling]
  have observable : Observable filling := by
    intro listed hmem pod hpod
    rcases List.mem_pair.1 hmem with rfl | rfl
    · cases hpod
    · rcases List.mem_pair.1 hpod with rfl | rfl
      · exact ⟨_, rfl⟩
      · exact ⟨_, rfl⟩
  have shows : Shows filling 1 := by
    refine ⟨_, List.mem_cons_of_mem _ (List.mem_singleton_self _), ⟨rfl, nofun, ?_⟩⟩
    exact List.forall_mem_singleton.2 rfl
  have least : IsLeast {k | Shows filling k} 1 := by
    refine ⟨shows, fun k hk => ?_⟩
    by_contra hlt
    obtain rfl : k = 0 := by omega
    obtain ⟨pod, hpod, -⟩ := hk
    cases hpod
  have reaches : Reaches (searching "tests" "app=demo" policy) filling.clock filling.cost 1 := by
    refine ⟨rfl, by decide, fun j hj => ?_⟩
    obtain rfl : j = 0 := by omega
    unfold IsOver
    decide +kernel
  exact (first_ready_pod_returned "tests" "app=demo" policy filling free rfl observable).found 1
    least reaches

/-- More checks than there are seconds in any length of time. -/
def countless : Policy Float := ⟨Nat.pow 10 309, 1e-300, by decide +kernel, by decide +kernel⟩

/-- With so many checks the poll ends before the first one, and not because time is up. -/
theorem countless_checks_are_refused :
    let world : Rehearsal Float :=
      ⟨0, 2000000000, 0, none, ⟨[], []⟩, ⟨[], [], [], [], true, none⟩, .empty⟩
    let p := Verify.awaitRunning "tests" "app=demo" countless
    Faultless world.script ∧ world.cancelAt = none ∧ Observable world ∧ (∀ k, ¬ Shows world k) ∧
      calls p world = [] ∧ (run p world).1 = .error .tooManyChecks := by
  intro world p
  have unlisted (k : Nat) : ¬ Shows world k := by
    rintro ⟨pod, hpod, -⟩
    unfold lists at hpod
    rcases response_mem world.script.pods k with hmem | hnone
    · cases hmem
    · rw [hnone] at hpod
      cases hpod
  have budget : countless.budget? = none := by
    unfold Policy.budget?
    exact if_neg (by decide +kernel)
  refine ⟨nofun, rfl, nofun, unlisted, ?_⟩
  rcases refused_or_attempted "tests" "app=demo" countless world with ⟨-, ended⟩ | ⟨hsome, -⟩
  · exact ended
  · rw [budget] at hsome
    cases hsome

end Testbed.FirstReady
