import Mathlib
import Testbed.Proofs.Turns
import Testbed.Proofs.Undisturbed

/-!
How many checks a wait for a type makes.

Each turn looks into discovery once and then sleeps for the interval, or until the deadline if that
comes first. A check is followed by another only if the whole interval fits in between, so the
number of checks is bounded by the time that is set aside, however long they take. If all of them
take the same time, the turns are the ticks of a clock: the wait ends at the first tick at which the
type is listed, or else at the last tick before the deadline.
-/

namespace Testbed.Ticks

open Rehearsal
open Cancellation (isCall_isServed)
open Deadline (Missed Rests expiry missed_of_unfolds turn_eq turns_eq unfolds_call lt_bound)
open Install (Serving)
open Presence (Tells verdict isServed_eq kinds_tells)
open Turns (Turn happened happened_cons happened_single happened_check Judges)
open Yaml (Value)

/-! ### The turns of a wait -/

/-- The turns of a wait from one of its checks on, which it makes at some time, and how it ends;
`n` checks have been made before. -/
inductive Waited (token : Option Rat) (s : Serving Rat) (entry : Rat) :
    (n : Nat) → Rat → List (Turn Rat Bool) → Except (Failure Rat) Unit → Rat → Prop
  | served {n : Nat} {now finish : Rat} {own after : List (Event Rat)}
    (made : Unfolds token (Install.isServed s.kind s.version s.group) now own (.ok true) finish)
    (rests : Rests (entry + s.timeout) finish after) :
    Waited token s entry n now [⟨⟨now, own, .ok true, finish⟩, after⟩] (.ok ()) finish
  | raised {n : Nat} {now finish : Rat} {own : List (Event Rat)} {e : Failure Rat}
    (made : Unfolds token (Install.isServed s.kind s.version s.group) now own (.error e) finish) :
    Waited token s entry n now [⟨⟨now, own, .error e, finish⟩, []⟩] (.error e) finish
  | ended {n : Nat} {now finish stop : Rat} {own after : List (Event Rat)} {e : Failure Rat}
    (made : Unfolds token (Install.isServed s.kind s.version s.group) now own (.ok false) finish)
    (rests : Rests (entry + s.timeout) finish after)
    (missed : Missed token s entry (n + 1) finish (.error e) stop) :
    Waited token s entry n now [⟨⟨now, own, .ok false, finish⟩, after⟩] (.error e) stop
  | again {n : Nat} {now finish stop : Rat} {own after : List (Event Rat)}
    {turns : List (Turn Rat Bool)} {result : Except (Failure Rat) Unit}
    (made : Unfolds token (Install.isServed s.kind s.version s.group) now own (.ok false) finish)
    (rests : Rests (entry + s.timeout) finish after) (inTime : finish + 2 < entry + s.timeout)
    (more : Waited token s entry (n + 1) (finish + 2) turns result stop) :
    Waited token s entry n now (⟨⟨now, own, .ok false, finish⟩, after⟩ :: turns) result stop

section

variable {token : Option Rat} {s : Serving Rat} {entry now finish stop : Rat} {n left : Nat}
  {events : List (Event Rat)}

/-- A turn makes its check, and ends the wait or leads to the next turn. -/
lemma waited_of_turn {result : Except (Failure Rat) Bool}
    (h : Unfolds token (s.turn entry (n + 1)) now events result stop) :
    (∃ e turn, result = .error e ∧ events = happened [turn] ∧
        Waited token s entry n now [turn] (.error e) stop) ∨
      (∃ turn, result = .ok true ∧ events = happened [turn] ∧
        Waited token s entry n now [turn] (.ok ()) stop) ∨
      ∃ own after finish, result = .ok false ∧ events = own ++ after ∧ stop = finish + 2 ∧
        Unfolds token (Install.isServed s.kind s.version s.group) now own (.ok false) finish ∧
        Rests (entry + s.timeout) finish after ∧ finish + 2 < entry + s.timeout := by
  rw [turn_eq] at h
  rcases unfolds_bind h with ⟨e, rfl, he⟩ | ⟨served, finish, own, after, rfl, made, hafter⟩
  · exact Or.inl ⟨e, _, rfl, happened_check _ _ _ _, .raised he⟩
  · cases served with
    | true =>
      cases hafter with
      | note hafter =>
        cases hafter
        have rests : Rests (entry + s.timeout) stop
            [.noted .info (s.text ++ " is registered")] := ⟨rfl, by simp⟩
        refine Or.inr (Or.inl ⟨_, rfl, ?_, .served made rests⟩)
        rw [happened_single]
    | false =>
      obtain ⟨rests, missed⟩ := missed_of_unfolds hafter
      cases result with
      | error e =>
        refine Or.inl ⟨e, _, rfl, ?_, .ended made rests missed⟩
        rw [happened_single]
      | ok served =>
        cases missed with
        | again inTime =>
          exact Or.inr (Or.inr ⟨own, after, finish, rfl, rfl, rfl, made, rests, inTime⟩)

/-- All calls among some events take some time, or none. -/
def Forward (events : List (Event Rat)) : Prop := ∀ c ∈ callsIn events, c.start ≤ c.finish

lemma Forward.append {first second : List (Event Rat)} (h : Forward (first ++ second)) :
    Forward first ∧ Forward second := by
  unfold Forward at h ⊢
  rw [callsIn_append] at h
  exact List.forall_mem_append.1 h

lemma Forward.check {kind version group : String} {found : Except (Failure Rat) Bool}
    (h : Forward events)
    (made : Unfolds token (Install.isServed kind version group) now events found finish) :
    now ≤ finish := by
  obtain ⟨c, rfl, rfl, rfl⟩ := unfolds_call (isCall_isServed kind version group) made
  exact h c (List.mem_singleton_self c)

/-- **A wait goes turn by turn.** Each turn takes at least the interval, so the turns that are set
aside are never used up. -/
theorem waited_of_unfolds {result : Except (Failure Rat) Unit} (hspent : entry + n * 2 ≤ now)
    (hleft : s.timeout < (n + left : Nat)) (forward : Forward events)
    (h : Unfolds token (s.turns entry left (n + 1)) now events result stop) :
    ∃ turns, events = happened turns ∧ Waited token s entry n now turns result stop := by
  induction left using Nat.strong_induction_on generalizing n now events with
  | _ left ih =>
  rw [turns_eq] at h
  rcases unfolds_bind h with ⟨e, rfl, he⟩ | ⟨served, mid, first, second, rfl, hfirst, hsecond⟩
  · rcases waited_of_turn he with ⟨e', turn, he', rfl, hturn⟩ | ⟨_, he', -⟩ | ⟨_, _, _, he', -⟩
    · cases he'
      exact ⟨[turn], rfl, hturn⟩
    · cases he'
    · cases he'
  · rcases waited_of_turn hfirst with
      ⟨e, turn, he, -⟩ | ⟨turn, he, rfl, hturn⟩ |
        ⟨own, after, finish, he, rfl, rfl, made, rests, inTime⟩
    · cases he
    · cases he
      cases hsecond
      exact ⟨[turn], List.append_nil _, hturn⟩
    · cases he
      have hpast : now ≤ finish := forward.append.1.append.1.check made
      cases left with
      | zero =>
        -- the turns before this one have taken all the time
        have hn : (0 : Rat) ≤ n := Nat.cast_nonneg n
        rw [Nat.add_zero] at hleft
        linarith
      | succ left =>
        have hspent' : entry + (n + 1 : Nat) * 2 ≤ finish + 2 := by
          push_cast
          linarith
        obtain ⟨turns, rfl, hturns⟩ := ih left (Nat.lt_succ_self _) hspent'
          (by rwa [Nat.add_right_comm]) forward.append.2 hsecond
        refine ⟨_ :: turns, ?_, .again made rests inTime hturns⟩
        rw [happened_cons, List.append_assoc]

end

/-! ### How many checks there are -/

/-- The answer to the request for discovery, as a check sees it. -/
def seen (s : Serving Rat) : Except Fault (Request.kinds s.group s.version).Reply →
    Except (Failure Rat) Bool :=
  verdict (.kinds s.group s.version) fun listed => (listed.getD []).any (Value.isText s.kind)

lemma judges_isServed (s : Serving Rat) :
    Judges (Install.isServed s.kind s.version s.group : Program Rat Bool)
      (.kinds s.group s.version) (seen s) := isServed_eq s.kind s.version s.group

/-- The turn looks into discovery once. What it does after that does not sleep past the
deadline. -/
structure LooksOnce (s : Serving Rat) (deadline : Rat) (t : Turn Rat Bool) : Prop where
  asks : ∃ c : Call Rat, t.events = [.called c] ∧ c.request = .kinds s.group s.version ∧
    c.start = t.start ∧ c.finish = t.finish
  rests : Rests deadline t.finish t.after

section

variable {token : Option Rat} {s : Serving Rat} {entry now stop : Rat} {n : Nat}
  {turns : List (Turn Rat Bool)} {result : Except (Failure Rat) Unit}

lemma Waited.made (h : Waited token s entry n now turns result stop) : ∀ t ∈ turns,
    Unfolds token (Install.isServed s.kind s.version s.group) t.start t.events t.found t.finish ∧
      Rests (entry + s.timeout) t.finish t.after := by
  induction h with
  | served made rests => exact List.forall_mem_singleton.2 ⟨made, rests⟩
  | raised made => exact List.forall_mem_singleton.2 ⟨made, rfl, by simp⟩
  | ended made rests _ => exact List.forall_mem_singleton.2 ⟨made, rests⟩
  | again made rests _ _ ih => exact List.forall_mem_cons.2 ⟨⟨made, rests⟩, ih⟩

lemma Waited.looksOnce (h : Waited token s entry n now turns result stop) :
    ∀ t ∈ turns, LooksOnce s (entry + s.timeout) t := by
  intro t ht
  obtain ⟨made, rests⟩ := h.made t ht
  obtain ⟨c, hown, hstart, hfinish, hfinds⟩ := (judges_isServed s).finds made
  exact ⟨⟨c, hown, hfinds.asked, hstart, hfinish⟩, rests⟩

/-- There is one call in each turn. -/
lemma Waited.matches (h : Waited token s entry n now turns result stop) :
    List.Forall₂ (Turns.Matches (seen s)) turns (callsIn (happened turns)) :=
  Turns.matches_of_turns (judges_isServed s) fun t ht => ⟨(h.made t ht).1, (h.made t ht).2.quiet⟩

/-- Each check but the first starts before the deadline, two seconds or more after the one
before. -/
lemma Waited.spaced (h : Waited token s entry n now turns result stop)
    (forward : ∀ t ∈ turns, t.start ≤ t.finish) :
    ∃ m, turns.length = m + 1 ∧ (m = 0 ∨ now + m * 2 < entry + s.timeout) := by
  induction h with
  | served => exact ⟨0, rfl, Or.inl rfl⟩
  | raised => exact ⟨0, rfl, Or.inl rfl⟩
  | ended => exact ⟨0, rfl, Or.inl rfl⟩
  | @again n now finish stop own after turns result _ _ inTime _ ih =>
    obtain ⟨hfirst, hothers⟩ := List.forall_mem_cons.1 forward
    have hpast : now ≤ finish := hfirst
    obtain ⟨m, hlength, hm⟩ := ih hothers
    refine ⟨m + 1, congrArg (· + 1) hlength, Or.inr ?_⟩
    push_cast
    rcases hm with rfl | hm
    · simp only [Nat.cast_zero]
      linarith
    · linarith

end

/-- The number of points of time, one length apart from the start, that come before a time; the
start itself always counts. -/
def ticks (time length : Rat) : Nat := max 1 ⌈time / length⌉₊

lemma lt_ticks_iff {time length : Rat} (pos : 0 < length) (m : Nat) :
    m < ticks time length ↔ m = 0 ∨ m * length < time := by
  unfold ticks
  rw [lt_max_iff, Nat.lt_one_iff, Nat.lt_ceil, lt_div_iff₀ pos]

lemma ticks_eq {time length : Rat} (pos : 0 < length) {m : Nat} (h : m = 0 ∨ m * length < time)
    (hend : time ≤ (m + 1 : Nat) * length) : ticks time length = m + 1 := by
  have hle : m < ticks time length := (lt_ticks_iff pos m).2 h
  have hlt : ¬ m + 1 < ticks time length := by
    rw [lt_ticks_iff pos]
    rintro (h | h)
    · exact Nat.succ_ne_zero m h
    · exact absurd h (not_lt.2 hend)
  omega

/-! ### Checks that take the same time -/

/-- Discovery lists the type from some time on, or never. -/
def AppearsAt (store : Store Rat) (s : Serving Rat) (since : Option Rat) : Prop :=
  ∀ now, Listed store s.group s.version s.kind now ↔ ∃ t ∈ since, t ≤ now

lemma exists_since (times : List Rat) :
    ∃ since : Option Rat, ∀ now, (∃ t ∈ times, t ≤ now) ↔ ∃ t ∈ since, t ≤ now := by
  induction times with
  | nil => exact ⟨none, by simp⟩
  | cons t times ih =>
    obtain ⟨since, hsince⟩ := ih
    cases since with
    | none => exact ⟨some t, fun now => by simp_all⟩
    | some t' => exact ⟨some (min t t'), fun now => by simp_all⟩

lemma exists_appearsAt (store : Store Rat) (s : Serving Rat) :
    ∃ since, AppearsAt store s since := by
  let mine : List (Served Rat) := store.served.filter fun e =>
    e.group == s.group && e.version == s.version && e.kinds.any (Value.isText s.kind)
  obtain ⟨since, hsince⟩ := exists_since (mine.map (·.since))
  refine ⟨since, fun now => Iff.trans ?_ (hsince now)⟩
  rw [listed_iff]
  simp only [mine, List.mem_map, List.mem_filter, Bool.and_eq_true, beq_iff_eq]
  constructor
  · rintro ⟨e, he, hg, hv, hnow, hk⟩
    exact ⟨e.since, ⟨e, ⟨he, ⟨hg, hv⟩, hk⟩, rfl⟩, hnow⟩
  · rintro ⟨_, ⟨e, ⟨he, ⟨hg, hv⟩, hk⟩, rfl⟩, hnow⟩
    exact ⟨e, he, hg, hv, hnow, hk⟩

/-- When check number `j` starts, from 0 on, if each of them takes the same time. -/
def tickAt (entry cost : Rat) (j : Nat) : Rat := entry + j * (2 + cost)

/-- The check is made, if none before it finds the type. -/
def Due (s : Serving Rat) (cost : Rat) (j : Nat) : Prop := j = 0 ∨ j * (2 + cost) < s.timeout

/-- The type is listed when the check is answered. -/
def Shown (since : Option Rat) (entry cost : Rat) (j : Nat) : Prop :=
  ∃ t ∈ since, t ≤ tickAt entry cost j + cost

/-- How a wait ends with check number `j`. -/
inductive EndsAt (s : Serving Rat) (since : Option Rat) (entry cost : Rat) (j : Nat) :
    Except (Failure Rat) Unit → Prop
  | listed (h : Shown since entry cost j) : EndsAt s since entry cost j (.ok ())
  | expired (h : ¬ Shown since entry cost j) (hend : s.timeout ≤ (j + 1 : Nat) * (2 + cost)) :
    EndsAt s since entry cost j (.error (.timedOut
      (expiry s entry (j + 1) (entry + max s.timeout (j * (2 + cost) + cost)))))

section

variable {s : Serving Rat} {since : Option Rat} {entry cost now stop : Rat} {n : Nat}
  {turns : List (Turn Rat Bool)} {result : Except (Failure Rat) Unit}

/-- The check of a turn takes its time and finds what is listed then. -/
def Regular (since : Option Rat) (cost : Rat) (t : Turn Rat Bool) : Prop :=
  t.finish = t.start + cost ∧ ∃ found, t.found = .ok found ∧
    (found = true ↔ ∃ t' ∈ since, t' ≤ t.finish)

lemma tickAt_succ (entry cost : Rat) (j : Nat) :
    tickAt entry cost (j + 1) = tickAt entry cost j + cost + 2 := by
  unfold tickAt
  push_cast
  ring

/-- A check at a tick takes its time and finds whether the type is listed then. -/
lemma Regular.atTick {t : Turn Rat Bool} (h : Regular since cost t)
    (hstart : t.start = tickAt entry cost n) {found : Bool} (hfound : t.found = .ok found) :
    t.finish = tickAt entry cost n + cost ∧ (found = true ↔ Shown since entry cost n) := by
  obtain ⟨hfinish, found', hfound', hlisted⟩ := h
  obtain rfl : found' = found := Except.ok.inj (hfound'.symm.trans hfound)
  rw [hstart] at hfinish
  rw [hfinish] at hlisted
  exact ⟨hfinish, hlisted⟩

/-- A check that misses the type ends the wait if the next one would not be in time. -/
lemma endsAt_of_missed {j : Nat} {finish : Rat} {e : Failure Rat}
    (hfinish : finish = tickAt entry cost j + cost) (unlisted : ¬ Shown since entry cost j)
    (h : Missed none s entry (j + 1) finish (.error e) stop) :
    EndsAt s since entry cost j (.error e) := by
  have hspent : finish = entry + (j * (2 + cost) + cost) := by
    rw [hfinish]
    unfold tickAt
    ring
  have hnext : finish + 2 = entry + (j + 1 : Nat) * (2 + cost) := by
    rw [hspent]
    push_cast
    ring
  subst hspent
  cases h with
  | late late =>
    have hmax : max s.timeout (j * (2 + cost) + cost) = j * (2 + cost) + cost :=
      max_eq_right (by linarith)
    rw [← hmax]
    exact .expired unlisted (by linarith)
  | expired early short =>
    have hmax : max s.timeout (j * (2 + cost) + cost) = s.timeout := max_eq_left (by linarith)
    have hends := EndsAt.expired (s := s) unlisted (by linarith)
    rwa [hmax] at hends
  | cancelled given _ => exact absurd rfl given

/-- **The turns are the ticks of a clock.** The last of them is the first at which the type is
listed, or after which there is no time for another. -/
theorem Waited.onTicks (h : Waited none s entry n now turns result stop)
    (hnow : now = tickAt entry cost n) (regular : ∀ t ∈ turns, Regular since cost t) :
    ∃ m, turns.map (·.start) = (List.range (m + 1)).map (fun i => tickAt entry cost (n + i)) ∧
      (∀ i < m, ¬ Shown since entry cost (n + i)) ∧
      (m = 0 ∨ (n + m : Nat) * (2 + cost) < s.timeout) ∧
      EndsAt s since entry cost (n + m) result := by
  induction h with
  | @served n now finish own after made rests =>
    obtain ⟨-, hlisted⟩ := (List.forall_mem_singleton.1 regular).atTick hnow rfl
    subst hnow
    exact ⟨0, rfl, nofun, Or.inl rfl, .listed (hlisted.1 rfl)⟩
  | raised made =>
    obtain ⟨-, found, hfound, -⟩ := List.forall_mem_singleton.1 regular
    cases hfound
  | @ended n now finish stop own after e made rests missed =>
    obtain ⟨hfinish, hlisted⟩ := (List.forall_mem_singleton.1 regular).atTick hnow rfl
    have unlisted : ¬ Shown since entry cost n := fun h => Bool.false_ne_true (hlisted.2 h)
    subst hnow
    exact ⟨0, rfl, nofun, Or.inl rfl, endsAt_of_missed hfinish unlisted missed⟩
  | @again n now finish stop own after turns result made rests inTime more ih =>
    obtain ⟨first, others⟩ := List.forall_mem_cons.1 regular
    obtain ⟨hfinish, hlisted⟩ := first.atTick hnow rfl
    have unlisted : ¬ Shown since entry cost n := fun h => Bool.false_ne_true (hlisted.2 h)
    obtain rfl : finish = tickAt entry cost n + cost := hfinish
    subst hnow
    obtain ⟨m, hstarts, hunlisted, htime, hends⟩ := ih (tickAt_succ entry cost n).symm others
    have hindex (i : Nat) : n + 1 + i = n + (i + 1) := by omega
    simp only [hindex] at hstarts hunlisted htime hends
    refine ⟨m + 1, ?_, ?_, Or.inr ?_, hends⟩
    · rw [List.range_succ_eq_map, List.map_cons, List.map_cons, List.map_map, hstarts]
      rfl
    · intro i hi
      cases i with
      | zero => exact unlisted
      | succ i => exact hunlisted i (by omega)
    · rcases htime with rfl | htime
      · rw [← tickAt_succ] at inTime
        unfold tickAt at inTime
        linarith
      · exact htime

/-- The calls of a wait whose checks take the same time, and how it ends. -/
structure Registers (s : Serving Rat) (since : Option Rat) (entry cost : Rat)
    (cs : List (Call Rat)) (result : Except (Failure Rat) Unit) : Prop where
  /-- The wait succeeds if and only if the type is listed at a check that is in time. -/
  returns : result = .ok () ↔ ∃ j, Due s cost j ∧ Shown since entry cost j
  /-- The first such check is the last one. -/
  first : ∀ j, IsLeast {j | Due s cost j ∧ Shown since entry cost j} j → cs.length = j + 1
  /-- Else all checks are made that are in time. -/
  expires : (¬ ∃ j, Due s cost j ∧ Shown since entry cost j) →
    cs.length = ticks s.timeout (2 + cost) ∧
      ∃ t, result = .error (.timedOut t) ∧
        t.description =
          s.text ++ " is not registered after " ++ toString cs.length ++ " checks" ∧
        t.timeout = s.timeout ∧ t.attempts = cs.length ∧
        t.elapsed = max s.timeout ((cs.length - 1 : Nat) * (2 + cost) + cost)
  asks : ∀ c ∈ cs, c.request = .kinds s.group s.version
  starts : cs.map (·.start) = (List.range cs.length).map (tickAt entry cost)

lemma starts_of_matches {cs : List (Call Rat)}
    (h : List.Forall₂ (Turns.Matches (seen s)) turns cs) :
    cs.map (·.start) = turns.map (·.start) := by
  induction h with
  | nil => rfl
  | cons hmatches _ ih => rw [List.map_cons, List.map_cons, ih, hmatches.start]

lemma asked_of_matches {cs : List (Call Rat)}
    (h : List.Forall₂ (Turns.Matches (seen s)) turns cs) :
    ∀ c ∈ cs, c.request = .kinds s.group s.version := by
  induction h with
  | nil => exact fun c hc => absurd hc List.not_mem_nil
  | cons hmatches _ ih => exact List.forall_mem_cons.2 ⟨hmatches.finds.asked, ih⟩

lemma due_iff (nonneg : 0 ≤ cost) (j : Nat) : Due s cost j ↔ j < ticks s.timeout (2 + cost) :=
  (lt_ticks_iff (by linarith) j).symm

lemma registers_of_waited (h : Waited none s entry 0 entry turns result stop) (nonneg : 0 ≤ cost)
    (regular : ∀ t ∈ turns, Regular since cost t) :
    Registers s since entry cost (callsIn (happened turns)) result := by
  have hentry : entry = tickAt entry cost 0 := by simp [tickAt]
  have hmatches := h.matches
  obtain ⟨m, hstarts, hunlisted, htime, hends⟩ := h.onTicks hentry regular
  simp only [Nat.zero_add] at hstarts hunlisted htime hends
  rw [← starts_of_matches hmatches] at hstarts
  generalize callsIn (happened turns) = cs at hstarts hmatches
  have hlength : cs.length = m + 1 := by
    have := congrArg List.length hstarts
    rwa [List.length_map, List.length_map, List.length_range] at this
  have hdue : Due s cost m := htime
  have asks := asked_of_matches hmatches
  have starts : cs.map (·.start) = (List.range cs.length).map (tickAt entry cost) := by
    rw [hlength]
    exact hstarts
  cases hends with
  | listed hshown =>
    have hleast : IsLeast {j | Due s cost j ∧ Shown since entry cost j} m :=
      ⟨⟨hdue, hshown⟩, fun j hj => not_lt.1 fun hlt => hunlisted j hlt hj.2⟩
    refine ⟨iff_of_true rfl ⟨m, hdue, hshown⟩, fun j hj => ?_, ?_, asks, starts⟩
    · rw [hlength, hj.unique hleast]
    · exact fun hnone => absurd ⟨m, hdue, hshown⟩ hnone
  | expired hlate hend =>
    have hticks : ticks s.timeout (2 + cost) = m + 1 := ticks_eq (by linarith) htime hend
    have hnone : ¬ ∃ j, Due s cost j ∧ Shown since entry cost j := by
      rintro ⟨j, hj, hshown⟩
      rw [due_iff nonneg, hticks] at hj
      rcases Nat.lt_succ_iff_lt_or_eq.1 hj with hlt | rfl
      · exact hunlisted j hlt hshown
      · exact hlate hshown
    refine ⟨iff_of_false nofun hnone, fun j hj => absurd ⟨j, hj.1⟩ hnone, fun _ => ?_, asks,
      starts⟩
    refine ⟨hlength.trans hticks.symm, _, rfl, ?_, rfl, ?_, ?_⟩
    · rw [hlength]
      rfl
    · rw [hlength]
      rfl
    · rw [hlength, Nat.add_sub_cancel]
      exact add_sub_cancel_left _ _

end

/-! ### Waits in a cluster -/

section

variable {τ α : Type} [Seconds τ]

/-- In a run that meets no fault and looks for one thing only, every answer tells whether that is
so when the answer is given. -/
lemma told_undisturbed {request : Request} {accept : request.Reply → Bool}
    {Q : Rehearsal τ → Prop} (htells : Tells request accept Q)
    (remote : isRemote request = true) {p : Program τ α} (hp : Asks (· = request) p)
    {r : Rehearsal τ} (free : Undisturbed p r) :
    ∀ c ∈ calls p r, c.finish = c.start + r.cost ∧ ∃ (s : Rehearsal τ) (found : Bool),
      s.store = r.store ∧ s.clock = c.finish ∧ Turns.Finds (verdict request accept) c (.ok found) ∧
        (found = true ↔ Q s) := by
  induction hp generalizing r with
  | done result => exact fun c hc => absurd hc List.not_mem_nil
  | @ask request' next hrequest _ ih =>
    subst hrequest
    cases free with
    | ask hscript free =>
      obtain ⟨hclock, hstore, hcost, -⟩ := reached_remote request' remote r
      have hanswer := answer_of_scripted hscript
      have hstays := htells.stays (r.reached request')
      have hrest := ih _ free
      have hstate : (r.answer request').2 = r.reached request' := by rw [hanswer, hstays]
      rw [calls_ask, List.forall_mem_cons]
      rw [hstate] at hrest ⊢
      rw [hstore, hcost] at hrest
      have hfinish : (r.callOf request').finish = r.clock + r.cost := by
        show (r.answer request').2.clock = _
        rw [hstate, hclock]
      obtain ⟨found, hv, hfound⟩ : ∃ found,
          verdict request' accept (r.answer request').1 = .ok found ∧
            (found = true ↔ Q (r.reached request')) := by
        rw [hanswer]
        rcases htells.tells (r.reached request') with ⟨hv, hq⟩ | ⟨hv, hq⟩
        · exact ⟨true, hv, iff_of_true rfl hq⟩
        · exact ⟨false, hv, iff_of_false Bool.false_ne_true hq⟩
      refine ⟨⟨hfinish, r.reached request', found, hstore, hclock.trans hfinish.symm, ?_, hfound⟩,
        hrest⟩
      rw [← hv]
      exact .mk _ _ _
  | now _ ih => cases free with | now free => exact ih _ free
  | isCancelled _ ih => cases free with | isCancelled free => exact ih _ free
  | @pause length next _ _ ih =>
    cases free with
    | pause free =>
      have hstore := objects_pause length r
      have hcost : (r.pause length).2.cost = r.cost :=
        (frame_run (Program.pause length fun _ => .done (.ok ())) r).1
      have hrest := ih _ free
      rw [hstore, hcost] at hrest
      exact hrest
  | note _ ih => cases free with | note free => exact ih free

end

section

variable {s : Serving Rat} {since : Option Rat} {token : Option Rat} {entry cost stop : Rat}
  {events : List (Event Rat)} {turns : List (Turn Rat Bool)}
  {result : Except (Failure Rat) Unit}

lemma waited_of_awaitServed (forward : Forward events)
    (h : Unfolds token (Install.awaitServed s) entry events result stop) :
    ∃ turns, events = happened turns ∧ Waited token s entry 0 entry turns result stop := by
  cases h with
  | now h =>
    have hspent : entry + (0 : Nat) * 2 ≤ entry := by simp
    have hleft : s.timeout < (0 + Seconds.bound s.timeout : Nat) := by
      rw [Nat.zero_add]
      exact lt_bound s.timeout
    exact waited_of_unfolds hspent hleft forward h

/-- However long the checks take and whatever they find, there are no more of them than intervals
in the time that is set aside, and no sleep goes beyond its end. -/
structure Bounded (s : Serving Rat) (entry : Rat) (events : List (Event Rat))
    (turns : List (Turn Rat Bool)) : Prop where
  turnwise : events = happened turns
  looks : ∀ t ∈ turns, LooksOnce s (entry + s.timeout) t
  calls : (callsIn events).length = turns.length
  bound : (callsIn events).length ≤ ticks s.timeout 2

lemma Waited.bounded (h : Waited token s entry 0 entry turns result stop)
    (forward : Forward (happened turns)) : Bounded s entry (happened turns) turns := by
  have hlength := h.matches.length_eq.symm
  have hforward : ∀ t ∈ turns, t.start ≤ t.finish := by
    intro t ht
    obtain ⟨c, hc, hmatches⟩ := Turns.exists_call_of_mem h.matches t ht
    rw [← hmatches.start, ← hmatches.finish]
    exact forward c hc
  obtain ⟨m, hm, htime⟩ := h.spaced hforward
  have hticks : m < ticks s.timeout 2 := by
    rw [lt_ticks_iff two_pos]
    exact htime.imp_right fun htime => by linarith
  refine ⟨rfl, h.looksOnce, hlength, ?_⟩
  rw [hlength, hm]
  exact hticks

/-- In a cluster the checks of a wait that meets no fault take the same time, and find what is
listed when they are answered. -/
lemma regular_of_undisturbed {r : Rehearsal Rat} (appears : AppearsAt r.store s since)
    (free : Undisturbed (Install.awaitServed s) r)
    (h : Waited none s entry 0 entry turns result stop)
    (hevents : trace (Install.awaitServed s) r = happened turns) :
    ∀ t ∈ turns, Regular since r.cost t := by
  have hasks : Asks (· = .kinds s.group s.version) (Install.awaitServed s : Program Rat Unit) :=
    Requests.asks_awaitServed rfl
  have htold := told_undisturbed (kinds_tells s.kind s.version s.group) rfl hasks free
  intro t ht
  obtain ⟨c, hc, hmatches⟩ := Turns.exists_call_of_mem h.matches t ht
  rw [← hevents] at hc
  obtain ⟨hfinish, r', found, hstore, hclock, hfinds, hfound⟩ := htold c hc
  rw [hstore, hclock, hmatches.finish] at hfound
  rw [hmatches.finish, hmatches.start] at hfinish
  exact ⟨hfinish, found, hmatches.finds.unique hfinds, hfound.trans (appears t.finish)⟩

end

/-- **A wait for a type ends, and succeeds exactly when it should.** In every cluster the type is
listed from some time on, or never. Over exact time, without faults and without a token, a wait
whose checks take the same time succeeds if and only if the type is listed at one of the checks
that are in time, at the first of these; else it makes all of them and then says that time is up.
Whatever is answered, however long it takes, and with a token or without, the checks are no more
than the intervals in the time set aside, and the wait never sleeps beyond its end. -/
theorem wait_succeeds_exactly_in_time :
    (∀ (store : Store Rat) (s : Serving Rat), ∃ since, AppearsAt store s since) ∧
    (∀ (s : Serving Rat) (r : Rehearsal Rat) (since : Option Rat), r.cancelAt = none →
      0 ≤ r.cost → Undisturbed (Install.awaitServed s) r → AppearsAt r.store s since →
        Registers s since r.clock r.cost (calls (Install.awaitServed s) r)
          (run (Install.awaitServed s) r).1) ∧
    ∀ (s : Serving Rat) (token : Option Rat) (entry stop : Rat) (events : List (Event Rat))
      (result : Except (Failure Rat) Unit),
      Unfolds token (Install.awaitServed s) entry events result stop → Forward events →
        ∃ turns, Bounded s entry events turns := by
  refine ⟨exists_appearsAt, ?_, ?_⟩
  · intro s r since htoken nonneg free appears
    have h := unfolds_run (Install.awaitServed s) r
    rw [htoken] at h
    have hasks : Asks (· = .kinds s.group s.version)
        (Install.awaitServed s : Program Rat Unit) := Requests.asks_awaitServed rfl
    have htold := told_undisturbed (kinds_tells s.kind s.version s.group) rfl hasks free
    have forward : Forward (trace (Install.awaitServed s) r) := by
      intro c hc
      rw [(htold c hc).1]
      exact le_add_of_nonneg_right nonneg
    obtain ⟨turns, hevents, hwaited⟩ := waited_of_awaitServed forward h
    have hregister := registers_of_waited hwaited nonneg
      (regular_of_undisturbed appears free hwaited hevents)
    rw [← hevents] at hregister
    exact hregister
  · intro s token entry stop events result h forward
    obtain ⟨turns, rfl, hwaited⟩ := waited_of_awaitServed forward h
    exact ⟨turns, hwaited.bounded forward⟩

/-- Discovery takes a second to answer, and lists tests from the seventh second on. -/
def sevenLater : Rehearsal Rat where
  clock := 0
  cost := 1
  serveDelay := 0
  cancelAt := none
  store := ⟨[], [⟨Install.ownGroup, "v1alpha1", [.text "Test"], 7⟩]⟩
  script := ⟨[], [], [], [], true, none⟩
  record := .empty

/-- The third check, at six seconds, is answered at seven. -/
theorem third_check_finds :
    let s : Serving Rat := ⟨"Test", "v1alpha1", Install.ownGroup, 10⟩
    let p := Install.awaitServed s
    Registers s (some 7) 0 1 (calls p sevenLater) (run p sevenLater).1 ∧
      (run p sevenLater).1 = .ok () ∧ (calls p sevenLater).length = 3 ∧
      ∃ turns, Bounded s 0 (trace p sevenLater) turns := by
  intro s p
  have free : Undisturbed p sevenLater :=
    Faultless.undisturbed (by simp [Faultless, sevenLater]) p
  have appears : AppearsAt sevenLater.store s (some 7) := by
    intro now
    rw [listed_iff]
    simp [sevenLater, s, Value.isText, Value.key?]
  have registers :=
    wait_succeeds_exactly_in_time.2.1 s sevenLater (some 7) rfl (by decide) free appears
  have forward : Forward (trace p sevenLater) := by
    unfold Forward
    decide +kernel
  have bounded := wait_succeeds_exactly_in_time.2.2 s _ _ _ _ _ (unfolds_run p sevenLater) forward
  have due : Due s 1 2 ∧ Shown (some 7) 0 1 2 := by
    unfold Due Shown tickAt
    norm_num [s]
  have least : IsLeast {j | Due s 1 j ∧ Shown (some 7) 0 1 j} 2 := by
    refine ⟨due, fun j hj => ?_⟩
    obtain ⟨t, ht, hle⟩ := hj.2
    obtain rfl : 7 = t := Option.some.inj ht
    by_contra hlt
    have hj2 : (j : Rat) ≤ 1 := by exact_mod_cast Nat.lt_succ_iff.1 (not_le.1 hlt)
    unfold tickAt at hle
    linarith
  exact ⟨registers, registers.returns.2 ⟨2, due⟩, registers.first 2 least, bounded⟩

end Testbed.Ticks
