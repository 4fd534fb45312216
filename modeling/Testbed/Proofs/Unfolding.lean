import Mathlib
import Testbed.Polling
import Testbed.Proofs.Trace

/-!
What a program may do in time.

A rehearsal gives every call the answer of its script and a fixed cost. Here a call may get any
answer and end at any time, and only the token and the waits are as in a rehearsal. So what holds
of every way in which a program unfolds holds of its runs in every cluster.
-/

namespace Testbed.Rehearsal

variable {τ α β : Type} [Seconds τ]

/-- Whether a token is set at a time. -/
def isSet (token : Option τ) (now : τ) : Bool := token.any fun t => decide (t ≤ now)

/-- When a wait is over. -/
def wake (token : Option τ) (now length : τ) : τ :=
  match token with
  | none => now + length
  | some t => if t ≤ now + length then Seconds.latest now t else now + length

/-- The program may do this from one point of time to another, and end with this result. -/
inductive Unfolds (token : Option τ) :
    Program τ α → τ → List (Event τ) → Except (Failure τ) α → τ → Prop where
  | done (result : Except (Failure τ) α) (now : τ) : Unfolds token (.done result) now [] result now
  | ask {request : Request} {next : Except Fault request.Reply → Program τ α} {now stop : τ}
    {events : List (Event τ)} {result : Except (Failure τ) α}
    (answer : Except Fault request.Reply) (finish : τ)
    (h : Unfolds token (next answer) finish events result stop) :
    Unfolds token (.ask request next) now (.called ⟨now, request, answer, finish⟩ :: events) result
      stop
  | now {next : τ → Program τ α} {now stop : τ} {events : List (Event τ)}
    {result : Except (Failure τ) α} (h : Unfolds token (next now) now events result stop) :
    Unfolds token (.now next) now events result stop
  | isCancelled {next : Bool → Program τ α} {now stop : τ} {events : List (Event τ)}
    {result : Except (Failure τ) α}
    (h : Unfolds token (next (isSet token now)) now events result stop) :
    Unfolds token (.isCancelled next) now (.looked (isSet token now) :: events) result stop
  | pause {length : τ} {next : Bool → Program τ α} {now stop : τ} {events : List (Event τ)}
    {result : Except (Failure τ) α}
    (h : Unfolds token (next (isSet token (now + length))) (wake token now length) events result
      stop) :
    Unfolds token (.pause length next) now
      (.waited length (isSet token (now + length)) :: events) result stop
  | note {level : Level} {message : String} {next : Program τ α} {now stop : τ}
    {events : List (Event τ)} {result : Except (Failure τ) α}
    (h : Unfolds token next now events result stop) :
    Unfolds token (.note level message next) now (.noted level message :: events) result stop

/-- The calls among some events. -/
def callsIn (events : List (Event τ)) : List (Call τ) := events.filterMap Event.call?

omit [Seconds τ] in
@[simp] lemma callsIn_nil : callsIn ([] : List (Event τ)) = [] := rfl

omit [Seconds τ] in
lemma callsIn_append (events events' : List (Event τ)) :
    callsIn (events ++ events') = callsIn events ++ callsIn events' := List.filterMap_append

/-- The token and the waits are as in a rehearsal. -/
lemma pause_eq (length : τ) (r : Rehearsal τ) :
    (r.pause length).1 = isSet r.cancelAt (r.clock + length) ∧
      (r.pause length).2.clock = wake r.cancelAt r.clock length ∧
      (r.pause length).2.cancelAt = r.cancelAt := by
  unfold pause isSet wake
  cases hc : r.cancelAt with
  | none => exact ⟨rfl, rfl, hc⟩
  | some t =>
    by_cases h : t ≤ r.clock + length
    · simp [h]
    · simp [h, hc, sleep]

/-- **Every run is a way to unfold.** -/
theorem unfolds_run (p : Program τ α) (r : Rehearsal τ) :
    Unfolds r.cancelAt p r.clock (trace p r) (run p r).1 (run p r).2.clock := by
  induction p generalizing r with
  | done result => exact .done result r.clock
  | ask request next ih =>
    have token : (r.answer request).2.cancelAt = r.cancelAt :=
      (frame_run (Program.ask request fun _ => .done (.ok ())) r).2.2
    have h := ih (r.answer request).1 (r.answer request).2
    rw [token] at h
    exact .ask _ _ h
  | now next ih => exact .now (ih r.clock r)
  | isCancelled next ih => exact .isCancelled (ih r.isCancelled r)
  | pause length next ih =>
    obtain ⟨cut, clock, token⟩ := pause_eq length r
    have h := ih (r.pause length).1 (r.pause length).2
    rw [token, clock, cut] at h
    unfold trace run
    rw [cut]
    exact .pause h
  | note level message next ih => exact .note (ih (r.note level message))

/-- Programs one after the other: the second starts when the first has come to its end. -/
lemma unfolds_bind {token : Option τ} {p : Program τ α} {f : α → Program τ β} {now stop : τ}
    {events : List (Event τ)} {result : Except (Failure τ) β}
    (h : Unfolds token (p.bind f) now events result stop) :
    (∃ e, result = .error e ∧ Unfolds token p now events (.error e) stop) ∨
      ∃ a mid first second, events = first ++ second ∧ Unfolds token p now first (.ok a) mid ∧
        Unfolds token (f a) mid second result stop := by
  induction p generalizing now events with
  | done r =>
    cases r with
    | ok a => exact Or.inr ⟨a, now, [], events, rfl, .done _ _, h⟩
    | error e =>
      cases h
      exact Or.inl ⟨e, rfl, .done _ _⟩
  | ask request next ih =>
    cases h with
    | ask answer finish h =>
      rcases ih answer h with ⟨e, rfl, he⟩ | ⟨a, mid, first, second, rfl, hfirst, hsecond⟩
      · exact Or.inl ⟨e, rfl, .ask answer finish he⟩
      · exact Or.inr ⟨a, mid, _ :: first, second, rfl, .ask answer finish hfirst, hsecond⟩
  | now next ih =>
    cases h with
    | now h =>
      rcases ih now h with ⟨e, rfl, he⟩ | ⟨a, mid, first, second, rfl, hfirst, hsecond⟩
      · exact Or.inl ⟨e, rfl, .now he⟩
      · exact Or.inr ⟨a, mid, first, second, rfl, .now hfirst, hsecond⟩
  | isCancelled next ih =>
    cases h with
    | isCancelled h =>
      rcases ih _ h with ⟨e, rfl, he⟩ | ⟨a, mid, first, second, rfl, hfirst, hsecond⟩
      · exact Or.inl ⟨e, rfl, .isCancelled he⟩
      · exact Or.inr ⟨a, mid, _ :: first, second, rfl, .isCancelled hfirst, hsecond⟩
  | pause length next ih =>
    cases h with
    | pause h =>
      rcases ih _ h with ⟨e, rfl, he⟩ | ⟨a, mid, first, second, rfl, hfirst, hsecond⟩
      · exact Or.inl ⟨e, rfl, .pause he⟩
      · exact Or.inr ⟨a, mid, _ :: first, second, rfl, .pause hfirst, hsecond⟩
  | note level message next ih =>
    cases h with
    | note h =>
      rcases ih h with ⟨e, rfl, he⟩ | ⟨a, mid, first, second, rfl, hfirst, hsecond⟩
      · exact Or.inl ⟨e, rfl, .note he⟩
      · exact Or.inr ⟨a, mid, _ :: first, second, rfl, .note hfirst, hsecond⟩

/-! ### Sleeps -/

lemma wake_of_not_set {token : Option τ} {now length : τ}
    (h : isSet token (now + length) = false) : wake token now length = now + length := by
  cases token with
  | none => rfl
  | some t =>
    have ht : ¬ t ≤ now + length := by simpa [isSet] using h
    exact if_neg ht

/-- A sleep of some length from a time on. It lasts as long as it should, unless a token is set
before or meanwhile. -/
inductive Slept (token : Option τ) (length now : τ) :
    List (Event τ) → Except (Failure τ) Unit → τ → Prop where
  | refused (set : isSet token now = true) :
    Slept token length now [.looked true] (.error .cancelled) now
  | skipped (h : length ≤ 0) : Slept token length now [.looked false] (.ok ()) now
  | cut (pos : ¬ length ≤ 0) (set : isSet token (now + length) = true) :
    Slept token length now [.looked false, .waited length true] (.error .cancelled)
      (wake token now length)
  | full (pos : ¬ length ≤ 0) :
    Slept token length now [.looked false, .waited length false] (.ok ()) (now + length)

lemma slept_of_unfolds {token : Option τ} {length now stop : τ} {events : List (Event τ)}
    {result : Except (Failure τ) Unit}
    (h : Unfolds token (Polling.sleep length) now events result stop) :
    Slept token length now events result stop := by
  unfold Polling.sleep at h
  cases h with
  | isCancelled h =>
    cases hset : isSet token now with
    | true =>
      simp only [hset] at h
      cases h
      exact .refused hset
    | false =>
      simp only [hset] at h
      split at h
      · rename_i hle
        cases h
        exact .skipped hle
      · rename_i pos
        cases h with
        | pause h =>
          cases hcut : isSet token (now + length) with
          | true =>
            simp only [hcut] at h
            cases h
            exact .cut pos hcut
          | false =>
            simp only [hcut] at h
            cases h
            rw [wake_of_not_set hcut]
            exact .full pos

end Testbed.Rehearsal
