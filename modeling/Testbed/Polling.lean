import Testbed.Polling.Policy
import Testbed.Program

/-!
Polling: checking a condition again and again until it holds or time is up.

Checks are due at fixed points, one delay apart from the start, so a slow check does not move
the later ones. Once the whole budget has passed no further check is made.
-/

namespace Testbed.Polling

open Program (clock log)

variable {τ α : Type} [Seconds τ]

/-- Waits for a length of time, unless the operation is cancelled. How long a single wait of the
platform may be is left to the clock of the world. -/
def sleep (length : τ) : Program τ Unit :=
  .isCancelled fun
    | true => .fail .cancelled
    | false =>
      if length ≤ 0 then pure ()
      else .pause length fun cancelled => if cancelled then .fail .cancelled else pure ()

/-- A poll: what to check, how often, and what to say. -/
structure Poll (τ α : Type) [Seconds τ] where
  check : Program τ (Option α)
  policy : Policy τ
  description : String
  waiting : String

namespace Poll

variable (p : Poll τ α) (start : τ)

def timeout (attempts : Nat) : Program τ α := do
  let now ← clock
  .fail (.timedOut ⟨p.description ++ " after " ++ toString attempts ++ " attempts",
    p.policy.budget, attempts, now - start⟩)

/-- Waits until the point of time at which check `attempts + 1` is due. -/
def await (attempts : Nat) : Program τ Unit := do
  let now ← clock
  sleep (start + Seconds.ofNat attempts * p.policy.delay - now)

def isOver : Program τ Bool :=
  if 0 < p.policy.delay then do
    let now ← clock
    return start + p.policy.budget ≤ now
  else pure false

/-- Makes check number `attempts`, and up to `left` checks after it. -/
def attempt : (left attempts : Nat) → Program τ α
  | 0, attempts => do
    match ← p.check with
    | some a => return a
    | none =>
      await p start attempts
      timeout p start attempts
  | left + 1, attempts => do
    match ← p.check with
    | some a => return a
    | none =>
      log .warning (p.waiting ++ " - retry in " ++ Seconds.text p.policy.delay ++ "s")
      await p start attempts
      if ← isOver p start then
        log .warning ("Deadline passed after " ++ toString attempts ++ " of "
          ++ toString p.policy.maxAttempts ++ " attempts")
        timeout p start attempts
      else attempt left (attempts + 1)

end Poll

/-- Checks until the condition holds. -/
def pollUntil (p : Poll τ α) : Program τ α := do
  let start ← clock
  match p.policy.budget? with
  | none => .fail .tooManyChecks
  | some _ => p.attempt start (p.policy.maxAttempts - 1) 1

end Testbed.Polling
