import Testbed.Install
import Testbed.Polling

/-!
Waiting until a new type of resource is served.
-/

namespace Testbed.Install

open Program (clock log)
open Polling (sleep)

variable {τ : Type} [Seconds τ]

/-- The group of the types of this testbed. -/
def ownGroup : String := "yaks.citrusframework.org"

/-- Seconds between two checks of discovery. -/
def interval : τ := Seconds.ofNat 2

/-- A wait for a type to be served, for a limited time. -/
structure Serving (τ : Type) where
  kind : String
  version : String
  group : String
  timeout : τ

namespace Serving

variable (s : Serving τ) (start : τ)

def text : String := "CRD " ++ s.kind ++ " (" ++ s.group ++ "/" ++ s.version ++ ")"

def deadline : τ := start + s.timeout

def expire {α : Type} (attempts : Nat) : Program τ α := do
  let now ← clock
  .fail (.timedOut ⟨s.text ++ " is not registered after " ++ toString attempts ++ " checks",
    s.timeout, attempts, now - start⟩)

/-- One check and the time after it: whether the type is served. No other check follows once the
time is up. -/
def turn (attempts : Nat) : Program τ Bool := do
  if ← isServed s.kind s.version s.group then
    log .info (s.text ++ " is registered")
    return true
  let remaining := s.deadline start - (← clock)
  if remaining ≤ 0 then expire s start attempts
  else
    log .warning ("Waiting for " ++ s.text ++ " - retry in " ++ Seconds.text (interval : τ) ++ "s")
    sleep (Seconds.least interval remaining)
    if s.deadline start ≤ (← clock) then expire s start attempts
    return false

/-- Checks from number `attempts` on, at most `left` of them after it. -/
def turns : (left attempts : Nat) → Program τ Unit
  | 0, attempts => do
    if ← turn s start attempts then return () else expire s start attempts
  | left + 1, attempts => do
    if ← turn s start attempts then return () else turns left (attempts + 1)

end Serving

/-- Waits until a type is served. No check fits into the time after as many of them as it has
seconds. -/
def awaitServed (s : Serving τ) : Program τ Unit := do
  let start ← clock
  s.turns start (Seconds.bound s.timeout) 1

end Testbed.Install
