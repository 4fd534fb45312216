import Testbed.Seconds
import Testbed.Validation

/-!
How often and how long to poll.
-/

namespace Testbed

/-- A number of checks and the time between them. -/
structure Policy (τ : Type) [Seconds τ] where
  maxAttempts : Nat
  delay : τ
  maxAttempts_pos : 0 < maxAttempts
  delay_nonneg : 0 ≤ delay

namespace Policy

variable {τ : Type} [Seconds τ]

/-- All the time that a poll may take. -/
def budget (p : Policy τ) : τ := Seconds.ofNat p.maxAttempts * p.delay

/-- The budget, unless the number of checks is none of seconds. -/
def budget? (p : Policy τ) : Option τ :=
  if Seconds.admits (τ := τ) p.maxAttempts then some p.budget else none

/-- The policy of values that have been checked. -/
def ofChecked (n : Int) (n_pos : 0 < n) (d : { d : Float // 0 ≤ d }) : Policy Float :=
  ⟨n.toNat, d.val, by omega, d.property⟩

def ofFields (fields : Validation.Fields) : Except Invalid (Policy Float) :=
  let attempts := Validation.required fields "max_attempts" (Validation.wholeAbove 0)
  let delay := Validation.required fields "delay" Validation.numberFromZero
  match attempts, delay with
  | .ok n, .ok d => .ok (ofChecked n.val n.property d)
  | _, _ => .error ⟨"PollPolicy", Validation.fault attempts ++ Validation.fault delay⟩

end Policy

end Testbed
