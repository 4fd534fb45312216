import Testbed.Failure

/-!
Operations as programs: trees of requests, readings of the clock, pauses and log records.

A program does nothing by itself. Whoever runs it answers its requests one at a time, so a run
can be cut or mixed with others between any two of them.
-/

namespace Testbed

inductive Level where
  | debug | info | warning | error
  deriving Repr, DecidableEq

inductive Program (τ α : Type) where
  | done (result : Except (Failure τ) α)
  | ask (request : Request) (next : Except Fault request.Reply → Program τ α)
  /-- Reads the clock. -/
  | now (next : τ → Program τ α)
  /-- Whether the operation has been cancelled. -/
  | isCancelled (next : Bool → Program τ α)
  /-- Waits, and tells whether it was cancelled meanwhile. -/
  | pause (length : τ) (next : Bool → Program τ α)
  | note (level : Level) (message : String) (next : Program τ α)

namespace Program

variable {τ α β : Type}

def bind : Program τ α → (α → Program τ β) → Program τ β
  | done (.ok a), f => f a
  | done (.error e), _ => done (.error e)
  | ask r next, f => ask r fun reply => (next reply).bind f
  | now next, f => now fun t => (next t).bind f
  | isCancelled next, f => isCancelled fun b => (next b).bind f
  | pause d next, f => pause d fun b => (next b).bind f
  | note level message next, f => note level message (next.bind f)

instance : Monad (Program τ) where
  pure a := done (.ok a)
  bind := bind

def fail (e : Failure τ) : Program τ α := done (.error e)

def ofExcept {ε : Type} (wrap : ε → Failure τ) : Except ε α → Program τ α
  | .ok a => done (.ok a)
  | .error e => fail (wrap e)

/-- The clock. -/
def clock : Program τ τ := now (done <| .ok ·)

def log (level : Level) (message : String) : Program τ Unit := note level message (done (.ok ()))

/-- Sends a request; a fault ends the program. -/
def send (r : Request) : Program τ r.Reply :=
  ask r fun
    | .ok reply => done (.ok reply)
    | .error f => fail (.fault f)

/-- Sends a request; some faults count as an answer. -/
def sendOr (r : Request) (absorb : Fault → Option α) (accept : r.Reply → α) : Program τ α :=
  ask r fun
    | .ok reply => done (.ok (accept reply))
    | .error f =>
      match absorb f with
      | some a => done (.ok a)
      | none => fail (.fault f)

/-- The program with its end, whatever it is, as its answer. -/
def attempt : Program τ α → Program τ (Except (Failure τ) α)
  | done result => done (.ok result)
  | ask r next => ask r fun reply => (next reply).attempt
  | now next => now fun t => (next t).attempt
  | isCancelled next => isCancelled fun b => (next b).attempt
  | pause d next => pause d fun b => (next b).attempt
  | note level message next => note level message next.attempt

@[simp] theorem bind_done_ok (a : α) (f : α → Program τ β) : (done (.ok a)).bind f = f a := rfl

@[simp] theorem bind_fail (e : Failure τ) (f : α → Program τ β) :
    (fail e : Program τ α).bind f = fail e := rfl

theorem bind_assoc {γ : Type} (p : Program τ α) (f : α → Program τ β) (g : β → Program τ γ) :
    (p.bind f).bind g = p.bind fun a => (f a).bind g := by
  induction p with
  | done r => cases r <;> rfl
  | ask r next ih => simp only [bind, ih]
  | now next ih => simp only [bind, ih]
  | isCancelled next ih => simp only [bind, ih]
  | pause d next ih => simp only [bind, ih]
  | note level message next ih => simp only [bind, ih]

end Program

end Testbed
