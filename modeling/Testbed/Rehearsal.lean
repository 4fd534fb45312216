import Testbed.Cluster.Store
import Testbed.Program

/-!
Rehearsals: running a program against a cluster that follows a script.

The clock moves when the program waits and, by a fixed cost, with each request. The script holds
the faults of the requests, the lists of pods, the logs and the outcomes of probes, each in the
order in which they are used up; the last list and the last log are repeated.
-/

namespace Testbed

open Yaml (Value)

/-- The outcome of a probe, and how long it takes. -/
structure Probe (τ : Type) where
  cost : τ
  outcome : Except Fault (Option Value)

structure Script (τ : Type) where
  /-- For some requests what goes wrong with each of them, if anything. -/
  faults : List (Request.Call × List (Option Fault))
  pods : List (Option (List Pod))
  logs : List (Except Fault (Option String))
  probes : List (Probe τ)
  /-- Whether there is access from within the cluster. -/
  ownAccess : Bool
  /-- What is wrong with the configuration file. -/
  fileFault : Option String

/-- What has happened, oldest first. -/
structure Record (τ : Type) where
  /-- The requests and when they were sent. -/
  requests : List (τ × Request)
  sleeps : List τ
  log : List (Level × String)

structure Rehearsal (τ : Type) where
  clock : τ
  /-- How long each request takes. -/
  cost : τ
  /-- How long a new type takes to be served. -/
  serveDelay : τ
  /-- When the operation is cancelled, if it can be. -/
  cancelAt : Option τ
  store : Store τ
  script : Script τ
  record : Record τ

def Record.empty {τ : Type} : Record τ := ⟨[], [], []⟩

namespace Rehearsal

variable {τ α : Type}

/-- The next of a list whose last element is repeated, and the list after it. -/
def advance (usual : α) : List α → α × List α
  | [] => (usual, [])
  | [a] => (a, [a])
  | a :: rest => (a, rest)

/-- The next fault of a kind of request, and the script after it. -/
def takeFault (call : Request.Call) :
    List (Request.Call × List (Option Fault)) →
      Option Fault × List (Request.Call × List (Option Fault))
  | [] => (none, [])
  | (c, faults) :: rest =>
    if c = call then
      match faults with
      | [] => (none, (c, []) :: rest)
      | f :: faults => (f, (c, faults) :: rest)
    else
      let (f, rest) := takeFault call rest
      (f, (c, faults) :: rest)

def notFound : Fault := .status 404 (some "Not Found") none

def conflict : Fault := .status 409 (some "Conflict") none

def noOwnAccess : Fault := .noAccess "Service host/port is not set."

def note (level : Level) (message : String) (r : Rehearsal τ) : Rehearsal τ :=
  { r with record := { r.record with log := r.record.log ++ [(level, message)] } }

def send (request : Request) (r : Rehearsal τ) : Rehearsal τ :=
  { r with record := { r.record with requests := r.record.requests ++ [(r.clock, request)] } }

variable [Seconds τ]

/-- Lets time pass, of which a part was slept. -/
def sleep (length : τ) (r : Rehearsal τ) : Rehearsal τ :=
  { r with
    clock := r.clock + length
    record := { r.record with sleeps := r.record.sleeps ++ [length] } }

def isCancelled (r : Rehearsal τ) : Bool := r.cancelAt.any fun t => decide (t ≤ r.clock)

/-- Waits, but not beyond the time of cancellation; tells whether that has come. -/
def pause (length : τ) (r : Rehearsal τ) : Bool × Rehearsal τ :=
  match r.cancelAt with
  | none => (false, r.sleep length)
  | some t =>
    if t ≤ r.clock + length then
      (true, { r with
        clock := Seconds.latest r.clock t
        record := { r.record with
          sleeps := r.record.sleeps ++ [Seconds.latest (t - r.clock) 0] } })
    else (false, r.sleep length)

/-- Sends a request to the cluster: it takes its time and may go wrong. -/
def dispatch (request : Request) (r : Rehearsal τ) : Option Fault × Rehearsal τ :=
  let r := r.send request
  let (fault, faults) := takeFault request.call r.script.faults
  (fault, { r with clock := r.clock + r.cost, script := { r.script with faults } })

def outcome (found : Bool) (fault : Fault) : Except Fault Unit :=
  if found then .ok () else .error fault

/-- What the cluster answers when nothing goes wrong. -/
def serve (request : Request) (r : Rehearsal τ) : Except Fault request.Reply × Rehearsal τ :=
  match request with
  | .kinds group version =>
    match r.store.kinds group version r.clock with
    | none => (.error notFound, r)
    | some [] => (.ok none, r)
    | some kinds => (.ok (some kinds), r)
  | .read route ns name => (outcome (r.store.contains (Store.readKey route ns name)) notFound, r)
  | .create route ns body =>
    let key := Store.createKey route ns body
    if r.store.contains key then (.error conflict, r)
    else (.ok (), { r with store := r.store.create key body (r.clock + r.serveDelay) })
  | .pods _ _ =>
    let (answer, pods) := advance (some []) r.script.pods
    (.ok answer, { r with script := { r.script with pods } })
  | .log _ _ _ =>
    let (answer, logs) := advance (.ok (some "")) r.script.logs
    (answer, { r with script := { r.script with logs } })
  | .probe =>
    let (answer, probes) := advance ⟨0, .ok none⟩ r.script.probes
    (answer.outcome, { r with clock := r.clock + answer.cost, script := { r.script with probes } })
  | .ownAccess => (outcome r.script.ownAccess noOwnAccess, r)
  | .fileAccess _ _ =>
    match r.script.fileFault with
    | none => (.ok (), r)
    | some message => (.error (.noAccess message), r)

/-- Whether a request goes to the cluster. -/
def isRemote : Request → Bool
  | .probe | .ownAccess | .fileAccess _ _ => false
  | _ => true

def answer (request : Request) (r : Rehearsal τ) : Except Fault request.Reply × Rehearsal τ :=
  if isRemote request then
    match r.dispatch request with
    | (some fault, r) => (.error fault, r)
    | (none, r) => r.serve request
  else (r.send request).serve request

/-- Runs a program to its end. -/
def run : Program τ α → Rehearsal τ → Except (Failure τ) α × Rehearsal τ
  | .done result, r => (result, r)
  | .ask request next, r => run (next (r.answer request).1) (r.answer request).2
  | .now next, r => run (next r.clock) r
  | .isCancelled next, r => run (next r.isCancelled) r
  | .pause length next, r => run (next (r.pause length).1) (r.pause length).2
  | .note level message next, r => run next (r.note level message)

end Rehearsal

end Testbed
