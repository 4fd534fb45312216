import Testbed.Validation

/-!
Pods as the cluster reports them, and what is observed of a pod at one moment.
-/

namespace Testbed

open Yaml (Value)

/-- Name and namespace of an object. -/
structure Metadata where
  name : Value
  ns : Value

/-- A pod with the containers that its status reports, each with its readiness, and those that
its specification declares. -/
structure Pod where
  metadata : Option Metadata
  phase : Value
  statuses : List (Value × Value)
  declared : List Value

structure Container where
  name : String
  ready : Bool
  deriving Repr, DecidableEq

structure Observation where
  name : String
  ns : String
  phase : String
  /-- Readiness, in the order of the status. -/
  containers : List Container
  /-- Names, in the order of the specification. -/
  declared : List String
  deriving Repr, DecidableEq

namespace Observation

/-- The pod runs and all of its containers are ready; it has at least one. -/
def isReady (o : Observation) : Bool :=
  o.phase == "Running" && !o.containers.isEmpty && o.containers.all (·.ready)

/-- The container to read the log of when none is named: the first of several. -/
def logContainer (o : Observation) : Option String :=
  match o.declared with
  | first :: _ :: _ => some first
  | _ => none

def container (status : Value × Value) : Except Misfit Container :=
  match Validation.text status.1 with
  | .ok name => .ok ⟨name, status.2.isTruthy⟩
  | .error problem => .error (.invalid ⟨"ContainerReadiness", [⟨"name", problem, status.1⟩]⟩)

/-- The names of a list, and the faults of those that are not text. -/
def names (field : String) : Nat → List Value → List String × List FieldError
  | _, [] => ([], [])
  | n, v :: rest =>
    let (names, faults) := names field (n + 1) rest
    match Validation.text v with
    | .ok name => (name :: names, faults)
    | .error problem => (names, ⟨field ++ "." ++ toString n, problem, v⟩ :: faults)

/-- A value, or another one when it is not given. -/
def given (v : Value) (usual : String) : Value := if v.isTruthy then v else .text usual

def field (name : String) (v : Value) : Except FieldError String :=
  match Validation.text v with
  | .ok s => .ok s
  | .error problem => .error ⟨name, problem, v⟩

def ofPod (p : Pod) : Except Misfit Observation := do
  let containers ← p.statuses.mapM container
  match p.metadata with
  | none => throw (.shape (.noField "NoneType" "name"))
  | some metadata =>
    let name := field "name" metadata.name
    let ns := field "namespace" (given metadata.ns "default")
    let phase := field "phase" (given p.phase "Unknown")
    let (declared, faults) := names "declared_containers" 0 p.declared
    match name, ns, phase, faults with
    | .ok name, .ok ns, .ok phase, [] => return ⟨name, ns, phase, containers, declared⟩
    | _, _, _, _ =>
      throw (.invalid ⟨"PodObservation", Validation.fault name ++ Validation.fault ns
        ++ Validation.fault phase ++ faults⟩)

end Observation

end Testbed
