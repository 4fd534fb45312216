import Testbed.Cluster
import Testbed.Polling

/-!
Verifying a workload: one of its pods runs and is ready, and its log holds a message.
-/

namespace Testbed.Verify

open Polling (pollUntil)
open Program (log)

variable {τ : Type}

/-- All pods with a label as they are at this moment. -/
def observe (ns selector : String) : Program τ (List Observation) := do
  let pods ← Cluster.pods ns selector
  .ofExcept (fun m => .refused (.misfit m)) (pods.mapM Observation.ofPod)

/-- The first pod that is ready. -/
def findRunning (ns selector : String) : Program τ (Option Observation) := do
  return (← observe ns selector).find? (·.isReady)

/-- The log of a container of a pod, the one to read when none is named. -/
def readLog (pod : Observation) (container : Option String) : Program τ String :=
  Cluster.podLog pod.name pod.ns ((Cluster.nonEmpty container).or pod.logContainer)

variable [Seconds τ]

def awaitRunning (ns selector : String) (policy : Policy τ) : Program τ Observation := do
  let pod ← pollUntil
    { check := findRunning ns selector
      policy
      description := "Pods matching '" ++ selector ++ "' are not running"
      waiting := "Waiting for running pod '" ++ selector ++ "'" }
  log .info ("Verified pod '" ++ pod.name ++ "' state running")
  return pod

/-- Waits until the log holds a text. -/
def awaitLog (pod : Observation) (text : String) (policy : Policy τ)
    (container : Option String) : Program τ Unit := do
  pollUntil
    { check := do
        let logged ← readLog pod container
        return if Text.occursIn text.toList logged.toList then some () else none
      policy
      description := "Pod '" ++ pod.name ++ "' has not printed message '" ++ text ++ "'"
      waiting := "Waiting for pod '" ++ pod.name ++ "' to log message" }
  log .info ("Verified pod '" ++ pod.name ++ "' logs contain '" ++ text ++ "'")

/-- Waits for a running pod, and then for a message in its log if one is given. -/
def verify (ns selector : String) (policy : Policy τ) (message container : Option String) :
    Program τ Observation := do
  let pod ← awaitRunning ns selector policy
  match message with
  | none => return pod
  | some text =>
    awaitLog pod text policy container
    return pod

end Testbed.Verify
