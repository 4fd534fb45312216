import Testbed.Cluster.Request
import Testbed.Manifest
import Testbed.Seconds

/-!
How an operation ends when it does not give a result.
-/

namespace Testbed

open Yaml (Value)

/-- A condition did not hold within the time given for it. -/
structure Timeout (τ : Type) where
  description : String
  timeout : τ
  attempts : Int
  elapsed : τ

def Timeout.message {τ : Type} [Seconds τ] (t : Timeout τ) : String :=
  t.description ++ " (timeout " ++ Seconds.text t.timeout ++ "s)"

inductive Failure (τ : Type) where
  | fault (f : Fault)
  | refused (r : Refusal)
  /-- Objects of a kind can be neither read nor created. -/
  | unsupported (kind : Value)
  | noNamespace (kind : Value)
  | noCluster
  | cancelled
  | timedOut (t : Timeout τ)
  /-- A number of checks that is beyond all lengths of time. -/
  | tooManyChecks

def Failure.message {τ : Type} [Seconds τ] : Failure τ → String
  | fault f => f.message
  | refused r => r.message
  | unsupported kind => "No API route for kind " ++ kind.shown
  | noNamespace kind => kind.inSentence ++ " requires a namespace"
  | noCluster => "A cluster client is required unless collecting"
  | cancelled => "Polling cancelled"
  | timedOut t => t.message
  | tooManyChecks => "int too large to convert to float"

end Testbed
