import Testbed.Cluster
import Testbed.Collection

/-!
Installing objects. What is present is left as it is: nothing is updated or removed.
-/

namespace Testbed

open Yaml (Value)

namespace Install

variable {τ : Type}

inductive Outcome where
  | alreadyPresent | installed | collected
  deriving Repr, DecidableEq

def Outcome.text : Outcome → String
  | alreadyPresent => "already_present"
  | installed => "installed"
  | collected => "collected"

/-- Whether a kind is served under a group and version. -/
def isServed (kind version group : String) : Program τ Bool := do
  match ← Cluster.kinds group version with
  | none => return false
  | some kinds => return kinds.any (Value.isText kind)

/-- The definition of a type is present when the type is served; any other object, when it can
be read. -/
def isInstalled (ref : ResourceRef) (body : Value) : Program τ Bool := do
  let kind ← .ofExcept .refused (Manifest.field body body "kind")
  if kind.isText Manifest.definitionKind then isServed ref.kind ref.version ref.group
  else Cluster.isPresent ref

/-- Creates an object that is not present. -/
def ensure (ref : ResourceRef) (body : Value) : Program τ Outcome := do
  if ← isInstalled ref body then
    Program.log .debug (ref.text ++ " already present")
    return .alreadyPresent
  match ← Cluster.create body ref.ns with
  | .alreadyExists =>
    Program.log .info (ref.text ++ " was installed concurrently")
    return .alreadyPresent
  | .created =>
    Program.log .info ("Installed " ++ ref.text)
    return .installed

/-- Where objects go: to the cluster, or into a collection. There may be no cluster. -/
inductive Target where
  | cluster
  | collection (c : Collection)
  | nowhere

/-- What has been collected. -/
def Target.collected : Target → Collection
  | .collection c => c
  | _ => .empty

/-- Installs an object, or collects it. -/
def ensureIn (target : Target) (ref : ResourceRef) (body : Value) :
    Program τ (Outcome × Target) :=
  match target with
  | .cluster => do return (← ensure ref body, .cluster)
  | .collection c => do
    Program.log .debug ("Collected " ++ ref.text)
    return (.collected, .collection (c.add body))
  | .nowhere => .fail .noCluster

end Install

end Testbed
