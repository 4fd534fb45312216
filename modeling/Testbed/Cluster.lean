import Testbed.Program
import Testbed.Text.Within

/-!
Operations on a cluster: what is served, reading and creating objects, pods and their logs.

That something is missing or exists already is an answer here. Every other fault ends the
operation as it is.
-/

namespace Testbed.Cluster

open Yaml (Value)
open Program (send sendOr)

variable {τ : Type}

/-- A text that is given and not empty. -/
def nonEmpty (s : Option String) : Option String := s.filter (· != "")

/-- The kinds that are served under a group and version; none when nothing is. -/
def kinds (group version : String) : Program τ (Option (List Value)) :=
  sendOr (.kinds group version) (fun f => if f.isStatus 404 then some none else none)
    fun listed => some (listed.getD [])

def route (kind : Value) : Except (Failure τ) Route :=
  match kind.key? with
  | none => .error (.refused (.misfit (.shape (.notHashable kind.kindName))))
  | some (.text name) =>
    match Route.ofKind? name with
    | some r => .ok r
    | none => .error (.unsupported kind)
  | some _ => .error (.unsupported kind)

/-- Whether the object of a reference exists. -/
def isPresent (ref : ResourceRef) : Program τ Bool := do
  let route ← .done (route (.text ref.kind))
  let ns := if route.isNamespaced then some ((nonEmpty ref.ns).getD "default") else none
  sendOr (.read route ns ref.name) (fun f => if f.isStatus 404 then some false else none)
    fun _ => true

inductive Creation where
  | created | alreadyExists
  deriving Repr, DecidableEq

/-- The namespace for a new object: the one given, else that of its body. -/
def targetNamespace (kind body : Value) (ns : Option String) : Except (Failure τ) Value :=
  match nonEmpty ns with
  | some ns => .ok (.text ns)
  | none =>
    match (do Manifest.field body (← Manifest.section? body body "metadata") "namespace") with
    | .ok ns => if ns.isTruthy then .ok ns else .error (.noNamespace kind)
    | .error r => .error (.refused r)

/-- Where a new object goes: into a namespace if its kind lives in one. -/
def placement (route : Route) (kind body : Value) (ns : Option String) :
    Except (Failure τ) (Option Value) :=
  if route.isNamespaced then some <$> targetNamespace kind body ns else .ok none

/-- The request for a new object. That it exists already is an answer. -/
def submit (kind : Value) (route : Route) (ns : Option Value) (body : Value) :
    Program τ Creation :=
  .ask (.create route ns body) fun
    | .ok () => pure .created
    | .error (.status 409 reason _) =>
      .note .debug (kind.inSentence ++ " already exists: " ++ reason.getD "None")
        (pure .alreadyExists)
    | .error f => .fail (.fault f)

/-- Creates an object, unless it exists already. -/
def create (body : Value) (ns : Option String) : Program τ Creation := do
  let kind ← .ofExcept .refused (Manifest.field body body "kind")
  let route ← .done (route kind)
  submit kind route (← .done (placement route kind body ns)) body

/-- The pods with a label, in the order of the cluster. -/
def pods (ns selector : String) : Program τ (List Pod) := do
  return (← send (.pods ns selector)).getD []

/-- What a cluster says of a container that has no log yet. -/
def notReadyMarkers : List String := ["waiting to start", "ContainerCreating", "PodInitializing"]

def Fault.isNotReady : Fault → Bool
  | .status 400 _ body =>
    notReadyMarkers.any fun marker => Text.occursIn marker.toList (body.getD "").toList
  | _ => false

/-- The log of a container; empty when it has not started. -/
def podLog (name ns : String) (container : Option String) : Program τ String :=
  sendOr (.log name ns (nonEmpty container))
    (fun f => if Fault.isNotReady f then some "" else none) (·.getD "")

/-- Gets access: from within the cluster, else by a configuration file. -/
def connect (file context : Option String) : Program τ Unit :=
  .ask .ownAccess fun
    | .ok () => pure ()
    | .error (.noAccess _) => send (.fileAccess (nonEmpty file) (nonEmpty context))
    | .error f => .fail (.fault f)

end Testbed.Cluster
