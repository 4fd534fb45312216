import Testbed.Install.Serving
import Testbed.Manifest.Bundle

/-!
Setting up a cluster for tests: the types of the testbed and the role of its users, then in each
namespace the role of the operator and who has it.
-/

namespace Testbed.Install

open Yaml (Value)

variable {τ : Type}

/-- A body with a field changed, if it is a mapping. -/
def setField (name : String) (v : Value) : Value → Value
  | .map label entries => .map label (Value.insert (.text name) v entries)
  | body => body

/-- A body with a field of one of its sections changed. -/
def setIn (part name : String) (v : Value) : Value → Value
  | .map label entries =>
    match Value.lookup part entries with
    | some inner => .map label (Value.insert (.text part) (setField name v inner) entries)
    | none => .map label entries
  | body => body

def renamed (name : String) (m : Manifest) : Manifest :=
  ⟨{ m.ref with name := name }, setIn "metadata" "name" (.text name) m.body⟩

def placed (ns : String) (m : Manifest) : Manifest :=
  ⟨{ m.ref with ns := some ns }, setIn "metadata" "namespace" (.text ns) m.body⟩

/-- A subject that is a service account becomes the given one. -/
def bindSubject (account ns : String) (subject : Value) : Value :=
  match subject with
  | .map _ entries =>
    if (Value.lookup "kind" entries).any (Value.isText "ServiceAccount") then
      setField "namespace" (.text ns) (setField "name" (.text account) subject)
    else subject
  | _ => subject

def bound (account ns : String) (m : Manifest) : Manifest :=
  match m.body with
  | .map label entries =>
    match Value.lookup "subjects" entries with
    | some (.list l subjects) =>
      { m with body := .map label (Value.insert (.text "subjects")
          (.list l (subjects.map (bindSubject account ns))) entries) }
    | _ => m
  | _ => m

/-- What was done for each reference, in order. -/
abbrev Outcomes := List (ResourceRef × Outcome)

def bundled (name : String) : Program τ Manifest := .ofExcept .refused (Bundle.load name)

/-- Installs or collects one manifest and adds it to the outcomes. -/
def add (m : Manifest) (done : Outcomes × Target) : Program τ (Outcomes × Target) := do
  let (outcome, target) ← ensureIn done.2 m.ref m.body
  return (done.1 ++ [(m.ref, outcome)], target)

/-- Waits until the type of a definition is served. Nothing is waited for when manifests are
collected. -/
def awaitType [Seconds τ] (timeout : τ) (m : Manifest) : Target → Program τ Unit
  | .collection _ => pure ()
  | _ => awaitServed ⟨m.ref.kind, m.ref.version, m.ref.group, timeout⟩

/-- Installs the types, waits until the last of them is served, and installs the role of
users. -/
def setUpCluster [Seconds τ] (timeout : τ) (roleName : String) (target : Target) :
    Program τ (Outcomes × Target) := do
  let done ← add (← bundled "crd-instance.yaml") ([], target)
  let test ← bundled "crd-test.yaml"
  let done ← add test done
  awaitType timeout test target
  add (renamed roleName (← bundled "user-cluster-role.yaml")) done

/-- Installs the role of the operator in a namespace and binds it to a service account. -/
def setUpNamespace (ns account : String) (target : Target) : Program τ (Outcomes × Target) := do
  let done ← add (placed ns (← bundled "role.yaml")) ([], target)
  add (bound account ns (placed ns (← bundled "role-binding.yaml"))) done

end Testbed.Install
