import Testbed.Cluster.Request
import Testbed.Manifest
import Testbed.Seconds

/-!
What a cluster holds: the objects that exist and the types that it serves from some time on.

Nothing is ever removed.
-/

namespace Testbed

open Yaml (Value Key)

/-- What tells objects apart. Objects outside of namespaces have none. -/
structure ObjectKey where
  route : Route
  ns : Key
  name : Key
  deriving Repr, DecidableEq

/-- Kinds that are served under a group and version from some time on. -/
structure Served (τ : Type) where
  group : String
  version : String
  kinds : List Value
  since : τ

structure Store (τ : Type) where
  objects : List ObjectKey
  served : List (Served τ)

namespace Store

def keyOf (v : Option Value) : Key := (v.bind Value.key?).getD .null

def readKey (route : Route) (ns : Option String) (name : String) : ObjectKey :=
  ⟨route, (ns.map Key.text).getD .null, .text name⟩

/-- A field of a part of a body, if that part is a mapping. -/
def field (body : Value) (name : String) (v : Value) : Option Value :=
  match Manifest.resolve body v with
  | .map _ entries => Value.lookup name entries
  | _ => none

/-- The key that a body has when it is created in a namespace. -/
def createKey (route : Route) (ns : Option Value) (body : Value) : ObjectKey :=
  ⟨route, keyOf ns, keyOf ((field body "metadata" body).bind (field body "name"))⟩

variable {τ : Type}

def contains (s : Store τ) (key : ObjectKey) : Bool := s.objects.contains key

/-- The types that a definition serves: one for each version that it does not keep back. -/
def definedBy (body : Value) (since : τ) : List (Served τ) :=
  match field body "spec" body with
  | none => []
  | some spec =>
    let kind := ((field body "names" spec).bind (field body "kind")).getD .null
    let versions := (field body "versions" spec).map (Manifest.resolve body)
    match field body "group" spec, versions with
    | some (.text group), some (.list _ versions) =>
      versions.filterMap fun v =>
        if ((field body "served" v).getD (.bool true)).isTruthy then
          match field body "name" v with
          | some (.text version) => some ⟨group, version, [kind], since⟩
          | _ => none
        else none
    | _, _ => []

/-- Adds an object, and what it serves from a point of time on if it is a definition. -/
def create (s : Store τ) (key : ObjectKey) (body : Value) (since : τ) : Store τ :=
  { objects := s.objects ++ [key]
    served := s.served ++ (if key.route = .definition then definedBy body since else []) }

/-- The kinds that are served at a point of time, if anything is. -/
def kinds [Seconds τ] (s : Store τ) (group version : String) (now : τ) : Option (List Value) :=
  match s.served.filter fun e =>
    e.group == group && e.version == version && decide (e.since ≤ now) with
  | [] => none
  | entries => some (entries.flatMap (·.kinds))

end Store

end Testbed
