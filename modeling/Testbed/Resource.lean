import Testbed.Validation

/-!
References to cluster objects and to the types that they serve.
-/

namespace Testbed

/-- Names a cluster object, or the type that a definition serves, apart from its body. The group
is empty for the core of the interface. -/
structure ResourceRef where
  group : String
  kind : String
  version : String
  name : String
  ns : Option String
  deriving Repr, DecidableEq

namespace ResourceRef

/-- Group and version as a body writes them. -/
def apiVersion (r : ResourceRef) : String :=
  if r.group = "" then r.version else r.group ++ "/" ++ r.version

/-- The namespace with its slash, when there is one. -/
def scope (r : ResourceRef) : String :=
  match r.ns with
  | none => ""
  | some ns => if ns = "" then "" else ns ++ "/"

def text (r : ResourceRef) : String :=
  r.kind ++ "." ++ r.apiVersion ++ " " ++ r.scope ++ r.name

/-- Splits at the first slash; without one the group is empty. -/
def splitApiVersion (s : String) : String × String :=
  let chars := s.toList
  if chars.contains '/' then
    (String.ofList (chars.takeWhile (· != '/')),
      String.ofList ((chars.dropWhile (· != '/')).drop 1))
  else ("", s)

/-- A reference from untyped fields. -/
def ofFields (fields : Validation.Fields) : Except Invalid ResourceRef :=
  let group := Validation.required fields "group" Validation.text
  let kind := Validation.required fields "kind" Validation.text
  let version := Validation.required fields "version" Validation.text
  let name := Validation.required fields "name" Validation.text
  let ns := Validation.withDefault fields "namespace" none (Validation.optional Validation.text)
  match group, kind, version, name, ns with
  | .ok group, .ok kind, .ok version, .ok name, .ok ns => .ok ⟨group, kind, version, name, ns⟩
  | _, _, _, _, _ =>
    .error ⟨"ResourceRef", Validation.fault group ++ Validation.fault kind
      ++ Validation.fault version ++ Validation.fault name ++ Validation.fault ns⟩

end ResourceRef

end Testbed
