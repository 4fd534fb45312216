import Testbed.Resource
import Testbed.Yaml.Reading

/-!
Manifests: one document that describes one cluster object.

A manifest gives a reference and the body to send. For the definition of a resource type the
reference names the type that is served, since its presence shows in discovery; for any other
object it names the object.
-/

namespace Testbed

open Yaml (Value Problem Label)

/-- Why a manifest is not accepted. -/
inductive Refusal where
  | unreadable (p : Problem)
  | notAMapping
  | incomplete
  /-- A definition without a group, a kind or a version that is served. -/
  | unserved (name : Value)
  | noSuchBundle (name : String)
  | misfit (m : Misfit)

def Refusal.message : Refusal → String
  | unreadable _ => "Manifest is not valid YAML or JSON"
  | notAMapping => "Manifest must be a mapping"
  | incomplete => "Manifest requires apiVersion, kind and metadata.name"
  | unserved name =>
    "CRD " ++ name.inSentence ++ " requires spec.group, spec.names.kind and a served version"
  | noSuchBundle name => "No bundled manifest named " ++ Text.quoted name
  | misfit m => m.message

structure Manifest where
  ref : ResourceRef
  body : Value

namespace Manifest

/-- The kind of a definition of a resource type. -/
def definitionKind : String := "CustomResourceDefinition"

/-! ### Looking into a body -/

mutual

/-- The collection with a label. -/
def labelled (l : Label) : Value → Option Value
  | .list label items =>
    if label = some l then some (.list label items) else labelledItem l items
  | .map label entries =>
    if label = some l then some (.map label entries) else labelledEntry l entries
  | .pair a b => (labelled l a).or (labelled l b)
  | _ => none

def labelledItem (l : Label) : List Value → Option Value
  | [] => none
  | v :: rest => (labelled l v).or (labelledItem l rest)

def labelledEntry (l : Label) : List (Value × Value) → Option Value
  | [] => none
  | (k, v) :: rest => ((labelled l k).or (labelled l v)).or (labelledEntry l rest)

end

/-- A collection that stands as its label alone is the one around it. -/
def resolve (root : Value) : Value → Value
  | .again l => (labelled l root).getD (.again l)
  | v => v

/-- The value under a key; null when it is not there. -/
def field (root v : Value) (name : String) : Except Refusal Value :=
  match resolve root v with
  | .map _ entries => .ok ((Value.lookup name entries).getD .null)
  | v => .error (.misfit (.shape (.noField v.kindName "get")))

/-- The value under a key, or an empty mapping for one that is not given. -/
def section? (root v : Value) (name : String) : Except Refusal Value := do
  let v ← field root v name
  return if v.isTruthy then v else .map none []

/-- The elements that a value has when it is gone through. -/
def elements (root v : Value) : Except Refusal (List Value) :=
  match resolve root v with
  | .list _ items => .ok items
  | .set _ items => .ok items
  | .map _ entries => .ok (entries.map (·.1))
  | .text s => .ok (s.toList.map fun c => .text (String.singleton c))
  | .bytes b => .ok (b.map fun n => .int n.toNat)
  | .pair a b => .ok [a, b]
  | v => .error (.misfit (.shape (.notIterable v.kindName)))

/-- The name of the first version that is served and has one. -/
def firstServed (root : Value) : List Value → Except Refusal (Option Value)
  | [] => .ok none
  | v :: rest => do
    let served ←
      match resolve root v with
      | .map _ entries => pure ((Value.lookup "served" entries).getD (.bool true))
      | v => throw (.misfit (.shape (.noField v.kindName "get")))
    let name ← field root v "name"
    if served.isTruthy && name.isTruthy then return some name
    else firstServed root rest

/-- The version that a definition serves: of its list, or else the single one it names. -/
def servedVersion (root spec : Value) : Except Refusal Value := do
  let versions ← field root spec "versions"
  let listed ←
    if versions.isTruthy then firstServed root (← elements root versions) else pure none
  match listed with
  | some name => return name
  | none => field root spec "version"

/-- Group and version of an object. Only text has them apart. -/
def splitVersion (root v : Value) : Except Refusal (Value × Value) :=
  match resolve root v with
  | .text s =>
    let (group, version) := ResourceRef.splitApiVersion s
    .ok (.text group, .text version)
  | .list label items =>
    if items.any (Value.isText "/") then .error (.misfit (.shape (.noField "list" "split")))
    else .ok (.text "", .list label items)
  | .map label entries =>
    if (Value.lookup "/" entries).isSome then .error (.misfit (.shape (.noField "dict" "split")))
    else .ok (.text "", .map label entries)
  | .set label items =>
    if items.any (Value.isText "/") then .error (.misfit (.shape (.noField "set" "split")))
    else .ok (.text "", .set label items)
  | v => .error (.misfit (.shape (.notSearchable v.kindName)))

def makeRef (group kind version name : Value) (ns : Option Value) : Except Refusal ResourceRef :=
  match ResourceRef.ofFields ([("group", group), ("kind", kind), ("version", version),
      ("name", name)] ++ (ns.map fun v => ("namespace", v)).toList) with
  | .ok ref => .ok ref
  | .error e => .error (.misfit (.invalid e))

/-- The type that a definition serves. -/
def definitionRef (body name : Value) : Except Refusal ResourceRef := do
  let spec ← section? body body "spec"
  let kind ← field body (← section? body spec "names") "kind"
  let version ← servedVersion body spec
  let group ← field body spec "group"
  if group.isTruthy && kind.isTruthy && version.isTruthy then
    makeRef group kind version name none
  else throw (.unserved name)

/-- The manifest of a document. -/
def ofValue (body : Value) : Except Refusal Manifest := do
  match body with
  | .map _ _ => pure ()
  | _ => throw .notAMapping
  let apiVersion ← field body body "apiVersion"
  let kind ← field body body "kind"
  let metadata ← section? body body "metadata"
  let name ← field body metadata "name"
  if !(apiVersion.isTruthy && kind.isTruthy && name.isTruthy) then throw .incomplete
  if kind.isText definitionKind then
    return ⟨← definitionRef body name, body⟩
  else
    let (group, version) ← splitVersion body apiVersion
    let ns ← field body metadata "namespace"
    return ⟨← makeRef group kind version name (some ns), body⟩

/-- The manifest of what is read. Only a text that is no document is refused as such. -/
def ofRead : Except Problem Value → Except Refusal Manifest
  | .ok body => ofValue body
  | .error p => .error (.unreadable p)

def ofText (text : String) : Except Refusal Manifest := ofRead (Yaml.load text)

def ofBytes (bytes : List UInt8) : Except Refusal Manifest :=
  ofRead (do Yaml.load (← Yaml.decode bytes))

end Manifest

end Testbed
