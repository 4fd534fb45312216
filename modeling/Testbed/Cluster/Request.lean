import Testbed.Pod

/-!
What is asked of a cluster, and what it answers.
-/

namespace Testbed

open Yaml (Value)

/-- The kinds of objects that can be read and created by name. -/
inductive Route where
  | definition | clusterRole | clusterRoleBinding | role | roleBinding
  deriving Repr, DecidableEq

namespace Route

def kind : Route → String
  | definition => "CustomResourceDefinition"
  | clusterRole => "ClusterRole"
  | clusterRoleBinding => "ClusterRoleBinding"
  | role => "Role"
  | roleBinding => "RoleBinding"

def all : List Route := [definition, clusterRole, clusterRoleBinding, role, roleBinding]

def ofKind? (kind : String) : Option Route := all.find? (·.kind == kind)

/-- Whether objects of the kind live in a namespace. -/
def isNamespaced : Route → Bool
  | role | roleBinding => true
  | _ => false

@[simp] theorem ofKind?_kind (r : Route) : ofKind? r.kind = some r := by cases r <;> decide

theorem kind_of_ofKind? {kind : String} {r : Route} (h : ofKind? kind = some r) :
    r.kind = kind := by
  simpa using List.find?_some h

end Route

/-- One request. Each is answered on its own. -/
inductive Request where
  /-- The kinds that are served under a group and version. -/
  | kinds (group version : String)
  | read (route : Route) (ns : Option String) (name : String)
  | create (route : Route) (ns : Option Value) (body : Value)
  | pods (ns selector : String)
  | log (pod ns : String) (container : Option String)
  /-- Whether a condition holds that someone else defines. -/
  | probe
  /-- Access from within the cluster. -/
  | ownAccess
  /-- Access by a configuration file, or the usual one. -/
  | fileAccess (file context : Option String)

/-- What a request is about, apart from its arguments. -/
inductive Request.Call where
  | kinds
  | read (route : Route)
  | create (route : Route)
  | pods
  | log
  | probe
  | ownAccess
  | fileAccess
  deriving Repr, DecidableEq

namespace Request

def call : Request → Call
  | kinds _ _ => .kinds
  | read route _ _ => .read route
  | create route _ _ => .create route
  | pods _ _ => .pods
  | log _ _ _ => .log
  | probe => .probe
  | ownAccess => .ownAccess
  | fileAccess _ _ => .fileAccess

/-- What a request is answered with when it succeeds. -/
abbrev Reply : Request → Type
  | kinds _ _ => Option (List Value)
  | read _ _ _ => Unit
  | create _ _ _ => Unit
  | pods _ _ => Option (List Pod)
  | log _ _ _ => Option String
  | probe => Option Value
  | ownAccess => Unit
  | fileAccess _ _ => Unit

end Request

/-- Why a request is not answered. -/
inductive Fault where
  /-- The cluster answers with an error. -/
  | status (code : Int) (reason body : Option String)
  /-- No answer comes. -/
  | broken (message : String)
  /-- No access is configured. -/
  | noAccess (message : String)
  deriving Repr, DecidableEq

def Fault.message : Fault → String
  | status code reason body =>
    "(" ++ toString code ++ ")\nReason: " ++ reason.getD "None" ++ "\n"
      ++ (match body with
        | none | some "" => ""
        | some body => "HTTP response body: " ++ body ++ "\n")
  | broken message => message
  | noAccess message => message

/-- The cluster answers with a given error code. -/
def Fault.isStatus (code : Int) : Fault → Bool
  | status c _ _ => c == code
  | _ => false

end Testbed
