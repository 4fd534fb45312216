import Testbed.Polling.Policy
import Testbed.Settings.Variables
import Testbed.Text.Path

/-!
Settings: what is given for a run, else by a variable of the environment, else by a variable of a
file, else a usual value.
-/

namespace Testbed

open Yaml (Value)
open Validation (Fields withDefault fault)

structure Settings (τ : Type) [Seconds τ] where
  /-- The file that gives access to the cluster. -/
  kubeconfig : Option String
  context : Option String
  ns : String
  policy : Policy τ
  /-- The label by which the pods of a workload are found. -/
  workloadLabel : String
  /-- How long to wait until new types are served. -/
  crdTimeout : τ
  crdTimeout_pos : 0 < crdTimeout
  clusterRoleName : String
  serviceAccount : String

namespace Settings

/-- Where settings come from. -/
structure Sources where
  given : Fields
  environment : List (String × String)
  /-- The text of the file of variables, if there is one. -/
  file : Option String

namespace Sources

/-- The names of variables start with this, in any case. -/
def stem : String := "kube_testkit_"

def lower (s : String) : String := String.ofList (s.toList.map Char.toLower)

/-- The last variable with a name. -/
def lastNamed (vars : List Variables.Binding) (name : String) : Option String :=
  match vars.reverse.find? fun (k, _) => lower k == Sources.stem ++ name with
  | some (_, v) => v
  | none => none

def environmentVariables (s : Sources) : List Variables.Binding :=
  s.environment.map fun (k, v) => (k, some v)

def fileVariables (s : Sources) : List Variables.Binding :=
  match s.file with
  | none => []
  | some text => Variables.ofText s.environmentVariables text

/-- A setting that is given, under its own name or in another case. -/
def given? (s : Sources) (name : String) : Option Value :=
  (s.given.lookup name).or ((s.given.find? fun (k, _) => lower k == name).map (·.2))

/-- The value of a setting: the first that one of the sources has. -/
def value? (s : Sources) (name : String) : Option Value :=
  (s.given? name).or
    (((lastNamed s.environmentVariables name).or (lastNamed s.fileVariables name)).map .text)

def names : List String :=
  ["kubeconfig", "context", "namespace", "max_attempts", "delay_between_attempts",
   "workload_label", "crd_timeout", "cluster_role_name", "service_account"]

/-- All settings that have a value, in order. -/
def fields (s : Sources) : Fields :=
  names.filterMap fun name => (s.value? name).map (name, ·)

end Sources

/-- A path, in normal form. -/
def path : Value → Except FieldProblem String
  | .text s => .ok (String.ofList (Text.normalPath s.toList))
  | _ => .error .notPath

/-- Five minutes of checks, two seconds apart. -/
def usualAttempts : { n : Int // ((1 : Nat) : Int) ≤ n } := ⟨150, by omega⟩
def usualDelay : { x : Float // 0 ≤ x } := ⟨2, by decide +kernel⟩
def usualTimeout : { x : Float // 0 < x } := ⟨25, by decide +kernel⟩

def ofFields (fields : Fields) : Except Invalid (Settings Float) :=
  let kubeconfig := withDefault fields "kubeconfig" none (Validation.optional path)
  let context := withDefault fields "context" none (Validation.optional Validation.text)
  let ns := withDefault fields "namespace" "default" Validation.text
  let attempts := withDefault fields "max_attempts" usualAttempts (Validation.wholeFrom 1)
  let delay := withDefault fields "delay_between_attempts" usualDelay Validation.numberFromZero
  let label := withDefault fields "workload_label" "camel.apache.org/integration" Validation.text
  let timeout := withDefault fields "crd_timeout" usualTimeout Validation.numberAboveZero
  let role := withDefault fields "cluster_role_name" "yaks:edit" Validation.text
  let account := withDefault fields "service_account" "yaks" Validation.text
  match kubeconfig, context, ns, attempts, delay, label, timeout, role, account with
  | .ok kubeconfig, .ok context, .ok ns, .ok attempts, .ok delay, .ok label, .ok timeout,
    .ok role, .ok account =>
    .ok { kubeconfig, context, ns
          policy := .ofChecked attempts.val (by have := attempts.property; omega) delay
          workloadLabel := label
          crdTimeout := timeout.val
          crdTimeout_pos := timeout.property
          clusterRoleName := role
          serviceAccount := account }
  | _, _, _, _, _, _, _, _, _ =>
    .error ⟨"Settings", fault kubeconfig ++ fault context ++ fault ns ++ fault attempts
      ++ fault delay ++ fault label ++ fault timeout ++ fault role ++ fault account⟩

def load (s : Sources) : Except Invalid (Settings Float) := ofFields s.fields

end Settings

end Testbed
