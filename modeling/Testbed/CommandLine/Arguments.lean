import Testbed.CommandLine.Usage
import Testbed.Text.Numeral
import Testbed.Text.Path

/-!
The commands of the program and how they are read from a command line.
-/

namespace Testbed.CommandLine

def helpSwitch : Switch × String := (.help, "show this help message and exit")

def commandNames : List (String × String) :=
  [("install", "Install CRDs, the edit ClusterRole and namespace permissions"),
   ("verify", "Verify a workload pod is running and optionally logged a message")]

def program : String := "kube-testkit"

def versionText : String := program ++ " 0.1.0"

/-- The grammar of the line up to the command. -/
def mainGrammar : Grammar where
  program := program
  description :=
    some "kube-testkit: bootstrap test resources and verify workloads on Kubernetes."
  switches :=
    [helpSwitch,
     (.kubeconfig,
       "Path to kubeconfig (default: KUBECONFIG env or ~/.kube/config) (default: None)"),
     (.context, "Kubernetes context to use (default: None)"),
     (.verbose, "Enable verbose logging (default: False)"),
     (.version, "show program's version number and exit")]
  operand := .command commandNames

def installGrammar : Grammar where
  program := program ++ " install"
  description := none
  switches :=
    [helpSwitch,
     (.collect, "Print the resources as YAML instead of installing them"),
     (.ns, "Also install the operator Role and RoleBinding in this namespace")]
  operand := .none

def verifyGrammar : Grammar where
  program := program ++ " verify"
  description := none
  switches :=
    [helpSwitch,
     (.ns, "Namespace (default: from env or 'default')"),
     (.message, "Wait for this text in the pod log"),
     (.container, "Container to read logs from"),
     (.attempts, "Poll attempts (default: from env)"),
     (.delay, "Seconds between attempts (default: from env)")]
  operand := .word "name" "Workload name, matched against the workload label"

/-- What the switches and operands of a line say. -/
structure Choices where
  kubeconfig : Option String
  context : Option String
  verbose : Bool
  collect : Bool
  ns : Option String
  message : Option String
  container : Option String
  attempts : Option Int
  delay : Option Float
  name : String

def Choices.none : Choices :=
  ⟨.none, .none, false, false, .none, .none, .none, .none, .none, ""⟩

inductive Command where
  | install (collect : Bool) (ns : Option String)
  | verify (name : String) (ns message container : Option String) (attempts : Option Int)
    (delay : Option Float)

structure Arguments where
  kubeconfig : Option String
  context : Option String
  verbose : Bool
  command : Command

/-- Why no command is run. -/
inductive Stop where
  | help (g : Grammar)
  | version
  | mistake (g : Grammar) (m : Mistake)

/-- The choices after a switch. -/
def take (g : Grammar) (c : Choices) (given : Given) : Except Stop Choices :=
  let argument := given.argument.getD ""
  match given.switch with
  | .help => .error (.help g)
  | .version => .error .version
  | .verbose => .ok { c with verbose := true }
  | .kubeconfig =>
    .ok { c with kubeconfig := some (String.ofList (Text.normalPath argument.toList)) }
  | .context => .ok { c with context := some argument }
  | .collect => .ok { c with collect := true }
  | .ns => .ok { c with ns := some argument }
  | .message => .ok { c with message := some argument }
  | .container => .ok { c with container := some argument }
  | .attempts =>
    match Text.whole? 10 argument.toList with
    | some n => .ok { c with attempts := some n }
    | none => .error (.mistake g (.argumentUnreadable .attempts "int" argument))
  | .delay =>
    match Text.liberalNumber? argument.toList with
    | some x => .ok { c with delay := some x }
    | none => .error (.mistake g (.argumentUnreadable .delay "float" argument))

/-- What has been read of a line: the choices, the words that are none of its grammar, and a
command with the words that follow it. -/
structure Reading where
  choices : Choices
  extra : List String
  command : Option (String × List String)

/-- The operand of a grammar while it is still to come. -/
def missing : Operand → Option String
  | .word name _ => some name
  | .command _ => some "command"
  | .none => none

/-- Reads words from left to right. `pending` is the operand that is still to come. -/
def read (g : Grammar) : (pending : Operand) → List Word → Reading → Except Stop Reading
  | pending, [], r =>
    match missing pending with
    | some name => .error (.mistake g (.operandMissing name))
    | none => .ok r
  | pending, ⟨text, .unknown⟩ :: rest, r =>
    read g pending rest { r with extra := r.extra ++ [text] }
  | pending, ⟨_, .switch s name attached⟩ :: rest, r => do
    let b ← (ofSwitch g s name attached).mapError (.mistake g)
    let extra := r.extra ++ b.extra.toList
    match b.waiting with
    | none =>
      let choices ← b.given.foldlM (take g) r.choices
      read g pending rest { r with choices, extra }
    | some s =>
      match rest with
      | ⟨argument, .operand⟩ :: rest =>
        let choices ← (b.given ++ [Given.mk s (some argument)]).foldlM (take g) r.choices
        read g pending rest { r with choices, extra }
      | _ => .error (.mistake g (.argumentMissing s))
  | .word _ _, ⟨text, .operand⟩ :: ⟨_, .separator⟩ :: rest, r =>
    read g .none rest { r with choices := { r.choices with name := text } }
  | .word _ _, ⟨text, .operand⟩ :: rest, r =>
    read g .none rest { r with choices := { r.choices with name := text } }
  | .word _ _, ⟨_, .separator⟩ :: ⟨text, .operand⟩ :: rest, r =>
    read g .none rest { r with choices := { r.choices with name := text } }
  | .command _, ⟨text, .operand⟩ :: rest, r =>
    .ok { r with command := some (text, rest.map (·.text)) }
  | .command _, ⟨text, .separator⟩ :: next :: rest, r =>
    .ok { r with command := some (text, (next :: rest).map (·.text)) }
  | pending, ⟨text, _⟩ :: rest, r => read g pending rest { r with extra := r.extra ++ [text] }

def readLine (g : Grammar) (line : List String) (c : Choices) : Except Stop Reading := do
  let words ← (Word.ofLine g line).mapError (.mistake g)
  read g g.operand words ⟨c, [], none⟩

/-- The arguments of a command line. -/
def parse (line : List String) : Except Stop Arguments := do
  let r ← readLine mainGrammar line Choices.none
  let (name, rest) := r.command.getD ("", [])
  let g ←
    if name = "install" then pure installGrammar
    else if name = "verify" then pure verifyGrammar
    else throw (.mistake mainGrammar (.noSuchCommand name (commandNames.map (·.1))))
  let s ← readLine g rest r.choices
  let extra := r.extra ++ s.extra
  if !extra.isEmpty then throw (.mistake mainGrammar (.unrecognized extra))
  let c := s.choices
  let command :=
    if name = "install" then Command.install c.collect c.ns
    else .verify c.name c.ns c.message c.container c.attempts c.delay
  return ⟨c.kubeconfig, c.context, c.verbose, command⟩

end Testbed.CommandLine
