import Testbed.CommandLine.Arguments
import Testbed.Console
import Testbed.Install.Setup
import Testbed.Settings
import Testbed.Verify

/-!
Running a command line.

A command is a program that gives a result. What is printed and the exit code follow from its
end: zero for a result, one when time was up, two for any other failure. A result that cannot be
printed counts as a failure.
-/

namespace Testbed.CommandLine

open Cluster (nonEmpty)

/-- What a command has done. -/
inductive Result where
  | collected (c : Collection)
  | installed (outcomes : Install.Outcomes)
  | verified (pod : Observation) (selector : String)

/-! ### Commands -/

def connect (a : Arguments) (s : Settings Float) : Program Float Unit :=
  Cluster.connect (a.kubeconfig.or s.kubeconfig) ((nonEmpty a.context).or s.context)

/-- Sets up the cluster and, if one is named, a namespace. -/
def setUp (ns : Option String) (s : Settings Float) (target : Install.Target) :
    Program Float (Install.Outcomes × Install.Target) := do
  let (done, target) ← Install.setUpCluster s.crdTimeout s.clusterRoleName target
  match nonEmpty ns with
  | none => return (done, target)
  | some ns =>
    let (more, target) ← Install.setUpNamespace ns s.serviceAccount target
    return (done ++ more, target)

/-- The policy of the settings, as far as the line says nothing else. Zero checks count as none
being said. -/
def policy (attempts : Option Int) (delay : Option Float) (s : Settings Float) :
    Except Invalid (Policy Float) :=
  Policy.ofFields
    [("max_attempts", .int ((attempts.filter (· != 0)).getD s.policy.maxAttempts)),
     ("delay", .float (delay.getD s.policy.delay))]

def invalid (e : Invalid) : Failure Float := .refused (.misfit (.invalid e))

/-- The program of a command. Nothing is connected to when manifests are collected. -/
def perform (a : Arguments) (s : Settings Float) : Program Float Result :=
  match a.command with
  | .install true ns => do
    let (_, target) ← setUp ns s (.collection .empty)
    return .collected target.collected
  | .install false ns => do
    connect a s
    let (done, _) ← setUp ns s .cluster
    return .installed done
  | .verify name ns message container attempts delay => do
    let policy ← .ofExcept invalid (policy attempts delay s)
    let selector := s.workloadLabel ++ "=" ++ name
    connect a s
    let pod ← Verify.verify ((nonEmpty ns).getD s.ns) selector policy message container
    return .verified pod selector

def operation (a : Arguments) (sources : Settings.Sources) : Program Float Result := do
  perform a (← .ofExcept invalid (Settings.load sources))

/-! ### Reports -/

open Console (Misprint Screen Table)

def outcomeTable (outcomes : Install.Outcomes) : Table :=
  ⟨"Installed resources".toList, ("Resource".toList, "Outcome".toList),
    outcomes.map fun (ref, outcome) => (ref.text.toList, outcome.text.toList)⟩

/-- What stands before the name of a pod that is verified. -/
def verifiedLead : String := "[bold green]Verified[/bold green] pod "

/-- What stands before the message of a timeout. -/
def timeoutLead : String := "[bold red]Timeout:[/bold red] "

/-- What is printed of a result. Collected manifests are printed as they are, in ASCII; all else is
markup, the names in it included. -/
def Result.shown (screen : Screen) : Result → Except Misprint String
  | collected c => .ok c.render
  | installed outcomes => screen.table (outcomeTable outcomes)
  | verified pod selector =>
    screen.paragraph (verifiedLead ++ (pod.name ++ " (" ++ selector ++ ")"))

structure Report where
  code : Nat
  output : String
  errors : String
  deriving Repr, DecidableEq

/-- How a command line ends. -/
inductive Ending where
  /-- The line was answered without a command: by help, the version or a complaint. -/
  | answered (r : Report)
  | ran (r : Report)
  /-- The message of a timeout cannot be printed, and no exit code is given. -/
  | broke (f : Misprint)
  deriving Repr, DecidableEq

def Stop.report : Stop → Report
  | help g => ⟨0, g.help, ""⟩
  | version => ⟨0, versionText ++ "\n", ""⟩
  | mistake g m => ⟨2, "", g.complaint m⟩

def failed (message : String) : Program Float Ending :=
  .note .error (program ++ " failed") (pure (.ran ⟨2, "", "Error: " ++ message ++ "\n"⟩))

def timedOut (screen : Screen) (t : Timeout Float) : Ending :=
  match screen.paragraph (timeoutLead ++ t.message) with
  | .ok output => .ran ⟨1, output, ""⟩
  | .error f => .broke f

/-- Reports how a command has ended. -/
def report (screen : Screen) : Except (Failure Float) Result → Program Float Ending
  | .ok result =>
    match result.shown screen with
    | .ok output => pure (.ran ⟨0, output, ""⟩)
    | .error f => failed f.message
  | .error (.timedOut t) => pure (timedOut screen t)
  | .error f => failed f.message

/-- Runs the command of a line. -/
def run (screen : Screen) (line : List String) (sources : Settings.Sources) :
    Program Float Ending :=
  match parse line with
  | .error stop => pure (.answered stop.report)
  | .ok a => do report screen (← (operation a sources).attempt)

/-- Whether records of a level are shown. -/
def shows (verbose : Bool) : Level → Bool
  | .debug => false
  | .info => verbose
  | .warning | .error => true

/-- Whether a line asks for more records to be shown. -/
def isVerbose (line : List String) : Bool :=
  match parse line with
  | .ok a => a.verbose
  | .error _ => false

end Testbed.CommandLine
