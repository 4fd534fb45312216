import Testbed.Text.Numeral
import Testbed.Text.Quoted

/-!
The grammar of the command line: which switches and operands a command has, and how the words of
a line are told apart.

A switch may be cut short while it is the only one with that beginning. An argument stands in the
next word or after an equals sign, after a short switch also without one. Behind a double hyphen
there are only operands.
-/

namespace Testbed.CommandLine

inductive Switch where
  | help | version | verbose
  | kubeconfig | context | collect | ns | message | container | attempts | delay
  deriving Repr, DecidableEq

namespace Switch

/-- The names of a switch, the one that is shown first. -/
def names : Switch → List String
  | help => ["-h", "--help"]
  | version => ["--version"]
  | verbose => ["--verbose", "-v"]
  | kubeconfig => ["--kubeconfig"]
  | context => ["--context"]
  | collect => ["--collect"]
  | ns => ["--namespace", "-n"]
  | message => ["--log-message"]
  | container => ["--container"]
  | attempts => ["--max-attempts"]
  | delay => ["--delay"]

/-- What its argument is called, if it takes one. -/
def argument? : Switch → Option String
  | help | version | verbose | collect => none
  | kubeconfig => some "KUBECONFIG"
  | context => some "CONTEXT"
  | ns => some "NAMESPACE"
  | message => some "LOG_MESSAGE"
  | container => some "CONTAINER"
  | attempts => some "MAX_ATTEMPTS"
  | delay => some "DELAY"

end Switch

/-- The operand of a command. -/
inductive Operand where
  /-- A single word. -/
  | word (name help : String)
  /-- One of several commands, with all that follows. -/
  | command (choices : List (String × String))
  | none

structure Grammar where
  program : String
  description : Option String
  /-- The switches with their help. -/
  switches : List (Switch × String)
  operand : Operand

namespace Grammar

/-- The names of all switches, in order. -/
def names (g : Grammar) : List (String × Switch) :=
  g.switches.flatMap fun (s, _) => s.names.map (·, s)

def find? (g : Grammar) (name : String) : Option Switch := g.names.lookup name

end Grammar

/-- What is wrong with a command line. -/
inductive Mistake where
  | ambiguous (word : String) (names : List String)
  | argumentMissing (s : Switch)
  | argumentIgnored (s : Switch) (argument : String)
  | argumentUnreadable (s : Switch) (kind argument : String)
  | noSuchCommand (word : String) (choices : List String)
  | operandMissing (name : String)
  | unrecognized (words : List String)
  deriving Repr, DecidableEq

namespace Mistake

/-- A switch with all of its names. -/
def ofSwitch (s : Switch) (why : String) : String :=
  "argument " ++ "/".intercalate s.names ++ ": " ++ why

def message : Mistake → String
  | ambiguous word names =>
    "ambiguous option: " ++ word ++ " could match " ++ ", ".intercalate names
  | argumentMissing s => ofSwitch s "expected one argument"
  | argumentIgnored s argument => ofSwitch s ("ignored explicit argument " ++ Text.quoted argument)
  | argumentUnreadable s kind argument =>
    ofSwitch s ("invalid " ++ kind ++ " value: " ++ Text.quoted argument)
  | noSuchCommand word choices =>
    "argument command: invalid choice: " ++ Text.quoted word ++ " (choose from "
      ++ ", ".intercalate (choices.map Text.quoted) ++ ")"
  | operandMissing name => "the following arguments are required: " ++ name
  | unrecognized words => "unrecognized arguments: " ++ " ".intercalate words

end Mistake

/-! ### Words -/

/-- An argument in the word of its switch. -/
structure Attached where
  text : List Char
  /-- Whether an equals sign stands before it. -/
  assigned : Bool
  deriving Repr, DecidableEq

/-- What a word is. -/
inductive Role where
  | operand | separator | unknown
  /-- A switch, with the name that was found and the argument in the same word. -/
  | switch (s : Switch) (name : String) (attached : Option Attached)
  deriving Repr, DecidableEq

structure Word where
  text : String
  role : Role
  deriving Repr, DecidableEq

namespace Word

/-- The word before an equals sign, and what follows it. -/
def splitAssignment (word : List Char) : List Char × Option (List Char) :=
  match word.dropWhile (· != '=') with
  | [] => (word, none)
  | _ :: value => (word.takeWhile (· != '='), some value)

/-- A decimal number with a minus sign, in the digits of any script. -/
def isNegativeNumber (word : List Char) : Bool :=
  match word with
  | '-' :: number =>
    let number := if number.getLast? == some '\n' then number.dropLast else number
    match (number.map Text.plainDigit).dropWhile Char.isDigit with
    | [] => !number.isEmpty
    | '.' :: digits => !digits.isEmpty && digits.all Char.isDigit
    | _ => false
  | _ => false

/-- The switches that a word may mean when it is no full name. -/
def readings (g : Grammar) (word : List Char) : List (String × Switch × Option Attached) :=
  match word with
  | '-' :: '-' :: _ =>
    let (start, value) := splitAssignment word
    (g.names.filter fun (name, _) => start.isPrefixOf name.toList).map fun (name, s) =>
      (name, s, value.map (⟨·, true⟩))
  | '-' :: c :: rest =>
    g.names.filterMap fun (name, s) =>
      if name.toList = ['-', c] then some (name, s, some ⟨rest, false⟩)
      else if word.isPrefixOf name.toList then some (name, s, none)
      else none
  | _ => []

def classify (g : Grammar) (text : String) : Except Mistake Role :=
  let word := text.toList
  match word with
  | '-' :: _ =>
    match g.find? text with
    | some s => .ok (.switch s text none)
    | none =>
      let (start, value) := splitAssignment word
      let assigned := do
        let value ← value
        let s ← g.find? (String.ofList start)
        return Role.switch s (String.ofList start) (some ⟨value, true⟩)
      match assigned with
      | some role => .ok role
      | none =>
        if word.length = 1 then .ok .operand
        else
          match readings g word with
          | [(name, s, attached)] => .ok (.switch s name attached)
          | [] =>
            if isNegativeNumber word || word.contains ' ' then .ok .operand else .ok .unknown
          | several => .error (.ambiguous text (several.map (·.1)))
  | _ => .ok .operand

/-- The words of a line. -/
def ofLine (g : Grammar) : List String → Except Mistake (List Word)
  | [] => .ok []
  | "--" :: rest => .ok (⟨"--", .separator⟩ :: rest.map (⟨·, .operand⟩))
  | text :: rest => do return ⟨text, ← classify g text⟩ :: (← ofLine g rest)

end Word

/-! ### Switches in one word -/

/-- A switch with the argument that it takes. -/
structure Given where
  switch : Switch
  argument : Option String
  deriving Repr, DecidableEq

/-- What one word gives: switches, one more whose argument is the next word, and a part of the
word that is none of them. -/
structure Bundle where
  given : List Given
  waiting : Option Switch
  extra : Option String
  deriving Repr, DecidableEq

/-- A short switch without argument, followed by others. -/
def bundle (g : Grammar) (s : Switch) : List Char → Except Mistake Bundle
  | [] => .ok ⟨[⟨s, none⟩], none, none⟩
  | c :: rest =>
    if c == '-' then .error (.argumentIgnored s (String.ofList (c :: rest)))
    else
      match g.find? (String.ofList ['-', c]) with
      | none => .ok ⟨[⟨s, none⟩], none, some (String.ofList ('-' :: c :: rest))⟩
      | some next =>
        match next.argument?, rest with
        | some _, [] => .ok ⟨[⟨s, none⟩], some next, none⟩
        | some _, '=' :: value => .ok ⟨[⟨s, none⟩, ⟨next, some (String.ofList value)⟩], none, none⟩
        | some _, value => .ok ⟨[⟨s, none⟩, ⟨next, some (String.ofList value)⟩], none, none⟩
        | none, '=' :: value => .error (.argumentIgnored next (String.ofList value))
        | none, rest => do
          let b ← bundle g next rest
          return { b with given := ⟨s, none⟩ :: b.given }

/-- A switch under a name, with the argument in the same word if there is one. -/
def ofSwitch (g : Grammar) (s : Switch) (name : String) (attached : Option Attached) :
    Except Mistake Bundle :=
  match attached, s.argument? with
  | none, none => .ok ⟨[⟨s, none⟩], none, none⟩
  | none, some _ => .ok ⟨[], some s, none⟩
  | some a, some _ => .ok ⟨[⟨s, some (String.ofList a.text)⟩], none, none⟩
  | some a, none =>
    if name.length = 2 && !a.assigned then bundle g s a.text
    else .error (.argumentIgnored s (String.ofList a.text))

end Testbed.CommandLine
