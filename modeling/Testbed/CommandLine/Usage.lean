import Testbed.CommandLine.Grammar

/-!
What the command line says about itself: the usage of a command and its help.
-/

namespace Testbed.CommandLine

/-- The width of a page of help. -/
def pageWidth : Nat := 118

def spaces (n : Nat) : String := String.ofList (List.replicate n ' ')

def argumentText (s : Switch) : String :=
  match s.argument? with
  | none => ""
  | some name => " " ++ name

namespace Grammar

def choicesText (choices : List (String × String)) : String :=
  "\x7b" ++ ",".intercalate (choices.map (·.1)) ++ "\x7d"

/-- The switches as the usage shows them: by their first name. -/
def switchParts (g : Grammar) : List String :=
  g.switches.map fun (s, _) => "[" ++ s.names.headD "" ++ argumentText s ++ "]"

def operandParts (g : Grammar) : List String :=
  match g.operand with
  | .word name _ => [name]
  | .command choices => [choicesText choices ++ " ..."]
  | .none => []

/-- Parts in lines of limited width; `used` is where the first line starts. -/
def folded (indent : Nat) : (used : Nat) → (line : List String) → List String → List (List String)
  | _, line, [] => if line.isEmpty then [] else [line]
  | used, line, part :: rest =>
    if pageWidth < used + 1 + part.length && !line.isEmpty then
      line :: folded indent (indent + part.length) [part] rest
    else folded indent (used + 1 + part.length) (line ++ [part]) rest

def usage (g : Grammar) : String :=
  let parts := g.switchParts ++ g.operandParts
  let whole := "usage: " ++ " ".intercalate (g.program :: parts)
  if whole.length ≤ pageWidth then whole ++ "\n"
  else
    let indent := ("usage: " ++ g.program ++ " ").length
    let lines := folded indent (indent - 1) [] g.switchParts
      ++ folded indent (indent - 1) [] g.operandParts
    let texts := lines.map fun line => " ".intercalate line
    "usage: " ++ g.program ++ " " ++ ("\n" ++ spaces indent).intercalate texts ++ "\n"

/-- The column in which help begins. -/
def helpColumn : Nat := 24

/-- One entry of the help; a long head has a line of its own. -/
def entry (indent : Nat) (head help : String) : String :=
  let room := helpColumn - indent - 2
  if help = "" then spaces indent ++ head ++ "\n"
  else if head.length ≤ room then
    spaces indent ++ head ++ spaces (room - head.length + 2) ++ help ++ "\n"
  else spaces indent ++ head ++ "\n" ++ spaces helpColumn ++ help ++ "\n"

def operandHelp : Operand → String
  | .word name help => "positional arguments:\n" ++ entry 2 name help ++ "\n"
  | .command choices =>
    "positional arguments:\n" ++ entry 2 (choicesText choices) ""
      ++ String.join (choices.map fun (name, help) => entry 4 name help) ++ "\n"
  | .none => ""

def help (g : Grammar) : String :=
  g.usage ++ "\n" ++ (g.description.map (· ++ "\n\n")).getD "" ++ operandHelp g.operand
    ++ "options:\n" ++ String.join (g.switches.map fun (s, help) =>
      entry 2 (", ".intercalate (s.names.map (· ++ argumentText s))) help)

/-- A mistake, after the usage. -/
def complaint (g : Grammar) (m : Mistake) : String :=
  g.usage ++ g.program ++ ": error: " ++ m.message ++ "\n"

end Grammar

end Testbed.CommandLine
