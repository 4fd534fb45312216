import Testbed.Decimal.Written
import Testbed.Text.Quoted
import Testbed.Yaml.Value

/-!
Values in messages: a value as it is shown, and the name of its kind.
-/

namespace Testbed.Yaml

def commaSeparated (parts : List String) : String := ", ".intercalate parts

def showDate (d : Date) : List String := [toString d.year, toString d.month, toString d.day]

/-- An offset from universal time: days only when it is negative, then seconds. -/
def showOffset (offset : Int) : String :=
  if offset = 0 then "datetime.timezone.utc"
  else if offset < 0 then
    "datetime.timezone(datetime.timedelta(days=-1, seconds="
      ++ toString ((offset + 1440) * 60) ++ "))"
  else "datetime.timezone(datetime.timedelta(seconds=" ++ toString (offset * 60) ++ "))"

/-- The parts of a time of day; the last ones are left out while they are zero. -/
def showTime (m : Moment) : List String :=
  [toString m.hour, toString m.minute]
    ++ (if m.second = 0 ∧ m.micro = 0 then [] else [toString m.second])
    ++ (if m.micro = 0 then [] else [toString m.micro])

def showMoment (m : Moment) : String :=
  "datetime.datetime(" ++ commaSeparated (showDate m.date ++ showTime m
    ++ (match m.offset with | none => [] | some o => ["tzinfo=" ++ showOffset o])) ++ ")"

namespace Value

mutual

/-- A value with its structure and quotes. -/
def shown : Value → String
  | null => "None"
  | bool b => if b then "True" else "False"
  | int n => toString n
  | float x => Decimal.exactText x
  | text s => Text.quoted s
  | bytes b => Text.quotedBytes b
  | date _ d => "datetime.date(" ++ commaSeparated (showDate d) ++ ")"
  | moment _ m => showMoment m
  | list _ items => "[" ++ commaSeparated (shownItems items) ++ "]"
  | map _ entries => "\x7b" ++ commaSeparated (shownEntries entries) ++ "\x7d"
  | set _ items =>
    if items.isEmpty then "set()" else "\x7b" ++ commaSeparated (shownItems items) ++ "\x7d"
  | pair a b => "(" ++ shown a ++ ", " ++ shown b ++ ")"
  | again _ => "\x7b...\x7d"

def shownItems : List Value → List String
  | [] => []
  | v :: rest => shown v :: shownItems rest

def shownEntries : List (Value × Value) → List String
  | [] => []
  | (k, v) :: rest => (shown k ++ ": " ++ shown v) :: shownEntries rest

end

/-- A value within a sentence: text, dates and times stand without quotes. -/
def inSentence : Value → String
  | text s => s
  | date _ d => d.text
  | moment _ m => m.text " "
  | v => shown v

/-- The name of the kind of a value. -/
def kindName : Value → String
  | null => "NoneType"
  | bool _ => "bool"
  | int _ => "int"
  | float _ => "float"
  | text _ => "str"
  | bytes _ => "bytes"
  | date _ _ => "datetime.date"
  | moment _ _ => "datetime.datetime"
  | list _ _ => "list"
  | map _ _ => "dict"
  | set _ _ => "set"
  | pair _ _ => "tuple"
  | again _ => "dict"

end Value

end Testbed.Yaml
