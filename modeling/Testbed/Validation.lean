import Testbed.Text.Numeral
import Testbed.Yaml.Shown

/-!
Checking the fields of a record that is given by untyped values.

Reading is lenient: text may hold a number, a truth value counts as one or zero, and a number
without fraction is whole. All faulty fields are reported, in the order of the record.
-/

namespace Testbed

open Yaml (Value)

/-- What is wrong with the value of a field. -/
inductive FieldProblem where
  | missing
  | notText
  | textUndecodable
  | notWhole
  | wholeUnparsable
  | wholeTooLong
  | fractional
  | notFinite
  | notNumber
  | numberUnparsable
  | notAbove (bound : Nat)
  | below (bound : Nat)
  | notPath
  deriving Repr, DecidableEq

namespace FieldProblem

def code : FieldProblem → String
  | missing => "missing"
  | notText => "string_type"
  | textUndecodable => "string_unicode"
  | notWhole => "int_type"
  | wholeUnparsable => "int_parsing"
  | wholeTooLong => "int_parsing_size"
  | fractional => "int_from_float"
  | notFinite => "finite_number"
  | notNumber => "float_type"
  | numberUnparsable => "float_parsing"
  | notAbove _ => "greater_than"
  | below _ => "greater_than_equal"
  | notPath => "path_type"

def message : FieldProblem → String
  | missing => "Field required"
  | notText => "Input should be a valid string"
  | textUndecodable =>
    "Input should be a valid string, unable to parse raw data as a unicode string"
  | notWhole => "Input should be a valid integer"
  | wholeUnparsable => "Input should be a valid integer, unable to parse string as an integer"
  | wholeTooLong => "Unable to parse input string as an integer, exceeded maximum size"
  | fractional => "Input should be a valid integer, got a number with a fractional part"
  | notFinite => "Input should be a finite number"
  | notNumber => "Input should be a valid number"
  | numberUnparsable => "Input should be a valid number, unable to parse string as a number"
  | notAbove bound => "Input should be greater than " ++ toString bound
  | below bound => "Input should be greater than or equal to " ++ toString bound
  | notPath => "Input is not a valid path for <class 'pathlib.Path'>"

end FieldProblem

structure FieldError where
  field : String
  problem : FieldProblem
  given : Value

/-- A record that was refused, with the faults of its fields. -/
structure Invalid where
  record : String
  faults : List FieldError

/-- A value of another shape than its use needs. -/
inductive ShapeProblem where
  | noField (kind field : String)
  | notSearchable (kind : String)
  | notIterable (kind : String)
  | notHashable (kind : String)
  deriving Repr, DecidableEq

def ShapeProblem.message : ShapeProblem → String
  | noField kind field => "'" ++ kind ++ "' object has no attribute '" ++ field ++ "'"
  | notSearchable kind => "argument of type '" ++ kind ++ "' is not iterable"
  | notIterable kind => "'" ++ kind ++ "' object is not iterable"
  | notHashable kind => "unhashable type: '" ++ kind ++ "'"

/-- A value that is not what a record is made of. -/
inductive Misfit where
  | shape (p : ShapeProblem)
  | invalid (e : Invalid)

/-- A long text with its middle left out: of `limit` bytes one half and the other less one stay. -/
def shortened (limit : Nat) (text : String) : String :=
  if text.utf8ByteSize ≤ limit then text
  else
    let half := (limit + 1) / 2
    let chars := text.toList
    let front := fitting half chars
    let back := (fitting (half - 1) chars.reverse).reverse
    String.ofList front ++ "..." ++ String.ofList back
where
  /-- The characters that fit into so many bytes. -/
  fitting : Nat → List Char → List Char
    | _, [] => []
    | room, c :: rest =>
      if c.utf8Size ≤ room then c :: fitting (room - c.utf8Size) rest else []

def FieldError.message (e : FieldError) : String :=
  e.field ++ "\n  " ++ e.problem.message ++ " [type=" ++ e.problem.code ++ ", input_value="
    ++ shortened 50 e.given.shown ++ ", input_type=" ++ e.given.kindName ++ "]"

def Invalid.message (e : Invalid) : String :=
  let count := e.faults.length
  "\n".intercalate ((toString count ++ " validation error" ++ (if count = 1 then "" else "s")
    ++ " for " ++ e.record) :: e.faults.map FieldError.message)

def Misfit.message : Misfit → String
  | shape p => p.message
  | invalid e => e.message

namespace Validation

/-- Text, or bytes that are text. -/
def text : Value → Except FieldProblem String
  | .text s => .ok s
  | .bytes b =>
    match String.fromUTF8? ⟨b.toArray⟩ with
    | some s => .ok s
    | none => .error .textUndecodable
  | _ => .error .notText

def optional {α : Type} (read : Value → Except FieldProblem α) :
    Value → Except FieldProblem (Option α)
  | .null => .ok none
  | v => some <$> read v

/-- The digits without zeros in front and underscores between those; the last zero stays if
there are no other digits. -/
def dropLeadingZeros (digits : List Char) : List Char :=
  let isFiller (c : Char) : Bool := c == '0' || c == '_'
  match digits with
  | '0' :: _ =>
    let rest := digits.dropWhile isFiller
    if rest.head?.any Char.isDigit then rest
    else ((digits.takeWhile isFiller).getLast?.getD '0') :: rest
  | _ => digits

/-- Digits with a sign, grouped by single underscores; a fraction may consist of zeros. -/
def wholeOfText (s : String) : Except FieldProblem Int :=
  let (negative, digits) := Text.splitSign (Text.trim Text.isSpace s.toList)
  let before := dropLeadingZeros (digits.takeWhile (· != '.'))
  let fractionIsZero :=
    match digits.dropWhile (· != '.') with
    | [] => true
    | [_] => false
    | _ :: zeros => zeros.all (· == '0')
  match (Text.joinGroups? before).bind (Text.digits? 10) with
  | some n =>
    if !fractionIsZero then .error .wholeUnparsable
    else if Text.longestNumeral < before.length then .error .wholeTooLong
    else .ok (if negative then -(n : Int) else n)
  | none => .error .wholeUnparsable

/-- A double is a whole number only within the range of signed 64-bit words. -/
def isWord (n : Int) : Bool := n.natAbs < Nat.pow 2 63

def whole : Value → Except FieldProblem Int
  | .bool b => .ok (if b then 1 else 0)
  | .int n => .ok n
  | .float x =>
    match Decimal.Double.ofFloat x with
    | .finite b =>
      match b.whole? with
      | some n => if isWord n then .ok n else .error .wholeTooLong
      | none => .error .fractional
    | _ => .error .notFinite
  | .text s => wholeOfText s
  | _ => .error .notWhole

def numberOfText (s : String) : Except FieldProblem Float :=
  match Text.number? (Text.trim Text.isSpace s.toList) with
  | some x => .ok x
  | none =>
    match (Text.joinGroups? s.toList).bind Text.number? with
    | some x => .ok x
    | none => .error .numberUnparsable

def number : Value → Except FieldProblem Float
  | .bool b => .ok (if b then 1 else 0)
  | .int n =>
    match Decimal.ofInt? n with
    | some x => .ok x
    | none => .error .notNumber
  | .float x => .ok x
  | .text s => numberOfText s
  | _ => .error .notNumber

/-- A whole number of at least a bound. -/
def wholeFrom (bound : Nat) (v : Value) : Except FieldProblem { n : Int // (bound : Int) ≤ n } := do
  let n ← whole v
  if h : (bound : Int) ≤ n then return ⟨n, h⟩ else throw (.below bound)

def wholeAbove (bound : Nat) (v : Value) :
    Except FieldProblem { n : Int // (bound : Int) < n } := do
  let n ← whole v
  if h : (bound : Int) < n then return ⟨n, h⟩ else throw (.notAbove bound)

/-- A number of at least zero; not-a-number is not. -/
def numberFromZero (v : Value) : Except FieldProblem { x : Float // 0 ≤ x } := do
  let x ← number v
  if h : 0 ≤ x then return ⟨x, h⟩ else throw (.below 0)

def numberAboveZero (v : Value) : Except FieldProblem { x : Float // 0 < x } := do
  let x ← number v
  if h : 0 < x then return ⟨x, h⟩ else throw (.notAbove 0)

/-! ### Fields -/

/-- The fields given for a record, in order. -/
abbrev Fields := List (String × Value)

/-- A field that has to be given. -/
def required {α : Type} (fields : Fields) (name : String)
    (read : Value → Except FieldProblem α) : Except FieldError α :=
  match fields.lookup name with
  | none => .error ⟨name, .missing, Value.ofFields fields⟩
  | some v =>
    match read v with
    | .ok a => .ok a
    | .error problem => .error ⟨name, problem, v⟩

/-- A field with a value to use when it is not given. -/
def withDefault {α : Type} (fields : Fields) (name : String) (usual : α)
    (read : Value → Except FieldProblem α) : Except FieldError α :=
  if (fields.lookup name).isSome then required fields name read else .ok usual

/-- The fault of a field, if it has one. -/
def fault {α : Type} : Except FieldError α → List FieldError
  | .ok _ => []
  | .error e => [e]

end Validation

end Testbed
