import Testbed.Calendar
import Testbed.Decimal.Binary

/-!
What a document means: a tree of values.

A collection that a document holds at several places has a label, the same at each of them; so
have dates and times. A collection met again inside itself stands there as its label alone.
-/

namespace Testbed.Yaml

/-- An anchored node and a path into it. -/
structure Label where
  anchor : String
  path : List Nat
  deriving Repr, DecidableEq

inductive Value where
  | null
  | bool (b : Bool)
  | int (n : Int)
  | float (x : Float)
  | text (s : String)
  | bytes (b : List UInt8)
  | date (label : Option Label) (d : Date)
  | moment (label : Option Label) (m : Moment)
  | list (label : Option Label) (items : List Value)
  | map (label : Option Label) (entries : List (Value × Value))
  | set (label : Option Label) (items : List Value)
  /-- An entry of an ordered mapping. -/
  | pair (first second : Value)
  /-- A collection around this place. -/
  | again (label : Label)
  deriving Repr, Inhabited

/-- What tells keys of a mapping apart. Numbers are the same key when they are equal, whatever
their kind, and so are moments. -/
inductive Key where
  | null
  | whole (n : Int)
  | fraction (bits : Nat)
  | text (s : String)
  | bytes (b : List UInt8)
  | date (d : Date)
  | moment (aware : Bool) (instant : Int)
  deriving Repr, DecidableEq

namespace Value

def floatKey (x : Float) : Key :=
  match Decimal.Double.ofFloat x with
  | .finite b =>
    match b.whole? with
    | some n => .whole n
    | none => .fraction x.toBits.toNat
  | .infinite _ => .fraction x.toBits.toNat
  | .nan => .fraction Decimal.notANumber.toBits.toNat

/-- The key that a value is, if it can be one. -/
def key? : Value → Option Key
  | null => some .null
  | bool b => some (.whole (if b then 1 else 0))
  | int n => some (.whole n)
  | float x => some (floatKey x)
  | text s => some (.text s)
  | bytes b => some (.bytes b)
  | date _ d => some (.date d)
  | moment _ m => some (.moment m.offset.isSome m.instant)
  | _ => none

/-- Whether a value counts as given: not null, false, zero or empty. -/
def isTruthy : Value → Bool
  | null => false
  | bool b => b
  | int n => n != 0
  | float x => x != 0
  | text s => s != ""
  | bytes b => !b.isEmpty
  | date _ _ => true
  | moment _ _ => true
  | list _ items => !items.isEmpty
  | map _ entries => !entries.isEmpty
  | set _ items => !items.isEmpty
  | pair _ _ => true
  | again _ => true

/-- Puts an entry into a mapping: a key that is there keeps its place and spelling. -/
def insert (key value : Value) : List (Value × Value) → List (Value × Value)
  | [] => [(key, value)]
  | (k, v) :: rest =>
    if k.key? = key.key? then (k, value) :: rest else (k, v) :: insert key value rest

/-- The value of a textual key. -/
def lookup (name : String) : List (Value × Value) → Option Value
  | [] => none
  | (k, v) :: rest => if k.key? = some (.text name) then some v else lookup name rest

def isText (name : String) (v : Value) : Bool := v.key? == some (.text name)

/-- A mapping of textual keys. -/
def ofFields (fields : List (String × Value)) : Value :=
  .map none (fields.map fun (name, v) => (.text name, v))

theorem lookup_insert_self (name : String) (v : Value) (entries : List (Value × Value)) :
    lookup name (insert (.text name) v entries) = some v := by
  induction entries with
  | nil => simp [insert, lookup, key?]
  | cons e rest ih =>
    obtain ⟨k, w⟩ := e
    by_cases h : k.key? = (Value.text name).key?
    · simp only [insert, h, if_true, lookup]; simp [key?]
    · have h' : ¬ k.key? = some (.text name) := h
      simp only [insert, h, if_false, lookup, h', ih]

end Value

end Testbed.Yaml
