import Testbed.Text.Base64
import Testbed.Text.Numeral
import Testbed.Yaml.Node
import Testbed.Yaml.Value

/-!
The value that a document denotes.

Aliases are replaced by what they stand for, so a collection that is met at several places is
written out at each, under one label. Of several problems of a document the shallowest is
reported, and of equally shallow ones the first.
-/

namespace Testbed.Yaml

/-! ### Scalars -/

namespace Reading

/-- A sign, and the text without it. -/
def signed (text : List Char) : Bool × List Char := Text.splitSign text

/-- The parts of a text between colons. -/
def colonParts (text : List Char) : List (List Char) :=
  (text.splitOnP (· == ':'))

def wholePart (base : Nat) (text : List Char) : Except Problem Int :=
  match Text.whole? base text with
  | some n => .ok n
  | none => .error (.notANumber (String.ofList text))

/-- A whole number: binary, octal, hexadecimal, to base sixty or decimal. -/
def whole (text : String) : Except Problem Int :=
  let digits := text.toList.filter (· != '_')
  let (negative, body) := signed digits
  let sign (n : Int) : Int := if negative then -n else n
  match body with
  | [] => .error .emptyNumber
  | ['0'] => .ok 0
  | '0' :: 'b' :: rest => sign <$> wholePart 2 rest
  | '0' :: 'x' :: rest => sign <$> wholePart 16 rest
  | '0' :: _ => sign <$> wholePart 8 body
  | _ =>
    if body.contains ':' then do
      let parts ← (colonParts body).mapM (wholePart 10)
      return sign (parts.foldl (fun n part => n * 60 + part) 0)
    else sign <$> wholePart 10 body

def fractionPart (text : List Char) : Except Problem Float :=
  match Text.liberalNumber? text with
  | some x => .ok x
  | none => .error (.notANumber (String.ofList text))

/-- Digits to base sixty from the last, with the weight of the next one. -/
def sixtieths : List Float → Int → Float → Except Problem Float
  | [], _, sum => .ok sum
  | part :: parts, weight, sum =>
    match Decimal.ofInt? weight with
    | none => .error .numberTooLarge
    | some w => sixtieths parts (weight * 60) (sum + part * w)

/-- A number with a fraction: an infinity, not-a-number, to base sixty or decimal. -/
def fraction (text : String) : Except Problem Float :=
  let chars := (text.toList.filter (· != '_')).map Char.toLower
  let (negative, body) := signed chars
  let sign (x : Float) : Float := if negative then -x else x
  if chars.isEmpty then .error .emptyNumber
  else if body = ".inf".toList then .ok (sign Decimal.infinity)
  else if body = ".nan".toList then .ok Decimal.notANumber
  else if body.contains ':' then do
    let parts ← (colonParts body).mapM fractionPart
    return sign (← sixtieths parts.reverse 1 0)
  else sign <$> fractionPart body

def truth (text : String) : Except Problem Bool :=
  let lower := text.toLower
  if ["yes", "true", "on"].contains lower then .ok true
  else if ["no", "false", "off"].contains lower then .ok false
  else .error (.notATruthValue text)

def number (digits : List Char) : Nat := (Text.digits? 10 digits).getD 0

/-- The microseconds of a fraction of a second: its first six digits. -/
def micros (digits : List Char) : Nat :=
  number (digits.take 6 ++ List.replicate (6 - digits.length) '0')

def offset : Option (Option (Char × List Char × List Char)) → Option Int
  | none => none
  | some none => some 0
  | some (some (sign, hours, minutes)) =>
    let total : Int := number hours * 60 + number minutes
    some (if sign == '-' then -total else total)

/-- A date, or a moment when a time of day is given. -/
def moment (label : Option Label) (text : String) : Except Problem Value :=
  let chars := text.toList
  let chars := if chars.getLast? == some '\n' then chars.dropLast else chars
  match Schema.moment? chars with
  | none => .error (.notATimestamp text)
  | some m =>
    match Date.ofParts? (number m.year) (number m.month) (number m.day) with
    | none => .error (.noSuchMoment text)
    | some date =>
      match m.time with
      | none => .ok (.date label date)
      | some (hour, minute, second) =>
        match Moment.ofParts? date (number hour) (number minute) (number second)
          (micros m.fraction) (offset m.zone) with
        | some moment => .ok (.moment label moment)
        | none => .error (.noSuchMoment text)

def binary (text : String) : Except Problem (List UInt8) :=
  if text.toList.all (fun c => c.toNat < 128) then
    match Text.Base64.decode? text.toList with
    | some bytes => .ok bytes
    | none => .error (.malformed "failed to decode bytes in base 64")
  else .error (.malformed "expected characters of ASCII in base 64")

/-- The value of a scalar of a given kind. -/
def scalar (label : Option Label) (tag : Tag) (text : String) : Except Problem Value :=
  match tag with
  | .null => .ok .null
  | .bool => .bool <$> truth text
  | .int => .int <$> whole text
  | .float => .float <$> fraction text
  | .text => .ok (.text text)
  | .binary => .bytes <$> binary text
  | .timestamp => moment label text
  | .sequence => .error (.malformed "expected a sequence")
  | .mapping | .set => .error (.malformed "expected a mapping")
  | .orderedMap | .pairs => .error (.malformed "expected a sequence of pairs")
  | .merge | .default | .other _ => .error (.malformed "found a node of an unknown kind")

/-! ### Collections -/

/-- A problem and how deep in the document it lies. -/
structure Deep where
  depth : Nat
  problem : Problem

/-- Both results, or the shallower problem. -/
def both {α β : Type} : Except Deep α → Except Deep β → Except Deep (α × β)
  | .ok a, .ok b => .ok (a, b)
  | .ok _, .error e => .error e
  | .error e, .ok _ => .error e
  | .error e, .error e' => .error (if e'.depth < e.depth then e' else e)

/-- All results, or the shallowest problem among them. -/
def gather {α : Type} : List (Except Deep α) → Except Deep (List α)
  | [] => .ok []
  | a :: rest => (fun (a, rest) => a :: rest) <$> both a (gather rest)

/-- A node with the label of its place, if it lies within an anchored node. -/
structure Placed where
  node : Node
  label : Option Label

def below (label : Option Label) (step : Nat) : Option Label :=
  label.map fun l => { l with path := l.path ++ [step] }

mutual

/-- The node with an anchor. -/
def find (anchor : String) : Node → Option Node
  | .alias _ => none
  | .scalar a t s => if a = some anchor then some (.scalar a t s) else none
  | .sequence a t items =>
    if a = some anchor then some (.sequence a t items) else findIn anchor items
  | .mapping a t entries =>
    if a = some anchor then some (.mapping a t entries) else findAmong anchor entries

def findIn (anchor : String) : List Node → Option Node
  | [] => none
  | n :: rest => (find anchor n).or (findIn anchor rest)

def findAmong (anchor : String) : List (Node × Node) → Option Node
  | [] => none
  | (k, v) :: rest => ((find anchor k).or (find anchor v)).or (findAmong anchor rest)

end

/-- What a node at a place is: an alias stands for its anchored node, and an anchor begins a new
path. -/
def settle (root : Node) (p : Placed) : Placed :=
  match p.node with
  | .alias name =>
    match find name root with
    | some node => ⟨node, some ⟨name, []⟩⟩
    | none => p
  | node =>
    match node.anchor? with
    | some name => ⟨node, some ⟨name, []⟩⟩
    | none => p

def placeItems (label : Option Label) (step : Nat) : List Node → List Placed
  | [] => []
  | n :: rest => ⟨n, below label step⟩ :: placeItems label (step + 1) rest

def placeEntries (label : Option Label) (step : Nat) :
    List (Node × Node) → List (Placed × Placed)
  | [] => []
  | (k, v) :: rest =>
    (⟨k, below label step⟩, ⟨v, below label (step + 1)⟩) :: placeEntries label (step + 2) rest

def tag? : Node → Option Tag
  | .scalar _ t _ => some t
  | .sequence _ t _ => some t
  | .mapping _ t _ => some t
  | .alias _ => none

def isMergeKey (root : Node) (p : Placed) : Bool := tag? (settle root p).node == some .merge

/-- The entries of a mapping with those merged in before its own. A mapping that is being merged
adds nothing more to itself. -/
def merged (root : Node) :
    Nat → List Label → List (Placed × Placed) → Except Problem (List (Placed × Placed))
  | 0, _, entries => .ok entries
  | fuel + 1, inside, entries => do
    let sources ← (entries.filter fun (k, _) => isMergeKey root k).mapM fun (_, v) =>
      let v := settle root v
      let entriesOf (p : Placed) : Except Problem (List (Placed × Placed)) :=
        match p.node with
        | .mapping _ _ es =>
          let es := placeEntries p.label 0 es
          match p.label with
          | some l =>
            if inside.contains l then .ok (es.filter fun (k, _) => !isMergeKey root k)
            else merged root fuel (l :: inside) es
          | none => merged root fuel inside es
        | _ => .error (.malformed "expected a mapping for merging")
      match v.node with
      | .mapping _ _ _ => entriesOf v
      | .sequence _ _ items => do
        let parts ← (placeItems v.label 0 items).mapM fun item => entriesOf (settle root item)
        return parts.reverse.flatten
      | _ => .error (.malformed "expected a mapping or a list of mappings for merging")
    return sources.flatten ++ entries.filter fun (k, _) => !isMergeKey root k

/-- The scalar that a mapping stands for: the one under its default key. A mapping that stands for
itself stands for nothing, and is looked into without end. -/
def defaultScalar (root : Node) : Nat → Node → Except Problem String
  | 0, _ => .error (.raised "RecursionError")
  | fuel + 1, node =>
    match node with
    | .scalar _ _ s => .ok s
    | .mapping _ _ entries =>
      match entries.find? fun (k, _) => tag? (settle root ⟨k, none⟩).node == some .default with
      | some (_, v) => defaultScalar root fuel (settle root ⟨v, none⟩).node
      | none => .error (.malformed "expected a scalar")
    | _ => .error (.malformed "expected a scalar")

/-- The value of a mapping that stands for a scalar of a given kind. -/
def standIn (label : Option Label) (tag : Tag) (text : Except Problem String) :
    Except Problem Value :=
  match tag with
  | .merge | .default | .other _ => .error (.malformed "found a node of an unknown kind")
  | .timestamp => do
    -- The spelling of a moment is looked for in the mapping itself.
    let _ ← text
    throw (.raised "TypeError")
  | tag => do scalar label tag (← text)

def insertAll (entries : List (Value × Value)) : List (Value × Value) :=
  entries.foldl (fun acc (k, v) => Value.insert k v acc) []

def insertItem (items : List Value) (v : Value) : List Value :=
  if items.any fun w => w.key? == v.key? then items else items ++ [v]

/-- The only entry of a mapping. -/
def onlyEntry (root : Node) (depth : Nat) (p : Placed) : Except Deep (Placed × Placed) :=
  let p := settle root p
  match p.node with
  | .mapping _ _ [(k, v)] =>
    .ok (⟨k, below p.label 0⟩, ⟨v, below p.label 1⟩)
  | _ => .error ⟨depth, .malformed "expected a mapping of one entry"⟩

mutual

/-- The number of nodes of a tree. -/
def size : Node → Nat
  | .alias _ => 1
  | .scalar _ _ _ => 1
  | .sequence _ _ items => sizeItems items + 1
  | .mapping _ _ entries => sizeEntries entries + 1

def sizeItems : List Node → Nat
  | [] => 0
  | n :: rest => size n + sizeItems rest

def sizeEntries : List (Node × Node) → Nat
  | [] => 0
  | (k, v) :: rest => size k + size v + sizeEntries rest

end

/-- The value of a node. `inside` holds the labels of the collections around it. -/
def value (root : Node) : Nat → List Label → Nat → Placed → Except Deep Value
  | 0, _, depth, _ => .error ⟨depth, .malformed "found a document that is too deep"⟩
  | fuel + 1, inside, depth, p =>
    let p := settle root p
    match p.label.filter inside.contains with
    | some l => .ok (.again l)
    | none =>
      let inside' := p.label.toList ++ inside
      let refuse {α : Type} (depth : Nat) (why : String) : Except Deep α :=
        .error ⟨depth, .malformed why⟩
      let shallow {α : Type} : Except Problem α → Except Deep α
        | .ok a => .ok a
        | .error e => .error ⟨depth, e⟩
      /- A key is a scalar; the default key is text. -/
      let keyOf (k : Placed) : Except Deep Value :=
        match (settle root k).node with
        | .scalar _ .default s => .ok (.text s)
        | node =>
          if (tag? node).any Tag.isCollection then
            refuse (depth + 1) "found a collection as a key"
          else value root fuel inside' (depth + 1) k
      let entriesOf (entries : List (Node × Node)) : Except Deep (List (Value × Value)) := do
        let entries ←
          match merged root (fuel + 1) p.label.toList (placeEntries p.label 0 entries) with
          | .ok es => .ok es
          | .error e => .error ⟨depth + 1, e⟩
        gather (entries.map fun (k, v) =>
          both (keyOf k) (value root fuel inside' (depth + 1) v))
      let pairsOf (items : List Node) : Except Deep (List Value) :=
        gather ((placeItems p.label 0 items).map fun item => do
          let (k, v) ← onlyEntry root (depth + 1) item
          let (k, v) ← both (value root fuel inside' (depth + 1) k)
            (value root fuel inside' (depth + 1) v)
          return .pair k v)
      match p.node with
      | .alias _ => refuse depth "found an undefined alias"
      | .scalar _ tag text =>
        match tag with
        | .sequence | .mapping | .set | .orderedMap | .pairs =>
          match scalar p.label tag text with
          | .ok v => .ok v
          | .error e => .error ⟨depth + 1, e⟩
        | _ => shallow (scalar p.label tag text)
      | .sequence _ tag items =>
        match tag with
        | .sequence => do
          let items ← gather ((placeItems p.label 0 items).map
            (value root fuel inside' (depth + 1)))
          return .list p.label items
        | .orderedMap | .pairs => do return .list p.label (← pairsOf items)
        | .mapping | .set => refuse (depth + 1) "expected a mapping"
        | _ => refuse depth "expected a scalar"
      | .mapping _ tag entries =>
        match tag with
        | .mapping => do return .map p.label (insertAll (← entriesOf entries))
        | .set => do
          return .set p.label ((← entriesOf entries).foldl (fun acc e => insertItem acc e.1) [])
        | .sequence => refuse (depth + 1) "expected a sequence"
        | .orderedMap | .pairs => refuse (depth + 1) "expected a sequence of pairs"
        | tag => shallow (standIn p.label tag (defaultScalar root (size root + 1) p.node))

end Reading

/-- Characters that a text may hold: no control characters but the tab, the line feed, the
carriage return and the next line, and no noncharacters of the basic plane. -/
def isAllowed (c : Char) : Bool :=
  let n := c.toNat
  n == 0x9 || n == 0xA || n == 0xD || (0x20 ≤ n && n ≤ 0x7E) || n == 0x85
    || (0xA0 ≤ n && n ≤ 0xFFFD) || 0x10000 ≤ n

/-- The value of a tree. -/
def Node.value (node : Node) : Except Problem Value :=
  match Reading.value node (Reading.size node + 1) [] 0 ⟨node, none⟩ with
  | .ok v => .ok v
  | .error e => .error e.problem

/-- The value that a text denotes; a text without a document denotes null. -/
def load (text : String) : Except Problem Value := do
  let chars := text.toList
  if chars.all isAllowed then
    match ← Node.ofText chars with
    | none => return .null
    | some node => node.value
  else throw (.malformed "found a character that is not allowed")

/-- A 16-bit unit from two bytes. -/
def unit (big : Bool) (a b : UInt8) : Nat :=
  if big then a.toNat * 256 + b.toNat else b.toNat * 256 + a.toNat

/-- Text in 16-bit units, two for the characters beyond the basic plane. -/
def decodeUnits (big : Bool) : List UInt8 → Option (List Char)
  | [] => some []
  | [_] => none
  | a :: b :: rest =>
    let n := unit big a b
    if n < 0xD800 || 0xDFFF < n then (decodeUnits big rest).map (Char.ofNat n :: ·)
    else if 0xDC00 ≤ n then none
    else
      match rest with
      | c :: d :: rest =>
        let m := unit big c d
        if 0xDC00 ≤ m && m ≤ 0xDFFF then
          (decodeUnits big rest).map
            (Char.ofNat (0x10000 + (n - 0xD800) * 0x400 + (m - 0xDC00)) :: ·)
        else none
      | _ => none

/-- The text of a file: in 16-bit units after a byte order mark, else in UTF-8. -/
def decode (bytes : List UInt8) : Except Problem String :=
  let text :=
    match bytes with
    | 0xFF :: 0xFE :: _ => (decodeUnits false bytes).map String.ofList
    | 0xFE :: 0xFF :: _ => (decodeUnits true bytes).map String.ofList
    | _ => String.fromUTF8? ⟨bytes.toArray⟩
  match text with
  | some text => .ok text
  | none => .error (.malformed "found bytes that are no text")

end Testbed.Yaml
