import Testbed.Console.Cells
import Testbed.Text.Blank

/-!
Text laid out in lines of limited width.

A word that does not fit goes to the next line with the blanks after it. A word that fits on no
line is cut into pieces where that is allowed.
-/

namespace Testbed.Console

open Text (isBlank)

/-- The first word of a line with the blanks around it, and the rest. -/
def firstWord (line : List Char) : List Char × List Char :=
  let before := line.takeWhile isBlank
  let rest := line.dropWhile isBlank
  let word := rest.takeWhile (!isBlank ·)
  let rest := rest.dropWhile (!isBlank ·)
  (before ++ word ++ rest.takeWhile isBlank, rest.dropWhile isBlank)

/-- The words of a line, each with the blanks after it, the first also with those before it. -/
def words (line : List Char) : List (List Char) :=
  let (word, rest) := firstWord line
  if word.all isBlank then []
  else if rest.length < line.length then word :: words rest
  else [word]
termination_by line.length

/-- Pieces of a text that take no more than a number of cells each. -/
def pieces (width : Nat) (piece : List Char) (used : Nat) : List Char → List (List Char)
  | [] => [piece.reverse]
  | c :: rest =>
    if width < used + charCells c then piece.reverse :: pieces width [c] (charCells c) rest
    else pieces width (c :: piece) (used + charCells c) rest

/-- Lines being filled: the full ones, the last one, and the cells that it takes. -/
structure Filling where
  full : List (List Char)
  line : List Char
  used : Nat

def Filling.next (line : List Char) (f : Filling) : Filling :=
  ⟨if f.line.isEmpty then f.full else f.full ++ [f.line], line, cells line⟩

def Filling.add (width : Nat) (cut : Bool) (f : Filling) (word : List Char) : Filling :=
  let size := cells (word.reverse.dropWhile isBlank)
  if f.used + size ≤ width then ⟨f.full, f.line ++ word, f.used + cells word⟩
  else if width < size && cut then
    (pieces width [] 0 word).foldl (fun f piece => f.next piece) f
  else f.next word

/-- Blanks beyond the width are taken off the end of a line. -/
def trimEnd (width : Nat) (line : List Char) : List Char :=
  let blanks := (line.reverse.takeWhile isBlank).length
  line.take (line.length - min blanks (line.length - width))

def fill (width : Nat) (cut : Bool) (line : List Char) : List (List Char) :=
  match words line with
  | [] => [trimEnd width line]
  | ws =>
    let f := ws.foldl (Filling.add width cut) ⟨[], [], 0⟩
    (f.full ++ [f.line]).map (trimEnd width)

/-- Tabs become spaces up to the next multiple of eight cells. -/
def expandTabs (used : Nat) : List Char → List Char
  | [] => []
  | '\t' :: rest =>
    let spaces := 8 - used % 8
    List.replicate spaces ' ' ++ expandTabs (used + spaces) rest
  | c :: rest => c :: expandTabs (used + charCells c) rest

def splitLines (text : List Char) : List (List Char) := text.splitOnP (· == '\n')

/-- A text in lines that are cut where nothing else helps. -/
def wrap (width : Nat) (text : List Char) : List (List Char) :=
  (splitLines text).flatMap fun line =>
    (fill width true (expandTabs 0 line)).map fun line =>
      if width < cells line then fit width line else line

/-- A text in lines of one width; what is too long ends in an ellipsis. -/
def column (width : Nat) (text : List Char) : List (List Char) :=
  (splitLines text).flatMap fun line =>
    (fill width false (expandTabs 0 line)).map fun line =>
      if width < cells line then fit (width - 1) line ++ ['…'] else fit width line

/-- A text in the middle of a width. -/
def centred (width : Nat) (text : List Char) : List Char :=
  let left := (width - cells text) / 2
  fit width (List.replicate left ' ' ++ text)

end Testbed.Console
