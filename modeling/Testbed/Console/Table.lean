import Testbed.Console.Lines
import Testbed.Console.Markup

/-!
Tables of two columns with a title, in a frame.
-/

namespace Testbed.Console

/-- The number of cells of a line of the console. -/
def screenWidth : Nat := 120

structure Table where
  title : List Char
  header : List Char × List Char
  /-- The cells of each row, in markup. -/
  rows : List (List Char × List Char)

namespace Table

/-- The characters of a horizontal line: the left end, the line, the joint and the right end. -/
structure Rule where
  left : Char
  line : Char
  joint : Char
  right : Char

def top : Rule := ⟨'┏', '━', '┳', '┓'⟩
def heading : Rule := ⟨'┃', ' ', '┃', '┃'⟩
def divider : Rule := ⟨'┡', '━', '╇', '┩'⟩
def body : Rule := ⟨'│', ' ', '│', '│'⟩
def bottom : Rule := ⟨'└', '─', '┴', '┘'⟩

/-- Characters that end a line when the width of a cell is measured. -/
def endsLine (c : Char) : Bool :=
  let n := c.toNat
  n == 0xA || (0x1C ≤ n && n ≤ 0x1E) || n == 0x85 || n == 0x2028 || n == 0x2029

/-- The width that a column takes by itself: its widest line and a space on both sides. -/
def naturalWidth (contents : List (List Char)) : Nat :=
  let lines := contents.flatMap (·.splitOnP endsLine)
  (lines.map cells).foldl max 0 + 2

def ruled (r : Rule) (widths : Nat × Nat) : List Char :=
  r.left :: List.replicate widths.1 r.line ++ r.joint :: List.replicate widths.2 r.line ++ [r.right]

/-- A row, as many lines high as the higher one of its cells. -/
def row (r : Rule) (widths : Nat × Nat) (cells : List Char × List Char) : List (List Char) :=
  let first := column (widths.1 - 2) cells.1
  let second := column (widths.2 - 2) cells.2
  (List.range (max first.length second.length)).map fun n =>
    let line (lines : List (List Char)) (width : Nat) : List Char :=
      ' ' :: (lines[n]?).getD (List.replicate (width - 2) ' ') ++ [' ']
    r.left :: line first widths.1 ++ r.joint :: line second widths.2 ++ [r.right]

/-- The widths of the columns. What is too wide for the screen is taken off the first one. -/
def widths (contents : List (List Char × List Char)) : Nat × Nat :=
  let room := screenWidth - 3
  let second := min room (naturalWidth (contents.map (·.2)))
  (min (room - second) (naturalWidth (contents.map (·.1))), second)

/-- The rows as they are shown, each cell by itself. -/
def shownRows (rows : List (List Char × List Char)) :
    Except Misprint (List (List Char × List Char)) :=
  rows.mapM fun (a, b) => do return (← Markup.render a, ← Markup.render b)

/-- The text of a table, each line ended by a break. -/
def render (t : Table) : Except Misprint (List (List Char)) := do
  let rows ← shownRows t.rows
  let w := widths (t.header :: rows)
  return [centred (w.1 + w.2 + 3) t.title, ruled top w] ++ row heading w t.header
    ++ [ruled divider w] ++ rows.flatMap (row body w) ++ [ruled bottom w]

end Table

end Testbed.Console
