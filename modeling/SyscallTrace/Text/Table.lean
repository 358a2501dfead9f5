import SyscallTrace.Text.Width

/-!
# Tables

A table of texts drawn with ASCII characters. Columns are as wide as their widest line. Each cell
has a blank on both sides, its lines stand one below the other, and missing ones are blank.

A rule is drawn above and below the table, another below the heads of the columns, and a third one
between two rows.
-/

namespace SyscallTrace

/-- The heads of the columns, and rows of as many cells. -/
structure Table where
  heads : List String
  rows : List (List String)
  deriving DecidableEq, Repr

namespace Table

/-- The lines of a cell. -/
def cellLines (cell : String) : List String := (cell.toList.splitOn '\n').map String.ofList

/-- The width of a cell. -/
def cellWidth (cell : String) : Nat := ((cellLines cell).map Text.width).foldl max 0

/-- The widths of the columns. -/
def widths (t : Table) : List Nat :=
  t.rows.foldl (fun widths row => widths.zipWith max (row.map cellWidth)) (t.heads.map cellWidth)

/-- As many of one character. -/
def run (c : Char) (length : Nat) : String := String.ofList (List.replicate length c)

/-- What a horizontal rule is made of. -/
structure Rule where
  left : String
  line : Char
  crossing : String
  right : String

/-- The rule above and below a table. -/
def outerRule : Rule := ⟨"+", '-', "+", "+"⟩

/-- The rule below the heads. -/
def headRule : Rule := ⟨"+", '=', "=", "+"⟩

/-- The rule between two rows. -/
def innerRule : Rule := ⟨"|", '-', "+", "|"⟩

/-- A rule for columns of the given widths. -/
def Rule.draw (r : Rule) (widths : List Nat) : String :=
  r.left ++ r.crossing.intercalate (widths.map fun w => run r.line (w + 2)) ++ r.right

/-- A text with blanks behind it up to the given width. -/
def pad (width : Nat) (text : String) : String := text ++ run ' ' (width - Text.width text)

/-- One line through the cells of a row. -/
def drawLine (widths : List Nat) (texts : List String) : String :=
  "|" ++ "|".intercalate (widths.zipWith (fun w text => " " ++ pad w text ++ " ") texts) ++ "|"

/-- The lines of a row. -/
def drawRow (widths : List Nat) (row : List String) : List String :=
  let cells := row.map cellLines
  (List.range ((cells.map List.length).foldl max 0)).map fun i =>
    drawLine widths (cells.map (·.getD i ""))

/-- The lines of a table. -/
def draw (t : Table) : List String :=
  let widths := t.widths
  let rows := [innerRule.draw widths].intercalate (t.rows.map (drawRow widths))
  [outerRule.draw widths] ++ drawRow widths t.heads ++ [headRule.draw widths] ++ rows ++
    [outerRule.draw widths]

end Table

end SyscallTrace
