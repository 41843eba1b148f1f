/-
# Tables

Cells in columns, each column as wide as its widest line, with a header set
off by a double line.  A cell may have several lines; the cells beside it
are then filled up with blank ones.
-/
import PageTimers.Text.Width

namespace PageTimers.Text

/-- A cell, as its lines. -/
abbrev Cell := List (List Char)

/-- The lines of a text: there is always one, and each line feed begins
another. -/
def linesOf : List Char → Cell
  | [] => [[]]
  | c :: rest =>
    match linesOf rest with
    | [] => [[c]]
    | line :: more => if c = '\n' then [] :: line :: more else (c :: line) :: more

def Cell.ofString (s : String) : Cell := linesOf s.toList

def Cell.width (cell : Cell) : Nat := (cell.map Text.width).foldl max 0

/-- The widest of the cells of each column. -/
def columnWidths (rows : List (List Cell)) : List Nat :=
  rows.foldl (fun widths row =>
    (row.zipIdx.map fun (cell, i) => max cell.width (widths[i]?.getD 0)) ++
      widths.drop row.length) []

/-- A horizontal line. -/
def rule (left line cross right : Char) (widths : List Nat) : List Char :=
  left :: [cross].intercalate (widths.map fun w => List.replicate (w + 2) line) ++ [right]

/-- A line of text with a margin, filled up to the width of its column. -/
def padded (width : Nat) (text : List Char) : List Char :=
  ' ' :: text ++ List.replicate (width - Text.width text) ' ' ++ [' ']

/-- The lines of a row. -/
def rowLines (widths : List Nat) (row : List Cell) : List (List Char) :=
  let height := (row.map List.length).foldl max 0
  (List.range height).map fun i =>
    let parts := (row.zip widths).map fun (cell, w) => padded w (cell[i]?.getD [])
    '│' :: ['┆'].intercalate parts ++ ['│']

/-- A table with a header. -/
def table (header : List String) (rows : List (List String)) : String :=
  let header := header.map Cell.ofString
  let rows := rows.map (·.map Cell.ofString)
  let widths := columnWidths (header :: rows)
  let lines := [rule '┌' '─' '┬' '┐' widths] ++ rowLines widths header ++
    [rule '╞' '═' '╪' '╡' widths] ++ rows.flatMap (rowLines widths) ++
    [rule '└' '─' '┴' '┘' widths]
  String.ofList (['\n'].intercalate lines)

end PageTimers.Text
