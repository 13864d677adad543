/-! Rows of cells laid out in columns with one space between them at least. -/
namespace Laminate.Code

/-- The widths of the cells of column `i` that another cell follows. -/
def columnCells (rows : List (List String)) (i : Nat) : List Nat :=
  rows.filterMap fun row => if i + 1 < row.length then row[i]?.map String.length else none

/-- The widest cell of a column among those that another cell follows. -/
def columnWidth (rows : List (List String)) (i : Nat) : Nat := (columnCells rows i).foldl max 0

/-- Cells from column `i` on, each but the last padded to one space past its column's width. -/
def alignRow (widths : List Nat) : List String → List Char
  | [] => []
  | [cell] => cell.toList
  | cell :: rest =>
    cell.toList ++ List.replicate (widths.headD 0 - cell.length + 1) ' ' ++
      alignRow widths.tail rest

/-- One line for each row. -/
def aligned (rows : List (List String)) : List String :=
  let columns := (rows.map List.length).foldl max 0
  let widths := (List.range columns).map (columnWidth rows)
  rows.map fun row => String.ofList (alignRow widths row)

example : aligned [["a", "bb", "c"], ["aaa", "b", "c"]] = ["a   bb c", "aaa b  c"] := by
  decide +kernel

end Laminate.Code
