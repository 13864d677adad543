import Laminate.Code.Columns
import Mathlib.Order.Bounds.Basic
import Mathlib.Algebra.Ring.Nat
import Mathlib.Data.List.Forall2
import Mathlib.Tactic.Lemma

/-! Columns of rows of any lengths. Each column has a place of its own, at which the cells of all
rows start, and no column is wider than its cells need. -/
namespace Laminate.Code

/-! ### Lines -/

/-- A line holds the cells of a row, with spaces behind each but the last one. -/
inductive Holds : List String → List ℕ → List Char → Prop
  | nil : Holds [] [] []
  | last (cell : String) : Holds [cell] [] cell.toList
  | cons {cell next : String} {rest : List String} {gap : ℕ} {gaps : List ℕ} {line : List Char}
    (pos : 0 < gap) (more : Holds (next :: rest) gaps line) :
    Holds (cell :: next :: rest) (gap :: gaps) (cell.toList ++ List.replicate gap ' ' ++ line)

/-- Where a cell starts in a line with these cells and gaps. -/
def startOf (row : List String) (gaps : List ℕ) (i : ℕ) : ℕ :=
  ((row.take i).map String.length).sum + (gaps.take i).sum

/-- Behind the first cell, the others start as they do without it. -/
lemma startOf_cons (cell : String) (row : List String) (gap : ℕ) (gaps : List ℕ) (i : ℕ) :
    startOf (cell :: row) (gap :: gaps) (i + 1) = cell.length + gap + startOf row gaps i := by
  simp only [startOf, List.take_succ_cons, List.map_cons, List.sum_cons]
  omega

/-- A cell starts behind the one before it and the gap between them. -/
lemma startOf_succ {row : List String} {gaps : List ℕ} {i gap : ℕ} (hi : i < row.length)
    (hgap : gaps[i]? = some gap) :
    startOf row gaps (i + 1) = startOf row gaps i + row[i].length + gap := by
  have hcell : row[i]? = some row[i] := List.getElem?_eq_getElem hi
  simp only [startOf, List.take_add_one, hcell, hgap, Option.toList_some, List.map_append,
    List.sum_append, List.map_cons, List.map_nil, List.sum_cons, List.sum_nil]
  omega

/-- The spaces behind the cells of a row. -/
def gapsOf (widths : List ℕ) : List String → List ℕ
  | [] | [_] => []
  | cell :: next :: rest => (widths.headD 0 - cell.length + 1) :: gapsOf widths.tail (next :: rest)

lemma holds_alignRow (widths : List ℕ) (row : List String) :
    Holds row (gapsOf widths row) (alignRow widths row) := by
  induction row generalizing widths with
  | nil => exact .nil
  | cons cell rest ih =>
    cases rest with
    | nil => exact .last cell
    | cons next rest => exact .cons (Nat.succ_pos _) (ih widths.tail)

lemma getElem?_gapsOf (widths : List ℕ) (row : List String) {i : ℕ} (h : i + 1 < row.length) :
    (gapsOf widths row)[i]? = some (widths[i]?.getD 0 - row[i].length + 1) := by
  induction i generalizing widths row with
  | zero =>
    match row, h with
    | cell :: next :: rest, _ => cases widths <;> rfl
  | succ i ih =>
    match row, h with
    | cell :: next :: rest, h =>
      have hrest := ih widths.tail (next :: rest) (by simpa using h)
      simpa [gapsOf] using hrest

/-- A cell stands where it starts. -/
lemma Holds.exists_split {row : List String} {gaps : List ℕ} {line : List Char}
    (h : Holds row gaps line) {i : ℕ} (hi : i < row.length) :
    ∃ before after, line = before ++ row[i].toList ++ after ∧
      before.length = startOf row gaps i := by
  induction h generalizing i with
  | nil => cases hi
  | last cell =>
    obtain rfl : i = 0 := Nat.lt_one_iff.mp hi
    exact ⟨[], [], by simp, rfl⟩
  | @cons cell next rest gap gaps line pos more ih =>
    cases i with
    | zero => exact ⟨[], List.replicate gap ' ' ++ line, by simp, rfl⟩
    | succ i =>
      obtain ⟨before, after, rfl, hlength⟩ := ih (Nat.lt_of_succ_lt_succ hi)
      refine ⟨cell.toList ++ List.replicate gap ' ' ++ before, after, by simp, ?_⟩
      rw [startOf_cons, ← hlength, ← String.length_toList]
      simp [Nat.add_assoc]

/-! ### Widths -/

lemma isGreatest_foldl_max (ns : List ℕ) : IsGreatest {n | n ∈ 0 :: ns} (ns.foldl max 0) :=
  List.max?_eq_some_iff.mp List.max?_cons'

lemma mem_columnCells {rows : List (List String)} {i n : ℕ} :
    n ∈ columnCells rows i ↔ ∃ row ∈ rows, ∃ h : i + 1 < row.length, row[i].length = n := by
  rw [columnCells, List.mem_filterMap]
  refine exists_congr fun row => and_congr_right fun _ => ?_
  split
  · next h => simp [h, Nat.lt_of_succ_lt h]
  · next h => simp [h]

/-- The width of a column is that of its widest cell among those that another cell follows. -/
lemma isGreatest_columnWidth {rows : List (List String)} {row : List String} {i : ℕ}
    (hrow : row ∈ rows) (hi : i + 1 < row.length) :
    IsGreatest {n | ∃ row ∈ rows, ∃ h : i + 1 < row.length, row[i].length = n}
      (columnWidth rows i) := by
  obtain ⟨hmem, hle⟩ := isGreatest_foldl_max (columnCells rows i)
  have hcell := mem_columnCells.mpr ⟨row, hrow, hi, rfl⟩
  constructor
  · rcases List.mem_cons.mp hmem with hzero | hmem
    · -- Cells of no width are the widest ones where there are no others.
      refine ⟨row, hrow, hi, Nat.le_antisymm (hle (List.mem_cons_of_mem _ hcell)) ?_⟩
      rw [columnWidth, hzero]
      exact Nat.zero_le _
    · exact mem_columnCells.mp hmem
  · exact fun n hn => hle (List.mem_cons_of_mem _ (mem_columnCells.mpr hn))

/-- Where a column starts: the columns before it are as wide as they are, with a space each. -/
def columnStart (rows : List (List String)) (i : ℕ) : ℕ :=
  ((List.range i).map fun j => columnWidth rows j + 1).sum

lemma columnStart_succ (rows : List (List String)) (i : ℕ) :
    columnStart rows (i + 1) = columnStart rows i + columnWidth rows i + 1 := by
  simp [columnStart, List.range_succ, Nat.add_assoc]

/-- The widths that lines are made with. -/
def columnWidths (rows : List (List String)) : List ℕ :=
  (List.range ((rows.map List.length).foldl max 0)).map (columnWidth rows)

lemma aligned_eq (rows : List (List String)) :
    aligned rows = rows.map fun row => String.ofList (alignRow (columnWidths rows) row) := rfl

/-- There is a width for each cell that another one follows. -/
lemma getElem?_columnWidths {rows : List (List String)} {row : List String} {i : ℕ}
    (hrow : row ∈ rows) (hi : i + 1 < row.length) :
    (columnWidths rows)[i]? = some (columnWidth rows i) := by
  have hle : row.length ≤ (rows.map List.length).foldl max 0 :=
    (isGreatest_foldl_max _).2 (List.mem_cons_of_mem _ (List.mem_map_of_mem hrow))
  have hlt : i < (rows.map List.length).foldl max 0 := by omega
  simp [columnWidths, hlt]

/-- The gap behind a cell fills its column up to one space more; there is no cell that the column
has no room for. -/
lemma getElem?_gaps {rows : List (List String)} {row : List String} {i : ℕ} (hrow : row ∈ rows)
    (hi : i + 1 < row.length) :
    row[i].length ≤ columnWidth rows i ∧
      (gapsOf (columnWidths rows) row)[i]? = some (columnWidth rows i - row[i].length + 1) := by
  refine ⟨(isGreatest_columnWidth hrow hi).2 ⟨row, hrow, hi, rfl⟩, ?_⟩
  rw [getElem?_gapsOf _ _ hi, getElem?_columnWidths hrow hi, Option.getD_some]

lemma startOf_gaps {rows : List (List String)} {row : List String} (hrow : row ∈ rows) {i : ℕ}
    (hi : i < row.length) :
    startOf row (gapsOf (columnWidths rows) row) i = columnStart rows i := by
  induction i with
  | zero => rfl
  | succ i ih =>
    obtain ⟨hle, hgap⟩ := getElem?_gaps hrow hi
    rw [columnStart_succ, ← ih (Nat.lt_of_succ_lt hi), startOf_succ (Nat.lt_of_succ_lt hi) hgap]
    omega

/-- A line in which the cells of a row stand in the columns of some rows. -/
structure InColumns (rows : List (List String)) (row : List String) (gaps : List ℕ)
    (line : List Char) : Prop where
  holds : Holds row gaps line
  /-- A cell starts where its column does. -/
  stands : ∀ i, ∀ hi : i < row.length, startOf row gaps i = columnStart rows i ∧
    ∃ before after, line = before ++ row[i].toList ++ after ∧ before.length = columnStart rows i
  /-- The column has room for a cell, and the gap takes up what is left of it and one space. -/
  fills : ∀ i, ∀ hi : i + 1 < row.length, row[i].length ≤ columnWidth rows i ∧
    gaps[i]? = some (columnWidth rows i - row[i].length + 1)

lemma inColumns_alignRow {rows : List (List String)} {row : List String} (hrow : row ∈ rows) :
    InColumns rows row (gapsOf (columnWidths rows) row) (alignRow (columnWidths rows) row) where
  holds := holds_alignRow _ _
  stands i hi := by
    have hstart := startOf_gaps hrow hi
    refine ⟨hstart, ?_⟩
    rw [← hstart]
    exact (holds_alignRow _ _).exists_split hi
  fills i hi := getElem?_gaps hrow hi

/-- Rows of any lengths are laid out in columns, with one line for each. A line holds the cells of
its row in order, with at least one space behind each but the last. The cells of a column start at
one place in all lines. A column is as wide as its widest cell, last cells apart, and one space, so
that no gap would have to be negative. -/
theorem aligned_columns (rows : List (List String)) :
    List.Forall₂ (fun row line => ∃ gaps, InColumns rows row gaps line.toList) rows
      (aligned rows) ∧
    ∀ i, columnStart rows (i + 1) = columnStart rows i + columnWidth rows i + 1 ∧
      ∀ row ∈ rows, i + 1 < row.length →
        IsGreatest {n | ∃ row ∈ rows, ∃ h : i + 1 < row.length, row[i].length = n}
          (columnWidth rows i) := by
  refine ⟨?_, fun i => ⟨columnStart_succ rows i, fun row hrow hi => isGreatest_columnWidth hrow hi⟩⟩
  rw [aligned_eq, List.forall₂_map_right_iff, List.forall₂_same]
  intro row hrow
  rw [String.toList_ofList]
  exact ⟨_, inColumns_alignRow hrow⟩

example : aligned [["a", "bb", "c"], [], ["dddd"], ["eee", "f"]] =
    ["a   bb c", "", "dddd", "eee f"] := by decide +kernel

end Laminate.Code
