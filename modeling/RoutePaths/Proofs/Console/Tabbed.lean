import RoutePaths.Console.Grid
import RoutePaths.Proofs.Splitting

/-! Tables as other programs read them. Nothing in a cell is escaped: a tab in it would begin
another cell, and a line break another row. Without those the cells come back. -/
namespace RoutePaths.Grid

/-- The cells that another program finds in a text: the lines of the text, split at tabs. -/
def cellsOf (text : String) : List (List String) :=
  (text.toList.splitOn '\n').map fun line => (line.splitOn '\t').map String.ofList

/-- A text that is one cell of one row. -/
def IsCell (text : String) : Prop :=
  '\t' ∉ text.toList ∧ '\n' ∉ text.toList

instance : DecidablePred IsCell := fun text =>
  inferInstanceAs (Decidable ('\t' ∉ text.toList ∧ '\n' ∉ text.toList))

theorem isCell_of_forall_mem {text : String} {p : Char → Prop} (h : ∀ c ∈ text.toList, p c)
    (hTab : ¬ p '\t') (hBreak : ¬ p '\n') : IsCell text :=
  ⟨fun hMem => hTab (h _ hMem), fun hMem => hBreak (h _ hMem)⟩

variable {row : List String}

theorem toList_tabbed (grid : Grid) : grid.tabbed.toList =
    (grid.head :: grid.rows).flatMap fun row =>
      ['\t'].intercalate (row.map String.toList) ++ ['\n'] := by
  rw [tabbed, String.toList_join, List.flatMap_map]
  refine List.flatMap_congr fun row _ => ?_
  rw [String.toList_append, String.toList_intercalate]
  rfl

theorem not_mem_line (hCells : ∀ cell ∈ row, IsCell cell) :
    '\n' ∉ ['\t'].intercalate (row.map String.toList) := by
  have hPieces : ∀ piece ∈ row.map String.toList, ∀ c ∈ piece, c ≠ '\n' := by
    rw [List.forall_mem_map]
    exact fun cell hCell c hc h => (hCells cell hCell).2 (h ▸ hc)
  have hSeparator : ∀ c ∈ ['\t'], c ≠ '\n' := by simp
  exact fun hMem => Splitting.forall_mem_intercalate hSeparator hPieces _ hMem rfl

theorem splitOn_line (hRow : row ≠ []) (hCells : ∀ cell ∈ row, IsCell cell) :
    ((['\t'].intercalate (row.map String.toList)).splitOn '\t').map String.ofList = row := by
  rw [List.splitOn_intercalate _ _ (by simpa using hRow), List.map_map]
  · simp [Function.comp_def]
  · rw [List.forall_mem_map]
    exact fun cell hCell => (hCells cell hCell).1

/-- The cells of a table come back, row by row. The line break behind the last row leaves an
empty line. -/
theorem cellsOf_tabbed (grid : Grid)
    (hRows : ∀ row ∈ grid.head :: grid.rows, row ≠ [] ∧ ∀ cell ∈ row, IsCell cell) :
    cellsOf grid.tabbed = grid.head :: grid.rows ++ [[""]] := by
  have hLines : grid.tabbed.toList.splitOn '\n' =
      ((grid.head :: grid.rows).map fun row => ['\t'].intercalate (row.map String.toList)) ++
        [[]] := by
    rw [toList_tabbed, ← Splitting.splitOn_flatMap_append, List.flatMap_map]
    rw [List.forall_mem_map]
    exact fun row hRow => not_mem_line (hRows row hRow).2
  rw [cellsOf, hLines, List.map_append, List.map_map]
  refine congrArg₂ (· ++ ·) ((List.map_congr_left fun row hRow => ?_).trans (List.map_id _)) rfl
  exact splitOn_line (hRows row hRow).1 (hRows row hRow).2

end RoutePaths.Grid
