import DataOps.LibText
/-!
# CsvTable — the table a stage works on

Headers and rows as `load_csv` returns them: short rows are padded and long rows cut, so every row has a cell in every
column.
-/
namespace DataOps

structure Table where
  headers : List Str
  rows    : List (List Str)
  width   : ∀ row ∈ rows, row.length = headers.length

namespace Table

abbrev RowIndex (t : Table) := Fin t.rows.length
abbrev ColIndex (t : Table) := Fin t.headers.length

def row (t : Table) (i : t.RowIndex) : List Str := t.rows.get i

theorem row_length (t : Table) (i : t.RowIndex) : (t.row i).length = t.headers.length :=
  t.width _ (List.get_mem _ _)

/-- `rows[i][c]`. -/
def cell (t : Table) (i : t.RowIndex) (c : t.ColIndex) : Str :=
  (t.row i).get ⟨c, by rw [t.row_length]; exact c.isLt⟩

theorem cell_congr {t : Table} {i j : t.RowIndex} (h : t.row i = t.row j) (c : t.ColIndex) :
    t.cell i c = t.cell j c := by
  unfold cell
  rw [List.get_eq_getElem, List.get_eq_getElem]
  simp only [h]

/-- A column, read off the rows. -/
theorem map_cell (t : Table) (c : t.ColIndex) :
    (List.finRange t.rows.length).map (fun i => t.cell i c) = t.rows.map (fun row => row[(c : Nat)]?.getD []) := by
  conv => rhs; rw [← List.map_get_finRange t.rows, List.map_map]
  refine List.map_congr_left (fun i _ => ?_)
  have hc : (c : Nat) < (t.rows.get i).length := by
    rw [t.width _ (List.get_mem _ _)]
    exact c.isLt
  simp only [Function.comp_apply, List.getElem?_eq_getElem hc, Option.getD_some]
  rfl

end Table
end DataOps
