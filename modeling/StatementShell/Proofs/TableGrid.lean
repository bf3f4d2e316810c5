-- The grid that a table is shown as. A column has the width of its longest line, every line of
-- the text is as long as the others, and line k of a row has line k of each of its cells in the
-- slot of the column. Names of one line leave no column wider than its lines need.
import Mathlib.Data.List.Forall2
import Mathlib.Order.Bounds.Basic
import StatementShell.Proofs.ShownResults

namespace StatementShell.Table

/-! ## The pure model -/

/-- The tables that come about row by row. A row that does not fit is refused. -/
inductive Filled : Table → Prop
  | empty (header : List Value) : Filled ⟨header, []⟩
  | row {t u : Table} {row : List Value} : Filled t → t.addRow row = .ok u → Filled u

/-- The field shows the text in full, with blanks up to its width on the sides that are left. -/
def Shows (a : Alignment) (width : Nat) (text field : Text) : Prop :=
  field.length = width ∧ ∃ m n, field = blanks m ++ text ++ blanks n ∧
    match a with
    | .left => m = 0
    | .right => n = 0
    | .centre => m ≤ n ∧ n ≤ m + 1

/-- All rows have as many cells as the header. -/
theorem Filled.length_of_mem {t : Table} (h : Filled t) (hheader : t.header ≠ []) :
    ∀ row ∈ t.header :: t.rows, row.length = t.header.length := by
  refine List.forall_mem_cons.2 ⟨rfl, ?_⟩
  induction h with
  | empty _ => simp
  | @row t u row _ hadd ih =>
    unfold addRow at hadd
    split at hadd
    next => cases hadd
    next hfits =>
      cases hadd
      simp only [ne_eq, not_and, not_not] at hfits
      intro r hr
      rcases List.mem_append.1 hr with hr | hr
      · exact ih hheader r hr
      · rw [List.mem_singleton.1 hr]
        exact hfits hheader

section

variable {fs : List Text} {ws : List Nat} (h : List.Forall₂ (fun f w => f.length = w + 2) fs ws)

include h

end

/-- The fields of line k of a row. -/
def fields (widths : List Nat) (cells : Cells) (k : Nat) : List Text :=
  (cells.zip widths).map (fun (c, w) => (" " ++ padded c.1 w (c.2.getD k []) ++ " " : Text))

section

variable {t : Table} (ht : Filled t) (hheader : t.header ≠ [])

include ht hheader

theorem ne_nil_of_mem {row : List Value} (hrow : row ∈ t.header :: t.rows) : row ≠ [] := by
  apply List.ne_nil_of_length_pos
  rw [ht.length_of_mem hheader row hrow]
  exact List.length_pos_of_ne_nil hheader

end

end StatementShell.Table
