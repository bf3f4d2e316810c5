-- Results that can be shown. A table is shown if each of its cells has a text, and the time of a
-- statement if it is no whole number beyond the floating-point numbers.
import StatementShell.Handler.Builtin
import StatementShell.Proofs.DigitLimits
import StatementShell.Proofs.SavedRegistry

namespace StatementShell

/-! ## What is shown -/

section

variable {ε α β : Type}

/-- A traversal gives all results, or the error of one step. -/
theorem mapM_cases {f : α → Except ε β} {p : β → Prop} {q : ε → Prop} {xs : List α}
    (h : ∀ x ∈ xs, (∃ y, f x = .ok y ∧ p y) ∨ ∃ e, f x = .error e ∧ q e) :
    (∃ ys, xs.mapM f = .ok ys ∧ ∀ y ∈ ys, p y) ∨ ∃ e, xs.mapM f = .error e ∧ q e := by
  induction xs with
  | nil => exact .inl ⟨[], rfl, by simp⟩
  | cons x xs ih =>
    rw [List.mapM_cons]
    rcases h x List.mem_cons_self with ⟨y, hy, hp⟩ | ⟨e, he, hq⟩
    · rw [hy]
      rcases ih (fun z hz => h z (List.mem_cons_of_mem x hz)) with ⟨ys, hys, hall⟩ | ⟨e, he, hq⟩
      · rw [hys]
        exact .inl ⟨y :: ys, rfl, List.forall_mem_cons.2 ⟨hp, hall⟩⟩
      · rw [he]
        exact .inr ⟨e, rfl, hq⟩
    · rw [he]
      exact .inr ⟨e, rfl, hq⟩

end

namespace Table

/-- The text of a name or of another value, as far as it has one. -/
def plainText (v : Value) : Text := v.text?.getD []

/-- The text in a cell: nothing at all is shown by a word. -/
def cellText : Value → Text
  | .null => "NULL"
  | v => plainText v

/-- The lines of a cell. -/
def cellPieces (v : Value) : List Text := Text.pieces '\n' (cellText v)

theorem addRows_of_length {t : Table} {rows : List (List Value)}
    (h : ∀ row ∈ rows, row.length = t.header.length) :
    t.addRows rows = .ok { t with rows := t.rows ++ rows } := by
  induction rows generalizing t with
  | nil => simp [addRows]
  | cons row rows ih =>
    have hrow : t.addRow row = .ok { t with rows := t.rows ++ [row] } :=
      if_neg (fun hne => hne.2 (h row List.mem_cons_self))
    rw [addRows, hrow]
    dsimp only
    have hrest : ∀ r ∈ rows, r.length = t.header.length :=
      fun r hr => h r (List.mem_cons_of_mem row hr)
    rw [ih (t := { t with rows := t.rows ++ [row] }) hrest]
    simp

theorem valueText_eq {v : Value} (h : v.HasText) : valueText v = .ok (plainText v) := by
  obtain ⟨t, ht⟩ := h
  rw [valueText, plainText, ht]
  rfl

theorem cellText_of_ne {v : Value} (h : v ≠ .null) : cellText v = plainText v := by
  cases v with
  | null => exact absurd rfl h
  | _ => rfl

theorem cellLines_eq {v : Value} (h : v.HasText) : cellLines v = .ok (cellPieces v) := by
  unfold cellLines
  split
  next => rfl
  next hv =>
    rw [valueText_eq h, cellPieces, cellText_of_ne hv]
    rfl

/-- A row to be laid out. -/
def cellsOf (side : Value → Alignment) (row : List Value) : Cells :=
  row.map (fun v => (side v, cellPieces v))

/-- The lines of a table that has columns and rows. -/
def gridOf (t : Table) : List Text :=
  gridLines (t.header.map plainText) (cellsOf (fun _ => .centre) t.header)
    (t.rows.map (cellsOf alignment))

theorem mapM_cells (side : Value → Alignment) {row : List Value} (h : ∀ v ∈ row, v.HasText) :
    row.mapM (fun v => (cellLines v).map (fun ls => (side v, ls))) = .ok (cellsOf side row) := by
  apply mapM_of_forall
  intro v hv
  rw [cellLines_eq (h v hv)]
  rfl

/-- With columns and rows a table is laid out from the texts of its names and the lines of its
cells. -/
theorem lines_eq {t : Table} (hheader : t.header ≠ []) (hrows : t.rows ≠ [])
    (htext : ∀ row ∈ t.header :: t.rows, ∀ v ∈ row, v.HasText) :
    t.lines = .ok (gridOf t) := by
  obtain ⟨hhead, hcells⟩ := List.forall_mem_cons.1 htext
  have hnames : t.header.mapM valueText = .ok (t.header.map plainText) :=
    mapM_of_forall (fun v hv => valueText_eq (hhead v hv))
  have hrow : t.rows.mapM rowCells = .ok (t.rows.map (cellsOf alignment)) :=
    mapM_of_forall (fun row hr => mapM_cells alignment (hcells row hr))
  rw [lines, if_neg (by simp [hheader, hrows]), hnames, headerCells, mapM_cells _ hhead, hrow]
  rfl

/-- A table is shown if each of its cells has a text. -/
theorem lines_of_hasText {t : Table} (hheader : ∀ v ∈ t.header, v.HasText)
    (hrows : ∀ row ∈ t.rows, ∀ v ∈ row, v.HasText) : ∃ ls, t.lines = .ok ls := by
  by_cases hempty : t.header = [] ∨ t.rows = []
  · exact ⟨_, if_pos hempty⟩
  · obtain ⟨hcolumns, hfilled⟩ := not_or.1 hempty
    exact ⟨_, lines_eq hcolumns hfilled (List.forall_mem_cons.2 ⟨hheader, hrows⟩)⟩

end Table

namespace Result

/-- A result of a statement that succeeded, with a table that can be shown, if it has one. -/
def Presentable (r : Result) : Prop := r.success = true ∧ ∃ ls, r.tableLines = .ok ls

theorem presentable_of_rows {rows : List (List Value)}
    (h : ∀ row ∈ rows, row.length = Builtin.propertyFields.length ∧ ∀ v ∈ row, v.HasText) :
    Presentable { fields := some Builtin.propertyFields, rows := some rows } := by
  have hheader : ∀ v ∈ Builtin.propertyFields, v.HasText := by
    intro v hv
    simp only [Builtin.propertyFields, List.mem_cons, List.not_mem_nil, or_false] at hv
    rcases hv with rfl | rfl | rfl | rfl
    all_goals exact ⟨_, rfl⟩
  have hadd := Table.addRows_of_length (t := ⟨Builtin.propertyFields, []⟩)
    (fun row hr => (h row hr).1)
  obtain ⟨ls, hls⟩ := Table.lines_of_hasText (t := ⟨Builtin.propertyFields, rows⟩) hheader
    (fun row hr => (h row hr).2)
  refine ⟨rfl, ls, ?_⟩
  unfold Builtin.propertyFields at hadd hls ⊢
  unfold tableLines
  dsimp only [Option.getD_some]
  rw [hadd]
  exact hls

theorem text_of_tableLines {r : Result} {ls : List Text} {time : Text}
    (hls : r.tableLines = .ok ls) (htime : timeText r.elapsed = .ok time) :
    ∃ t, r.text = .ok t := by
  unfold text
  rw [hls, htime]
  exact ⟨_, rfl⟩

end Result

/-- The time of one statement is no whole number beyond the floating-point numbers. -/
def Clock.Measures (c : Clock) : Prop := ∀ i, c.tick = .whole i → Binary64.ofInt? i ≠ none

theorem Clock.measures_stopped : stopped.Measures := by
  intro i hi
  cases hi
  decide

/-- The time from one reading to the next can be shown. -/
theorem Clock.Measures.timeText {c : Clock} (h : c.Measures) :
    ∃ t, Result.timeText (between c.read.1 c.read.2.read.1) = .ok t := by
  unfold Measures at h
  obtain ⟨tick, n⟩ := c
  cases tick with
  | fraction x => exact ⟨_, rfl⟩
  | whole i =>
    have hbetween : between (Clock.mk (.whole i) n).read.1 (Clock.mk (.whole i) n).read.2.read.1 =
        .integer i := by
      simp only [read, time, between, Value.integer.injEq]
      push_cast
      rw [Int.add_mul, Int.one_mul]
      omega
    obtain ⟨x, hx⟩ := Option.ne_none_iff_exists'.1 (h i rfl)
    rw [hbetween, Result.timeText, Result.timeText.whole, hx]
    exact ⟨_, rfl⟩

end StatementShell
