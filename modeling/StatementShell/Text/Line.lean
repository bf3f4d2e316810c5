-- Lines of text. A line ends at a line feed and keeps it until somebody strips it; other
-- kinds of line end count only where they have been turned into line feeds before.
import StatementShell.Text.Basic

namespace StatementShell.Text

/-- The lines of a text, each with the line feed that ends it. -/
def lines : Text → List Text
  | [] => []
  | c :: r =>
    if c = '\n' then [c] :: lines r
    else
      match lines r with
      | [] => [[c]]
      | l :: ls => (c :: l) :: ls

/-- No character is lost between the lines. -/
theorem flatten_lines (t : Text) : (lines t).flatten = t := by
  induction t with
  | nil => rfl
  | cons c r ih =>
    simp only [lines]
    split
    · simp [ih]
    · cases h : lines r with
      | nil => simp [h] at ih; simp [ih]
      | cons l ls => rw [h] at ih; simp at ih ⊢; exact ih

theorem lines_append_lineFeed {b : Text} (h : '\n' ∉ b) (t : Text) :
    lines (b ++ '\n' :: t) = (b ++ ['\n']) :: lines t := by
  induction b with
  | nil => simp [lines]
  | cons c r ih =>
    have hc : c ≠ '\n' := fun e => h (by simp [e])
    rw [List.cons_append, lines, if_neg hc, ih (fun hr => h (List.mem_cons_of_mem c hr))]
    rfl

theorem lines_append_of_notMem {b : Text} (h : '\n' ∉ b) {t l : Text} {ls : List Text}
    (ht : lines t = l :: ls) : lines (b ++ t) = (b ++ l) :: ls := by
  induction b with
  | nil => exact ht
  | cons c r ih =>
    have hc : c ≠ '\n' := fun e => h (by simp [e])
    rw [List.cons_append, lines, if_neg hc, ih (fun hr => h (List.mem_cons_of_mem c hr))]
    rfl

/-- A text that is put together from whole lines falls into them again. -/
theorem lines_flatten_append {bodies : List Text} (h : ∀ b ∈ bodies, '\n' ∉ b) (t : Text) :
    lines ((bodies.map (· ++ ['\n'])).flatten ++ t) = bodies.map (· ++ ['\n']) ++ lines t := by
  induction bodies with
  | nil => rfl
  | cons b bs ih =>
    have hb := h b (by simp)
    rw [List.map_cons, List.flatten_cons, List.append_assoc, List.append_assoc,
      List.singleton_append, lines_append_lineFeed hb, ih (fun x hx => h x (List.mem_cons_of_mem b hx)), List.cons_append]

theorem body_of_mem_lines {t l : Text} (h : l ∈ lines t) :
    ∃ b, '\n' ∉ b ∧ (l = b ∨ l = b ++ ['\n']) := by
  induction t generalizing l with
  | nil => cases h
  | cons c r ih =>
    simp only [lines] at h
    split at h
    next hc =>
      rcases List.mem_cons.1 h with rfl | h
      · exact ⟨[], by simp, .inr (by simp [hc])⟩
      · exact ih h
    next hc =>
      have hcr {b : Text} (hb : '\n' ∉ b) : '\n' ∉ c :: b := by
        simpa [hb] using fun e => hc e.symm
      split at h
      next =>
        rw [List.mem_singleton.1 h]
        exact ⟨[c], hcr (by simp), .inl rfl⟩
      next l' ls hl =>
        rw [hl] at ih
        rcases List.mem_cons.1 h with rfl | h
        · obtain ⟨b, hb, rfl | rfl⟩ := ih List.mem_cons_self
          · exact ⟨c :: _, hcr hb, .inl rfl⟩
          · exact ⟨c :: b, hcr hb, .inr rfl⟩
        · exact ih (List.mem_cons_of_mem l' h)

theorem mem_of_mem_lines {t l : Text} (h : l ∈ lines t) {c : Char} (hc : c ∈ l) : c ∈ t := by
  rw [← flatten_lines t]
  exact List.mem_flatten_of_mem h hc

/-- The text without one copy of the given character at its end. -/
def dropLast? (c : Char) (t : Text) : Text := if t.getLast? = some c then t.dropLast else t

/-- A line without its terminator: one line feed, then one carriage return. -/
def stripTerminator (line : Text) : Text := dropLast? '\r' (dropLast? '\n' line)

/-- Carriage returns, alone or before a line feed, turned into line feeds. -/
def unifyLineEnds : Text → Text
  | [] => []
  | '\r' :: '\n' :: r => '\n' :: unifyLineEnds r
  | '\r' :: r => '\n' :: unifyLineEnds r
  | c :: r => c :: unifyLineEnds r

/-- After unifying, no carriage return is left. -/
theorem carriage_notMem_unifyLineEnds (t : Text) : '\r' ∉ unifyLineEnds t := by
  fun_induction unifyLineEnds t with
  | case1 => simp
  | case2 r ih => simp [ih]
  | case3 r _ ih => simp [ih]
  | case4 c r _ h ih => simpa [ih] using fun hc => h hc.symm

theorem unifyLineEnds_append {s : Text} (h : '\r' ∉ s) (t : Text) :
    unifyLineEnds (s ++ t) = s ++ unifyLineEnds t := by
  induction s with
  | nil => rfl
  | cons c r ih =>
    have hc : c ≠ '\r' := fun e => h (by simp [e])
    rw [List.cons_append, unifyLineEnds, ih (fun hr => h (List.mem_cons_of_mem c hr))]
    · rfl
    · intro r' e _
      exact hc e
    · exact hc

theorem unifyLineEnds_of_notMem {t : Text} (h : '\r' ∉ t) : unifyLineEnds t = t := by
  simpa [unifyLineEnds] using unifyLineEnds_append h []

end StatementShell.Text
