-- Blank characters and the trimming of text. A character is blank when Unicode calls it a
-- separator of words or lines; the zero-width characters are not among them.
import StatementShell.Text.Basic

namespace StatementShell.Text

/-- The blank code points. -/
def blankRanges : Ranges := [
  (0x9, 0xd), (0x1c, 0x20), (0x85, 0x85), (0xa0, 0xa0), (0x1680, 0x1680), (0x2000, 0x200a),
  (0x2028, 0x2029), (0x202f, 0x202f), (0x205f, 0x205f), (0x3000, 0x3000)]

/-- Whether a character is blank. -/
def isBlank (c : Char) : Bool := blankRanges.has c.toNat

/-- The text without the blanks at its front. -/
def trimFront (t : Text) : Text := t.dropWhile isBlank

/-- The text without the blanks at its back. -/
def trimBack (t : Text) : Text := (t.reverse.dropWhile isBlank).reverse

/-- The text without the blanks at either end. -/
def trim (t : Text) : Text := trimBack (trimFront t)

/-- The text without the copies of one character at its back. -/
def dropBack (c : Char) (t : Text) : Text := (t.reverse.dropWhile (· == c)).reverse

/-! ## What trimming keeps -/

theorem trimFront_length_le (t : Text) : (trimFront t).length ≤ t.length :=
  (List.dropWhile_sublist isBlank).length_le

/-- What is trimmed from the front is blank, and nothing else is lost. -/
theorem takeWhile_append_trimFront (t : Text) : t.takeWhile isBlank ++ trimFront t = t :=
  List.takeWhile_append_dropWhile

@[simp] theorem trimFront_nil : trimFront [] = [] := rfl

/-! ## Both ends -/

theorem trimFront_eq_self {t : Text} (h : ∀ c, t.head? = some c → isBlank c = false) :
    trimFront t = t := by
  cases t with
  | nil => rfl
  | cons c r => simp [trimFront, h c rfl]

theorem trimBack_append_of_nil {u : Text} (h : trimBack u = []) (t : Text) :
    trimBack (t ++ u) = trimBack t := by
  have hu : u.reverse.dropWhile isBlank = [] := by simpa [trimBack] using h
  simp [trimBack, List.dropWhile_append, hu]

theorem trimBack_append_of_ne_nil {u : Text} (h : trimBack u ≠ []) (t : Text) :
    trimBack (t ++ u) = t ++ trimBack u := by
  have hu : (u.reverse.dropWhile isBlank).isEmpty = false := by simpa [trimBack] using h
  simp [trimBack, List.dropWhile_append, hu]

theorem trimBack_append_solid (t : Text) {c : Char} (h : isBlank c = false) (u : Text) :
    trimBack (t ++ c :: u) = t ++ c :: trimBack u := by
  have hcu : trimBack (c :: u) = c :: trimBack u := by
    rw [← List.singleton_append]
    by_cases hu : trimBack u = []
    · rw [trimBack_append_of_nil hu, hu]
      simp [trimBack, h]
    · rw [trimBack_append_of_ne_nil hu]
      rfl
  rw [trimBack_append_of_ne_nil (by simp [hcu]), hcu]

theorem trimBack_eq_self {t : Text} (h : ∀ c, t.getLast? = some c → isBlank c = false) :
    trimBack t = t := by
  have hrev : t.reverse.dropWhile isBlank = t.reverse :=
    trimFront_eq_self (fun c hc => h c (by rwa [← List.head?_reverse]))
  rw [trimBack, hrev, List.reverse_reverse]

theorem isBlank_of_getLast?_trimBack {t : Text} {c : Char} (h : (trimBack t).getLast? = some c) :
    isBlank c = false := by
  rw [trimBack, List.getLast?_reverse] at h
  have := List.head?_dropWhile_not isBlank t.reverse
  rw [h] at this
  simpa using this

/-- The two ends are trimmed in either order. -/
theorem trimFront_trimBack (t : Text) : trimFront (trimBack t) = trimBack (trimFront t) := by
  induction t with
  | nil => rfl
  | cons c r ih =>
    by_cases hc : isBlank c = true
    · have hfront (s : Text) : trimFront (c :: s) = trimFront s := by simp [trimFront, hc]
      rw [hfront, ← ih]
      by_cases hr : trimBack r = []
      · rw [← List.singleton_append, trimBack_append_of_nil hr, hr]
        simp [trimBack, hc]
      · rw [← List.singleton_append, trimBack_append_of_ne_nil hr]
        exact hfront _
    · have hfront (s : Text) : trimFront (c :: s) = c :: s := by simp [trimFront, hc]
      have hback : trimBack (c :: r) = c :: trimBack r :=
        trimBack_append_solid [] (by simpa using hc) r
      rw [hfront, hback, hfront]

theorem isBlank_of_head?_trim {t : Text} {c : Char} (h : (trim t).head? = some c) :
    isBlank c = false := by
  rw [trim, ← trimFront_trimBack, trimFront] at h
  have := List.head?_dropWhile_not isBlank (trimBack t)
  rw [h] at this
  simpa using this

theorem trim_eq_self {t : Text} (hfront : ∀ c, t.head? = some c → isBlank c = false)
    (hback : ∀ c, t.getLast? = some c → isBlank c = false) : trim t = t := by
  rw [trim, trimFront_eq_self hfront, trimBack_eq_self hback]

@[simp] theorem trim_trim (t : Text) : trim (trim t) = trim t :=
  trim_eq_self (fun _ => isBlank_of_head?_trim) (fun _ => isBlank_of_getLast?_trimBack)

theorem trim_cons_blank {c : Char} (h : isBlank c = true) (t : Text) : trim (c :: t) = trim t := by
  simp [trim, trimFront, h]

theorem trimBack_concat_blank (t : Text) {c : Char} (h : isBlank c = true) :
    trimBack (t ++ [c]) = trimBack t := by
  exact trimBack_append_of_nil (by simp [trimBack, h]) t

theorem trim_concat_blank (t : Text) {c : Char} (h : isBlank c = true) :
    trim (t ++ [c]) = trim t := by
  rw [trim, ← trimFront_trimBack, trimBack_concat_blank t h, trimFront_trimBack, trim]

theorem trim_trimBack (t : Text) : trim (trimBack t) = trim t := by
  rw [trim, trimFront_trimBack, trimBack_eq_self (fun _ => isBlank_of_getLast?_trimBack), trim]

theorem trimBack_sublist (t : Text) : (trimBack t).Sublist t := by
  simpa [trimBack] using (List.dropWhile_sublist isBlank (l := t.reverse)).reverse

theorem trim_sublist (t : Text) : (trim t).Sublist t :=
  (trimBack_sublist _).trans (List.dropWhile_sublist isBlank)

end StatementShell.Text
