-- Cutting text into statements. A statement ends at the first semicolon outside quotes; a
-- quote of either kind opens a quoted stretch that only the same quote closes. Whitespace
-- after a statement belongs to nobody and is dropped.
import StatementShell.Text.Blank

namespace StatementShell.Segment

/-- Whether a scan stands inside quotes, and inside which. -/
inductive Quoting
  | plain
  | single
  | double
  deriving DecidableEq, Repr

/-- Where a scan stands after one more character. -/
def Quoting.after : Quoting → Char → Quoting
  | .plain, c => if c = '\'' then .single else if c = '"' then .double else .plain
  | .single, c => if c = '\'' then .plain else .single
  | .double, c => if c = '"' then .plain else .double

/-- The character that ends a statement. -/
def terminator : Char := ';'

/-- The place of the first terminator outside quotes, for a scan that stands anywhere. -/
def terminatorFrom? : Quoting → Text → Option Nat
  | _, [] => none
  | q, c :: r =>
    if q = .plain ∧ c = terminator then some 0
    else (terminatorFrom? (q.after c) r).map (· + 1)

/-- The place of the first terminator outside quotes. -/
def terminator? (t : Text) : Option Nat := terminatorFrom? .plain t

/-- The first statement, its terminator included, and what is left after it. -/
def extract? (t : Text) : Option (Text × Text) :=
  (terminator? t).map (fun i => (t.take (i + 1), Text.trimFront (t.drop (i + 1))))

/-! ## Bounds -/

theorem terminatorFrom?_lt {q : Quoting} {t : Text} {i : Nat}
    (h : terminatorFrom? q t = some i) : i < t.length := by
  induction t generalizing q i with
  | nil => simp [terminatorFrom?] at h
  | cons c r ih =>
    simp only [terminatorFrom?] at h
    split at h
    · simp at h; subst h; simp
    · obtain ⟨j, hj, rfl⟩ := Option.map_eq_some_iff.1 h
      have := ih hj
      simp; omega

/-- A statement takes its terminator at least, so what is left is shorter. -/
theorem length_lt_of_extract? {t s r : Text} (h : extract? t = some (s, r)) :
    r.length < t.length := by
  obtain ⟨i, hi, he⟩ := Option.map_eq_some_iff.1 h
  have hlt : i < t.length := terminatorFrom?_lt hi
  have hr : r = Text.trimFront (t.drop (i + 1)) := (Prod.mk.inj he).2.symm
  have := Text.trimFront_length_le (t.drop (i + 1))
  rw [hr]
  simp only [List.length_drop] at this
  omega

/-- What is left behind a statement is the end of the text. -/
theorem suffix_of_extract? {t s r : Text} (h : extract? t = some (s, r)) : r <:+ t := by
  obtain ⟨i, -, he⟩ := Option.map_eq_some_iff.1 h
  obtain ⟨-, rfl⟩ := Prod.mk.inj he
  exact (List.dropWhile_suffix Text.isBlank).trans (List.drop_suffix _ _)

/-- All statements of a text in order, and what is left when no more is complete. -/
def extractAll (t : Text) : List Text × Text :=
  match _h : extract? t with
  | none => ([], t)
  | some (s, r) =>
    let (more, rest) := extractAll r
    (s :: more, rest)
termination_by t.length
decreasing_by exact length_lt_of_extract? _h

theorem extractAll_of_none {t : Text} (h : extract? t = none) : extractAll t = ([], t) := by
  rw [extractAll]
  split
  · rfl
  · simp_all

theorem extractAll_of_some {t s r : Text} (h : extract? t = some (s, r)) :
    extractAll t = (s :: (extractAll r).1, (extractAll r).2) := by
  rw [extractAll]
  split <;> simp_all

/-- Whether a statement holds nothing but blanks and the semicolons at its end. -/
def isEmpty (t : Text) : Bool := (Text.trim (Text.dropBack terminator (Text.trim t))).isEmpty

end StatementShell.Segment
