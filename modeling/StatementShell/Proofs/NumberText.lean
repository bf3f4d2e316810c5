-- Whole numbers and their text. A number that is written is read as itself, and a number that
-- was read can be written again: the limit on digits is the same in both directions.
import Mathlib.Data.List.Basic
import StatementShell.Number.Integer

namespace StatementShell

namespace Text

/-! ## Digits of ASCII -/

theorem toNat_of_isDigit {c : Char} (h : c.isDigit = true) : 48 ≤ c.toNat ∧ c.toNat ≤ 57 := by
  simp only [Char.isDigit, Bool.and_eq_true, decide_eq_true_eq] at h
  obtain ⟨h1, h2⟩ := h
  rw [ge_iff_le, UInt32.le_iff_toNat_le] at h1
  rw [UInt32.le_iff_toNat_le] at h2
  exact ⟨h1, h2⟩

theorem isBlank_of_isDigit {c : Char} (h : c.isDigit = true) : isBlank c = false := by
  obtain ⟨h1, h2⟩ := toNat_of_isDigit h
  simp only [isBlank, Ranges.has, blankRanges, List.any_cons, List.any_nil, Bool.or_false,
    Bool.or_eq_false_iff, Bool.and_eq_false_iff, decide_eq_false_iff_not]
  omega

theorem digitValue?_of_isDigit {c : Char} (h : c.isDigit = true) :
    digitValue? c = some (c.toNat - 48) := by
  obtain ⟨h1, h2⟩ := toNat_of_isDigit h
  rw [digitValue?, if_pos (by omega), if_pos h]

/-! ## The numeral that digits write -/

theorem digitValue?_le_nine {c : Char} {n : Nat} (h : digitValue? c = some n) : n ≤ 9 := by
  unfold digitValue? at h
  split at h
  · split at h
    next hc =>
      have := toNat_of_isDigit hc
      cases h
      omega
    next => cases h
  · obtain ⟨z, hz, rfl⟩ := Option.map_eq_some_iff.1 h
    have hrow := List.find?_some hz
    simp only [Bool.and_eq_true, decide_eq_true_eq] at hrow
    omega

theorem foldl_digitValue?_lt (t : Text) (n : Nat) :
    t.foldl (fun n c => 10 * n + (digitValue? c).getD 0) n < (n + 1) * Nat.pow 10 t.length := by
  induction t generalizing n with
  | nil => simp
  | cons c r ih =>
    have hc : (digitValue? c).getD 0 ≤ 9 := by
      cases h : digitValue? c with
      | none => simp
      | some k => exact digitValue?_le_nine h
    calc List.foldl _ n (c :: r)
        < (10 * n + (digitValue? c).getD 0 + 1) * Nat.pow 10 r.length := ih _
      _ ≤ (10 * (n + 1)) * Nat.pow 10 r.length := Nat.mul_le_mul_right _ (by omega)
      _ = (n + 1) * Nat.pow 10 (c :: r).length := by
        rw [List.length_cons, Nat.mul_comm 10 (n + 1), Nat.mul_assoc, Nat.mul_comm 10]
        rfl

theorem numeral_lt (t : Text) : numeral t < Nat.pow 10 t.length := by
  simpa [numeral] using foldl_digitValue?_lt t 0

theorem numeral_digits (n : Nat) : numeral (Integer.digits n) = n := by
  have hd : ∀ c ∈ Integer.digits n, c.isDigit = true :=
    fun c hc => Nat.isDigit_of_mem_toDigits (by decide) (by decide) hc
  have hsame : numeral (Integer.digits n) = Nat.ofDigitChars 10 (Integer.digits n) 0 := by
    rw [Nat.ofDigitChars_eq_foldl, numeral]
    refine List.foldl_ext _ _ _ ?_
    intro m c hc
    rw [digitValue?_of_isDigit (hd c hc)]
    rfl
  rw [hsame]
  exact Nat.ofDigitChars_toDigits (by decide) (by decide)

end Text

namespace Integer

theorem isDigit_of_mem_digits {n : Nat} {c : Char} (h : c ∈ digits n) : c.isDigit = true :=
  Nat.isDigit_of_mem_toDigits (by decide) (by decide) h

theorem digits_ne_nil (n : Nat) : digits n ≠ [] := Nat.toDigits_ne_nil

/-! ## Reading what is written -/

theorem ungroup?_of_digits {ds : Text} (hne : ds ≠ [])
    (hds : ∀ c ∈ ds, Text.isDigit c = true) : ungroup? ds = some ds := by
  fun_induction ungroup? ds with
  | case1 => exact absurd rfl hne
  | case2 c hc => rfl
  | case3 c hc => exact absurd (hds c (by simp)) hc
  | case4 c r hc ih => exact absurd (hds '_' (by simp)) (by decide)
  | case5 c r hc => exact absurd (hds c (by simp)) hc
  | case6 c r h1 h2 hc ih =>
    rw [ih h1 (fun d hd => hds d (by simp [hd]))]
    rfl
  | case7 c r h1 h2 hc => exact absurd (hds c (by simp)) hc

theorem readTrimmed_digits {n : Nat} (h : (digits n).length ≤ digitLimit) :
    readTrimmed (digits n) = .ok n ∧ readTrimmed ('-' :: digits n) = .ok (-n) := by
  have hungroup : ungroup? (digits n) = some (digits n) :=
    ungroup?_of_digits (digits_ne_nil n) (fun c hc =>
      Option.isSome_iff_exists.2 ⟨_, Text.digitValue?_of_isDigit (isDigit_of_mem_digits hc)⟩)
  have hof (negative : Bool) : ofDigits negative (digits n) = .ok (if negative then -n else n) := by
    rw [ofDigits, if_neg (by omega), Text.numeral_digits]
  constructor
  · have hfirst (c : Char) (r : Text) (hd : digits n = c :: r) : c ≠ '-' ∧ c ≠ '+' := by
      have hc : c.isDigit = true := isDigit_of_mem_digits (hd ▸ List.mem_cons_self)
      constructor
      · rintro rfl
        exact absurd hc (by decide)
      · rintro rfl
        exact absurd hc (by decide)
    unfold readTrimmed
    split
    next hd =>
      split at hd
      next h' => exact absurd rfl (hfirst _ _ h').1
      next h' => exact absurd rfl (hfirst _ _ h').2
      next =>
        obtain ⟨rfl, rfl⟩ := Prod.mk.inj hd
        rw [hungroup]
        exact hof false
  · simp only [readTrimmed, hungroup]
    exact hof true

theorem write_solid (i : Int) : ∀ c ∈ write i, Text.isBlank c = false := by
  intro c hc
  unfold write at hc
  split at hc
  · rcases List.mem_cons.1 hc with rfl | hc
    · decide
    · exact Text.isBlank_of_isDigit (isDigit_of_mem_digits hc)
  · exact Text.isBlank_of_isDigit (isDigit_of_mem_digits hc)

/-- A number that is written is read as itself. -/
theorem read_of_write? {i : Int} {t : Text} (h : write? i = some t) : read t = .ok i := by
  unfold write? at h
  split at h
  next hlen =>
    cases h
    have htrim : Text.trim (write i) = write i :=
      Text.trim_eq_self (fun c hc => write_solid i c (List.mem_of_mem_head? hc))
        (fun c hc => write_solid i c (List.mem_of_getLast? hc))
    obtain ⟨hpos, hneg⟩ := readTrimmed_digits hlen
    rw [read, htrim, write]
    split
    next hi =>
      rw [hneg]
      congr 1
      omega
    next hi =>
      rw [hpos]
      congr 1
      omega
  next => cases h

theorem write?_eq_none_iff {i : Int} :
    write? i = none ↔ digitLimit < (digits i.natAbs).length := by
  simp [write?]

theorem lt_length_digits_pow {k : Nat} (hk : 0 < k) : k < (digits (Nat.pow 10 k)).length := by
  refine Nat.lt_of_not_le (fun hle => ?_)
  have hsmall := (Nat.length_toDigits_le_iff (by decide) hk).1 hle
  exact Nat.lt_irrefl _ hsmall

theorem length_digits_numeral_le {ds : Text} {k : Nat} (hk : 0 < k) (h : ds.length ≤ k) :
    (digits (Text.numeral ds)).length ≤ k := by
  refine (Nat.length_toDigits_le_iff (by decide) hk).2 ?_
  calc Text.numeral ds < Nat.pow 10 ds.length := Text.numeral_lt ds
    _ ≤ Nat.pow 10 k := Nat.pow_le_pow_right (by decide) h

theorem write?_of_ofDigits {negative : Bool} {ds : Text} {i : Int}
    (h : ofDigits negative ds = .ok i) : ∃ u, write? i = some u := by
  unfold ofDigits at h
  split at h
  next => cases h
  next hlen =>
    have habs : i.natAbs = Text.numeral ds := by
      cases h
      split <;> simp
    have hdigits := length_digits_numeral_le (by decide) (Nat.le_of_not_lt hlen)
    exact ⟨write i, if_pos (habs ▸ hdigits)⟩

/-- A number that was read can be written. -/
theorem write?_of_read {i : Int} {t : Text} (h : read t = .ok i) : ∃ u, write? i = some u := by
  unfold read readTrimmed at h
  split at h
  split at h
  next ds _ => exact write?_of_ofDigits h
  next => cases h

end Integer

end StatementShell
