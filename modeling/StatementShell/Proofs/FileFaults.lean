-- Faults of file operations. A path without the null character always has the right form, so what
-- goes wrong with it is for the files to say; and it keeps that form when the steps that lead
-- nowhere or back are taken out of it.
import StatementShell.Proofs.FileReplacement

namespace StatementShell

namespace Files

/-! ## Paths without detours -/

theorem mem_step {p : Place} {name n : Text} (h : n ∈ step p name) :
    n ∈ p ∨ n = name ∨ n = parentName := by
  unfold step at h
  split at h
  · exact .inl h
  · split at h
    · split at h
      next => exact .inr (.inr (List.mem_singleton.1 h))
      next => exact .inl h
      next m r _ =>
        split at h
        · rcases List.mem_cons.1 h with rfl | h
          · exact .inr (.inr rfl)
          · exact .inl h
        · exact .inl (List.mem_cons_of_mem m h)
    · rcases List.mem_cons.1 h with rfl | h
      · exact .inr (.inl rfl)
      · exact .inl h

theorem mem_foldl_step {names : List Text} {p : Place} {n : Text}
    (h : n ∈ names.foldl step p) : n ∈ p ∨ n ∈ names ∨ n = parentName := by
  induction names generalizing p with
  | nil => exact .inl h
  | cons name names ih =>
    rcases ih h with hp | hn | hn
    · rcases mem_step hp with hp | rfl | hn
      · exact .inl hp
      · exact .inr (.inl List.mem_cons_self)
      · exact .inr (.inr hn)
    · exact .inr (.inl (List.mem_cons_of_mem name hn))
    · exact .inr (.inr hn)

/-- The names on the way that a path names come from the path, but for those of directories above
the working directory. -/
theorem mem_named {path n : Text} (h : n ∈ named path) :
    n = [] ∨ n ∈ Text.pieces '/' path ∨ n = parentName := by
  refine (mem_foldl_step h).imp_left ?_
  intro hn
  unfold start at hn
  split at hn
  · exact List.mem_singleton.1 hn
  · cases hn

theorem mem_pathTo_named {path : Text} {c : Char} (h : c ∈ pathTo (named path)) :
    c = '.' ∨ c = '/' ∨ c ∈ path := by
  unfold pathTo at h
  split at h
  · exact .inl (List.mem_singleton.1 h)
  · rcases Text.mem_joined h with hsep | ⟨n, hn, hc⟩
    · exact .inr (.inl (List.mem_singleton.1 hsep))
    · rcases mem_named (List.mem_reverse.1 hn) with rfl | hn | rfl
      · cases hc
      · exact .inr (.inr (Text.mem_of_mem_pieces hn hc))
      · have hdot : c = '.' := by simpa [parentName] using hc
        exact .inl hdot

theorem hasNull_eq_false_iff {path : Text} : hasNull path = false ↔ '\x00' ∉ path := by
  simp [hasNull]

theorem hasNull_pathTo_named {path : Text} (h : hasNull path = false) :
    hasNull (pathTo (named path)) = false := by
  rw [hasNull_eq_false_iff] at h ⊢
  intro hc
  rcases mem_pathTo_named hc with hdot | hslash | hpath
  · exact absurd hdot (by decide)
  · exact absurd hslash (by decide)
  · exact h hpath

/-! ## Faults -/

variable {fs : Files} {path : Text} {e : FileFault}

theorem isSystem_of_locate (hpath : hasNull path = false) (h : fs.locate path = .error e) :
    e.isSystem = true := by
  unfold locate at h
  rw [hpath, if_neg Bool.false_ne_true] at h
  split at h
  next => cases h
  next =>
    cases h
    rfl

theorem isSystem_of_read (hpath : hasNull path = false) (h : fs.read path = .error e) :
    e.isSystem = true := by
  unfold read at h
  split at h
  next hlocate =>
    cases h
    exact isSystem_of_locate hpath hlocate
  next =>
    split at h
    next => cases h
    next =>
      cases h
      rfl
    next =>
      cases h
      rfl

theorem isSystem_of_writable (hpath : hasNull path = false) (h : fs.writable path = .error e) :
    e.isSystem = true := by
  unfold writable at h
  split at h
  next hlocate =>
    cases h
    exact isSystem_of_locate hpath hlocate
  next =>
    split at h
    next =>
      cases h
      rfl
    next =>
      split at h
      next => cases h
      next =>
        cases h
        rfl
      next => cases h

end Files

end StatementShell
