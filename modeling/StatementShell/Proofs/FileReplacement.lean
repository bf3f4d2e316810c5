-- Replacing files. A new file is written beside the old one and then moved to its place. Neither
-- step makes or takes away a directory, so a path leads after both where it led before them.
import StatementShell.Property.ConfigFile

namespace StatementShell.Files

open Property.Registry (besidePath)

/-! ## The pure model -/

def SameDirectories (fs gs : Files) : Prop :=
  ∀ p, fs.find? p = some .directory ↔ gs.find? p = some .directory

/-- Whether the file at a path can be replaced by a new one that is written beside it. -/
structure Admits (fs : Files) (path : Text) : Prop where
  beside : ∃ p b, fs.writable (besidePath path) = .ok (p, b)
  target : ∃ q, fs.movable path = .ok q

/-! ## Where paths lead -/

theorem isAbove_of_ne_directory {fs : Files} {p : Place} (h : fs.find? p ≠ some .directory) :
    isAbove p = false := by
  rw [← Bool.not_eq_true]
  intro habove
  exact h (by rw [find?, if_pos habove])

theorem locate_eq_ok_iff {fs : Files} {path : Text} {p : Place} :
    fs.locate path = .ok p ↔ hasNull path = false ∧ fs.resolve path = .ok p := by
  unfold locate
  split
  next h => simp [h]
  next h =>
    split
    next q hq => simp [h, hq]
    next e he => simp [he]

theorem writable_eq_ok {fs : Files} {path : Text} {p : Place} {b : Body}
    (h : fs.writable path = .ok (p, b)) :
    hasNull path = false ∧ fs.resolve path = .ok p ∧ fs.find? p ≠ some .directory := by
  unfold writable at h
  split at h
  next => cases h
  next q hq =>
    obtain ⟨hnull, hresolve⟩ := locate_eq_ok_iff.1 hq
    split at h
    next => cases h
    next =>
      split at h
      next c hc =>
        cases h
        exact ⟨hnull, hresolve, by simp [hc]⟩
      next => cases h
      next hnone =>
        cases h
        exact ⟨hnull, hresolve, by simp [hnone]⟩

theorem movable_eq_ok_iff {fs : Files} {path : Text} {q : Place} :
    fs.movable path = .ok q ↔
      fs.resolve path = .ok q ∧
        ¬(lastName path = [] ∨ lastName path = ['.'] ∨ lastName path = parentName) ∧
        ¬endsInSlash path = true ∧ fs.find? q ≠ some .directory := by
  unfold movable
  split
  next e he => simp [he]
  next p hp =>
    dsimp only
    constructor
    · intro h
      split at h
      next => cases h
      next hname =>
        split at h
        next => cases h
        next hslash =>
          split at h
          next => cases h
          next hfree =>
            cases h
            exact ⟨hp, hname, hslash, hfree⟩
    · rintro ⟨hq, hname, hslash, hfree⟩
      obtain rfl : p = q := by simpa [hp] using hq
      rw [if_neg hname, if_neg hslash, if_neg hfree]

namespace SameDirectories

variable {fs gs : Files}

theorem symm (h : SameDirectories fs gs) : SameDirectories gs fs := fun p => (h p).symm

theorem trans {ks : Files} (h : SameDirectories fs gs) (k : SameDirectories gs ks) :
    SameDirectories fs ks := fun p => (h p).trans (k p)

theorem walk (h : SameDirectories fs gs) {p q : Place} {names : List Text}
    (hw : fs.walk p names = .ok q) : gs.walk p names = .ok q := by
  induction names generalizing p with
  | nil => exact hw
  | cons n ns ih =>
    rw [Files.walk] at hw ⊢
    split at hw
    next => cases hw
    next => cases hw
    next hp =>
      rw [(h p).1 hp]
      dsimp only
      split at hw
      next => cases hw
      next hshort =>
        rw [if_neg hshort]
        exact ih hw

theorem resolve (h : SameDirectories fs gs) {path : Text} {p : Place}
    (hr : fs.resolve path = .ok p) : gs.resolve path = .ok p := by
  unfold Files.resolve at hr ⊢
  split at hr
  next => cases hr
  next hne =>
    rw [if_neg hne]
    split at hr
    next => cases hr
    next hshort =>
      rw [if_neg hshort]
      exact h.walk hr

theorem movable (h : SameDirectories fs gs) {path : Text} {q : Place}
    (hm : fs.movable path = .ok q) : gs.movable path = .ok q := by
  obtain ⟨hq, hname, hslash, hfree⟩ := movable_eq_ok_iff.1 hm
  exact movable_eq_ok_iff.2 ⟨h.resolve hq, hname, hslash, fun hd => hfree ((h q).2 hd)⟩

end SameDirectories

theorem sameDirectories_put {fs : Files} {p : Place} (h : fs.find? p ≠ some .directory)
    (b : Body) : SameDirectories fs (fs.put p (.file b)) := by
  intro q
  by_cases hq : q = p
  · rw [hq, find?_put_self (isAbove_of_ne_directory h)]
    simp [h]
  · rw [find?_put_of_ne hq]

theorem sameDirectories_erase {fs : Files} {p : Place} (h : fs.find? p ≠ some .directory) :
    SameDirectories fs (fs.erase p) := by
  intro q
  by_cases hq : q = p
  · rw [hq, find?_erase_self (isAbove_of_ne_directory h)]
    simp [h]
  · rw [find?_erase_of_ne hq]

/-! ## Replacing a file -/

theorem write_eq_ok_iff {fs gs : Files} {path : Text} {t : Body} :
    fs.write path t = .ok gs ↔
      ∃ p b, fs.writable path = .ok (p, b) ∧ gs = fs.put p (.file t) := by
  unfold write
  cases h : fs.writable path with
  | error e => simp [Except.map]
  | ok x => simp [Except.map, eq_comm, Prod.ext_iff]

/-- The new file beside the old one can be moved to its place, and is found there. -/
theorem Admits.rename {fs : Files} {path : Text} (h : fs.Admits path) (t : Body) :
    ∃ written after, fs.write (besidePath path) t = .ok written ∧
      written.rename (besidePath path) path = .ok after ∧ after.read path = .ok t := by
  obtain ⟨⟨p, b, hbeside⟩, q, htarget⟩ := h
  obtain ⟨hnull, hp, hfree⟩ := writable_eq_ok hbeside
  have hwritten := sameDirectories_put hfree t
  have hfile : (fs.put p (.file t)).find? p = some (.file t) :=
    find?_put_self (isAbove_of_ne_directory hfree) fs _
  have hmovable := hwritten.movable htarget
  obtain ⟨hq, -, -, hopen⟩ := movable_eq_ok_iff.1 hmovable
  have herased : SameDirectories (fs.put p (.file t)) ((fs.put p (.file t)).erase p) :=
    sameDirectories_erase (by simp [hfile])
  have hopen' : ((fs.put p (.file t)).erase p).find? q ≠ some .directory :=
    fun hd => hopen ((herased q).2 hd)
  have hmoved := herased.trans (sameDirectories_put hopen' t)
  have hpath : hasNull path = false := by
    simpa [hasNull, besidePath] using hnull
  refine ⟨_, ((fs.put p (.file t)).erase p).put q (.file t),
    write_eq_ok_iff.2 ⟨p, b, hbeside, rfl⟩, ?_, ?_⟩
  · rw [Files.rename, locate_eq_ok_iff.2 ⟨hnull, hwritten.resolve hp⟩]
    dsimp only
    rw [hfile, hmovable]
  · rw [read, locate_eq_ok_iff.2 ⟨hpath, hmoved.resolve hq⟩]
    dsimp only
    rw [find?_put_self (isAbove_of_ne_directory hopen')]

theorem admits_of_rename {fs written after : Files} {path : Text} {t : Body}
    (hw : fs.write (besidePath path) t = .ok written)
    (hr : written.rename (besidePath path) path = .ok after) : fs.Admits path := by
  obtain ⟨p, b, hbeside, rfl⟩ := write_eq_ok_iff.1 hw
  refine ⟨⟨p, b, hbeside⟩, ?_⟩
  have hback := (sameDirectories_put (writable_eq_ok hbeside).2.2 t).symm
  unfold rename at hr
  split at hr
  next => cases hr
  next =>
    split at hr
    next _ q _ hq => exact ⟨q, hback.movable hq⟩
    all_goals cases hr

end StatementShell.Files
