-- Saving in one step. The old file gives way to a new one that was written beside it, and whatever
-- fails before that leaves it alone: a property without a value, the new file that cannot be opened
-- or is not written to its end, the old one that cannot be replaced.
import StatementShell.Proofs.FileReplacement
import StatementShell.Proofs.SavedProperties

namespace StatementShell

namespace Text

/-! ## The last piece of a text -/

/-- What is put at the end of a text is put at the end of its last piece. -/
theorem pieces_append {sep : Char} {t u l : Text} {init : List Text}
    (h : pieces sep t = init ++ [l]) (hu : sep ∉ u) : pieces sep (t ++ u) = init ++ [l ++ u] := by
  have hpiece : ∀ p ∈ init ++ [l], sep ∉ p := fun p hp => notMem_of_mem_pieces (h ▸ hp)
  have hall : ∀ p ∈ init ++ [l ++ u], sep ∉ p := by
    simp only [List.forall_mem_append, List.forall_mem_singleton] at hpiece ⊢
    refine ⟨hpiece.1, ?_⟩
    rw [List.mem_append, not_or]
    exact ⟨hpiece.2, hu⟩
  have hjoined : joined [sep] (init ++ [l ++ u]) = t ++ u := by
    have ht := joined_pieces sep t
    rw [h] at ht
    by_cases hinit : init = []
    · simpa [hinit, joined] using congrArg (· ++ u) ht
    · rw [joined_concat _ hinit] at ht ⊢
      rw [← ht, List.append_assoc _ l u]
  rw [← hjoined, pieces_joined (by simp) hall]

theorem dropBack_eq_self {c : Char} {t : Text} (h : t.getLast? ≠ some c) : dropBack c t = t := by
  have hrev : t.reverse.dropWhile (· == c) = t.reverse := by
    cases hr : t.reverse with
    | nil => rfl
    | cons d r =>
      have hd : d ≠ c := by
        rintro rfl
        exact h (by rw [← List.head?_reverse, hr]; rfl)
      simp [hd]
  rw [dropBack, hrev, List.reverse_reverse]

end Text

namespace Files

open Property.Registry (besidePath)

/-! ## The pure model -/

/-- What stands at all places but the one of a path, if it has one, is the same. -/
def SameBeside (path : Text) (fs gs : Files) : Prop :=
  ∀ p, fs.locate path ≠ .ok p → gs.find? p = fs.find? p

/-! ## The two places -/

/-- The first step of a way hangs on its own name alone. -/
theorem walk_cons {fs : Files} {p q : Place} {n : Text} {names : List Text}
    (h : fs.walk p (n :: names) = .ok q) :
    fs.walk (step p n) names = .ok q ∧
      ∀ others, fs.walk p (n :: others) = fs.walk (step p n) others := by
  unfold walk at h
  cases hp : fs.find? p with
  | none => simp [hp] at h
  | some e =>
    cases e with
    | file b => simp [hp] at h
    | directory =>
      simp only [hp] at h
      split at h
      next => cases h
      next hshort =>
        refine ⟨h, ?_⟩
        intro others
        rw [walk, hp]
        exact if_neg hshort

theorem walk_concat {fs : Files} {p q : Place} {names : List Text} {n : Text}
    (h : fs.walk p (names ++ [n]) = .ok q) : ∃ r, fs.walk p names = .ok r ∧ q = step r n := by
  induction names generalizing p with
  | nil =>
    obtain ⟨hlast, -⟩ := walk_cons h
    cases hlast
    exact ⟨p, rfl, rfl⟩
  | cons m ms ih =>
    obtain ⟨hrest, hstep⟩ := walk_cons h
    rw [hstep]
    exact ih hrest

theorem walk_of_resolve {fs : Files} {path : Text} {p : Place} (h : fs.resolve path = .ok p) :
    path ≠ [] ∧ fs.walk (start path) (Text.pieces '/' path) = .ok p := by
  unfold resolve at h
  split at h
  next => cases h
  next hne =>
    split at h
    next => cases h
    next => exact ⟨by simpa using hne, h⟩

/-- The new file beside a file that can be replaced never is that file itself. -/
theorem ne_of_beside {fs gs : Files} {path : Text} {p q : Place}
    (hsame : SameDirectories fs gs) (hp : fs.resolve (besidePath path) = .ok p)
    (hq : gs.movable path = .ok q) : p ≠ q := by
  obtain ⟨hresolve, hname, hslash, -⟩ := movable_eq_ok_iff.1 (hsame.symm.movable hq)
  obtain ⟨hne, hwalk⟩ := walk_of_resolve hresolve
  obtain ⟨-, hbeside⟩ := walk_of_resolve hp
  have hstart : start (besidePath path) = start path := by
    cases path with
    | nil => exact absurd rfl hne
    | cons c r => rfl
  obtain hnil | ⟨init, l, hpieces⟩ := List.eq_nil_or_concat' (Text.pieces '/' path)
  · exact absurd hnil (Text.pieces_ne_nil _ _)
  have hlast : lastName path = l := by
    rw [lastName, Text.dropBack_eq_self (by simpa [endsInSlash] using hslash), hpieces]
    simp
  rw [hlast] at hname
  rw [hstart, besidePath, Text.pieces_append hpieces (by decide)] at hbeside
  rw [hpieces] at hwalk
  -- both paths lead through the same directories to the last step
  obtain ⟨r, hr, rfl⟩ := walk_concat hwalk
  obtain ⟨s, hs, rfl⟩ := walk_concat hbeside
  obtain rfl : r = s := Except.ok.inj (hr.symm.trans hs)
  have hnamed {n : Text} (hn : ¬(n = [] ∨ n = ['.'] ∨ n = parentName)) : step r n = n :: r := by
    rw [not_or, not_or] at hn
    unfold step
    rw [if_neg (not_or.2 ⟨hn.1, hn.2.1⟩), if_neg hn.2.2]
  have hlong : ¬(l ++ ".tmp".toList = [] ∨ l ++ ".tmp".toList = ['.'] ∨
      l ++ ".tmp".toList = parentName) := by
    rintro (h | h | h) <;>
    · have := congrArg List.length h
      simp [parentName] at this
  rw [hnamed hname, hnamed hlong]
  intro h
  have := congrArg List.length (List.cons.inj h).1
  simp at this

/-! ## What the operations leave alone -/

theorem sameBeside_refl (path : Text) (fs : Files) : SameBeside path fs fs := fun _ _ => rfl

theorem sameBeside_write {fs gs : Files} {path : Text} {b : Body}
    (h : fs.write path b = .ok gs) : SameBeside path fs gs := by
  obtain ⟨p, c, hwritable, rfl⟩ := write_eq_ok_iff.1 h
  obtain ⟨hnull, hp, -⟩ := writable_eq_ok hwritable
  intro q hq
  refine find?_put_of_ne ?_ fs _
  rintro rfl
  exact hq (locate_eq_ok_iff.2 ⟨hnull, hp⟩)

theorem rename_eq_ok {fs gs : Files} {path target : Text} (h : fs.rename path target = .ok gs) :
    ∃ p q b, fs.locate path = .ok p ∧ fs.find? p = some (.file b) ∧ fs.movable target = .ok q ∧
      gs = (fs.erase p).put q (.file b) := by
  unfold rename at h
  split at h
  next => cases h
  next p hp =>
    split at h
    next b q hb hq =>
      cases h
      exact ⟨p, q, b, hp, hb, hq, rfl⟩
    all_goals cases h

/-- After a file was replaced, the new one is gone from beside it, and all else is as it was. -/
theorem replaced {fs written after : Files} {path : Text} {t : Body}
    (hw : fs.write (besidePath path) t = .ok written)
    (hr : written.rename (besidePath path) path = .ok after) :
    after.holds (besidePath path) = false ∧
      ∀ p, fs.locate path ≠ .ok p → fs.locate (besidePath path) ≠ .ok p →
        after.find? p = fs.find? p := by
  obtain ⟨p, b, hwritable, rfl⟩ := write_eq_ok_iff.1 hw
  obtain ⟨hnull, hp, hfree⟩ := writable_eq_ok hwritable
  have hwritten := sameDirectories_put hfree t
  obtain ⟨p', q, c, hp', hc, hq, rfl⟩ := rename_eq_ok hr
  have hbeside : (fs.put p (.file t)).locate (besidePath path) = .ok p :=
    locate_eq_ok_iff.2 ⟨hnull, hwritten.resolve hp⟩
  obtain rfl : p = p' := Except.ok.inj (hbeside.symm.trans hp')
  have hne : p ≠ q := ne_of_beside hwritten hp hq
  obtain ⟨hq', -, -, hopen⟩ := movable_eq_ok_iff.1 hq
  have herased : SameDirectories (fs.put p (.file t)) ((fs.put p (.file t)).erase p) :=
    sameDirectories_erase (by simp [hc])
  have hafter := herased.trans (sameDirectories_put (fun hd => hopen ((herased q).2 hd)) c)
  refine ⟨?_, ?_⟩
  · have hthere := locate_eq_ok_iff.2 ⟨hnull, hafter.resolve (hwritten.resolve hp)⟩
    rw [holds, hthere]
    dsimp only
    rw [find?_put_of_ne hne, find?_erase_self (isAbove_of_ne_directory hfree)]
    rfl
  · intro r hpath hside
    have hrq : r ≠ q := by
      rintro rfl
      have hnull' : hasNull path = false := by simpa [hasNull, besidePath] using hnull
      exact hpath (locate_eq_ok_iff.2 ⟨hnull', hwritten.symm.resolve hq'⟩)
    have hrp : r ≠ p := by
      rintro rfl
      exact hside (locate_eq_ok_iff.2 ⟨hnull, hp⟩)
    rw [find?_put_of_ne hrq, find?_erase_of_ne hrp, find?_put_of_ne hrp]

end Files

namespace Property.Registry

/-! ## Saving step by step -/

/-- How the writing of the new file goes once it is open: to its end, or it stops with something
else in the file. -/
inductive Writing
  | completes
  | stops (written : Body) (fault : Failure)

/-- What is there after a registry was saved. -/
structure Saving where
  registry : Registry
  files : Files
  outcome : Except Failure Unit

/-- How a new file for options is written. -/
def Writing.write : Writing → List (Text × Stored) → Draft
  | .completes => draft
  | .stops written fault => fun _ => ⟨written, some fault⟩

/-- A save whose writing may stop. -/
def saving (g : Registry) (fs : Files) (path : Text) (w : Writing) : Saving :=
  let (files, outcome) := g.saveWith w.write fs path
  ⟨g, files, outcome⟩

/-- What the file has for a value, if UTF-8 can write it. -/
def itemOf (p : Text × Value) : Except Failure Ini.Item := (optionOf p).bind encode

/-- The text of a file for all properties. -/
def document (g : Registry) : Except Failure Text :=
  match g.values with
  | .error e => .error e
  | .ok vs => (vs.mapM itemOf).map (Ini.write sectionName)

variable {g : Registry} {fs : Files} {path : Text}

theorem document_eq_ok_iff {t : Text} :
    g.document = .ok t ↔ ∃ vs items, g.values = .ok vs ∧ vs.mapM itemOf = .ok items ∧
      t = Ini.write sectionName items := by
  unfold document
  cases g.values with
  | error e => simp
  | ok vs =>
    dsimp only
    rw [map_eq_ok_iff]
    simp [eq_comm]

/-- There is a text for the file exactly if the writing of all options is not stopped, and then it
is what is written. -/
theorem document_eq_ok_iff_draft {t : Text} :
    g.document = .ok t ↔ ∃ os, g.options = .ok os ∧ draft os = ⟨.text t, none⟩ := by
  unfold document options
  cases g.values with
  | error e => simp
  | ok vs =>
    dsimp only
    rw [map_eq_ok_iff]
    constructor
    · rintro ⟨items, hitems, rfl⟩
      obtain ⟨os, hos, hencode⟩ := mapM_bind_eq_ok_iff.1 hitems
      exact ⟨os, hos, draft_of_encode hencode⟩
    · rintro ⟨os, hos, hdraft⟩
      cases hencode : os.mapM encode with
      | error e =>
        have hfault := fault_draft_of_encode hencode
        rw [hdraft] at hfault
        cases hfault
      | ok items =>
        rw [draft_of_encode hencode] at hdraft
        cases hdraft
        exact ⟨items, mapM_bind_eq_ok_iff.2 ⟨os, hos, hencode⟩, rfl⟩

/-! ## Replacing a file -/

/-- A file that is not replaced has nothing new but what is beside it, and one that can be replaced
and whose writing is not stopped is replaced. -/
theorem replace_cases (fs : Files) (path : Text) (d : Draft) :
    (∃ written after, d.fault = none ∧ fs.write (besidePath path) d.body = .ok written ∧
      written.rename (besidePath path) path = .ok after ∧
      replace fs path d = (after, .ok ())) ∨
    ∃ after e, replace fs path d = (after, .error e) ∧
      Files.SameBeside (besidePath path) fs after ∧ ¬(d.fault = none ∧ fs.Admits path) := by
  cases hw : fs.write (besidePath path) d.body with
  | error e =>
    refine .inr ⟨fs, .file e, by simp only [replace, hw], Files.sameBeside_refl _ fs, ?_⟩
    rintro ⟨-, hadmits⟩
    obtain ⟨written, _, hwritten, -⟩ := hadmits.rename d.body
    cases hw.symm.trans hwritten
  | ok written =>
    have hsame := Files.sameBeside_write hw
    cases hf : d.fault with
    | some f => exact .inr ⟨written, f, by simp only [replace, hw, hf], hsame, by simp⟩
    | none =>
      cases hr : written.rename (besidePath path) path with
      | error e =>
        refine .inr ⟨written, .file e, by simp only [replace, hw, hf, hr], hsame, ?_⟩
        rintro ⟨-, hadmits⟩
        obtain ⟨other, after, hother, hrename, -⟩ := hadmits.rename d.body
        cases hw.symm.trans hother
        cases hr.symm.trans hrename
      | ok after =>
        exact .inl ⟨written, after, rfl, rfl, hr, by simp only [replace, hw, hf, hr]⟩

/-- A save that fails has written nothing but the new file, and one that goes to its end, finds a
text for the file and room for it does not fail. -/
theorem saving_cases (g : Registry) (fs : Files) (path : Text) (w : Writing) :
    (∃ t written after, w = .completes ∧ g.document = .ok t ∧
      fs.write (besidePath path) (.text t) = .ok written ∧
      written.rename (besidePath path) path = .ok after ∧
      g.saving fs path w = ⟨g, after, .ok ()⟩) ∨
    ∃ after e, g.saving fs path w = ⟨g, after, .error e⟩ ∧
      Files.SameBeside (besidePath path) fs after ∧
      ¬(w = .completes ∧ (∃ t, g.document = .ok t) ∧ fs.Admits path) := by
  cases hos : g.options with
  | error e =>
    refine .inr ⟨fs, e, by simp only [saving, saveWith, hos], Files.sameBeside_refl _ fs, ?_⟩
    rintro ⟨-, ⟨t, ht⟩, -⟩
    obtain ⟨os, hoptions, -⟩ := document_eq_ok_iff_draft.1 ht
    cases hos.symm.trans hoptions
  | ok os =>
    have hsaving : g.saving fs path w =
        ⟨g, (replace fs path (w.write os)).1, (replace fs path (w.write os)).2⟩ := by
      simp only [saving, saveWith, hos]
    rw [hsaving]
    rcases replace_cases fs path (w.write os) with ⟨written, after, hfault, hw, hr, hreplace⟩ |
      ⟨after, e, hreplace, hsame, hnot⟩
    · rw [hreplace]
      cases w with
      | stops => cases hfault
      | completes =>
        obtain ⟨t, hdraft⟩ : ∃ t, draft os = ⟨.text t, none⟩ :=
          ⟨_, congrArg (Draft.mk (draft os).body) hfault⟩
        rw [Writing.write, hdraft] at hw
        exact .inl ⟨t, written, after, rfl, document_eq_ok_iff_draft.2 ⟨os, hos, hdraft⟩, hw, hr,
          rfl⟩
    · rw [hreplace]
      refine .inr ⟨after, e, rfl, hsame, ?_⟩
      rintro ⟨rfl, ⟨t, ht⟩, hadmits⟩
      obtain ⟨os', hoptions, hdraft⟩ := document_eq_ok_iff_draft.1 ht
      cases hos.symm.trans hoptions
      exact hnot ⟨congrArg Draft.fault hdraft, hadmits⟩

/-! ## The law of saving -/

/-- A save succeeds exactly if every property has a value that UTF-8 can write, the writing goes to
its end and the file can be replaced. Then the file holds the text of all values, and nothing is
left beside it. A save that fails leaves everything but the new file as it was, the old file
included; and none changes the registry. -/
theorem saves_replace_the_file_or_leave_it (g : Registry) (fs : Files) (path : Text) (w : Writing) :
    let s := g.saving fs path w
    s.registry = g ∧ (w = .completes → g.save fs path = (s.files, s.outcome)) ∧
    (s.outcome = .ok () ↔ w = .completes ∧ (∃ t, g.document = .ok t) ∧ fs.Admits path) ∧
    (s.outcome = .ok () → ∃ vs items, g.values = .ok vs ∧ vs.mapM itemOf = .ok items ∧
      s.files.read path = .ok (.text (Ini.write sectionName items)) ∧
      s.files.holds (besidePath path) = false ∧
      ∀ p, fs.locate path ≠ .ok p → fs.locate (besidePath path) ≠ .ok p →
        s.files.find? p = fs.find? p) ∧
    ∀ e, s.outcome = .error e → Files.SameBeside (besidePath path) fs s.files := by
  intro s
  have hsave : w = .completes → g.save fs path = (s.files, s.outcome) := by
    rintro rfl
    rfl
  refine ⟨rfl, hsave, ?_⟩
  rcases saving_cases g fs path w with ⟨t, written, after, hw, ht, hwrite, hrename, hs⟩ |
    ⟨after, e, hs, hsame, hnot⟩
  · obtain ⟨vs, items, hvs, hitems, rfl⟩ := document_eq_ok_iff.1 ht
    have hadmits := Files.admits_of_rename hwrite hrename
    obtain ⟨written', after', hwrite', hrename', hread⟩ :=
      hadmits.rename (.text (Ini.write sectionName items))
    cases hwrite.symm.trans hwrite'
    cases hrename.symm.trans hrename'
    rw [show s = _ from hs]
    exact ⟨iff_of_true rfl ⟨hw, ⟨_, ht⟩, hadmits⟩,
      fun _ => ⟨vs, items, hvs, hitems, hread, Files.replaced hwrite hrename⟩, nofun⟩
  · rw [show s = _ from hs]
    exact ⟨iff_of_false nofun hnot, nofun, fun _ _ => hsame⟩

/-- An old file, the rest of an earlier save beside it, and a directory. -/
def deskFiles : Files := ⟨[
  (["shell.ini".toList], .file (.text "old")),
  (["shell.ini.tmp".toList], .file (.text "rest")),
  (["log".toList], .directory)]⟩

/-- The sample is saved; it is not saved where the writing stops, where the size has become a text
that is no number, and to the place of the directory. -/
theorem sample_is_saved_or_not :
    let size : Registry := (sample "x").store "size" "broken"
    let stop : Writing := .stops (.text "[qs") (.foreign "OSError" "No space left on device")
    ((sample "x").saving deskFiles "shell.ini" .completes).files.read "shell.ini" =
      .ok (.text "[qshell]\nmode = dark\nnote = x\nsize = 7\n\n") ∧
    ((sample "x").saving deskFiles "shell.ini" stop).files.find? ["shell.ini".toList] =
      some (.file (.text "old")) ∧
    (size.saving deskFiles "shell.ini" .completes).outcome =
      .error (.property (.notInteger "size")) ∧
    (size.saving deskFiles "shell.ini" .completes).files.find? ["shell.ini".toList] =
      some (.file (.text "old")) ∧
    ((sample "x").saving deskFiles "log" .completes).files.find? ["log".toList] =
      some .directory := by
  intro size stop
  have hplace : deskFiles.locate (besidePath "shell.ini") ≠ .ok ["shell.ini".toList] := by
    rw [show deskFiles.locate (besidePath "shell.ini") = .ok ["shell.ini.tmp".toList] from rfl]
    decide
  have hdirectory : deskFiles.locate (besidePath "log") ≠ .ok ["log".toList] := by
    rw [show deskFiles.locate (besidePath "log") = .ok ["log.tmp".toList] from rfl]
    decide
  have hold : deskFiles.find? ["shell.ini".toList] = some (.file (.text "old")) := rfl
  refine ⟨?_, ?_, rfl, ?_, ?_⟩
  · obtain ⟨-, -, -, hsaved, -⟩ :=
      saves_replace_the_file_or_leave_it (sample "x") deskFiles "shell.ini" .completes
    obtain ⟨vs, items, hvs, hitems, hread, -⟩ := hsaved rfl
    cases hvs
    cases hitems
    exact hread
  · exact ((saves_replace_the_file_or_leave_it (sample "x") deskFiles "shell.ini" stop).2.2.2.2
      _ rfl _ hplace).trans hold
  · exact ((saves_replace_the_file_or_leave_it size deskFiles "shell.ini" .completes).2.2.2.2
      _ rfl _ hplace).trans hold
  · exact (saves_replace_the_file_or_leave_it (sample "x") deskFiles "log" .completes).2.2.2.2
      _ rfl _ hdirectory

end Property.Registry

end StatementShell
