-- A session over a text that is one statement. The text is split into lines, each line is stripped
-- of its terminator and gets a line feed back, and the lines are put together in the buffer. The
-- statement is handed over once, as it was written, whatever stands inside its quotes.
import Mathlib.Data.List.Chain
import StatementShell.Proofs.PropertyWrites
import StatementShell.Proofs.QuoteScan
import StatementShell.Proofs.SessionCourse
import StatementShell.Proofs.SettledText

namespace StatementShell

/-! ## Lines -/

namespace Text

/-- No carriage return stands directly before a line feed. -/
def ReturnFree (t : Text) : Prop := t.IsChain (fun c d => ¬ (c = '\r' ∧ d = '\n'))

theorem ReturnFree.append {s t : Text} (hs : ReturnFree s) (ht : ReturnFree t)
    (h : s.getLast? ≠ some '\r' ∨ t.head? ≠ some '\n') : ReturnFree (s ++ t) := by
  refine List.isChain_append.2 ⟨hs, ht, ?_⟩
  rintro c hc d hd ⟨rfl, rfl⟩
  rcases h with h | h
  · exact h hc
  · exact h hd

theorem stripTerminator_feed {b : Text} (h : ReturnFree (b ++ ['\n'])) :
    stripTerminator (b ++ ['\n']) = b := by
  have hlast : b.getLast? ≠ some '\r' := by
    intro hr
    exact (List.isChain_append.1 h).2.2 '\r' hr '\n' rfl ⟨rfl, rfl⟩
  rw [stripTerminator, dropLast?, dropLast?]
  simp [hlast]

/-- A text is some lines that end, and one that does not. -/
theorem exists_bodies (t : Text) :
    ∃ (bs : List Text) (last : Text), (∀ b ∈ bs, '\n' ∉ b) ∧ '\n' ∉ last ∧
      t = (bs.map (· ++ ['\n'])).flatten ++ last := by
  induction t with
  | nil => exact ⟨[], [], by simp, by simp, rfl⟩
  | cons c t ih =>
    obtain ⟨bs, last, hbs, hlast, rfl⟩ := ih
    by_cases hc : c = '\n'
    · refine ⟨[] :: bs, last, ?_, hlast, by simp [hc]⟩
      exact List.forall_mem_cons.2 ⟨by simp, hbs⟩
    · have hnot {b : Text} (hb : '\n' ∉ b) : '\n' ∉ c :: b :=
        List.not_mem_cons_of_ne_of_not_mem (Ne.symm hc) hb
      cases bs with
      | nil => exact ⟨[], c :: last, by simp, hnot hlast, by simp⟩
      | cons b bs =>
        obtain ⟨hb, hbs⟩ := List.forall_mem_cons.1 hbs
        exact ⟨(c :: b) :: bs, last, List.forall_mem_cons.2 ⟨hnot hb, hbs⟩, hlast, by simp⟩

/-- A reader of lines strips off nothing but the line feeds. -/
theorem readings_eq {bs : List Text} (hbs : ∀ b ∈ bs, '\n' ∉ b)
    (h : ReturnFree (bs.map (· ++ ['\n'])).flatten) :
    (lines (bs.map (· ++ ['\n'])).flatten).map Reading.ofLine = bs.map Reading.line := by
  have hlines := lines_flatten_append hbs []
  rw [List.append_nil, lines, List.append_nil] at hlines
  rw [hlines, List.map_map]
  apply List.map_congr_left
  intro b hb
  have hin : b ++ ['\n'] <:+: (bs.map (· ++ ['\n'])).flatten :=
    List.infix_of_mem_flatten (List.mem_map_of_mem hb)
  have hchain : ReturnFree (b ++ ['\n']) := List.IsChain.infix h hin
  exact congrArg Reading.line (stripTerminator_feed hchain)

end Text

namespace Segment

/-- A neutral text and a semicolon are one statement. -/
theorem Neutral.extract?_feed {u : Text} (hu : Neutral u) :
    extract? (u ++ [terminator] ++ ['\n']) = some (u ++ [terminator], []) := by
  have hplace : terminator? (u ++ [terminator]) = some u.length := by
    have h := hu.terminator?_behind [terminator]
    simpa [terminator?, terminatorFrom?] using h
  have hall : u.length + 1 = (u ++ [terminator]).length := by simp
  rw [extract?_append hplace, hall, List.take_length, List.drop_length]
  rfl

end Segment

/-- The readings of a statement are its lines, without their line feeds. -/
theorem LineSource.readings_ofText {u last : Text} {bs : List Text} (hbs : ∀ b ∈ bs, '\n' ∉ b)
    (hlast : '\n' ∉ last) (hu : u = (bs.map (· ++ ['\n'])).flatten ++ last)
    (hreturn : Text.ReturnFree u) (interactive : Bool) :
    (ofText (u ++ [Segment.terminator] ++ ['\n']) interactive).readings =
      bs.map .line ++ [.line (last ++ [Segment.terminator])] := by
  have htext : u ++ [Segment.terminator] ++ ['\n'] =
      ((bs ++ [last ++ [Segment.terminator]]).map (· ++ ['\n'])).flatten := by
    simp [hu]
  have hfree : ∀ b ∈ bs ++ [last ++ [Segment.terminator]], '\n' ∉ b := by
    intro b hb
    rcases List.mem_append.1 hb with hb | hb
    · exact hbs b hb
    · rw [List.mem_singleton.1 hb]
      simpa [Segment.terminator] using hlast
  have hchain : Text.ReturnFree (u ++ [Segment.terminator] ++ ['\n']) := by
    have hterminator : Text.ReturnFree (u ++ [Segment.terminator]) :=
      hreturn.append (List.isChain_singleton _) (.inr (by decide))
    exact hterminator.append (List.isChain_singleton _) (.inl (by simp [Segment.terminator]))
  rw [ofText, htext, Text.readings_eq hfree (htext ▸ hchain), List.map_append]
  rfl

/-! ## Passes -/

namespace Client

open Event (handled)

variable {σ : Type} (c : Client σ)

/-- Every prompt of a session with this handler can be shown. -/
def AlwaysShows (h : σ) (consoleAttached : Bool) : Prop :=
  ∀ s : Session, s.consoleAttached = consoleAttached → ∃ shown, c.beforeRead h s = .ok shown

variable {c}

/-- Lines that complete no statement are collected, and nothing else happens. -/
theorem loop_of_incomplete {h : σ} {a : Bool} (hshow : c.AlwaysShows h a) {ls : List Text}
    {s : Session} (hs : s.consoleAttached = a)
    (hnone : Segment.terminator? (s.buffer.text ++ (ls.map (· ++ ['\n'])).flatten) = none)
    (rs : List Reading) :
    ∃ k es, k.consoleAttached = a ∧
      k.buffer.text = s.buffer.text ++ (ls.map (· ++ ['\n'])).flatten ∧ handled es = [] ∧
      c.loop h s (ls.map .line ++ rs) = (c.loop h k rs).after es := by
  induction ls generalizing s with
  | nil => exact ⟨s, [], hs, by simp, rfl, rfl⟩
  | cons l ls ih =>
    obtain ⟨shown, hshown⟩ := hshow s hs
    rw [List.map_cons, List.flatten_cons, ← List.append_assoc] at hnone
    have hline : Segment.terminator? (s.buffer.text ++ (l ++ ['\n'])) = none :=
      Segment.terminator?_of_append hnone
    let b : InputBuffer := ⟨s.buffer.text ++ (l ++ ['\n'])⟩
    have hrun : c.runBuffer h (s.buffer.append (l ++ ['\n'])) = ([], h, .waits b) := by
      refine c.runBuffer_of_none ?_
      rw [InputBuffer.extract?, InputBuffer.append, Segment.extract?_eq_none_iff.2 hline]
      rfl
    have hpass : c.pass h s (.line l) = ⟨shown ++ [.read s.buffer.text s.phase], h,
        { s with buffer := b, phase := phaseFor b }, none⟩ := by
      simp only [pass, hshown, afterRead, hrun]
    obtain ⟨k, es, hk, htext, hes, hloop⟩ := ih
      (s := { s with buffer := b, phase := phaseFor b }) hs hnone
    refine ⟨k, shown ++ [.read s.buffer.text s.phase] ++ es, hk, ?_, ?_, ?_⟩
    · rw [htext, List.map_cons, List.flatten_cons, ← List.append_assoc]
    · rw [handled_append, handled_append, handled_of_course (c.course_beforeRead hshown), hes]
      rfl
    · rw [List.map_cons, List.cons_append, c.loop_of_goesOn (by rw [hpass]), hpass, hloop]
      simp [Run.after]

/-- The line that completes a statement hands it over, with all that was collected before it. Then
the buffer is empty, and the end of the input ends the session. -/
theorem loop_of_completed {h : σ} {a : Bool} (hshow : c.AlwaysShows h a) {s : Session}
    (hs : s.consoleAttached = a) {l t : Text} (htext : s.buffer.text ++ l = t)
    (ht : Segment.extract? (t ++ ['\n']) = some (t, []))
    (ho : (c.tried ⟨h, t⟩).outcome = .ok false)
    (hnext : c.AlwaysShows (c.tried ⟨h, t⟩).state a) :
    (c.loop h s [.line l]).ending = .returned ∧
      (c.loop h s [.line l]).handler = (c.tried ⟨h, t⟩).state ∧
      handled (c.loop h s [.line l]).events = handled (c.tried ⟨h, t⟩).events := by
  obtain ⟨shown, hshown⟩ := hshow s hs
  have hextract : (s.buffer.append (l ++ ['\n'])).extract? = some (t, .empty) := by
    rw [InputBuffer.extract?, InputBuffer.append, ← List.append_assoc, htext, ht]
    rfl
  have hrun : c.runBuffer h (s.buffer.append (l ++ ['\n'])) =
      ((c.tried ⟨h, t⟩).events, (c.tried ⟨h, t⟩).state, .waits .empty) := by
    have htried : c.dispatch h t = c.tried ⟨h, t⟩ := rfl
    rw [c.runBuffer_of_some hextract, htried, ho]
    dsimp only
    rw [c.runBuffer_of_none (b := .empty) rfl, List.append_nil]
  let k : Session := { s with buffer := .empty, phase := phaseFor .empty }
  have hpass : c.pass h s (.line l) =
      ⟨shown ++ .read s.buffer.text s.phase :: (c.tried ⟨h, t⟩).events, (c.tried ⟨h, t⟩).state, k,
        none⟩ := by
    simp only [pass, hshown, afterRead, hrun, k]
  obtain ⟨last, hlast⟩ := hnext k hs
  have hend : c.loop (c.tried ⟨h, t⟩).state k [] =
      ⟨last ++ [.read [] .awaitingInput], (c.tried ⟨h, t⟩).state, close k, [], .returned⟩ := by
    rw [loop, pass, hlast]
    rfl
  rw [c.loop_of_goesOn (by rw [hpass]), hpass, hend]
  refine ⟨rfl, rfl, ?_⟩
  have hread (es : List Event) : handled (.read s.buffer.text s.phase :: es) = handled es := rfl
  rw [Run.after, handled_append, handled_append, handled_append,
    handled_of_course (c.course_beforeRead hshown), handled_of_course (c.course_beforeRead hlast),
    hread]
  exact List.append_nil _

/-- A session over one statement and a line feed hands the statement over once, as it was written,
and returns. -/
theorem mainLoop_of_statement {h : σ} {a : Bool} {u : Text} (hu : Segment.Neutral u)
    (hreturn : Text.ReturnFree u)
    (hgreets : ∃ es, c.greeting h (Session.start a) = .ok es) (hshow : c.AlwaysShows h a)
    (ho : (c.tried ⟨h, u ++ [Segment.terminator]⟩).outcome = .ok false)
    (hnext : c.AlwaysShows (c.tried ⟨h, u ++ [Segment.terminator]⟩).state a) (interactive : Bool) :
    let t := u ++ [Segment.terminator]
    let r := c.mainLoop h a (LineSource.ofText (t ++ ['\n']) interactive).readings
    r.ending = .returned ∧ r.handler = (c.tried ⟨h, t⟩).state ∧
      handled r.events = t :: handled (c.handler.handle h t).events := by
  intro t r
  obtain ⟨es, hes⟩ := hgreets
  obtain ⟨bs, last, hbs, hlast, hsplit⟩ := Text.exists_bodies u
  have hnone : Segment.terminator? (bs.map (· ++ ['\n'])).flatten = none :=
    Segment.terminator?_of_append (hsplit ▸ hu.1)
  obtain ⟨k, collected, hk, hbuffer, hquiet, hloop⟩ := loop_of_incomplete hshow
    (s := Session.start a) rfl hnone [.line (last ++ [Segment.terminator])]
  have htext : k.buffer.text ++ (last ++ [Segment.terminator]) = t := by
    rw [hbuffer, ← List.append_assoc, List.append_assoc _ _ last]
    exact congrArg (· ++ [Segment.terminator]) hsplit.symm
  obtain ⟨hending, hhandler, hevents⟩ :=
    loop_of_completed hshow hk htext hu.extract?_feed ho hnext
  have hr : r = ((c.loop h k [.line (last ++ [Segment.terminator])]).after collected).after es := by
    rw [← hloop, ← LineSource.readings_ofText hbs hlast hsplit hreturn interactive]
    exact (c.history_of_ok hes _).2
  rw [hr]
  refine ⟨hending, hhandler, ?_⟩
  rw [Run.after, Run.after, handled_append, handled_append,
    handled_of_course (c.course_greeting hes), hquiet, hevents, c.handled_tried]
  rfl

end Client

end StatementShell
