-- The course of a session: it begins, it reads and hands statements over, and it ends. Few things
-- end it, at any statement of any line, and whichever it is, nothing is read or handed over after
-- it; the handler is told of the end once, and last.
import StatementShell.Proofs.SessionEvents
import StatementShell.Proofs.StartingOver

namespace StatementShell

/-! ## The pure model -/

/-- The reading that comes of asking a source for a line: it gives a line, or none at the end of
the input, or something is raised. -/
def Reading.ofRead : Except Raised (Option Text) → Reading
  | .ok (some l) => .line l
  | .ok none => .endOfInput
  | .error r => .raises r

theorem Reading.ofRead_ne_broken (o : Except Raised (Option Text)) (e : Utf8.Fault) :
    ofRead o ≠ .broken e := by
  unfold ofRead
  split <;> simp

namespace Client

open Event (course)

variable {σ : Type} (c : Client σ)

/-- What ends a session at a pass, and how: the end of its input, an answer that asks for the end,
or something that leaves the loop over the read or a call. That is an exit, or what comes of a
failure that has no words, if the failure that it raises instead has none either. -/
inductive EndsWith (t : Turn σ) : Ending → Prop
  | inputEnds (hr : t.reading = .endOfInput) : EndsWith t .returned
  | answered {x : Call σ} (hx : x ∈ c.callsOf t) (ha : c.AsksForEnd x) : EndsWith t .returned
  | readExits {m : Text} (hr : t.reading = .raises (.exit m)) : EndsWith t (.raised (.exit m))
  | callExits {x : Call σ} {m : Text} (hx : x ∈ c.callsOf t)
      (ha : c.answer x = .error (.exit m)) : EndsWith t (.raised (.exit m))
  | readWordless {f e e' : Failure} (hr : t.reading = .raises (.failure f))
      (hf : f.words = .error e) (he : e.words = .error e') : EndsWith t (.raised (.failure e'))
  | callWordless {x : Call σ} {f e e' : Failure} (hx : x ∈ c.callsOf t)
      (ha : c.answer x = .error (.failure f)) (hf : f.words = .error e)
      (he : e.words = .error e') : EndsWith t (.raised (.failure e'))

/-- The passes of a loop: each goes on to the next one, and the last one ends the loop. -/
structure LastPass (run : Run σ) (rs : List Reading) (before : List (Turn σ)) (t : Turn σ) :
    Prop where
  goesOn : ∀ u ∈ before, (c.passOf u).ending = none
  ends : (c.passOf t).ending = some run.ending
  handler : run.handler = (c.passOf t).handler
  session : run.session = (c.passOf t).session
  /-- The readings that are left are those that no pass has found. -/
  unread : (∀ f, run.ending ≠ .stuck f) →
    rs = (before ++ [t]).map Turn.reading ++ run.unread ∨
      (rs ++ [.endOfInput] = (before ++ [t]).map Turn.reading ∧ run.unread = [])

/-! ## The pass that ends a session -/

theorem nothing_after_stop {t : Turn σ} {xs ys : List (Call σ)} {x : Call σ}
    (hcalls : c.callsOf t = xs ++ x :: ys) (hstop : (c.tried x).outcome ≠ .ok false) : ys = [] := by
  have hx : x ∈ c.callsOf t := by simp [hcalls]
  obtain ⟨zs, hzs, hon⟩ := c.exists_callsOf_eq hx hstop
  rcases List.eq_nil_or_concat ys with rfl | ⟨us, u, rfl⟩
  · rfl
  · -- with a call after it, it would be one of those that let the session go on
    rw [hcalls, List.concat_eq_append, ← List.cons_append, ← List.append_assoc] at hzs
    obtain ⟨rfl, -⟩ := List.append_inj' hzs rfl
    exact absurd (hon x (by simp)) hstop

/-- What a call comes to, if the line stops with it, settles how its pass ends the loop. -/
theorem ending_of_call {t : Turn σ} {x : Call σ} {o : Except Raised Bool} (hx : x ∈ c.callsOf t)
    (ha : settle (c.answer x) = o) (ho : o ≠ .ok false) : (c.passOf t).ending = endingOf o := by
  obtain ⟨hb, l, hr⟩ := c.shows_of_mem_callsOf hx
  rw [← outcome_tried] at ha
  obtain ⟨ys, hys, hon⟩ := c.exists_callsOf_eq hx (ha ▸ ho)
  exact (c.passOf_of_stopsWith hb hr ⟨ys, x, hys, ha, hon⟩ ho).1

theorem exists_answer_of_stopsWith {xs : List (Call σ)} {o : Except Raised Bool}
    (h : c.StopsWith xs o) : ∃ x ∈ xs, settle (c.answer x) = o := by
  obtain ⟨ys, x, rfl, hx, -⟩ := h
  exact ⟨x, by simp, c.outcome_tried x ▸ hx⟩

theorem ending_of_readWordless {t : Turn σ} {f e e' : Failure} (hb : c.Shows t)
    (hr : t.reading = .raises (.failure f)) (hf : f.words = .error e)
    (he : e.words = .error e') : (c.passOf t).ending = some (.raised (.failure e')) := by
  obtain ⟨shown, hshown⟩ := hb
  simp only [passOf, pass, hshown, hr, afterRead, Report.ofRead, hf, Except.map, leave,
    c.recover_of_wordless he]

/-- What leaves the loop over a pass ends the session there. -/
theorem endsWith_of_escapes {t : Turn σ} {r r' : Raised} (hleft : c.LeftBy t r)
    (hr : Escapes r r') : c.EndsWith t (.raised r') := by
  cases hr with
  | exit =>
    cases hleft with
    | exit h => exact .readExits h
    | call hstop =>
      obtain ⟨x, hx, ha⟩ := c.exists_answer_of_stopsWith hstop
      exact .callExits hx (settle_eq_exit_iff.1 ha)
  | wordless he =>
    cases hleft with
    | wordless h hf => exact .readWordless h hf he
    | call hstop =>
      obtain ⟨x, hx, ha⟩ := c.exists_answer_of_stopsWith hstop
      obtain ⟨f, hanswer, hf⟩ := settle_eq_failure_iff.1 ha
      exact .callWordless hx hanswer hf he

/-- A pass that comes to its read ends the session exactly where something ends it there. -/
theorem ending_passOf_iff {t : Turn σ} (hb : c.Shows t) (hr : ∀ f, t.reading ≠ .broken f)
    {e : Ending} : (c.passOf t).ending = some e ↔ c.EndsWith t e := by
  constructor
  · intro he
    have hdoes := c.passOf_does t
    rw [he] at hdoes
    generalize (c.passOf t).session = s at hdoes
    cases hdoes with
    | promptFails hf =>
      obtain ⟨shown, hshown⟩ := hb
      cases hf.symm.trans hshown
    | readBroken _ hbroken => exact absurd hbroken (hr _)
    | inputEnds _ h => exact .inputEnds h
    | handlerEnds _ _ hstop =>
      obtain ⟨x, hx, ha⟩ := c.exists_answer_of_stopsWith hstop
      rw [settle_eq_ok_true_iff, answer_eq_ok_true_iff] at ha
      exact .answered hx ha
    | escaped _ hleft hescapes => exact c.endsWith_of_escapes hleft hescapes
  · rintro (h | ⟨hx, ha⟩ | h | ⟨hx, ha⟩ | ⟨h, hf, he⟩ | ⟨hx, ha, hf, he⟩)
    · obtain ⟨shown, hshown⟩ := hb
      rw [passOf, h]
      exact c.ending_pass_endOfInput hshown
    · rw [← answer_eq_ok_true_iff, ← settle_eq_ok_true_iff] at ha
      exact c.ending_of_call hx ha (by simp)
    · obtain ⟨shown, hshown⟩ := hb
      rw [passOf, pass, hshown, h]
      rfl
    · exact c.ending_of_call hx (settle_eq_exit_iff.2 ha) (by simp)
    · exact c.ending_of_readWordless hb h hf he
    · rw [c.ending_of_call hx (settle_eq_failure_iff.2 ⟨_, ha, hf⟩) (by simp), endingOf, he]

/-- A session that returns is told to end and has nothing in its buffer; one that something leaves
is not told to end. -/
theorem session_of_ends {t : Turn σ} {e : Ending} (he : (c.passOf t).ending = some e) :
    (e = .returned → (c.passOf t).session = close t.session) ∧
      ∀ r, e = .raised r → (c.passOf t).session.exiting = t.session.exiting := by
  have hdoes := c.passOf_does t
  rw [he] at hdoes
  generalize (c.passOf t).session = s at hdoes ⊢
  cases hdoes <;> simp

/-! ## The passes of a loop -/

theorem exists_lastPass (h : σ) (s : Session) (rs : List Reading) :
    ∃ before t, c.turns h s rs = before ++ [t] ∧ c.LastPass (c.loop h s rs) rs before t := by
  induction rs generalizing h s with
  | nil =>
    obtain ⟨e, he⟩ := Option.ne_none_iff_exists'.1 (c.ending_pass_endOfInput_ne h s)
    refine ⟨[], ⟨h, s, .endOfInput⟩, rfl, by simp, ?_, rfl, rfl, fun _ => .inr ⟨rfl, rfl⟩⟩
    rw [loop, passOf, he]
    rfl
  | cons r rs ih =>
    cases hp : (c.pass h s r).ending with
    | none =>
      obtain ⟨before, t, hturns, hlast⟩ := ih (c.pass h s r).handler (c.pass h s r).session
      rw [c.turns_of_goesOn hp, c.loop_of_goesOn hp, hturns]
      refine ⟨⟨h, s, r⟩ :: before, t, rfl, List.forall_mem_cons.2 ⟨hp, hlast.goesOn⟩, hlast.ends,
        hlast.handler, hlast.session, ?_⟩
      intro hstuck
      rcases hlast.unread hstuck with hrs | ⟨hrs, hunread⟩
      · exact .inl (congrArg (r :: ·) hrs)
      · exact .inr ⟨congrArg (r :: ·) hrs, hunread⟩
    | some e =>
      rw [c.turns_of_ends hp, c.loop_of_ends hp]
      refine ⟨[], ⟨h, s, r⟩, rfl, by simp, hp, rfl, rfl, ?_⟩
      intro hstuck
      cases e with
      | stuck f => exact absurd rfl (hstuck f)
      | _ => exact .inl rfl

theorem nothing_after_end {passes before after : List (Turn σ)} {t last : Turn σ}
    {firsts : List (Turn σ)} (hpasses : passes = firsts ++ [last])
    (hon : ∀ u ∈ firsts, (c.passOf u).ending = none) (ht : passes = before ++ t :: after)
    (hends : (c.passOf t).ending ≠ none) : after = [] := by
  rcases List.eq_nil_or_concat after with rfl | ⟨us, u, rfl⟩
  · rfl
  · rw [ht, List.concat_eq_append, ← List.cons_append, ← List.append_assoc] at hpasses
    obtain ⟨rfl, -⟩ := List.append_inj' hpasses rfl
    exact absurd (hon t (by simp)) hends

/-- The last pass of a session whose prompts are shown is the one where something ends it. Then the
session is told to end, with nothing in its buffer; or something has left it, and it is not. -/
theorem mainLoop_ends (h : σ) (consoleAttached : Bool) (rs : List Reading)
    (hbroken : ∀ r ∈ rs, ∀ f, r ≠ .broken f)
    (hp : ∀ t ∈ c.history h consoleAttached rs, c.Shows t) :
    let main := c.mainLoop h consoleAttached rs
    (c.history h consoleAttached rs = [] ∧ ∃ f,
        c.greeting h (Session.start consoleAttached) = .error f ∧
          main.ending = .raised (.failure f)) ∨
      ∃ before last, c.history h consoleAttached rs = before ++ [last] ∧
        (∀ u ∈ before, (c.passOf u).ending = none) ∧ c.EndsWith last main.ending ∧
        (rs = (before ++ [last]).map Turn.reading ++ main.unread ∨
          (rs ++ [.endOfInput] = (before ++ [last]).map Turn.reading ∧ main.unread = [])) ∧
        ((main.ending = .returned ∧ main.session = ⟨consoleAttached, true, .empty, .exiting⟩) ∨
          ((∃ m, main.ending = .raised (.exit m)) ∨ ∃ f, main.ending = .raised (.failure f)) ∧
            main.session.exiting = false) := by
  intro main
  cases hg : c.greeting h (Session.start consoleAttached) with
  | error f =>
    obtain ⟨hnone, hmain⟩ := c.history_of_error hg rs
    exact .inl ⟨hnone, f, rfl, congrArg Run.ending hmain⟩
  | ok events =>
    obtain ⟨hhistory, hmain⟩ := c.history_of_ok hg rs
    obtain ⟨before, last, hturns, hlast⟩ :=
      c.exists_lastPass h (Session.start consoleAttached) rs
    have hpasses : c.history h consoleAttached rs = before ++ [last] := hhistory.trans hturns
    have hmem : last ∈ c.history h consoleAttached rs := by simp [hpasses]
    have hends : (c.passOf last).ending = some main.ending := by
      rw [show main = _ from hmain]
      exact hlast.ends
    have hreading : ∀ f, last.reading ≠ .broken f := by
      rcases c.reading_of_mem_history hmem with hr | hr
      · exact hbroken _ hr
      · simp [hr]
    have hcause := (c.ending_passOf_iff (hp last hmem) hreading).1 hends
    have hsession : main.session = (c.passOf last).session := by
      rw [show main = _ from hmain]
      exact hlast.session
    have hunread : (∀ f, main.ending ≠ .stuck f) →
        rs = (before ++ [last]).map Turn.reading ++ main.unread ∨
          (rs ++ [.endOfInput] = (before ++ [last]).map Turn.reading ∧ main.unread = []) := by
      rw [show main = _ from hmain]
      exact hlast.unread
    obtain ⟨hreturned, hexited⟩ := c.session_of_ends hends
    refine .inr ⟨before, last, hpasses, hlast.goesOn, hcause, hunread ?_, ?_⟩
    · intro f hf
      rw [hf] at hcause
      cases hcause
    · rw [hsession]
      have hconsole := c.consoleAttached_of_mem_history hmem
      have hready := c.goesOn_of_mem_history hmem
      have hclosed : close last.session = ⟨consoleAttached, true, .empty, .exiting⟩ := by
        rw [close, hconsole]
      generalize main.ending = e at hcause hreturned hexited
      cases hcause with
      | inputEnds => exact .inl ⟨rfl, (hreturned rfl).trans hclosed⟩
      | answered => exact .inl ⟨rfl, (hreturned rfl).trans hclosed⟩
      | readExits => exact .inr ⟨.inl ⟨_, rfl⟩, (hexited _ rfl).trans hready⟩
      | callExits => exact .inr ⟨.inl ⟨_, rfl⟩, (hexited _ rfl).trans hready⟩
      | readWordless => exact .inr ⟨.inr ⟨_, rfl⟩, (hexited _ rfl).trans hready⟩
      | callWordless => exact .inr ⟨.inr ⟨_, rfl⟩, (hexited _ rfl).trans hready⟩

/-! ## The law of the course -/

/-- A run is its startup, the passes of its session, each of which reads once and then hands over
what its line completes, and its shutdown, which comes once and last; where the startup raises,
there is nothing else. Nothing is read or handed over after an end of the input, an answer that
asks for the end, or an exit; and one of these, or a failure for which there are no words at all,
ends every session whose greeting can be shown. In the first two cases the session is told to end,
with nothing in its buffer, and what its source has left stays unread; an exit leaves the run, and
the session was not told to end. -/
theorem reads_and_calls_stand_between_startup_and_shutdown (h : σ) (consoleAttached : Bool)
    (outcomes : List (Except Raised (Option Text))) (hown : c.handler.Discreet)
    (hp : ∀ t ∈ c.history (c.handler.startup h).state consoleAttached
      (outcomes.map Reading.ofRead), c.Shows t) :
    let started := c.handler.startup h
    let readings := outcomes.map Reading.ofRead
    let passes := c.history started.state consoleAttached readings
    let main := c.mainLoop started.state consoleAttached readings
    (∀ r, started.outcome = .error r →
      c.run h consoleAttached readings = .notStarted (.startup :: started.events) started.state r ∧
        course (.startup :: started.events) = [.startup]) ∧
    (started.outcome = .ok () → ∃ run, c.run h consoleAttached readings = .ran run ∧
      course run.events = .startup :: passes.flatMap c.groupOf ++ [.shutdown] ∧
      run.ending = main.ending.afterShutdown (c.handler.shutdown main.handler).outcome ∧
      run.session = main.session ∧ run.unread = main.unread) ∧
    (∀ before t after, passes = before ++ t :: after → (∃ e, c.EndsWith t e) → after = []) ∧
    (∀ t ∈ passes, (t.reading = .endOfInput ∨ ∃ m, t.reading = .raises (.exit m)) →
      c.callsOf t = []) ∧
    (∀ t ∈ passes, ∀ xs x ys, c.callsOf t = xs ++ x :: ys →
      (c.AsksForEnd x ∨ ∃ m, c.answer x = .error (.exit m)) → ys = []) ∧
    ((passes = [] ∧ ∃ f, c.greeting started.state (Session.start consoleAttached) = .error f ∧
        main.ending = .raised (.failure f)) ∨
      ∃ before last, passes = before ++ [last] ∧ c.EndsWith last main.ending ∧
        (readings = passes.map Turn.reading ++ main.unread ∨
          (readings ++ [.endOfInput] = passes.map Turn.reading ∧ main.unread = [])) ∧
        ((main.ending = .returned ∧ main.session = ⟨consoleAttached, true, .empty, .exiting⟩) ∨
          ((∃ m, main.ending = .raised (.exit m)) ∨ ∃ f, main.ending = .raised (.failure f)) ∧
            main.session.exiting = false)) := by
  intro started readings passes main
  have hbroken : ∀ r ∈ readings, ∀ f, r ≠ .broken f := by
    intro r hr f
    obtain ⟨o, -, rfl⟩ := List.mem_map.1 hr
    exact Reading.ofRead_ne_broken o f
  have hstartup (es : List Event) : course (.startup :: es) = .startup :: course es := rfl
  have hshutdown (es : List Event) : course (.shutdown :: es) = .shutdown :: course es := rfl
  have hends := c.mainLoop_ends started.state consoleAttached readings hbroken hp
  refine ⟨?_, ?_, ?_, ?_, ?_, ?_⟩
  · intro r hr
    refine ⟨?_, ?_⟩
    · rw [run, around, hr]
    · rw [hstartup, hown.startup]
  · intro hok
    have hstuck : ∀ f, main.ending ≠ .stuck f := by
      intro f hf
      rcases hends with ⟨-, e, -, he⟩ | ⟨-, -, -, -, -, -, ⟨he, -⟩ | ⟨⟨m, he⟩ | ⟨e, he⟩, -⟩⟩
      · cases hf.symm.trans he
      · cases hf.symm.trans he
      · cases hf.symm.trans he
      · cases hf.symm.trans he
    refine ⟨(c.finish main).after (.startup :: started.events), ?_, ?_⟩
    · rw [run, around, hok]
    · rw [c.finish_of_ends hstuck]
      refine ⟨?_, rfl, rfl, rfl⟩
      rw [Run.after, course_append, course_append, hstartup, hshutdown, hown.startup,
        hown.shutdown, c.course_mainLoop hown _ _ _ hp]
      rfl
  · intro before t after ht hcause
    obtain ⟨e, he⟩ := hcause
    have hmem : t ∈ passes := by simp [ht]
    have hreading : ∀ f, t.reading ≠ .broken f := by
      rcases c.reading_of_mem_history hmem with hr | hr
      · exact hbroken _ hr
      · simp [hr]
    have hending := (c.ending_passOf_iff (hp t hmem) hreading).2 he
    rcases hends with ⟨hnone, -⟩ | ⟨firsts, last, hpasses, hon, -⟩
    · simp [passes, hnone] at hmem
    · exact c.nothing_after_end hpasses hon ht (by simp [hending])
  · intro t _ hr
    refine c.callsOf_of_not_line ?_
    intro l hl
    rcases hr with hr | ⟨m, hr⟩
    · cases hl.symm.trans hr
    · cases hl.symm.trans hr
  · intro t _ xs x ys hcalls hanswer
    refine c.nothing_after_stop hcalls ?_
    rw [outcome_tried]
    rcases hanswer with ha | ⟨m, ha⟩
    · rw [(c.answer_eq_ok_true_iff x).2 ha]
      simp [settle]
    · rw [ha]
      simp [settle]
  · rcases hends with hnone | ⟨before, last, hpasses, -, hcause, hunread, hsession⟩
    · exact .inl hnone
    · refine .inr ⟨before, last, hpasses, hcause, ?_, hsession⟩
      rw [show passes = _ from hpasses]
      exact hunread

/-- The sample reads three times, and `EXIT;` ends it: no read and no call comes after it, though
its line goes on with `C;`, and the line with `D;` stays unread. -/
theorem course_of_the_sample :
    let outcomes : List (Except Raised (Option Text)) :=
      [.ok (some "A; 'x".toList), .error (.failure .nameMissing),
        .ok (some ";' ; B;EXIT; C;".toList), .ok (some "D;".toList)]
    ∃ run, sample.run () false (outcomes.map Reading.ofRead) = .ran run ∧
      course run.events =
        [.startup, .read [] .awaitingInput, .handle "A;",
          .read "'x\n" .readingContinuation,
          .read "'x\n" .readingContinuation, .handle "'x\n;' ;", .handle "B;", .handle "EXIT;",
          .shutdown] ∧
      run.ending = .returned ∧ run.session = ⟨false, true, .empty, .exiting⟩ ∧
      run.unread = [.line "D;"] := by
  intro outcomes
  have hreadings : outcomes.map Reading.ofRead = sampleScript.map Reading.ofOutcome := rfl
  obtain ⟨-, hran, -, -, -, hends⟩ :=
    sample.reads_and_calls_stand_between_startup_and_shutdown () false outcomes
      (Handler.discreet_ofAnswers _) sample.shows_of_no_console
  obtain ⟨run, hrun, hcourse, hending, hsession, hunread⟩ := hran rfl
  rw [hreadings] at hcourse hending hsession hunread hends
  have hreturned : (sample.mainLoop () false (sampleScript.map Reading.ofOutcome)).ending =
      .returned := mainLoop_sample.1
  refine ⟨run, hrun, ?_, ?_, ?_, hunread.trans mainLoop_sample.2⟩
  · rw [hcourse, show (sample.handler.startup ()).state = () from rfl, groups_sample]
    rfl
  · rw [hending, show (sample.handler.startup ()).state = () from rfl, hreturned]
    rfl
  · rw [hsession]
    rcases hends with ⟨-, f, -, hf⟩ | ⟨-, -, -, -, -, ⟨-, hclosed⟩ | ⟨⟨m, hm⟩ | ⟨f, hf⟩, -⟩⟩
    · cases hreturned.symm.trans hf
    · exact hclosed
    · cases hreturned.symm.trans hm
    · cases hreturned.symm.trans hf

end Client

end StatementShell
