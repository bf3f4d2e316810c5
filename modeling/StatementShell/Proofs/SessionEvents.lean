-- The events of a session, by what they tell. Some tell how far the session has come: its
-- beginning, its reads, the statements that it hands over, and its end. Prompts, reports and the
-- log take no part in that, so a pass adds to it one read, and then its calls.
import StatementShell.Proofs.SessionHistory

namespace StatementShell

/-! ## The pure model -/

/-- An event that tells how far a session has come. -/
def Event.isMark : Event → Bool
  | .startup => true
  | .shutdown => true
  | .read _ _ => true
  | .handle _ => true
  | _ => false

/-- The beginning of a session, its reads, the statements that it hands over, and its end. -/
def Event.course (es : List Event) : List Event := es.filter isMark

/-- The statements that a list of events hands over. -/
def Event.handled (es : List Event) : List Text :=
  es.filterMap (fun e =>
    match e with
    | .handle s => some s
    | _ => none)

open Event (course handled)

/-- A handler that leaves the course of the session to the session. -/
structure Handler.Discreet {σ : Type} (hd : Handler σ) : Prop where
  startup : ∀ h, course (hd.startup h).events = []
  handle : ∀ h statement, course (hd.handle h statement).events = []
  shutdown : ∀ h, course (hd.shutdown h).events = []

namespace Client

variable {σ : Type} (c : Client σ)

/-- What a pass adds to the course of its session: a read, and then the statements that it hands
over. -/
def groupOf (t : Turn σ) : List Event :=
  .read t.session.buffer.text t.session.phase ::
    (c.callsOf t).map (fun x => .handle x.statement)

/-! ## The course of a pass -/

@[simp] theorem course_append (es fs : List Event) : course (es ++ fs) = course es ++ course fs :=
  List.filter_append es fs

@[simp] theorem course_log (level : LogLevel) (message : Text) (cause : Option Raised) :
    course (c.log level message cause) = [] := by
  unfold log
  split <;> rfl

@[simp] theorem course_report (r : Report) : course (c.report r) = [] := c.course_log _ _ _

theorem course_beforeRead {h : σ} {s : Session} {shown : List Event}
    (hb : c.beforeRead h s = .ok shown) : course shown = [] := by
  unfold beforeRead at hb
  split at hb
  next =>
    cases hp : c.prompt h s with
    | error f =>
      rw [hp] at hb
      cases hb
    | ok t =>
      rw [hp] at hb
      cases hb
      rfl
  next =>
    cases hb
    rfl

theorem course_greeting {h : σ} {s : Session} {es : List Event}
    (hg : c.greeting h s = .ok es) : course es = [] := by
  unfold greeting at hg
  split at hg
  next =>
    cases hv : c.property h "shell.show_banner" (.boolean true) with
    | error f =>
      rw [hv] at hg
      cases hg
    | ok v =>
      rw [hv] at hg
      cases hg
      dsimp only
      split <;> rfl
  next =>
    cases hg
    rfl

theorem course_greeted (h : σ) (consoleAttached : Bool) :
    course (c.greeted h consoleAttached) = [] := by
  unfold greeted
  cases hg : c.greeting h (Session.start consoleAttached) with
  | error f => rfl
  | ok es => exact c.course_greeting hg

theorem course_noteOf (r : Raised) : course (c.noteOf r) = [] := by
  cases r with
  | interrupt m => rfl
  | exit m => rfl
  | failure f =>
    rcases f.hasWords_or_exists with hf | ⟨e, hf⟩
    · rw [noteOf, c.recover_of_hasWords hf]
      exact c.course_report _
    · rw [noteOf, c.recover_of_wordless hf]
      rfl

theorem course_callEvents (hown : c.handler.Discreet) (x : Call σ) :
    course (c.callEvents x) = [.handle x.statement] := by
  have hnote : course (c.callNote (c.tried x).outcome) = [] := by
    unfold callNote
    split
    · exact c.course_noteOf _
    · rfl
  have hreport : course ((c.reportOf x).elim [] c.report) = [] := by
    cases c.reportOf x with
    | none => rfl
    | some r => exact c.course_report r
  have hhandle (es : List Event) : course (.handle x.statement :: es) =
    .handle x.statement :: course es := rfl
  rw [callEvents, events_tried, course_append, course_append, course_append, course_log, hhandle,
    hown.handle, hnote, hreport]
  rfl

theorem course_readEvents (t : Turn σ) : course (c.readEvents t) = [] := by
  unfold readEvents
  split
  · split
    · exact c.course_report _
    · exact c.course_noteOf _
  · exact c.course_noteOf _
  · exact c.course_report _
  · split
    · rfl
    · exact c.course_log _ _ _
  · rfl

/-- A pass that comes to its read makes one, and then hands over the statements of its calls. -/
theorem course_eventsOf (hown : c.handler.Discreet) {t : Turn σ} (hb : c.Shows t) :
    course (c.eventsOf t) = c.groupOf t := by
  obtain ⟨shown, hshown⟩ := hb
  have hread (es : List Event) :
      course (.read t.session.buffer.text t.session.phase :: es) =
        .read t.session.buffer.text t.session.phase :: course es := rfl
  have hcalls : course ((c.callsOf t).flatMap c.callEvents) =
      (c.callsOf t).map (fun x => .handle x.statement) := by
    rw [course, List.filter_flatMap, List.map_eq_flatMap]
    exact List.flatMap_congr (fun x _ => c.course_callEvents hown x)
  rw [eventsOf, hshown]
  dsimp only
  rw [course_append, c.course_beforeRead hshown, hread, aftermath, course_append,
    c.course_readEvents, hcalls]
  rfl

/-- A pass whose prompt fails makes no read, and hands nothing over. -/
theorem course_eventsOf_of_not_shows {t : Turn σ} (hb : ¬ c.Shows t) :
    course (c.eventsOf t) = [] := by
  unfold eventsOf
  cases hshown : c.beforeRead t.handler t.session with
  | error f => exact c.course_report _
  | ok shown => exact absurd ⟨shown, hshown⟩ hb

theorem course_mainLoop (hown : c.handler.Discreet) (h : σ) (consoleAttached : Bool)
    (rs : List Reading) (hp : ∀ t ∈ c.history h consoleAttached rs, c.Shows t) :
    course (c.mainLoop h consoleAttached rs).events =
      (c.history h consoleAttached rs).flatMap c.groupOf := by
  rw [events_mainLoop, course_append, course_greeted, List.nil_append, course,
    List.filter_flatMap]
  exact List.flatMap_congr (fun t ht => c.course_eventsOf hown (hp t ht))

/-! ## What is handed over -/

@[simp] theorem handled_append (es fs : List Event) :
    handled (es ++ fs) = handled es ++ handled fs := by
  simp [handled]

@[simp] theorem handled_handle (t : Text) (es : List Event) :
    handled (.handle t :: es) = t :: handled es := rfl

/-- To hand a statement over is part of the course of a session. -/
theorem handled_course (es : List Event) : handled (course es) = handled es := by
  rw [course, handled, handled, List.filterMap_filter]
  apply List.filterMap_congr
  intro e _
  cases e <;> rfl

/-- What takes no part in the course of a session hands nothing over. -/
theorem handled_of_course {es : List Event} (h : Event.course es = []) : handled es = [] := by
  rw [handled, List.filterMap_eq_nil_iff]
  intro e he
  have hmark := List.filter_eq_nil_iff.1 h e he
  cases e with
  | handle => exact absurd rfl hmark
  | _ => rfl

/-- A call hands over its statement once; all else in its events is the handler's own. -/
theorem handled_tried (x : Call σ) :
    handled (c.tried x).events =
      x.statement :: handled (c.handler.handle x.handler x.statement).events := by
  rw [events_tried, handled_append, handled_append, handled_of_course (c.course_log _ _ _),
    handled_handle, List.nil_append]
  cases c.reportOf x with
  | none => exact List.append_nil _
  | some r => rw [Option.elim_some, handled_of_course (c.course_report r), List.append_nil]

/-- The statements that a session hands over are those of its calls. -/
theorem handled_mainLoop (hown : c.handler.Discreet) (h : σ) (consoleAttached : Bool)
    (rs : List Reading) (hp : ∀ t ∈ c.history h consoleAttached rs, c.Shows t) :
    handled (c.mainLoop h consoleAttached rs).events =
      ((c.history h consoleAttached rs).flatMap c.callsOf).map Call.statement := by
  have hcalls (xs : List (Call σ)) :
      handled (xs.map (fun x => .handle x.statement)) = xs.map Call.statement := by
    induction xs with
    | nil => rfl
    | cons x xs ih => rw [List.map_cons, handled_handle, ih, List.map_cons]
  have hgroup (t : Turn σ) : handled (c.groupOf t) = (c.callsOf t).map Call.statement :=
    hcalls (c.callsOf t)
  rw [← handled_course, c.course_mainLoop hown _ _ _ hp, handled, List.filterMap_flatMap,
    List.map_flatMap]
  exact List.flatMap_congr (fun t _ => hgroup t)

/-! ## The samples -/

theorem Handler.discreet_ofAnswers (answers : Text → Except Raised Reply) :
    (Handler.ofAnswers answers).Discreet :=
  ⟨fun _ => rfl, fun _ _ => rfl, fun _ => rfl⟩

/-- The session of the sample within the quote. -/
def quoteOpen : Session :=
  ⟨false, false, ⟨"'x\n".toList⟩, .readingContinuation⟩

/-- The first line of the sample completes a statement and opens a quote. -/
theorem first_pass_sample :
    (sample.pass () (Session.start false) (.line "A; 'x")).ending = none ∧
      (sample.pass () (Session.start false) (.line "A; 'x")).session = quoteOpen := by
  have hfirst : (InputBuffer.empty.append ("A; 'x" ++ ['\n'])).extract? =
      some ("A;".toList, quoteOpen.buffer) := by decide
  have hnone : quoteOpen.buffer.extract? = none := by decide
  have hcall : (sample.dispatch () "A;".toList).outcome = .ok false := rfl
  rw [pass, sample.beforeRead_of_no_console rfl, afterRead,
    show (Session.start false).buffer = InputBuffer.empty from rfl,
    sample.runBuffer_of_some hfirst, hcall]
  dsimp only
  rw [sample.runBuffer_of_none hnone]
  exact ⟨rfl, rfl⟩

/-- The statements that the second line of the sample completes. -/
theorem statements_second_line :
    Segment.extractAll (quoteOpen.buffer.text ++ (";' ; B;EXIT; C;" ++ ['\n'])) =
      (["'x\n;' ;".toList, "B;".toList, "EXIT;".toList, "C;".toList], []) := by
  have hfirst : Segment.extract? (quoteOpen.buffer.text ++ (";' ; B;EXIT; C;" ++ ['\n'])) =
      some ("'x\n;' ;".toList, "B;EXIT; C;\n".toList) := by decide
  have hsecond : Segment.extract? "B;EXIT; C;\n".toList =
      some ("B;".toList, "EXIT; C;\n".toList) := by decide
  have hthird : Segment.extract? "EXIT; C;\n".toList =
      some ("EXIT;".toList, "C;\n".toList) := by decide
  have hlast : Segment.extract? "C;\n".toList = some ("C;".toList, []) := by decide
  rw [Segment.extractAll_of_some hfirst, Segment.extractAll_of_some hsecond,
    Segment.extractAll_of_some hthird, Segment.extractAll_of_some hlast,
    Segment.extractAll_of_none (t := []) rfl]

theorem callsOf_first_line :
    sample.callsOf ⟨(), Session.start false, .line "A; 'x"⟩ = [⟨(), "A;".toList⟩] := by
  have hfirst : Segment.extract? "A; 'x\n".toList = some ("A;".toList, "'x\n".toList) := by decide
  have hopen : Segment.extract? "'x\n".toList = none := by decide
  have hline : (Session.start false).buffer.text ++ ("A; 'x" ++ ['\n']) = "A; 'x\n".toList := rfl
  rw [sample.callsOf_of_line rfl rfl]
  dsimp only
  rw [hline, Segment.extractAll_of_some hfirst, Segment.extractAll_of_none hopen]
  rfl

/-- No call is made for the last statement of the line, which stands behind one that asks for the
end. -/
theorem callsOf_second_line :
    sample.callsOf ⟨(), quoteOpen, .line ";' ; B;EXIT; C;"⟩ =
      [⟨(), "'x\n;' ;".toList⟩, ⟨(), "B;".toList⟩, ⟨(), "EXIT;".toList⟩] := by
  rw [sample.callsOf_of_line rfl rfl, statements_second_line]
  rfl

/-- The second line of the sample ends its session. -/
theorem last_pass_sample :
    (sample.pass () quoteOpen (.line ";' ; B;EXIT; C;")).ending = some .returned := by
  have hstop : sample.StopsWith
      (sample.callsOf ⟨(), quoteOpen, .line ";' ; B;EXIT; C;"⟩) (.ok true) := by
    rw [callsOf_second_line]
    refine ⟨[⟨(), "'x\n;' ;".toList⟩, ⟨(), "B;".toList⟩], ⟨(), "EXIT;".toList⟩, rfl, rfl, ?_⟩
    intro x hx
    simp only [List.mem_cons, List.not_mem_nil, or_false] at hx
    rcases hx with rfl | rfl <;> rfl
  exact (sample.passOf_of_stopsWith ⟨[], rfl⟩ rfl hstop (by simp)).1

/-- The read of the sample that fails leaves its session as it is. -/
theorem failing_pass_sample :
    (sample.pass () quoteOpen (.raises (.failure .nameMissing))).ending = none ∧
      (sample.pass () quoteOpen (.raises (.failure .nameMissing))).session = quoteOpen := ⟨rfl, rfl⟩

/-- The sample makes three passes, and the third one ends its session. -/
theorem history_sample :
    sample.history () false (sampleScript.map Reading.ofOutcome) =
      [⟨(), Session.start false, .line "A; 'x"⟩, ⟨(), quoteOpen, .raises (.failure .nameMissing)⟩,
        ⟨(), quoteOpen, .line ";' ; B;EXIT; C;"⟩] := by
  have hturns : sample.history () false (sampleScript.map Reading.ofOutcome) =
      sample.turns () (Session.start false) (sampleScript.map Reading.ofOutcome) := rfl
  rw [hturns]
  simp only [sampleScript, List.map_cons, Reading.ofOutcome]
  rw [sample.turns_of_goesOn first_pass_sample.1, first_pass_sample.2,
    sample.turns_of_goesOn failing_pass_sample.1, failing_pass_sample.2,
    sample.turns_of_ends last_pass_sample]

/-- The sample returns, and leaves its last line unread. -/
theorem mainLoop_sample :
    (sample.mainLoop () false (sampleScript.map Reading.ofOutcome)).ending = .returned ∧
      (sample.mainLoop () false (sampleScript.map Reading.ofOutcome)).unread = [.line "D;"] := by
  have hmain : sample.mainLoop () false (sampleScript.map Reading.ofOutcome) =
      (sample.loop () (Session.start false) (sampleScript.map Reading.ofOutcome)).after [] := rfl
  rw [hmain]
  simp only [sampleScript, List.map_cons, List.map_nil, Reading.ofOutcome]
  rw [sample.loop_of_goesOn first_pass_sample.1, first_pass_sample.2,
    sample.loop_of_goesOn failing_pass_sample.1, failing_pass_sample.2,
    sample.loop_of_ends last_pass_sample]
  exact ⟨rfl, rfl⟩

/-- The calls of the sample, over all its passes. -/
theorem calls_sample :
    (sample.history () false (sampleScript.map Reading.ofOutcome)).flatMap sample.callsOf =
      [⟨(), "A;".toList⟩, ⟨(), "'x\n;' ;".toList⟩, ⟨(), "B;".toList⟩, ⟨(), "EXIT;".toList⟩] := by
  rw [history_sample, List.flatMap_cons, List.flatMap_cons, List.flatMap_cons, List.flatMap_nil,
    callsOf_first_line, callsOf_second_line,
    sample.callsOf_of_not_line (t := ⟨(), quoteOpen, .raises (.failure .nameMissing)⟩) (by simp)]
  rfl

/-- What the passes of the sample add to its course: three reads, and the calls. -/
theorem groups_sample :
    (sample.history () false (sampleScript.map Reading.ofOutcome)).flatMap sample.groupOf =
      [.read [] .awaitingInput, .handle "A;",
        .read "'x\n" .readingContinuation,
        .read "'x\n" .readingContinuation, .handle "'x\n;' ;", .handle "B;", .handle "EXIT;"] := by
  rw [history_sample, List.flatMap_cons, List.flatMap_cons, List.flatMap_cons, List.flatMap_nil,
    groupOf, groupOf, groupOf, callsOf_first_line, callsOf_second_line,
    sample.callsOf_of_not_line (t := ⟨(), quoteOpen, .raises (.failure .nameMissing)⟩) (by simp)]
  rfl

/-- The wordless sample is given the first statement of its line only. -/
theorem calls_wordlessSample :
    (wordlessSample.history () false [.line "A; B;"]).flatMap wordlessSample.callsOf =
      [⟨(), "A;".toList⟩] := by
  have hfirst : Segment.extract? "A; B;\n".toList = some ("A;".toList, "B;\n".toList) := by decide
  have hline : (Session.start false).buffer.text ++ ("A; B;" ++ ['\n']) = "A; B;\n".toList := rfl
  rw [history_wordlessSample, List.flatMap_cons, List.flatMap_cons, List.flatMap_nil,
    wordlessSample.callsOf_of_line rfl rfl,
    wordlessSample.callsOf_of_not_line (t := wordlessEnd) (by simp [wordlessEnd])]
  dsimp only
  rw [hline, Segment.extractAll_of_some hfirst]
  rfl

end Client

end StatementShell
