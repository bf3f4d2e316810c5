-- The order in which a session handles its statements. The loop scans its buffer anew after
-- each line and each statement, and goes on after failures; all the same, as long as they have
-- words, the statements that it hands over are the pieces of one scan of everything that it read,
-- each handed over between the read of the line that completes it and the next read.
import StatementShell.Proofs.Segmentation
import StatementShell.Proofs.SessionEvents

namespace StatementShell

/-- The text of all lines that some passes read. -/
def textRead {σ : Type} (passes : List (Turn σ)) : Text :=
  (passes.map (fun t => t.reading.added)).flatten

namespace InputBuffer

theorem feed_singleton (b : InputBuffer) (x : Text) :
    b.feed [x] =
      ((Segment.extractAll (b.text ++ x)).1, ⟨(Segment.extractAll (b.text ++ x)).2⟩) := by
  rw [feed_cons]
  simp [feed]

theorem feed_cons_fst (b : InputBuffer) (x : Text) (xs : List Text) :
    (b.feed (x :: xs)).1 = (b.feed [x]).1 ++ ((b.feed [x]).2.feed xs).1 := by
  rw [feed_cons, feed_singleton]

/-- A chunk of nothing completes nothing. -/
theorem feed_nothing {b : InputBuffer} (hb : Segment.terminator? b.text = none) :
    b.feed [[]] = ([], b) := by
  rw [feed_singleton, List.append_nil,
    Segment.extractAll_of_none (Segment.extract?_eq_none_iff.2 hb)]

/-- After a chunk, the buffer holds no complete statement. -/
theorem terminator?_feed_singleton (b : InputBuffer) (x : Text) :
    Segment.terminator? (b.feed [x]).2.text = none := by
  rw [feed_singleton]
  exact Segment.terminator?_extractAll _

end InputBuffer

namespace Client

variable {σ : Type} (c : Client σ)

/-! ## Passes and chunks -/

/-- Passes handle their statements as a buffer gives them that is fed with their lines, one
line after the other, up to an answer that ends the session. -/
structure InStep (b : InputBuffer) (rs : List Reading) (passes : List (Turn σ)) : Prop where
  reads : passes.map Turn.reading <+: rs
  inTime : ∀ i < passes.length,
    ((passes.take i).flatMap c.callsOf).map Call.statement =
      (b.feed ((passes.take i).map (fun t => t.reading.added))).1
  order : (passes.flatMap c.callsOf).map Call.statement <+:
    (b.feed (passes.map (fun t => t.reading.added))).1
  ends : c.StopsWith (passes.flatMap c.callsOf) (.ok true) ∨
    (c.AllGoOn (passes.flatMap c.callsOf) ∧ passes.map Turn.reading = rs ∧
      (passes.flatMap c.callsOf).map Call.statement =
        (b.feed (passes.map (fun t => t.reading.added))).1)

/-- A pass that handles all statements of its line leads the others. -/
theorem InStep.cons {b : InputBuffer} {rs : List Reading} {passes : List (Turn σ)} {t : Turn σ}
    (hcalls : (c.callsOf t).map Call.statement = (b.feed [t.reading.added]).1)
    (hon : c.AllGoOn (c.callsOf t))
    (h : c.InStep (b.feed [t.reading.added]).2 rs passes) :
    c.InStep b (t.reading :: rs) (t :: passes) := by
  refine ⟨?_, ?_, ?_, ?_⟩
  · exact List.cons_prefix_cons.2 ⟨rfl, h.reads⟩
  · intro i hi
    cases i with
    | zero => rfl
    | succ i =>
      rw [List.take_succ_cons, List.flatMap_cons, List.map_append, List.map_cons,
        InputBuffer.feed_cons_fst, hcalls, h.inTime i (by simpa using hi)]
  · rw [List.flatMap_cons, List.map_append, List.map_cons, InputBuffer.feed_cons_fst, hcalls]
    exact List.prefix_append_right_inj _ |>.2 h.order
  · rw [List.flatMap_cons]
    rcases h.ends with hstop | ⟨hgo, hreads, hall⟩
    · exact .inl (hon.append_stopsWith c hstop)
    · refine .inr ⟨hon.append c hgo, by rw [List.map_cons, hreads], ?_⟩
      rw [List.map_append, List.map_cons, InputBuffer.feed_cons_fst, hcalls, hall]

/-- A pass of the end of the input. -/
theorem inStep_endOfInput {t : Turn σ} (hr : t.reading = .endOfInput) {b : InputBuffer}
    (hb : Segment.terminator? b.text = none) : c.InStep b [.endOfInput] [t] := by
  have hcalls : c.callsOf t = [] := c.callsOf_of_not_line (by simp [hr])
  refine ⟨by simp [hr], ?_, ?_, .inr ⟨?_, by simp [hr], ?_⟩⟩
  · intro i hi
    obtain rfl : i = 0 := by simpa using hi
    rfl
  · simp [hcalls]
  · simp [hcalls, allGoOn_nil]
  · simp [hcalls, hr, InputBuffer.feed_nothing hb]

/-- A pass whose last answer ends the session. -/
theorem inStep_of_stopsWith {t : Turn σ} {b : InputBuffer} {rs : List Reading}
    (hcalls : (c.callsOf t).map Call.statement <+: (b.feed [t.reading.added]).1)
    (hstop : c.StopsWith (c.callsOf t) (.ok true)) : c.InStep b (t.reading :: rs) [t] := by
  refine ⟨?_, ?_, ?_, .inl ?_⟩
  · exact List.cons_prefix_cons.2 ⟨rfl, List.nil_prefix⟩
  · intro i hi
    obtain rfl : i = 0 := by simpa using hi
    rfl
  · simpa using hcalls
  · simpa using hstop

/-! ## The loop -/

/-- Only failures are raised, and they have words, so no call is left before its report. -/
theorem answers_of_stopsWith (hh : c.handler.OnlyFails) {xs : List (Call σ)}
    (hx : ∀ x ∈ xs, c.Speaks x) {o : Except Raised Bool} (h : c.StopsWith xs o) :
    ∃ e, o = .ok e := by
  obtain ⟨ys, x, rfl, rfl, -⟩ := h
  rw [outcome_tried]
  cases ha : c.answer x with
  | ok e => exact ⟨e, rfl⟩
  | error r =>
    obtain ⟨f, rfl⟩ := hh _ _ _ ha
    exact ⟨false, settle_of_hasWords (hx x (by simp) f ha)⟩

theorem not_leftBy (hh : c.handler.OnlyFails) {t : Turn σ} (hw : c.Articulate t)
    {o : Except Failure Text} (hr : t.reading = .ofOutcome o) (r : Raised) : ¬ c.LeftBy t r := by
  intro hleft
  cases hleft with
  | interrupt h => cases o <;> simp [hr, Reading.ofOutcome] at h
  | exit h => cases o <;> simp [hr, Reading.ofOutcome] at h
  | wordless h hf => cases (hw.read _ h).symm.trans hf
  | call hstop =>
    obtain ⟨e, he⟩ := c.answers_of_stopsWith hh hw.calls hstop
    cases he

/-- A pass that goes on, and is left by nothing, gives the handler what its line gives the
buffer. -/
theorem callsOf_of_goesOn {t : Turn σ} (hs : Segment.terminator? t.session.buffer.text = none)
    (hon : (c.passOf t).ending = none) (hleft : ∀ r, ¬ c.LeftBy t r) :
    c.AllGoOn (c.callsOf t) ∧
      (c.callsOf t).map Call.statement = (t.session.buffer.feed [t.reading.added]).1 ∧
      (c.passOf t).session.buffer = (t.session.buffer.feed [t.reading.added]).2 := by
  have hdoes := c.passOf_does t
  generalize (c.passOf t).session = s' at hdoes ⊢
  rw [hon] at hdoes
  cases hdoes with
  | readFails _ hr =>
    rw [c.callsOf_of_not_line (by simp [hr]), hr, Reading.added_raises,
      InputBuffer.feed_nothing hs]
    exact ⟨c.allGoOn_nil, rfl, rfl⟩
  | interrupted _ h => exact absurd h (hleft _)
  | recovered _ _ hstop _ => exact absurd (.call hstop) (hleft _)
  | waits _ hr hrest hcalls hgo =>
    rw [hr, Reading.added_line, InputBuffer.feed_singleton]
    exact ⟨hgo, hcalls, congrArg InputBuffer.mk hrest⟩

/-- A pass over a line or a failure that ends the loop does so by an answer. -/
theorem inStep_of_ends {t : Turn σ} {o : Except Failure Text} {e : Ending}
    (hr : t.reading = .ofOutcome o) (hb : c.Shows t) (hleft : ∀ r, ¬ c.LeftBy t r)
    (he : (c.passOf t).ending = some e) (rs : List Reading) :
    c.InStep t.session.buffer (t.reading :: rs) [t] := by
  have hdoes := c.passOf_does t
  rw [he] at hdoes
  generalize (c.passOf t).session = s' at hdoes
  cases hdoes with
  | promptFails hf =>
    obtain ⟨shown, hshown⟩ := hb
    rw [hf] at hshown
    cases hshown
  | readBroken _ h => cases o <;> simp [hr, Reading.ofOutcome] at h
  | inputEnds _ h => cases o <;> simp [hr, Reading.ofOutcome] at h
  | @handlerEnds l _ hl hstop =>
    obtain ⟨shown, hshown⟩ := hb
    refine c.inStep_of_stopsWith ?_ hstop
    rw [c.callsOf_of_line hshown hl, hl, Reading.added_line, InputBuffer.feed_singleton]
    exact c.calls_prefix _ _
  | escaped _ h => exact absurd h (hleft _)

/-- A loop keeps in step with its buffer. -/
theorem turns_inStep (hh : c.handler.OnlyFails) (outcomes : List (Except Failure Text))
    (h : σ) (s : Session) (hs : Segment.terminator? s.buffer.text = none)
    (hp : ∀ t ∈ c.turns h s (outcomes.map Reading.ofOutcome), c.Shows t)
    (hw : ∀ t ∈ c.turns h s (outcomes.map Reading.ofOutcome), c.Articulate t) :
    c.InStep s.buffer (outcomes.map Reading.ofOutcome ++ [.endOfInput])
      (c.turns h s (outcomes.map Reading.ofOutcome)) := by
  -- What each pass hands on to the next is a buffer without a complete statement.
  induction outcomes generalizing h s with
  | nil => exact c.inStep_endOfInput rfl hs
  | cons o os ih =>
    let t : Turn σ := ⟨h, s, .ofOutcome o⟩
    rw [List.map_cons] at hp hw ⊢
    have hleft : ∀ r, ¬ c.LeftBy t r := c.not_leftBy hh (hw t List.mem_cons_self) rfl
    cases hpass : (c.pass h s (.ofOutcome o)).ending with
    | none =>
      rw [c.turns_of_goesOn hpass] at hp hw ⊢
      obtain ⟨hgo, hcalls, hbuffer⟩ := c.callsOf_of_goesOn (t := t) hs hpass hleft
      have hnext := InputBuffer.terminator?_feed_singleton s.buffer t.reading.added
      rw [← hbuffer] at hnext
      have hrest := ih _ _ hnext (fun u hu => hp u (List.mem_cons_of_mem _ hu))
        (fun u hu => hw u (List.mem_cons_of_mem _ hu))
      exact InStep.cons c (t := t) hcalls hgo (hbuffer ▸ hrest)
    | some e =>
      rw [c.turns_of_ends hpass] at hp ⊢
      exact c.inStep_of_ends (t := t) rfl (hp t (List.mem_singleton.2 rfl)) hleft hpass _

/-! ## The law of order -/

theorem not_asksForEnd_of_allGoOn {xs : List (Call σ)} (h : c.AllGoOn xs) :
    ∀ x ∈ xs, ¬ c.AsksForEnd x := by
  intro x hx hend
  have hon := h x hx
  rw [outcome_tried, (c.answer_eq_ok_true_iff x).2 hend] at hon
  cases hon

theorem asksForEnd_of_stopsWith {xs : List (Call σ)} (h : c.StopsWith xs (.ok true)) :
    ∃ before last, xs = before ++ [last] ∧ c.AsksForEnd last ∧
      ∀ x ∈ before, ¬ c.AsksForEnd x := by
  obtain ⟨ys, x, rfl, hx, hys⟩ := h
  rw [outcome_tried, settle_eq_ok_true_iff, answer_eq_ok_true_iff] at hx
  exact ⟨ys, x, rfl, hx, c.not_asksForEnd_of_allGoOn hys⟩

/-- Where every failure of its run has words, a session hands over the pieces that one scan of all
that it read cuts, in order, up to the first whose answer asks for the end, or all of them where
there is none; then the session has read its whole input. Blanks at the fronts apart, the pieces
that are complete before a read are the statements that were handed over before it, so each is
handed over between the read of the line that completes it and the next read. -/
theorem statements_are_the_pieces_of_one_scan (h : σ) (consoleAttached : Bool)
    (outcomes : List (Except Failure Text)) (hh : c.handler.OnlyFails)
    (hp : consoleAttached = false ∨
      ∀ t ∈ c.history h consoleAttached (outcomes.map Reading.ofOutcome), c.Shows t)
    (hw : ∀ t ∈ c.history h consoleAttached (outcomes.map Reading.ofOutcome), c.Articulate t) :
    let readings := outcomes.map Reading.ofOutcome
    let passes := c.history h consoleAttached readings
    let calls := passes.flatMap c.callsOf
    let pieces := (Segment.scan (textRead passes)).pieces
    (c.mainLoop h consoleAttached readings).events =
      c.greeted h consoleAttached ++ passes.flatMap c.eventsOf ∧
    (c.handler.Discreet →
      Event.handled (c.mainLoop h consoleAttached readings).events = calls.map Call.statement) ∧
    passes.map Turn.reading <+: readings ++ [.endOfInput] ∧
    calls.map (fun x => Text.trimFront x.statement) <+: pieces.map Text.trimFront ∧
    ((∃ before last, calls = before ++ [last] ∧ c.AsksForEnd last ∧
        ∀ x ∈ before, ¬ c.AsksForEnd x) ∨
      (calls.length = pieces.length ∧ (∀ x ∈ calls, ¬ c.AsksForEnd x) ∧
        (passes = [] ∨ passes.map Turn.reading = readings ++ [.endOfInput]))) ∧
    ∀ i < passes.length,
      ((passes.take i).flatMap c.callsOf).map (fun x => Text.trimFront x.statement) =
        (Segment.scan (textRead (passes.take i))).pieces.map Text.trimFront := by
  intro readings passes calls pieces
  have hshows : ∀ t ∈ passes, c.Shows t := by
    rcases hp with rfl | hp
    · exact c.shows_of_no_console
    · exact hp
  refine ⟨c.events_mainLoop h consoleAttached readings,
    fun hown => c.handled_mainLoop hown h consoleAttached readings hshows, ?_⟩
  cases hg : c.greeting h (Session.start consoleAttached) with
  | error f =>
    have hnone : passes = [] := (c.history_of_error hg readings).1
    simp [calls, pieces, hnone, textRead, Segment.scan, Segment.Scan.start]
  | ok events =>
    have hpasses : passes = c.turns h (Session.start consoleAttached) readings :=
      (c.history_of_ok hg readings).1
    have hstep : c.InStep .empty (readings ++ [.endOfInput]) passes := by
      have hwords : ∀ t ∈ passes, c.Articulate t := hw
      rw [hpasses] at hshows hwords ⊢
      exact c.turns_inStep hh outcomes h _ rfl hshows hwords
    have hscan (ts : List (Turn σ)) :
        (InputBuffer.empty.feed (ts.map (fun t => t.reading.added))).1.map Text.trimFront =
          (Segment.scan (textRead ts)).pieces.map Text.trimFront :=
      map_trimFront_of_trims (InputBuffer.feed_empty_trims _).1
    have hmap (xs : List (Call σ)) : xs.map (fun x => Text.trimFront x.statement) =
        (xs.map Call.statement).map Text.trimFront := by simp
    refine ⟨hstep.reads, ?_, ?_, ?_⟩
    · rw [hmap, ← hscan passes]
      exact hstep.order.map Text.trimFront
    · rcases hstep.ends with hstop | ⟨hgo, hreads, hall⟩
      · exact .inl (c.asksForEnd_of_stopsWith hstop)
      · refine .inr ⟨?_, c.not_asksForEnd_of_allGoOn hgo, .inr hreads⟩
        have := congrArg List.length (hscan passes)
        rw [← hall, List.length_map, List.length_map, List.length_map] at this
        exact this
    · intro i hi
      rw [hmap, hstep.inTime i hi, hscan]

/-- The sample hands four statements over. The last one, `EXIT;`, ends its session, so that the
line with `D;` stays unread. -/
theorem statements_of_the_sample :
    let readings := sampleScript.map Reading.ofOutcome
    let passes := sample.history () false readings
    let run := sample.mainLoop () false readings
    Event.handled run.events =
        ["A;".toList, "'x\n;' ;".toList, "B;".toList, "EXIT;".toList] ∧
      run.ending = .returned ∧ run.unread = [.line "D;"] ∧
      (∃ before last, passes.flatMap sample.callsOf = before ++ [last] ∧
        last.statement = "EXIT;".toList ∧ sample.AsksForEnd last) ∧
      ∀ i < passes.length,
        ((passes.take i).flatMap sample.callsOf).map (fun x => Text.trimFront x.statement) =
          (Segment.scan (textRead (passes.take i))).pieces.map Text.trimFront := by
  intro readings passes run
  obtain ⟨-, hhandled, -, -, -, htime⟩ := sample.statements_are_the_pieces_of_one_scan () false
    sampleScript sample_onlyFails (.inl rfl) sample_articulate
  refine ⟨?_, mainLoop_sample.1, mainLoop_sample.2, ?_, htime⟩
  · rw [show Event.handled run.events = _ from hhandled (Handler.discreet_ofAnswers _),
      calls_sample]
    rfl
  · exact ⟨[⟨(), "A;".toList⟩, ⟨(), "'x\n;' ;".toList⟩, ⟨(), "B;".toList⟩], ⟨(), "EXIT;".toList⟩,
      calls_sample, rfl, rfl⟩

/-- A statement that stands behind one whose failure has no words is lost at the end of the
input, though the whole text was read, and nothing asked for the end. -/
theorem wordless_failure_loses_a_statement :
    let readings : List Reading := [.line "A; B;"]
    let passes := wordlessSample.history () false readings
    Event.handled (wordlessSample.mainLoop () false readings).events = ["A;".toList] ∧
      (Segment.scan (textRead passes)).pieces = ["A;".toList, " B;".toList] ∧
      passes.map Turn.reading = readings ++ [.endOfInput] ∧
      ∀ x ∈ passes.flatMap wordlessSample.callsOf, ¬ wordlessSample.AsksForEnd x := by
  intro readings passes
  have hhandled := wordlessSample.handled_mainLoop (Handler.discreet_ofAnswers _) () false readings
    wordlessSample.shows_of_no_console
  rw [calls_wordlessSample] at hhandled
  refine ⟨hhandled, ?_, ?_, ?_⟩
  · rw [show passes = _ from history_wordlessSample]
    decide
  · rw [show passes = _ from history_wordlessSample]
    rfl
  · rw [show passes.flatMap wordlessSample.callsOf = _ from calls_wordlessSample]
    intro x hx hend
    rw [List.mem_singleton.1 hx] at hend
    cases hend

end Client

end StatementShell
