-- The isolation of failures. A session in which reads and statements fail is compared with one
-- in which the failed reads are left out and the failed statements get a calm answer. If the
-- failures have words, both make the same calls and the same other reads, and end alike; what a
-- failure leaves behind is its line in the output and its line in the log.
import StatementShell.Proofs.SessionEvents

namespace StatementShell

/-! ## The pure model -/

/-- A handler that answers where another one fails. It does all that the other one did before
the failure. -/
def Handler.healed {σ : Type} (hd : Handler σ) (calm : σ → Text → Reply) : Handler σ :=
  { hd with
    handle := fun h statement =>
      let s := hd.handle h statement
      match s.outcome.bind Reply.ends with
      | .error (.failure _) => { s with outcome := .ok (calm h statement) }
      | _ => s }

/-- A read that does not fail. -/
def Reading.succeeds : Reading → Bool
  | .raises (.failure _) => false
  | _ => true

/-- An event that writes. -/
def Event.isWrite : Event → Bool
  | .write _ => true
  | _ => false

/-- A line of the log about an error. -/
def Event.isErrorRecord : Event → Bool
  | .log .error _ _ => true
  | _ => false

/-- A handler that leaves all writing to the session. -/
def Handler.WritesNothing {σ : Type} (hd : Handler σ) : Prop :=
  ∀ h statement, ∀ e ∈ (hd.handle h statement).events, e.isWrite = false

/-- A handler that leaves the errors in the log to the session. -/
def Handler.LogsNoError {σ : Type} (hd : Handler σ) : Prop :=
  ∀ h statement, ∀ e ∈ (hd.handle h statement).events, e.isErrorRecord = false

namespace Client

variable {σ : Type} (c : Client σ)

def healed (calm : σ → Text → Reply) : Client σ :=
  { c with handler := c.handler.healed calm }

/-- The failure that a call ends in, if it does. -/
def failureOf (x : Call σ) : List Report :=
  match c.answer x with
  | .error (.failure f) => [.dispatch x.statement (.failure f)]
  | _ => []

/-- The failures of a pass, in the order in which they happen. -/
def failuresOf (t : Turn σ) : List Report :=
  match t.reading with
  | .raises (.failure f) => [.input (.failure f)]
  | _ => (c.callsOf t).flatMap c.failureOf

/-- Two runs end in the same states and in the same way. -/
structure SameEnd (r r' : Run σ) : Prop where
  handler : r.handler = r'.handler
  session : r.session = r'.session
  ending : r.ending = r'.ending

/-! ## The session without its failures -/

section Healed

variable {calm : σ → Text → Reply} (hcalm : ∀ h statement, (calm h statement).ends = .ok false)

include hcalm

/-- A call to the healed handler leads to what a call to the failing one leads to. -/
theorem tried_healed {x : Call σ} (hx : c.Speaks x) :
    ((c.healed calm).tried x).state = (c.tried x).state ∧
      ((c.healed calm).tried x).outcome = (c.tried x).outcome := by
  have hwords := hx
  unfold Speaks answer at hwords
  obtain ⟨h, statement⟩ := x
  simp only [tried, dispatch, healed, Handler.healed]
  cases ha : (c.handler.handle h statement).outcome.bind Reply.ends with
  | ok ends => simp [ha]
  | error r =>
    cases r with
    | failure f =>
      have hf : f.words = .ok f.message := hwords f ha
      simp [Except.bind, hcalm, Report.ofStatement, hf, Except.map]
    | interrupt m => simp [ha]
    | exit m => simp [ha]

theorem calls_healed {h : σ} {ts : List Text} (hx : ∀ x ∈ c.calls h ts, c.Speaks x) :
    (c.healed calm).calls h ts = c.calls h ts := by
  induction ts generalizing h with
  | nil => rfl
  | cons t ts ih =>
    obtain ⟨hstate, houtcome⟩ := c.tried_healed hcalm (hx ⟨h, t⟩ List.mem_cons_self)
    by_cases ho : (c.tried ⟨h, t⟩).outcome = .ok false
    · rw [c.calls_cons_of_goesOn ho] at hx ⊢
      rw [calls_cons_of_goesOn _ (houtcome.trans ho), hstate,
        ih (fun x hmem => hx x (List.mem_cons_of_mem _ hmem))]
    · rw [c.calls_cons_of_stops ho, calls_cons_of_stops _ (houtcome ▸ ho)]

theorem runBuffer_healed {h : σ} {b : InputBuffer}
    (hx : ∀ x ∈ c.calls h (Segment.extractAll b.text).1, c.Speaks x) :
    ((c.healed calm).runBuffer h b).2 = (c.runBuffer h b).2 := by
  induction hn : b.text.length using Nat.strongRecOn generalizing h b with
  | _ n ih =>
    cases hb : b.extract? with
    | none => rw [runBuffer_of_none _ hb, runBuffer_of_none _ hb]
    | some p =>
      obtain ⟨t, rest⟩ := p
      have hlt := hn ▸ InputBuffer.length_lt_of_extract? hb
      rw [Segment.extractAll_of_some (InputBuffer.extract?_text hb)] at hx
      have hfirst : (⟨h, t⟩ : Call σ) ∈ c.calls h (t :: (Segment.extractAll rest.text).1) :=
        List.mem_cons_self
      obtain ⟨hstate, houtcome⟩ := c.tried_healed hcalm (hx _ hfirst)
      simp only [tried] at hstate houtcome
      rw [runBuffer_of_some _ hb, runBuffer_of_some _ hb, hstate, houtcome]
      cases ho : (c.dispatch h t).outcome with
      | error r => rfl
      | ok ends =>
        cases ends with
        | true => rfl
        | false =>
          rw [c.calls_cons_of_goesOn (show (c.tried ⟨h, t⟩).outcome = .ok false from ho)] at hx
          exact ih _ hlt (fun x hmem => hx x (List.mem_cons_of_mem _ hmem)) rfl

/-- A pass whose calls have words for their failures leads to the same states and the same
ending. -/
theorem pass_healed {t : Turn σ} (hx : ∀ x ∈ c.callsOf t, c.Speaks x) :
    ((c.healed calm).passOf t).handler = (c.passOf t).handler ∧
      ((c.healed calm).passOf t).session = (c.passOf t).session ∧
      ((c.healed calm).passOf t).ending = (c.passOf t).ending := by
  obtain ⟨h, s, r⟩ := t
  have hbefore : (c.healed calm).beforeRead h s = c.beforeRead h s := rfl
  have hrecover : (c.healed calm).recover = c.recover := rfl
  have hleave : (c.healed calm).leave = c.leave := rfl
  unfold passOf pass
  dsimp only
  rw [hbefore, hrecover]
  cases hb : c.beforeRead h s with
  | error f => exact ⟨rfl, rfl, rfl⟩
  | ok shown =>
    cases r with
    | endOfInput => exact ⟨rfl, rfl, rfl⟩
    | broken f => exact ⟨rfl, rfl, rfl⟩
    | raises r => cases r <;> exact ⟨rfl, rfl, rfl⟩
    | line l =>
      rw [c.callsOf_of_line (t := ⟨h, s, .line l⟩) hb rfl] at hx
      have hrun := c.runBuffer_healed hcalm (b := s.buffer.append (l ++ ['\n'])) hx
      simp only [afterRead, hleave]
      rcases hfirst : c.runBuffer h (s.buffer.append (l ++ ['\n'])) with ⟨events, h', p⟩
      rcases hsecond : (c.healed calm).runBuffer h (s.buffer.append (l ++ ['\n'])) with
        ⟨events', h'', p'⟩
      rw [hfirst, hsecond] at hrun
      obtain ⟨rfl, rfl⟩ := Prod.mk.inj hrun
      cases p' with
      | waits b => exact ⟨rfl, rfl, rfl⟩
      | ends => exact ⟨rfl, rfl, rfl⟩
      | left r b =>
        cases r with
        | interrupt m => exact ⟨rfl, rfl, rfl⟩
        | exit m => exact ⟨rfl, rfl, rfl⟩
        | failure f =>
          simp only [leave]
          cases c.recover f <;> exact ⟨rfl, rfl, rfl⟩

theorem callsOf_healed {t : Turn σ} (hx : ∀ x ∈ c.callsOf t, c.Speaks x) :
    (c.healed calm).callsOf t = c.callsOf t := by
  have hbefore : (c.healed calm).beforeRead t.handler t.session =
      c.beforeRead t.handler t.session := rfl
  unfold callsOf at hx ⊢
  rw [hbefore]
  split
  next hb hr =>
    rw [hb, hr] at hx
    exact c.calls_healed hcalm hx
  next => rfl

end Healed

/-- A read that fails with words changes nothing. -/
theorem pass_of_readFails {h : σ} {s : Session} (hs : s.consoleAttached = false) {f : Failure}
    (hf : f.HasWords) :
    (c.pass h s (.raises (.failure f))).handler = h ∧
      (c.pass h s (.raises (.failure f))).session = s ∧
      (c.pass h s (.raises (.failure f))).ending = none := by
  rw [pass, c.beforeRead_of_no_console hs]
  simp only [afterRead, Report.ofRead, show f.words = _ from hf]
  exact ⟨rfl, rfl, rfl⟩

/-- The two loops make the same passes, those of the failed reads apart, and end alike. -/
theorem loop_healed {calm : σ → Text → Reply}
    (hcalm : ∀ h statement, (calm h statement).ends = .ok false)
    (outcomes : List (Except Failure Text)) (h : σ) (s : Session)
    (hs : s.consoleAttached = false)
    (hw : ∀ t ∈ c.turns h s (outcomes.map Reading.ofOutcome), c.Articulate t) :
    let readings := outcomes.map Reading.ofOutcome
    let surviving := (outcomes.filter Except.isOk).map Reading.ofOutcome
    (c.healed calm).turns h s surviving =
        (c.turns h s readings).filter (fun t => t.reading.succeeds) ∧
      SameEnd ((c.healed calm).loop h s surviving) (c.loop h s readings) := by
  -- A failed read is a pass of one loop only, which leaves all as it was; every other pass has
  -- its like in the other loop.
  induction outcomes generalizing h s with
  | nil =>
    intro readings surviving
    obtain ⟨hhandler, hsession, hending⟩ :=
      c.pass_healed hcalm (hw ⟨h, s, .endOfInput⟩ (List.mem_singleton.2 rfl)).calls
    exact ⟨rfl, hhandler, hsession, congrArg (Option.getD · Ending.returned) hending⟩
  | cons o os ih =>
    intro readings surviving
    cases o with
    | error f =>
      have hf : f.HasWords := (hw ⟨h, s, .raises (.failure f)⟩ List.mem_cons_self).read f rfl
      obtain ⟨hhandler, hsession, hending⟩ := c.pass_of_readFails (h := h) hs hf
      have hturns := c.turns_of_goesOn hending (os.map Reading.ofOutcome)
      have hloop := c.loop_of_goesOn hending (os.map Reading.ofOutcome)
      rw [hhandler, hsession] at hturns hloop
      have hrest : ∀ t ∈ c.turns h s (os.map Reading.ofOutcome), c.Articulate t := by
        intro t ht
        refine hw t ?_
        rw [List.map_cons, Reading.ofOutcome, hturns]
        exact List.mem_cons_of_mem _ ht
      obtain ⟨ihturns, ihend⟩ := ih h s hs hrest
      refine ⟨?_, ?_⟩
      · exact ihturns.trans
          (congrArg (List.filter fun t : Turn σ => t.reading.succeeds) hturns).symm
      · exact ⟨ihend.handler.trans (congrArg Run.handler hloop).symm,
          ihend.session.trans (congrArg Run.session hloop).symm,
          ihend.ending.trans (congrArg Run.ending hloop).symm⟩
    | ok l =>
      obtain ⟨hhandler, hsession, hending⟩ :=
        c.pass_healed hcalm (hw ⟨h, s, .line l⟩ List.mem_cons_self).calls
      simp only [passOf] at hhandler hsession hending
      have hsurviving : surviving =
          .line l :: (os.filter Except.isOk).map Reading.ofOutcome := rfl
      have hreadings : readings = .line l :: os.map Reading.ofOutcome := rfl
      rw [hsurviving, hreadings]
      cases hpass : (c.pass h s (.line l)).ending with
      | none =>
        have hnext := (c.consoleAttached_pass h s (.line l)).trans hs
        rw [List.map_cons, Reading.ofOutcome, c.turns_of_goesOn hpass] at hw
        obtain ⟨ihturns, ihend⟩ := ih (c.pass h s (.line l)).handler _ hnext
          (fun t ht => hw t (List.mem_cons_of_mem _ ht))
        rw [hpass] at hending
        rw [turns_of_goesOn _ hending, turns_of_goesOn _ hpass, loop_of_goesOn _ hending,
          loop_of_goesOn _ hpass, hhandler, hsession]
        exact ⟨congrArg (List.cons _) ihturns, ihend.handler, ihend.session, ihend.ending⟩
      | some e =>
        rw [hpass] at hending
        rw [turns_of_ends _ hending, turns_of_ends _ hpass, loop_of_ends _ hending,
          loop_of_ends _ hpass]
        exact ⟨rfl, hhandler, hsession, rfl⟩

/-- The calls of a loop are those of its passes whose reads succeed. -/
theorem flatMap_callsOf_filter (passes : List (Turn σ)) :
    (passes.filter (fun t => t.reading.succeeds)).flatMap c.callsOf = passes.flatMap c.callsOf := by
  induction passes with
  | nil => rfl
  | cons t ts ih =>
    rw [List.filter_cons, List.flatMap_cons]
    split
    · rw [List.flatMap_cons, ih]
    next hf =>
      have hcalls : c.callsOf t = [] := by
        refine c.callsOf_of_not_line ?_
        intro l hl
        simp [hl, Reading.succeeds] at hf
      rw [ih, hcalls, List.nil_append]

/-! ## What failures leave behind -/

/-- A property of events that only the report of a failure has: no other event of the session
has it, and none of the handler's own. -/
structure TellsFailures (p : Event → Bool) : Prop where
  read : ∀ buffer phase, p (.read buffer phase) = false
  handle : ∀ statement, p (.handle statement) = false
  debug : ∀ message cause, p (.log .debug message cause) = false
  own : ∀ h statement, ∀ e ∈ (c.handler.handle h statement).events, p e = false

variable {p : Event → Bool} (hp : c.TellsFailures p)

include hp

theorem filter_debug (message : Text) (cause : Option Raised) :
    (c.log .debug message cause).filter p = [] := by
  unfold log
  split
  · rw [List.filter_cons_of_neg (by simp [hp.debug]), List.filter_nil]
  · rfl

theorem filter_callEvents (hh : c.handler.OnlyFails) {x : Call σ} (hx : c.Speaks x) :
    (c.callEvents x).filter p = (c.failureOf x).flatMap (fun r => (c.report r).filter p) := by
  have hown : (c.handler.handle x.handler x.statement).events.filter p = [] := by
    rw [List.filter_eq_nil_iff]
    intro e he
    simp [hp.own _ _ e he]
  have hhandle : p (.handle x.statement) = false := hp.handle x.statement
  rw [callEvents, events_tried, outcome_tried, reportOf, failureOf]
  cases ha : c.answer x with
  | ok ends => simp [c.filter_debug hp, hhandle, hown, settle]
  | error r =>
    obtain ⟨f, rfl⟩ := hh _ _ _ ha
    have hf : f.words = .ok f.message := hx f ha
    simp [c.filter_debug hp, hhandle, hown, settle, Report.ofStatement, hf, Except.map,
      Except.toOption]

theorem filter_eventsOf (hh : c.handler.OnlyFails) {t : Turn σ} (hw : c.Articulate t)
    (hs : t.session.consoleAttached = false)
    (hr : (∃ o, t.reading = .ofOutcome o) ∨ t.reading = .endOfInput) :
    (c.eventsOf t).filter p = (c.failuresOf t).flatMap (fun r => (c.report r).filter p) := by
  have hcalls : ((c.callsOf t).flatMap c.callEvents).filter p =
      ((c.callsOf t).flatMap c.failureOf).flatMap (fun r => (c.report r).filter p) := by
    rw [List.filter_flatMap, List.flatMap_assoc]
    exact List.flatMap_congr fun x hx => c.filter_callEvents hp hh (hw.calls x hx)
  rw [eventsOf, c.beforeRead_of_no_console hs]
  simp only [List.nil_append, aftermath, readEvents, failuresOf]
  rw [List.filter_cons_of_neg (by simp [hp.read]), List.filter_append, hcalls]
  rcases hr with ⟨o, hr⟩ | hr
  · cases o with
    | ok l => simp [hr, Reading.ofOutcome]
    | error f =>
      have hf : f.words = .ok f.message := hw.read f hr
      rw [c.callsOf_of_not_line (by simp [hr, Reading.ofOutcome])]
      simp [hr, Reading.ofOutcome, Report.ofRead, hf, Except.map]
  · rw [c.callsOf_of_not_line (by simp [hr]), hr]
    by_cases he : t.session.buffer.isEmpty
    · simp [he]
    · simp [he, c.filter_debug hp]

/-- In a session, an event with such a property is one of the report of a failure. -/
theorem filter_events_mainLoop (hh : c.handler.OnlyFails) (h : σ)
    (outcomes : List (Except Failure Text))
    (hw : ∀ t ∈ c.history h false (outcomes.map Reading.ofOutcome), c.Articulate t) :
    let readings := outcomes.map Reading.ofOutcome
    (c.mainLoop h false readings).events.filter p =
      ((c.history h false readings).flatMap c.failuresOf).flatMap
        (fun r => (c.report r).filter p) := by
  intro readings
  have hgreeted : c.greeted h false = [] := rfl
  rw [c.events_mainLoop, hgreeted, List.nil_append, List.filter_flatMap, List.flatMap_assoc]
  refine List.flatMap_congr fun t ht => c.filter_eventsOf hp hh (hw t ht) ?_ ?_
  · exact c.consoleAttached_of_mem_history ht
  · rcases c.reading_of_mem_history ht with hr | hr
    · obtain ⟨o, -, ho⟩ := List.mem_map.1 hr
      exact .inl ⟨o, ho.symm⟩
    · exact .inr hr

omit hp

theorem filter_isWrite_log (level : LogLevel) (message : Text) (cause : Option Raised) :
    (c.log level message cause).filter Event.isWrite = [] := by
  unfold log
  split <;> rfl

theorem filter_isErrorRecord_log (message : Text) (cause : Option Raised) :
    (c.log .error message cause).filter Event.isErrorRecord = c.log .error message cause := by
  unfold log
  split <;> rfl

theorem writes_mainLoop (hh : c.handler.OnlyFails) (hown : c.handler.WritesNothing) (h : σ)
    (outcomes : List (Except Failure Text))
    (hw : ∀ t ∈ c.history h false (outcomes.map Reading.ofOutcome), c.Articulate t) :
    (c.mainLoop h false (outcomes.map Reading.ofOutcome)).events.filter Event.isWrite =
      ((c.history h false (outcomes.map Reading.ofOutcome)).flatMap c.failuresOf).map
        (fun r => .write r.line) := by
  have hp : c.TellsFailures Event.isWrite :=
    ⟨fun _ _ => rfl, fun _ => rfl, fun _ _ => rfl, hown⟩
  have hreport : ∀ r, (c.report r).filter Event.isWrite = [.write r.line] := by
    intro r
    rw [report, List.filter_cons_of_pos rfl, c.filter_isWrite_log]
  rw [c.filter_events_mainLoop hp hh h outcomes hw]
  simp only [hreport]
  exact List.map_eq_flatMap.symm

theorem errorRecords_mainLoop (hh : c.handler.OnlyFails) (hown : c.handler.LogsNoError) (h : σ)
    (outcomes : List (Except Failure Text))
    (hw : ∀ t ∈ c.history h false (outcomes.map Reading.ofOutcome), c.Articulate t) :
    (c.mainLoop h false (outcomes.map Reading.ofOutcome)).events.filter Event.isErrorRecord =
      if c.logLevel.rank ≤ LogLevel.error.rank then
        ((c.history h false (outcomes.map Reading.ofOutcome)).flatMap c.failuresOf).map
          (fun r => .log .error failureNote (some r.cause))
      else [] := by
  have hp : c.TellsFailures Event.isErrorRecord :=
    ⟨fun _ _ => rfl, fun _ => rfl, fun _ _ => rfl, hown⟩
  have hreport : ∀ r, (c.report r).filter Event.isErrorRecord =
      c.log .error failureNote (some r.cause) := by
    intro r
    rw [report, List.filter_cons_of_neg (by simp [Event.isErrorRecord]),
      c.filter_isErrorRecord_log]
  rw [c.filter_events_mainLoop hp hh h outcomes hw]
  simp only [hreport, log]
  split
  · exact List.map_eq_flatMap.symm
  · rw [List.flatMap_eq_nil_iff]
    intro r _
    rfl

theorem line_of_message {r : Report} {f : Failure} {start : Text}
    (hm : r.message = f.kind ++ ":  " ++ f.message)
    (hs : "Unexpected error:  " ++ r.kind ++ ":  " = start) :
    r.line = start ++ f.kind ++ ":  " ++ f.message ++ "\n" := by
  -- Over variables only: with the literals in place the same step takes too long.
  have hassoc : ∀ k m c n p : Text, p ++ (k ++ c ++ m) ++ n = p ++ k ++ c ++ m ++ n := by simp
  subst hs
  refine Eq.trans ?_ (hassoc _ _ _ _ _)
  rw [← hm]
  rfl

/-- A failure is one of a read or one of a statement, and its line says which. -/
theorem line_of_mem_failuresOf {t : Turn σ} {r : Report} (hr : r ∈ c.failuresOf t) :
    ∃ f : Failure,
      (r = .input (.failure f) ∧
        r.line = "Unexpected error:  InputError:  " ++ f.kind ++ ":  " ++ f.message ++ "\n") ∨
      ∃ statement, r = .dispatch statement (.failure f) ∧
        r.line = "Unexpected error:  DispatchError:  " ++ f.kind ++ ":  " ++ f.message ++ "\n" := by
  have hinput : "Unexpected error:  " ++ "InputError" ++ ":  " =
      ("Unexpected error:  InputError:  " : Text) := by simp
  have hdispatch : "Unexpected error:  " ++ "DispatchError" ++ ":  " =
      ("Unexpected error:  DispatchError:  " : Text) := by simp
  unfold failuresOf at hr
  split at hr
  next f _ =>
    obtain rfl := List.mem_singleton.1 hr
    exact ⟨f, .inl ⟨rfl, line_of_message rfl hinput⟩⟩
  next =>
    obtain ⟨x, -, hx⟩ := List.mem_flatMap.1 hr
    unfold failureOf at hx
    split at hx
    next f _ =>
      obtain rfl := List.mem_singleton.1 hx
      exact ⟨f, .inr ⟨x.statement, rfl, line_of_message rfl hdispatch⟩⟩
    next => cases hx

/-! ## The law of isolation -/

/-- Where every failure of a run has words, leaving out the reads that fail, and answering calmly
where a statement fails, changes nothing else: the calls are the same, in the same states of the
handler, the other reads find the same session, and both runs end alike. If the handler itself
writes nothing, the output holds one line for each failure, in order; and so does the log, as far
as it keeps errors. -/
theorem failures_leave_only_their_reports (h : σ) (calm : σ → Text → Reply)
    (outcomes : List (Except Failure Text)) (hh : c.handler.OnlyFails)
    (hcalm : ∀ h statement, (calm h statement).ends = .ok false)
    (hw : ∀ t ∈ c.history h false (outcomes.map Reading.ofOutcome), c.Articulate t) :
    let readings := outcomes.map Reading.ofOutcome
    let surviving := (outcomes.filter Except.isOk).map Reading.ofOutcome
    let first := c.mainLoop h false readings
    let second := (c.healed calm).mainLoop h false surviving
    let passes := c.history h false readings
    let passes' := (c.healed calm).history h false surviving
    let failures := passes.flatMap c.failuresOf
    first.events = passes.flatMap c.eventsOf ∧
    second.events = passes'.flatMap (c.healed calm).eventsOf ∧
    passes'.flatMap (c.healed calm).callsOf = passes.flatMap c.callsOf ∧
    passes' = passes.filter (fun t => t.reading.succeeds) ∧
    SameEnd second first ∧
    (∀ r ∈ failures, ∃ f : Failure,
      (r = .input (.failure f) ∧
        r.line = "Unexpected error:  InputError:  " ++ f.kind ++ ":  " ++ f.message ++ "\n") ∨
      ∃ statement, r = .dispatch statement (.failure f) ∧
        r.line = "Unexpected error:  DispatchError:  " ++ f.kind ++ ":  " ++ f.message ++ "\n") ∧
    (c.handler.WritesNothing →
      first.events.filter Event.isWrite = failures.map (fun r => .write r.line)) ∧
    (c.handler.LogsNoError →
      first.events.filter Event.isErrorRecord =
        if c.logLevel.rank ≤ LogLevel.error.rank then
          failures.map (fun r => .log .error failureNote (some r.cause))
        else []) := by
  intro readings surviving first second passes passes' failures
  obtain ⟨hpasses, hend⟩ := c.loop_healed hcalm outcomes h (Session.start false) rfl hw
  have hpasses : passes' = passes.filter (fun t => t.reading.succeeds) := hpasses
  have hcalls : passes'.flatMap (c.healed calm).callsOf = passes.flatMap c.callsOf := by
    rw [← c.flatMap_callsOf_filter passes, hpasses]
    refine List.flatMap_congr fun t ht => c.callsOf_healed hcalm ?_
    exact (hw t (List.mem_filter.1 ht).1).calls
  refine ⟨c.events_mainLoop h false readings, (c.healed calm).events_mainLoop h false surviving,
    hcalls, hpasses, ⟨hend.handler, hend.session, hend.ending⟩, ?_, ?_, ?_⟩
  · intro r hr
    obtain ⟨t, -, ht⟩ := List.mem_flatMap.1 hr
    exact c.line_of_mem_failuresOf ht
  · intro hown
    exact c.writes_mainLoop hh hown h outcomes hw
  · intro hown
    exact c.errorRecords_mainLoop hh hown h outcomes hw

theorem failures_of_the_sample :
    let readings := sampleScript.map Reading.ofOutcome
    let surviving := (sampleScript.filter Except.isOk).map Reading.ofOutcome
    let healed := sample.healed (fun _ _ => .silent)
    let passes := sample.history () false readings
    SameEnd (healed.mainLoop () false surviving) (sample.mainLoop () false readings) ∧
      (healed.history () false surviving).flatMap healed.callsOf = passes.flatMap sample.callsOf ∧
      (sample.mainLoop () false readings).events.filter Event.isWrite =
        (passes.flatMap sample.failuresOf).map (fun r => .write r.line) ∧
      (sample.mainLoop () false readings).events.filter Event.isErrorRecord =
        (passes.flatMap sample.failuresOf).map
          (fun r => .log .error failureNote (some r.cause)) := by
  obtain ⟨-, -, hcalls, -, hend, -, hwrites, hrecords⟩ :=
    sample.failures_leave_only_their_reports () (fun _ _ => .silent) sampleScript
      sample_onlyFails (fun _ _ => rfl) sample_articulate
  have hsilent : ∀ h statement, (sample.handler.handle h statement).events = [] :=
    fun _ _ => rfl
  refine ⟨hend, hcalls, hwrites ?_, hrecords ?_⟩
  · intro h statement e he
    rw [hsilent] at he
    cases he
  · intro h statement e he
    rw [hsilent] at he
    cases he

/-- The wordless sample with a calm answer in place of its failure is given both statements. -/
theorem calls_healed_wordlessSample :
    let healed := wordlessSample.healed (fun _ _ => .silent)
    (healed.history () false [.line "A; B;"]).flatMap healed.callsOf =
      [⟨(), "A;".toList⟩, ⟨(), "B;".toList⟩] := by
  intro healed
  have hfirst : Segment.extract? "A; B;\n".toList = some ("A;".toList, "B;\n".toList) := by decide
  have hsecond : Segment.extract? "B;\n".toList = some ("B;".toList, []) := by decide
  have htext : (Session.start false).buffer.text ++ ("A; B;" ++ ['\n']) = "A; B;\n".toList := rfl
  have hline : healed.callsOf ⟨(), Session.start false, .line "A; B;"⟩ =
      [⟨(), "A;".toList⟩, ⟨(), "B;".toList⟩] := by
    rw [healed.callsOf_of_line rfl rfl]
    dsimp only
    rw [htext, Segment.extractAll_of_some hfirst, Segment.extractAll_of_some hsecond,
      Segment.extractAll_of_none (t := []) rfl]
    rfl
  have hhistory : healed.history () false [.line "A; B;"] =
      healed.turns () (Session.start false) [.line "A; B;"] := rfl
  rw [hhistory]
  -- whatever comes of the line, only the end of the input is left after it
  cases hp : (healed.pass () (Session.start false) (.line "A; B;")).ending with
  | none =>
    rw [healed.turns_of_goesOn hp, turns, List.flatMap_cons, List.flatMap_singleton, hline,
      healed.callsOf_of_not_line (by simp)]
    rfl
  | some e => rw [healed.turns_of_ends hp, List.flatMap_singleton, hline]

/-- A failure without words leaves more than its report: the statement that stands behind it is not
handed over, and it is where the failure is answered calmly. -/
theorem wordless_failure_leaves_more_than_its_report :
    let readings : List Reading := [.line "A; B;"]
    let healed := wordlessSample.healed (fun _ _ => .silent)
    wordlessSample.handler.OnlyFails ∧
      Event.handled (wordlessSample.mainLoop () false readings).events = ["A;".toList] ∧
      Event.handled (healed.mainLoop () false readings).events = ["A;".toList, "B;".toList] := by
  intro readings healed
  have hdiscreet : healed.handler.Discreet := by
    refine ⟨fun _ => rfl, ?_, fun _ => rfl⟩
    intro h statement
    simp only [healed, Client.healed, Handler.healed]
    split <;> rfl
  have hcalls : (healed.history () false readings).flatMap healed.callsOf =
      [⟨(), "A;".toList⟩, ⟨(), "B;".toList⟩] := calls_healed_wordlessSample
  refine ⟨?_, ?_, ?_⟩
  · intro h statement r hr
    simp only [wordlessSample, Handler.ofAnswers] at hr
    split at hr <;> cases hr
    exact ⟨_, rfl⟩
  · rw [wordlessSample.handled_mainLoop (Handler.discreet_ofAnswers _) _ _ _
      wordlessSample.shows_of_no_console, calls_wordlessSample]
    rfl
  · rw [healed.handled_mainLoop hdiscreet _ _ _ healed.shows_of_no_console, hcalls]
    rfl

end Client

end StatementShell
