-- The history of a session: the passes of its loop, each with the calls that it makes to the
-- handler. What a session does is told by its events; a handler's own events stand among them.
-- The history says which of them came from where: every event of a session is one of a pass,
-- in the order of the passes, and within a pass one of the prompt, of the read or of a call.
import Mathlib.Data.List.Basic
import StatementShell.Session.Loop

namespace StatementShell

/-! ## The pure model -/

/-- A pass of the loop, by the states that it begins in and what its read finds. -/
structure Turn (σ : Type) where
  handler : σ
  session : Session
  reading : Reading

/-- A statement that is given to the handler, and the state that the handler is in. -/
structure Call (σ : Type) where
  handler : σ
  statement : Text

/-- The text that a read puts into the buffer. -/
def Reading.added : Reading → Text
  | .line l => l ++ ['\n']
  | _ => []

@[simp] theorem Reading.added_line (l : Text) : (Reading.line l).added = l ++ ['\n'] := rfl

@[simp] theorem Reading.added_endOfInput : Reading.endOfInput.added = [] := rfl

@[simp] theorem Reading.added_raises (r : Raised) : (Reading.raises r).added = [] := rfl

/-- A read that finds a line, or fails. -/
def Reading.ofOutcome : Except Failure Text → Reading
  | .ok l => .line l
  | .error f => .raises (.failure f)

/-- Nothing but failures leaves the handler, or comes of asking its answers. -/
def Handler.OnlyFails {σ : Type} (hd : Handler σ) : Prop :=
  ∀ h statement r, (hd.handle h statement).outcome.bind Reply.ends = .error r →
    ∃ f, r = .failure f

/-- A handler without a state, which does nothing but answer. -/
def Handler.ofAnswers (answers : Text → Except Raised Reply) : Handler Unit where
  startup h := ⟨[], h, .ok ()⟩
  handle h statement := ⟨[], h, answers statement⟩
  shutdown h := ⟨[], h, .ok ()⟩
  properties _ := none

/-- A client whose handler fails at one statement, ends the session at another, and is silent
about all others. -/
def Client.sample : Client Unit :=
  ⟨.ofAnswers fun statement =>
    if statement = "B;".toList then .error (.failure .nameMissing)
    else if statement = "EXIT;".toList then .ok (.answers (.ok true))
    else .ok .silent, .warning⟩

/-- A client whose handler fails without words at one statement, and is silent about all
others. -/
def Client.wordlessSample : Client Unit :=
  ⟨.ofAnswers fun statement =>
    if statement = "A;".toList then .error (.failure (.wordless "ValueError" none .numberTooLong))
    else .ok .silent, .warning⟩

theorem Client.sample_onlyFails : Client.sample.handler.OnlyFails := by
  intro h statement r hr
  simp only [sample, Handler.ofAnswers] at hr
  split at hr
  · exact ⟨.nameMissing, by simpa [Except.bind] using hr.symm⟩
  · split at hr <;> simp [Except.bind, Reply.ends] at hr

/-- What somebody may give to the sample: a quote over two lines, a read that fails, several
statements in a line, and a line after the end. -/
def sampleScript : List (Except Failure Text) :=
  [.ok "A; 'x".toList, .error .nameMissing, .ok ";' ; B;EXIT; C;".toList, .ok "D;".toList]

namespace Client

variable {σ : Type} (c : Client σ)

def tried (x : Call σ) : Step σ Bool := c.dispatch x.handler x.statement

def answer (x : Call σ) : Except Raised Bool :=
  (c.handler.handle x.handler x.statement).outcome.bind Reply.ends

/-- The handler answers a call, and the answer asks for the end of the session. -/
def AsksForEnd (x : Call σ) : Prop :=
  (c.handler.handle x.handler x.statement).outcome = .ok (.answers (.ok true))

/-- The failure that a call raises, if it raises one, has words. -/
def Speaks (x : Call σ) : Prop := ∀ f, c.answer x = .error (.failure f) → f.HasWords

/-- The calls for some statements, in order. There is none after an answer that ends the
session, or after something was raised that no report could be made of. -/
def calls (h : σ) : List Text → List (Call σ)
  | [] => []
  | t :: ts =>
    ⟨h, t⟩ ::
      match (c.tried ⟨h, t⟩).outcome with
      | .ok false => calls (c.tried ⟨h, t⟩).state ts
      | _ => []

/-- The calls of a pass: those for the statements that its line completes. -/
def callsOf (t : Turn σ) : List (Call σ) :=
  match c.beforeRead t.handler t.session, t.reading with
  | .ok _, .line l =>
    c.calls t.handler (Segment.extractAll (t.session.buffer.text ++ (l ++ ['\n']))).1
  | _, _ => []

def passOf (t : Turn σ) : Pass σ := c.pass t.handler t.session t.reading

def turns (h : σ) (s : Session) : List Reading → List (Turn σ)
  | [] => [⟨h, s, .endOfInput⟩]
  | r :: rs =>
    ⟨h, s, r⟩ ::
      match (c.pass h s r).ending with
      | none => turns (c.pass h s r).handler (c.pass h s r).session rs
      | some _ => []

def greeted (h : σ) (consoleAttached : Bool) : List Event :=
  match c.greeting h (Session.start consoleAttached) with
  | .error _ => []
  | .ok events => events

/-- The passes of a whole session. There is none if the greeting fails. -/
def history (h : σ) (consoleAttached : Bool) (rs : List Reading) : List (Turn σ) :=
  match c.greeting h (Session.start consoleAttached) with
  | .error _ => []
  | .ok _ => c.turns h (Session.start consoleAttached) rs

/-- What the loop writes and logs about something that has left a read or a call: the note of an
interruption, or the report of a failure. -/
def noteOf : Raised → List Event
  | .interrupt _ => [.write interruptText]
  | .failure f => (c.recover f).toOption.getD []
  | .exit _ => []

/-- What the loop writes and logs about what comes of a call. -/
def callNote : Except Raised Bool → List Event
  | .error r => c.noteOf r
  | .ok _ => []

@[simp] theorem callNote_ok (e : Bool) : c.callNote (.ok e) = [] := rfl

/-- The events of a call: the log, the handler's own events, and what is told of a failure or
of an interruption. -/
def callEvents (x : Call σ) : List Event :=
  (c.tried x).events ++ c.callNote (c.tried x).outcome

/-- The events of a read that finds no line. -/
def readEvents (t : Turn σ) : List Event :=
  match t.reading with
  | .raises (.failure f) =>
    match Report.ofRead f with
    | .ok r => c.report r
    | .error e => c.noteOf (.failure e)
  | .raises r => c.noteOf r
  | .broken e => c.report (.input (.failure (.undecodable e)))
  | .endOfInput =>
    if t.session.buffer.isEmpty then []
    else c.log .debug (incompleteNote t.session.buffer.text) none
  | _ => []

/-- All events of a pass after its read. -/
def aftermath (t : Turn σ) : List Event :=
  c.readEvents t ++ (c.callsOf t).flatMap c.callEvents

def eventsOf (t : Turn σ) : List Event :=
  match c.beforeRead t.handler t.session with
  | .error f => c.report (.plain f)
  | .ok shown => shown ++ .read t.session.buffer.text t.session.phase :: c.aftermath t

def AllGoOn (xs : List (Call σ)) : Prop := ∀ x ∈ xs, (c.tried x).outcome = .ok false

/-- All calls but the last let the session go on. -/
def StopsWith (xs : List (Call σ)) (o : Except Raised Bool) : Prop :=
  ∃ ys x, xs = ys ++ [x] ∧ (c.tried x).outcome = o ∧ c.AllGoOn ys

/-- What an answer means for the loop: a failure lets the session go on, and one that has no words
raises another failure. -/
def settle : Except Raised Bool → Except Raised Bool
  | .error (.failure f) =>
    match f.words with
    | .ok _ => .ok false
    | .error e => .error (.failure e)
  | o => o

/-- The report that is made of a call: there is one where a failure with words was raised. -/
def reportOf (x : Call σ) : Option Report :=
  match c.answer x with
  | .error (.failure f) => (Report.ofStatement x.statement f).toOption
  | _ => none

/-- Something leaves the read or a call of a pass, for the loop to handle. A failure does where
no report of it can be made. -/
inductive LeftBy (t : Turn σ) : Raised → Prop
  | interrupt {m : Text} (hr : t.reading = .raises (.interrupt m)) : LeftBy t (.interrupt m)
  | exit {m : Text} (hr : t.reading = .raises (.exit m)) : LeftBy t (.exit m)
  | wordless {f e : Failure} (hr : t.reading = .raises (.failure f)) (hf : f.words = .error e) :
      LeftBy t (.failure e)
  | call {r : Raised} (hstop : c.StopsWith (c.callsOf t) (.error r)) : LeftBy t r

/-- What leaves the loop in the end, of something that has reached it: an exit does, and what
comes of asking a failure for its words, if it has none. -/
inductive Escapes : Raised → Raised → Prop
  | exit {m : Text} : Escapes (.exit m) (.exit m)
  | wordless {f e : Failure} (hf : f.words = .error e) : Escapes (.failure f) (.failure e)

/-- How a loop ends after a pass whose last call comes to something, if it ends. -/
def endingOf : Except Raised Bool → Option Ending
  | .ok true => some .returned
  | .error (.exit m) => some (.raised (.exit m))
  | .error (.failure f) =>
    match f.words with
    | .ok _ => none
    | .error e => some (.raised (.failure e))
  | _ => none

/-- Every failure of a pass, of its read or of one of its calls, has words. -/
structure Articulate (t : Turn σ) : Prop where
  read : ∀ f, t.reading = .raises (.failure f) → f.HasWords
  calls : ∀ x ∈ c.callsOf t, c.Speaks x

/-! ## Calls -/

theorem settle_of_hasWords {f : Failure} (hf : f.HasWords) :
    settle (.error (.failure f)) = .ok false := by
  rw [settle, hf]

theorem settle_eq_ok_true_iff {o : Except Raised Bool} : settle o = .ok true ↔ o = .ok true := by
  unfold settle
  split
  next f => cases f.words <;> simp
  next => exact Iff.rfl

theorem settle_eq_interrupt_iff {o : Except Raised Bool} {m : Text} :
    settle o = .error (.interrupt m) ↔ o = .error (.interrupt m) := by
  unfold settle
  split
  next f => cases f.words <;> simp
  next => exact Iff.rfl

theorem settle_eq_exit_iff {o : Except Raised Bool} {m : Text} :
    settle o = .error (.exit m) ↔ o = .error (.exit m) := by
  unfold settle
  split
  next f => cases f.words <;> simp
  next => exact Iff.rfl

/-- A failure leaves a call only where the handler has raised one without words. -/
theorem settle_eq_failure_iff {o : Except Raised Bool} {e : Failure} :
    settle o = .error (.failure e) ↔ ∃ f, o = .error (.failure f) ∧ f.words = .error e := by
  unfold settle
  split
  next f => cases hf : f.words <;> simp [hf]
  next h =>
    refine iff_of_false (h e) ?_
    rintro ⟨f, rfl, -⟩
    exact h f rfl

/-- Only an answer that says so ends a session on behalf of its handler. -/
theorem answer_eq_ok_true_iff (x : Call σ) : c.answer x = .ok true ↔ c.AsksForEnd x := by
  unfold answer AsksForEnd
  cases (c.handler.handle x.handler x.statement).outcome with
  | error r => simp [Except.bind]
  | ok reply => cases reply <;> simp [Except.bind, Reply.ends]

/-- What a call comes to for the loop is settled by what the handler answers. -/
theorem outcome_tried (x : Call σ) : (c.tried x).outcome = settle (c.answer x) := by
  simp only [tried, dispatch]
  rw [← answer]
  cases c.answer x with
  | ok ends => rfl
  | error r =>
    cases r with
    | failure f => cases hf : f.words <;> simp [Report.ofStatement, settle, hf, Except.map]
    | interrupt m => rfl
    | exit m => rfl

theorem events_tried (x : Call σ) :
    (c.tried x).events =
      c.log .debug (statementNote x.statement) none ++ .handle x.statement ::
        (c.handler.handle x.handler x.statement).events ++ (c.reportOf x).elim [] c.report := by
  simp only [tried, dispatch, reportOf]
  rw [← answer]
  cases c.answer x with
  | ok ends => simp
  | error r =>
    cases r with
    | failure f =>
      dsimp only
      cases Report.ofStatement x.statement f <;> simp [Except.toOption]
    | interrupt m => simp
    | exit m => simp

theorem allGoOn_nil : c.AllGoOn [] := by simp [AllGoOn]

theorem allGoOn_singleton {x : Call σ} (hx : (c.tried x).outcome = .ok false) :
    c.AllGoOn [x] := by
  intro y hy
  exact List.mem_singleton.1 hy ▸ hx

theorem AllGoOn.append {xs ys : List (Call σ)} (hxs : c.AllGoOn xs) (hys : c.AllGoOn ys) :
    c.AllGoOn (xs ++ ys) := by
  intro x hx
  rcases List.mem_append.1 hx with hx | hx
  · exact hxs x hx
  · exact hys x hx

theorem AllGoOn.append_stopsWith {xs ys : List (Call σ)} {o : Except Raised Bool}
    (hxs : c.AllGoOn xs) (hys : c.StopsWith ys o) : c.StopsWith (xs ++ ys) o := by
  obtain ⟨zs, y, rfl, hy, hzs⟩ := hys
  exact ⟨xs ++ zs, y, (List.append_assoc xs zs [y]).symm, hy, hxs.append c hzs⟩

theorem stopsWith_singleton {x : Call σ} {o : Except Raised Bool}
    (hx : (c.tried x).outcome = o) : c.StopsWith [x] o :=
  ⟨[], x, rfl, hx, c.allGoOn_nil⟩

theorem calls_prefix (h : σ) (ts : List Text) :
    (c.calls h ts).map Call.statement <+: ts := by
  induction ts generalizing h with
  | nil => exact List.prefix_refl []
  | cons t ts ih =>
    rw [calls, List.map_cons]
    refine List.cons_prefix_cons.2 ⟨rfl, ?_⟩
    split
    · exact ih _
    · exact List.nil_prefix

theorem calls_cons_of_goesOn {h : σ} {t : Text} (ho : (c.tried ⟨h, t⟩).outcome = .ok false)
    (ts : List Text) : c.calls h (t :: ts) = ⟨h, t⟩ :: c.calls (c.tried ⟨h, t⟩).state ts := by
  rw [calls, ho]

theorem calls_cons_of_stops {h : σ} {t : Text} (ho : (c.tried ⟨h, t⟩).outcome ≠ .ok false)
    (ts : List Text) : c.calls h (t :: ts) = [⟨h, t⟩] := by
  rw [calls]
  split
  next hf => exact absurd hf ho
  · rfl

/-- What the calls for the statements of a text have to do with the progress in it. -/
def Served (text : Text) (xs : List (Call σ)) : Progress → Prop
  | .waits b =>
    b.text = (Segment.extractAll text).2 ∧
      xs.map Call.statement = (Segment.extractAll text).1 ∧ c.AllGoOn xs
  | .ends => c.StopsWith xs (.ok true)
  | .left r b => c.StopsWith xs (.error r) ∧ b.text <:+ text

/-- A call that lets the session go on leads those for the rest of the text. -/
theorem Served.cons {text rest : Text} {x : Call σ} {xs : List (Call σ)} {p : Progress}
    (ht : Segment.extract? text = some (x.statement, rest))
    (hx : (c.tried x).outcome = .ok false) (h : c.Served rest xs p) :
    c.Served text (x :: xs) p := by
  cases p with
  | waits b =>
    obtain ⟨hb, hss, hxs⟩ := h
    rw [Served, Segment.extractAll_of_some ht]
    exact ⟨hb, by rw [List.map_cons, hss], (c.allGoOn_singleton hx).append c hxs⟩
  | ends => exact (c.allGoOn_singleton hx).append_stopsWith c h
  | left r b =>
    exact ⟨(c.allGoOn_singleton hx).append_stopsWith c h.1,
      h.2.trans (Segment.suffix_of_extract? ht)⟩

/-- Running a buffer makes the calls for its statements, and stops as they do. -/
theorem runBuffer_served (h : σ) (b : InputBuffer) :
    let xs := c.calls h (Segment.extractAll b.text).1
    (c.runBuffer h b).1 = xs.flatMap (fun x => (c.tried x).events) ∧
      c.Served b.text xs (c.runBuffer h b).2.2 := by
  -- Each statement leaves a shorter buffer, and maybe another state of the handler.
  induction hn : b.text.length using Nat.strongRecOn generalizing h b with
  | _ n ih =>
    cases hb : Segment.extract? b.text with
    | none =>
      have hnone : b.extract? = none := by rw [InputBuffer.extract?, hb]; rfl
      simp only [c.runBuffer_of_none hnone, Served, Segment.extractAll_of_none hb]
      exact ⟨rfl, trivial, rfl, c.allGoOn_nil⟩
    | some p =>
      obtain ⟨t, r⟩ := p
      have hsome : b.extract? = some (t, ⟨r⟩) := by rw [InputBuffer.extract?, hb]; rfl
      have hlt := hn ▸ Segment.length_lt_of_extract? hb
      rw [c.runBuffer_of_some hsome, Segment.extractAll_of_some hb]
      have htried : c.dispatch h t = c.tried ⟨h, t⟩ := rfl
      rw [htried]
      cases ho : (c.tried ⟨h, t⟩).outcome with
      | error e =>
        simp only [c.calls_cons_of_stops (by rw [ho]; simp)]
        exact ⟨by simp, c.stopsWith_singleton ho, Segment.suffix_of_extract? hb⟩
      | ok ends =>
        cases ends with
        | true =>
          simp only [c.calls_cons_of_stops (by rw [ho]; simp)]
          exact ⟨by simp, c.stopsWith_singleton ho⟩
        | false =>
          obtain ⟨hevents, hserved⟩ := ih _ hlt (c.tried ⟨h, t⟩).state ⟨r⟩ rfl
          simp only [c.calls_cons_of_goesOn ho]
          exact ⟨by rw [hevents, List.flatMap_cons], Served.cons c hb ho hserved⟩

/-! ## Events of a pass -/

theorem callEvents_of_allGoOn {xs : List (Call σ)} (h : c.AllGoOn xs) :
    xs.flatMap c.callEvents = xs.flatMap (fun x => (c.tried x).events) := by
  apply List.flatMap_congr
  intro x hx
  rw [callEvents, h x hx, callNote_ok, List.append_nil]

/-- Only the last call can be left early, so the note of it stands after all calls. -/
theorem callEvents_of_stopsWith {xs : List (Call σ)} {o : Except Raised Bool}
    (h : c.StopsWith xs o) :
    xs.flatMap c.callEvents = xs.flatMap (fun x => (c.tried x).events) ++ c.callNote o := by
  obtain ⟨ys, x, rfl, hx, hys⟩ := h
  rw [List.flatMap_append, List.flatMap_append, c.callEvents_of_allGoOn hys]
  simp [callEvents, hx]

theorem callsOf_of_line {t : Turn σ} {shown : List Event} {l : Text}
    (hb : c.beforeRead t.handler t.session = .ok shown) (hr : t.reading = .line l) :
    c.callsOf t =
      c.calls t.handler (Segment.extractAll (t.session.buffer.text ++ (l ++ ['\n']))).1 := by
  rw [callsOf, hb, hr]

theorem callsOf_of_not_line {t : Turn σ} (hr : ∀ l, t.reading ≠ .line l) : c.callsOf t = [] := by
  unfold callsOf
  split
  next h => exact absurd h (hr _)
  · rfl

theorem events_leave (events : List Event) (h : σ) (s : Session) (r : Raised) :
    (c.leave events h s r).events = events ++ c.noteOf r := by
  cases r with
  | interrupt m => rfl
  | failure f =>
    simp only [leave, noteOf]
    cases c.recover f <;> simp [Except.toOption]
  | exit m => simp [leave, noteOf]

theorem events_afterRead_line (h : σ) (s : Session) (l : Text) :
    (c.afterRead h s (.line l)).events =
      (c.calls h (Segment.extractAll (s.buffer.text ++ (l ++ ['\n']))).1).flatMap
        c.callEvents := by
  obtain ⟨hevents, hserved⟩ := c.runBuffer_served h (s.buffer.append (l ++ ['\n']))
  simp only [afterRead]
  rcases hrun : c.runBuffer h (s.buffer.append (l ++ ['\n'])) with ⟨events, h', p⟩
  rw [hrun] at hevents hserved
  cases p with
  | waits b => exact hevents.trans (c.callEvents_of_allGoOn hserved.2.2).symm
  | ends =>
    refine Eq.trans ?_ (c.callEvents_of_stopsWith hserved).symm
    rw [callNote_ok, List.append_nil]
    exact hevents
  | left r b =>
    refine Eq.trans ?_ (c.callEvents_of_stopsWith hserved.1).symm
    rw [← hevents]
    exact c.events_leave _ _ _ _

/-- The events of a pass are those of its prompt, its read and its calls. -/
theorem events_passOf (t : Turn σ) : (c.passOf t).events = c.eventsOf t := by
  unfold passOf pass eventsOf
  cases hb : c.beforeRead t.handler t.session with
  | error f => simp only [c.recover_of_hasWords (c.hasWords_of_beforeRead hb)]
  | ok shown =>
    simp only [aftermath]
    congr 2
    cases hr : t.reading with
    | line l =>
      rw [c.callsOf_of_line hb hr, events_afterRead_line, readEvents, hr]
      rfl
    | endOfInput =>
      rw [c.callsOf_of_not_line (by simp [hr]), readEvents, hr]
      simp [afterRead]
    | broken f =>
      rw [c.callsOf_of_not_line (by simp [hr]), readEvents, hr]
      simp [afterRead]
    | raises r =>
      rw [c.callsOf_of_not_line (by simp [hr]), readEvents, hr]
      cases r with
      | failure f =>
        simp only [afterRead]
        cases Report.ofRead f <;> simp [c.events_leave]
      | interrupt m => simp [afterRead, c.events_leave]
      | exit m => simp [afterRead, c.events_leave]

/-! ## What a pass can do -/

/-- The prompt of a pass can be shown, so the pass comes to its read. -/
def Shows (t : Turn σ) : Prop := ∃ shown, c.beforeRead t.handler t.session = .ok shown

/-- All that a pass can do to the session, and how it can end the loop. -/
inductive Does (t : Turn σ) : Option Ending → Session → Prop
  | promptFails {f : Failure} (hb : c.beforeRead t.handler t.session = .error f) :
      Does t (some (.stuck f)) t.session
  | readFails {f : Failure} (hb : c.Shows t) (hr : t.reading = .raises (.failure f)) :
      Does t none t.session
  | readBroken {e : Utf8.Fault} (hb : c.Shows t) (hr : t.reading = .broken e) :
      Does t (some (.stuck (.undecodable e))) t.session
  | inputEnds (hb : c.Shows t) (hr : t.reading = .endOfInput) :
      Does t (some .returned) (close t.session)
  /-- Every statement that the line completes was given to the handler. -/
  | waits {l : Text} {b : InputBuffer} (hb : c.Shows t) (hr : t.reading = .line l)
      (hrest : b.text = (Segment.extractAll (t.session.buffer.text ++ (l ++ ['\n']))).2)
      (hcalls : (c.callsOf t).map Call.statement =
        (Segment.extractAll (t.session.buffer.text ++ (l ++ ['\n']))).1)
      (hon : c.AllGoOn (c.callsOf t)) :
      Does t none { t.session with buffer := b, phase := phaseFor b }
  | handlerEnds {l : Text} (hb : c.Shows t) (hr : t.reading = .line l)
      (hstop : c.StopsWith (c.callsOf t) (.ok true)) : Does t (some .returned) (close t.session)
  /-- The read or a call was interrupted. The session starts over. -/
  | interrupted {m : Text} (hb : c.Shows t) (hleft : c.LeftBy t (.interrupt m)) :
      Does t none { t.session with buffer := .empty, phase := .awaitingInput }
  /-- A failure has left a call. What stands behind the statement is still in the buffer. -/
  | recovered {l : Text} {f : Failure} {b : InputBuffer} (hb : c.Shows t)
      (hr : t.reading = .line l) (hstop : c.StopsWith (c.callsOf t) (.error (.failure f)))
      (hf : f.HasWords) (hrest : b.text <:+ t.session.buffer.text ++ (l ++ ['\n'])) :
      Does t none { t.session with buffer := b }
  | escaped {r r' : Raised} {b : InputBuffer} (hb : c.Shows t) (hleft : c.LeftBy t r)
      (hr : Escapes r r') : Does t (some (.raised r')) { t.session with buffer := b }

/-- An interruption starts over, a failure is got over, and all else leaves the loop. -/
theorem leave_cases (events : List Event) (h : σ) (s : Session) (r : Raised) :
    (∃ m, r = .interrupt m ∧ (c.leave events h s r).ending = none ∧
        (c.leave events h s r).session = { s with buffer := .empty, phase := .awaitingInput }) ∨
      (∃ f, r = .failure f ∧ f.HasWords ∧ (c.leave events h s r).ending = none ∧
        (c.leave events h s r).session = s) ∨
      ∃ r', Escapes r r' ∧ (c.leave events h s r).ending = some (.raised r') ∧
        (c.leave events h s r).session = s := by
  cases r with
  | interrupt m => exact .inl ⟨m, rfl, rfl, rfl⟩
  | exit m => exact .inr (.inr ⟨_, .exit, rfl, rfl⟩)
  | failure f =>
    simp only [leave]
    rcases f.hasWords_or_exists with hf | ⟨e, hf⟩
    · rw [c.recover_of_hasWords hf]
      exact .inr (.inl ⟨f, rfl, hf, rfl, rfl⟩)
    · rw [c.recover_of_wordless hf]
      exact .inr (.inr ⟨_, .wordless hf, rfl, rfl⟩)

theorem does_line {t : Turn σ} {l : Text} (hb : c.Shows t) (hr : t.reading = .line l) :
    c.Does t (c.afterRead t.handler t.session (.line l)).ending
      (c.afterRead t.handler t.session (.line l)).session := by
  obtain ⟨shown, hshown⟩ := hb
  have hb : c.Shows t := ⟨shown, hshown⟩
  obtain ⟨-, hserved⟩ := c.runBuffer_served t.handler (t.session.buffer.append (l ++ ['\n']))
  simp only [afterRead]
  rcases hrun : c.runBuffer t.handler (t.session.buffer.append (l ++ ['\n'])) with ⟨events, h', p⟩
  rw [hrun] at hserved
  simp only [InputBuffer.append, ← c.callsOf_of_line hshown hr] at hserved
  cases p with
  | waits b => exact .waits hb hr hserved.1 hserved.2.1 hserved.2.2
  | ends => exact .handlerEnds hb hr hserved
  | left r b =>
    obtain ⟨hstop, hrest⟩ := hserved
    rcases c.leave_cases events h' { t.session with buffer := b } r with
      ⟨m, rfl, he, hs⟩ | ⟨f, rfl, hf, he, hs⟩ | ⟨r', hr', he, hs⟩
    · rw [he, hs]
      exact .interrupted hb (.call hstop)
    · rw [he, hs]
      exact .recovered hb hr hstop hf hrest
    · rw [he, hs]
      exact .escaped hb (.call hstop) hr'

/-- What leaves a read leaves the buffer as it is. -/
theorem does_left {t : Turn σ} {r : Raised} (hb : c.Shows t) (hr : t.reading = .raises r)
    {r' : Raised} (hleft : c.LeftBy t r') (hr' : ∀ f, r' = .failure f → ∃ e, r = .failure e) :
    c.Does t (c.leave [] t.handler t.session r').ending
      (c.leave [] t.handler t.session r').session := by
  rcases c.leave_cases [] t.handler t.session r' with
    ⟨m, rfl, he, hs⟩ | ⟨f, rfl, -, he, hs⟩ | ⟨e, hescapes, he, hs⟩
  · rw [he, hs]
    exact .interrupted hb hleft
  · obtain ⟨e, rfl⟩ := hr' f rfl
    rw [he, hs]
    exact .readFails hb hr
  · rw [he, hs]
    exact .escaped hb hleft hescapes

theorem does_raises {t : Turn σ} {r : Raised} (hb : c.Shows t) (hr : t.reading = .raises r) :
    c.Does t (c.afterRead t.handler t.session (.raises r)).ending
      (c.afterRead t.handler t.session (.raises r)).session := by
  cases r with
  | interrupt m => exact c.does_left hb hr (.interrupt hr) (by simp)
  | exit m => exact c.does_left hb hr (.exit hr) (by simp)
  | failure f =>
    simp only [afterRead, Report.ofRead]
    rcases f.hasWords_or_exists with hf | ⟨e, hf⟩
    · rw [hf]
      exact .readFails hb hr
    · rw [hf]
      exact c.does_left hb hr (.wordless hr hf) (by simp)

theorem passOf_does (t : Turn σ) : c.Does t (c.passOf t).ending (c.passOf t).session := by
  unfold passOf pass
  cases hb : c.beforeRead t.handler t.session with
  | error f =>
    simp only [c.recover_of_hasWords (c.hasWords_of_beforeRead hb)]
    exact .promptFails hb
  | ok shown =>
    have hb : c.Shows t := ⟨shown, hb⟩
    cases hr : t.reading with
    | line l => exact c.does_line hb hr
    | endOfInput => exact .inputEnds hb hr
    | broken e => exact .readBroken hb hr
    | raises r => exact c.does_raises hb hr

/-- Only a call leaves a pass that reads a line. -/
theorem LeftBy.stopsWith {t : Turn σ} {r : Raised} {l : Text} (h : c.LeftBy t r)
    (hr : t.reading = .line l) : c.StopsWith (c.callsOf t) (.error r) := by
  cases h with
  | interrupt h => cases hr.symm.trans h
  | exit h => cases hr.symm.trans h
  | wordless h => cases hr.symm.trans h
  | call hstop => exact hstop

theorem StopsWith.unique {xs : List (Call σ)} {o p : Except Raised Bool} (ho : c.StopsWith xs o)
    (hp : c.StopsWith xs p) : o = p := by
  obtain ⟨ys, x, rfl, hx, -⟩ := ho
  obtain ⟨zs, y, hzs, hy, -⟩ := hp
  obtain rfl : x = y := List.singleton_injective (List.append_inj' hzs rfl).2
  exact hx.symm.trans hy

theorem not_allGoOn_of_stopsWith {xs : List (Call σ)} {o : Except Raised Bool}
    (h : c.StopsWith xs o) (ho : o ≠ .ok false) : ¬ c.AllGoOn xs := by
  obtain ⟨ys, x, rfl, hx, -⟩ := h
  intro hon
  exact ho (hx.symm.trans (hon x (by simp)))

/-- Of all that a pass can do, one that a call stops does one thing: it ends the loop, or lets it
go on, as the call says. Where the call was interrupted, nothing is left in the buffer. -/
theorem passOf_of_stopsWith {t : Turn σ} {l : Text} {o : Except Raised Bool} (hb : c.Shows t)
    (hr : t.reading = .line l) (hstop : c.StopsWith (c.callsOf t) o) (ho : o ≠ .ok false) :
    (c.passOf t).ending = endingOf o ∧ ∀ m, o = .error (.interrupt m) → (c.passOf t).session =
      ⟨t.session.consoleAttached, t.session.exiting, .empty, .awaitingInput⟩ := by
  have hdoes := c.passOf_does t
  generalize (c.passOf t).session = s', (c.passOf t).ending = e at hdoes ⊢
  cases hdoes with
  | promptFails hf =>
    obtain ⟨shown, hshown⟩ := hb
    cases hf.symm.trans hshown
  | readFails _ h => cases hr.symm.trans h
  | readBroken _ h => cases hr.symm.trans h
  | inputEnds _ h => cases hr.symm.trans h
  | waits _ _ _ _ hon => exact absurd hon (c.not_allGoOn_of_stopsWith hstop ho)
  | handlerEnds _ _ h =>
    rw [StopsWith.unique c hstop h]
    exact ⟨rfl, by simp⟩
  | interrupted _ hleft =>
    rw [StopsWith.unique c hstop (hleft.stopsWith c hr)]
    exact ⟨rfl, fun _ _ => rfl⟩
  | recovered _ _ h hf =>
    rw [StopsWith.unique c hstop h, endingOf, show _ = _ from hf]
    exact ⟨rfl, by simp⟩
  | escaped _ hleft hescapes =>
    rw [StopsWith.unique c hstop (hleft.stopsWith c hr)]
    cases hescapes with
    | exit => exact ⟨rfl, by simp⟩
    | wordless hf =>
      rw [endingOf, hf]
      exact ⟨rfl, by simp⟩

theorem Does.consoleAttached_eq {t : Turn σ} {e : Option Ending} {s : Session}
    (h : c.Does t e s) : s.consoleAttached = t.session.consoleAttached := by
  cases h <;> rfl

theorem consoleAttached_pass (h : σ) (s : Session) (r : Reading) :
    (c.pass h s r).session.consoleAttached = s.consoleAttached :=
  Does.consoleAttached_eq c (c.passOf_does ⟨h, s, r⟩)

/-! ## The whole session -/

theorem turns_of_goesOn {h : σ} {s : Session} {r : Reading}
    (hp : (c.pass h s r).ending = none) (rs : List Reading) :
    c.turns h s (r :: rs) =
      ⟨h, s, r⟩ :: c.turns (c.pass h s r).handler (c.pass h s r).session rs := by
  rw [turns, hp]

theorem turns_of_ends {h : σ} {s : Session} {r : Reading} {e : Ending}
    (hp : (c.pass h s r).ending = some e) (rs : List Reading) :
    c.turns h s (r :: rs) = [⟨h, s, r⟩] := by
  rw [turns, hp]

theorem loop_of_goesOn {h : σ} {s : Session} {r : Reading}
    (hp : (c.pass h s r).ending = none) (rs : List Reading) :
    c.loop h s (r :: rs) =
      (c.loop (c.pass h s r).handler (c.pass h s r).session rs).after (c.pass h s r).events := by
  rw [loop, hp]

theorem loop_of_ends {h : σ} {s : Session} {r : Reading} {e : Ending}
    (hp : (c.pass h s r).ending = some e) (rs : List Reading) :
    c.loop h s (r :: rs) =
      ⟨(c.pass h s r).events, (c.pass h s r).handler, (c.pass h s r).session,
        unreadAfter e r rs, e⟩ := by
  rw [loop, hp]

/-- What holds of the states in which a loop begins, and is kept by each pass of some kind, holds of
the states in which a pass begins that has only such passes before it. -/
theorem turns_invariant_before {P : σ → Session → Prop} {Q : Turn σ → Prop}
    (step : ∀ t : Turn σ, P t.handler t.session → Q t → (c.passOf t).ending = none →
      P (c.passOf t).handler (c.passOf t).session)
    {h : σ} {s : Session} (hP : P h s) (rs : List Reading) {before after : List (Turn σ)}
    {t : Turn σ} (ht : c.turns h s rs = before ++ t :: after) (hQ : ∀ u ∈ before, Q u) :
    P t.handler t.session := by
  have hfirst {u : Turn σ} {us : List (Turn σ)} (hu : u :: us = [] ++ t :: after)
      (hPu : P u.handler u.session) : P t.handler t.session := by
    obtain ⟨rfl, -⟩ := List.cons.inj hu
    exact hPu
  induction rs generalizing h s before with
  | nil =>
    cases before with
    | nil => exact hfirst ht hP
    | cons u us => simp [turns] at ht
  | cons r rs ih =>
    cases hp : (c.pass h s r).ending with
    | none =>
      rw [c.turns_of_goesOn hp] at ht
      cases before with
      | nil => exact hfirst ht hP
      | cons u us =>
        obtain ⟨rfl, hrest⟩ := List.cons.inj ht
        obtain ⟨hu, hus⟩ := List.forall_mem_cons.1 hQ
        exact ih (step ⟨h, s, r⟩ hP hu hp) hrest hus
    | some e =>
      rw [c.turns_of_ends hp] at ht
      cases before with
      | nil => exact hfirst ht hP
      | cons u us => simp at ht

theorem reading_of_mem_turns {h : σ} {s : Session} {rs : List Reading} {t : Turn σ}
    (ht : t ∈ c.turns h s rs) : t.reading ∈ rs ∨ t.reading = .endOfInput := by
  induction rs generalizing h s with
  | nil =>
    rw [turns, List.mem_singleton] at ht
    exact .inr (ht ▸ rfl)
  | cons r rs ih =>
    cases hp : (c.pass h s r).ending with
    | none =>
      rw [c.turns_of_goesOn hp] at ht
      rcases List.mem_cons.1 ht with rfl | ht
      · exact .inl List.mem_cons_self
      · exact (ih ht).imp_left (List.mem_cons_of_mem r)
    | some e =>
      rw [c.turns_of_ends hp, List.mem_singleton] at ht
      exact .inl (ht ▸ List.mem_cons_self)

theorem events_loop (h : σ) (s : Session) (rs : List Reading) :
    (c.loop h s rs).events = (c.turns h s rs).flatMap c.eventsOf := by
  induction rs generalizing h s with
  | nil => exact (c.events_passOf ⟨h, s, .endOfInput⟩).trans (by simp [turns])
  | cons r rs ih =>
    have hevents : (c.pass h s r).events = c.eventsOf ⟨h, s, r⟩ := c.events_passOf ⟨h, s, r⟩
    cases hp : (c.pass h s r).ending with
    | none =>
      rw [c.loop_of_goesOn hp, c.turns_of_goesOn hp, List.flatMap_cons, ← ih, ← hevents]
      rfl
    | some e =>
      rw [c.loop_of_ends hp, c.turns_of_ends hp, List.flatMap_cons, ← hevents]
      simp

theorem history_of_error {h : σ} {consoleAttached : Bool} {f : Failure}
    (hg : c.greeting h (Session.start consoleAttached) = .error f) (rs : List Reading) :
    c.history h consoleAttached rs = [] ∧
      c.mainLoop h consoleAttached rs =
        ⟨[], h, Session.start consoleAttached, rs, .raised (.failure f)⟩ := by
  simp only [history, mainLoop, hg, and_self]

theorem history_of_ok {h : σ} {consoleAttached : Bool} {events : List Event}
    (hg : c.greeting h (Session.start consoleAttached) = .ok events) (rs : List Reading) :
    c.history h consoleAttached rs = c.turns h (Session.start consoleAttached) rs ∧
      c.mainLoop h consoleAttached rs =
        (c.loop h (Session.start consoleAttached) rs).after events := by
  simp only [history, mainLoop, hg, and_self]

theorem mem_turns_of_mem_history {h : σ} {consoleAttached : Bool} {rs : List Reading}
    {t : Turn σ} (ht : t ∈ c.history h consoleAttached rs) :
    t ∈ c.turns h (Session.start consoleAttached) rs := by
  cases hg : c.greeting h (Session.start consoleAttached) with
  | error f =>
    rw [(c.history_of_error hg rs).1] at ht
    cases ht
  | ok events => exact (c.history_of_ok hg rs).1 ▸ ht

theorem history_invariant_before {P : σ → Session → Prop} {Q : Turn σ → Prop}
    (step : ∀ t : Turn σ, P t.handler t.session → Q t → (c.passOf t).ending = none →
      P (c.passOf t).handler (c.passOf t).session)
    {h : σ} {consoleAttached : Bool} (hP : P h (Session.start consoleAttached))
    (rs : List Reading) {before after : List (Turn σ)} {t : Turn σ}
    (ht : c.history h consoleAttached rs = before ++ t :: after) (hQ : ∀ u ∈ before, Q u) :
    P t.handler t.session := by
  cases hg : c.greeting h (Session.start consoleAttached) with
  | error f =>
    rw [(c.history_of_error hg rs).1] at ht
    simp at ht
  | ok events =>
    rw [(c.history_of_ok hg rs).1] at ht
    exact c.turns_invariant_before step hP rs ht hQ

theorem history_invariant {P : σ → Session → Prop}
    (step : ∀ t : Turn σ, P t.handler t.session → (c.passOf t).ending = none →
      P (c.passOf t).handler (c.passOf t).session)
    {h : σ} {consoleAttached : Bool} (hP : P h (Session.start consoleAttached))
    (rs : List Reading) : ∀ t ∈ c.history h consoleAttached rs, P t.handler t.session := by
  intro t ht
  obtain ⟨before, after, hsplit⟩ := List.append_of_mem ht
  exact c.history_invariant_before (Q := fun _ => True) (fun u hu _ => step u hu) hP rs hsplit
    (fun _ _ => trivial)

theorem reading_of_mem_history {h : σ} {consoleAttached : Bool} {rs : List Reading} {t : Turn σ}
    (ht : t ∈ c.history h consoleAttached rs) : t.reading ∈ rs ∨ t.reading = .endOfInput :=
  c.reading_of_mem_turns (c.mem_turns_of_mem_history ht)

/-- A session that comes to a pass was not told to end. -/
theorem goesOn_of_mem_history {h : σ} {consoleAttached : Bool} {rs : List Reading}
    {t : Turn σ} (ht : t ∈ c.history h consoleAttached rs) : t.session.exiting = false := by
  refine c.history_invariant (P := fun _ s => s.exiting = false) ?_ rfl rs t ht
  intro u hu hon
  have hdoes := c.passOf_does u
  generalize (c.passOf u).session = s at hdoes ⊢
  rw [hon] at hdoes
  cases hdoes <;> exact hu

theorem consoleAttached_of_mem_history {h : σ} {consoleAttached : Bool} {rs : List Reading}
    {t : Turn σ} (ht : t ∈ c.history h consoleAttached rs) :
    t.session.consoleAttached = consoleAttached := by
  refine c.history_invariant (P := fun _ s => s.consoleAttached = consoleAttached) ?_ rfl rs t ht
  intro u hu _
  exact (c.consoleAttached_pass u.handler u.session u.reading).trans hu

theorem beforeRead_of_no_console {h : σ} {s : Session} (hs : s.consoleAttached = false) :
    c.beforeRead h s = .ok [] := by
  rw [beforeRead, hs]
  rfl

theorem shows_of_no_console {h : σ} {rs : List Reading} :
    ∀ t ∈ c.history h false rs, c.Shows t := by
  intro t ht
  exact ⟨[], c.beforeRead_of_no_console (c.consoleAttached_of_mem_history ht)⟩

/-- Every event of a session is one of the greeting or of a pass. -/
theorem events_mainLoop (h : σ) (consoleAttached : Bool) (rs : List Reading) :
    (c.mainLoop h consoleAttached rs).events =
      c.greeted h consoleAttached ++ (c.history h consoleAttached rs).flatMap c.eventsOf := by
  cases hg : c.greeting h (Session.start consoleAttached) with
  | error f =>
    rw [(c.history_of_error hg rs).1, (c.history_of_error hg rs).2, greeted, hg]
    rfl
  | ok events =>
    rw [(c.history_of_ok hg rs).1, (c.history_of_ok hg rs).2, greeted, hg, ← c.events_loop]
    rfl

/-! ## The samples -/

theorem sample_speaks (x : Call Unit) : sample.Speaks x := by
  intro f hf
  simp only [answer, sample, Handler.ofAnswers] at hf
  split at hf
  · cases hf
    rfl
  · split at hf <;> cases hf

/-- All that fails in the sample has words. -/
theorem sample_articulate :
    ∀ t ∈ sample.history () false (sampleScript.map Reading.ofOutcome), sample.Articulate t := by
  intro t ht
  refine ⟨?_, fun x _ => sample_speaks x⟩
  intro f hf
  rcases sample.reading_of_mem_history ht with hr | hr
  · simp only [sampleScript, hf] at hr
    simp [Reading.ofOutcome] at hr
    exact hr ▸ rfl
  · cases hf.symm.trans hr

/-- The last pass of the wordless sample, over a line with two statements: the second one is still
in the buffer. -/
def wordlessEnd : Turn Unit :=
  ⟨(), { Session.start false with buffer := ⟨"B;\n".toList⟩ }, .endOfInput⟩

/-- The wordless sample goes on behind the first statement of its line, without the second one. -/
theorem history_wordlessSample :
    wordlessSample.history () false [.line "A; B;"] =
      [⟨(), Session.start false, .line "A; B;"⟩, wordlessEnd] := by
  have hfirst : (InputBuffer.empty.append ("A; B;" ++ ['\n'])).extract? =
      some ("A;".toList, ⟨"B;\n".toList⟩) := by decide
  have hcall : (wordlessSample.dispatch () "A;".toList).outcome =
      .error (.failure .numberTooLong) := rfl
  have hpass : (wordlessSample.pass () (Session.start false) (.line "A; B;")).ending = none ∧
      (wordlessSample.pass () (Session.start false) (.line "A; B;")).session =
        wordlessEnd.session := by
    rw [pass, wordlessSample.beforeRead_of_no_console rfl, afterRead,
      show (Session.start false).buffer = InputBuffer.empty from rfl,
      wordlessSample.runBuffer_of_some hfirst, hcall]
    simp only [leave, wordlessSample.recover_of_hasWords (f := .numberTooLong) rfl]
    exact ⟨trivial, rfl⟩
  rw [history, show wordlessSample.greeting () (Session.start false) = .ok [] from rfl]
  dsimp only
  rw [wordlessSample.turns_of_goesOn hpass.1, hpass.2]
  rfl

end Client

end StatementShell
