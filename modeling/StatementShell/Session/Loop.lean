-- The loop of a session. Lines are collected until a statement is complete; every complete
-- statement goes to the handler. A read or a statement that fails is reported, and an
-- interruption drops what was collected; neither ends the session. A failure that has no words
-- cannot be reported: what it raises instead leaves the line that is being run.
import StatementShell.Handler.Basic
import StatementShell.InputBuffer
import StatementShell.Session.LineSource

namespace StatementShell

/-- The state of a session. -/
structure Session where
  /-- Whether prompts are shown. This is settled when the session begins. -/
  consoleAttached : Bool
  exiting : Bool
  buffer : InputBuffer
  phase : Phase
  deriving DecidableEq, Repr

/-- A session that has read nothing. -/
def Session.start (consoleAttached : Bool) : Session :=
  ⟨consoleAttached, false, .empty, .awaitingInput⟩

/-- A handler, and the least level of the log that is kept. -/
structure Client (σ : Type) where
  handler : Handler σ
  logLevel : LogLevel

/-- How a session ended. -/
inductive Ending
  /-- The input was at its end, or an answer asked for it. -/
  | returned
  /-- Something left the loop that the loop does not handle. -/
  | raised (r : Raised)
  /-- The prompt cannot be shown or the source is broken, so that nothing more is ever
  read. -/
  | stuck (f : Failure)
  /-- It was left off, after as many reads as it was allowed. -/
  | leftOff
  deriving DecidableEq, Repr

/-- How a session ended, after the handler was told of it. What the handler raises then takes
the place of what ended the session. -/
def Ending.afterShutdown (e : Ending) : Except Raised Unit → Ending
  | .ok _ => e
  | .error r => .raised r

namespace Client

variable {σ : Type} (c : Client σ)

/-! ## Log and reports -/

/-- What the log says about a failure. -/
def failureNote : Text := "Unexpected error"

/-- What the log says before a statement is handled. -/
def statementNote (statement : Text) : Text := "Command string:\n" ++ statement

/-- What the log says when the input ends within a statement. -/
def incompleteNote (t : Text) : Text :=
  "Discarding incomplete statement at end of input: " ++ Text.quoted t

/-- What an interruption writes. -/
def interruptText : Text := "\nKeyboardInterrupt\n"

/-- A line of the log, if its level is kept. -/
def log (level : LogLevel) (message : Text) (cause : Option Raised) : List Event :=
  if c.logLevel.rank ≤ level.rank then [.log level message cause] else []

/-- Reports a failure, in the output and in the log. -/
def report (r : Report) : List Event :=
  .write r.line :: c.log .error failureNote (some r.cause)

/-- What comes of a failure that has reached the loop: it is reported, or what asking for its
words raises leaves the loop. -/
def recover (f : Failure) : Except Failure (List Event) := (Report.ofLoop f).map c.report

/-- A failure that has words is reported. -/
theorem recover_of_hasWords {f : Failure} (hf : f.HasWords) :
    c.recover f = .ok (c.report (.plain f)) := by
  rw [recover, Report.ofLoop, hf]
  rfl

theorem recover_of_wordless {f e : Failure} (hf : f.words = .error e) :
    c.recover f = .error e := by
  rw [recover, Report.ofLoop, hf]
  rfl

/-! ## Prompts -/

/-- The prompt for a new statement, where no property says otherwise. -/
def firstPrompt : Text := "CMD> "

/-- The prompt for the rest of a statement, where no property says otherwise. -/
def nextPrompt : Text := "   > "

/-- The text that greets somebody at the console. -/
def banner : Text := "Welcome to qshell.  Exit with EXIT or QUIT command.\n\n"

/-- The value of a property, or a default where there is no such property. -/
def property (h : σ) (name : Text) (default : Value) : Except Failure Value :=
  match c.handler.properties h with
  | none => .ok default
  | some g => if g.has name then g.get name else .ok default

/-- The prompt that a session shows. -/
def prompt (h : σ) (s : Session) : Except Failure Text :=
  let value :=
    if s.buffer.isEmpty then c.property h "shell.prompt" (.text firstPrompt)
    else c.property h "shell.continuation_prompt" (.text nextPrompt)
  match value with
  | .error e => .error e
  | .ok v =>
    match v.wording? with
    | some t => .ok t
    | none => .error (.promptNotText v)

/-- What is written before a read. -/
def beforeRead (h : σ) (s : Session) : Except Failure (List Event) :=
  if s.consoleAttached then (c.prompt h s).map (fun t => [.write t]) else .ok []

/-- A prompt that cannot be shown says why. -/
theorem hasWords_of_beforeRead {h : σ} {s : Session} {f : Failure}
    (hb : c.beforeRead h s = .error f) : f.HasWords := by
  have hproperty {name : Text} {default : Value} (hv : c.property h name default = .error f) :
      f.HasWords := by
    unfold property at hv
    split at hv
    · cases hv
    · split at hv
      · exact Property.Registry.hasWords_of_get hv
      · cases hv
  unfold beforeRead at hb
  split at hb
  next =>
    cases hp : c.prompt h s with
    | ok t =>
      rw [hp] at hb
      cases hb
    | error e =>
      rw [hp] at hb
      cases hb
      unfold prompt at hp
      dsimp only at hp
      split at hp
      next hv =>
        cases hp
        split at hv
        · exact hproperty hv
        · exact hproperty hv
      next =>
        split at hp <;> cases hp
        rfl
  next => cases hb

/-- What is written when a session begins. -/
def greeting (h : σ) (s : Session) : Except Failure (List Event) :=
  if s.consoleAttached then
    (c.property h "shell.show_banner" (.boolean true)).map
      (fun v => if v.isTruthy then [.write banner] else [])
  else .ok []

/-! ## Statements -/

/-- Gives a statement to the handler, and tells whether the session is to end. A failure is
reported and does not end it. Where no report of it can be made, what making one raises comes
of the statement. -/
def dispatch (h : σ) (statement : Text) : Step σ Bool :=
  let s := c.handler.handle h statement
  let before := c.log .debug (statementNote statement) none ++
    .handle statement :: s.events
  match s.outcome.bind Reply.ends with
  | .ok ends => ⟨before, s.state, .ok ends⟩
  | .error (.failure f) =>
    match Report.ofStatement statement f with
    | .ok r => ⟨before ++ c.report r, s.state, .ok false⟩
    | .error e => ⟨before, s.state, .error (.failure e)⟩
  | .error r => ⟨before, s.state, .error r⟩

/-- What the buffer holds after its statements were run, or what ended the running. -/
inductive Progress
  /-- There is no complete statement left. -/
  | waits (buffer : InputBuffer)
  /-- An answer asked for the end of the session. -/
  | ends
  /-- Something left a statement; this is the text after it. -/
  | left (r : Raised) (buffer : InputBuffer)
  deriving DecidableEq, Repr

/-- Runs the complete statements of a buffer, in order. -/
def runBuffer (h : σ) (b : InputBuffer) : List Event × σ × Progress :=
  match _h : b.extract? with
  | none => ([], h, .waits b)
  | some (statement, rest) =>
    let s := c.dispatch h statement
    match s.outcome with
    | .error r => (s.events, s.state, .left r rest)
    | .ok true => (s.events, s.state, .ends)
    | .ok false =>
      let (events, h, p) := runBuffer s.state rest
      (s.events ++ events, h, p)
termination_by b.text.length
decreasing_by exact InputBuffer.length_lt_of_extract? _h

theorem runBuffer_of_none {h : σ} {b : InputBuffer} (hb : b.extract? = none) :
    c.runBuffer h b = ([], h, .waits b) := by
  rw [runBuffer]
  split
  · rfl
  · simp_all

/-- A buffer with a complete statement runs it first. -/
theorem runBuffer_of_some {h : σ} {b rest : InputBuffer} {statement : Text}
    (hb : b.extract? = some (statement, rest)) :
    c.runBuffer h b =
      match (c.dispatch h statement).outcome with
      | .error r => ((c.dispatch h statement).events, (c.dispatch h statement).state, .left r rest)
      | .ok true => ((c.dispatch h statement).events, (c.dispatch h statement).state, .ends)
      | .ok false =>
        let next := c.runBuffer (c.dispatch h statement).state rest
        ((c.dispatch h statement).events ++ next.1, next.2.1, next.2.2) := by
  rw [runBuffer]
  split
  · simp_all
  · rename_i statement' rest' hb'
    obtain ⟨rfl, rfl⟩ : statement = statement' ∧ rest = rest' := by
      simpa using hb.symm.trans hb'
    rfl

/-! ## One pass -/

/-- What a pass of the loop does. Without an ending the loop goes on. -/
structure Pass (σ : Type) where
  events : List Event
  handler : σ
  session : Session
  ending : Option Ending

/-- The session after its last pass. -/
def close (s : Session) : Session :=
  { s with buffer := .empty, exiting := true, phase := .exiting }

/-- The phase of a session that goes on. -/
def phaseFor (b : InputBuffer) : Phase :=
  if b.isEmpty then .awaitingInput else .readingContinuation

/-- Something that leaves a read or a statement: an interruption starts over, a failure is
reported and leaves the session as it is, the statements after it still in the buffer, and an
exit ends the session at once. -/
def leave (events : List Event) (h : σ) (s : Session) : Raised → Pass σ
  | .interrupt _ =>
    ⟨events ++ [.write interruptText], h,
      { s with buffer := .empty, phase := .awaitingInput }, none⟩
  | .failure f =>
    match c.recover f with
    | .ok reported => ⟨events ++ reported, h, s, none⟩
    | .error e => ⟨events, h, s, some (.raised (.failure e))⟩
  | .exit m => ⟨events, h, s, some (.raised (.exit m))⟩

/-- What a read leads to. -/
def afterRead (h : σ) (s : Session) : Reading → Pass σ
  | .raises (.failure f) =>
    match Report.ofRead f with
    | .ok r => ⟨c.report r, h, s, none⟩
    | .error e => c.leave [] h s (.failure e)
  | .raises r => c.leave [] h s r
  | .broken e =>
    ⟨c.report (.input (.failure (.undecodable e))), h, s, some (.stuck (.undecodable e))⟩
  | .endOfInput =>
    let events :=
      if s.buffer.isEmpty then [] else c.log .debug (incompleteNote s.buffer.text) none
    ⟨events, h, close s, some .returned⟩
  | .line t =>
    match c.runBuffer h (s.buffer.append (t ++ ['\n'])) with
    | (events, h, .waits b) => ⟨events, h, { s with buffer := b, phase := phaseFor b }, none⟩
    | (events, h, .ends) => ⟨events, h, close s, some .returned⟩
    | (events, h, .left r b) => c.leave events h { s with buffer := b } r

/-- One pass of the loop: the prompt, the read and what it leads to. -/
def pass (h : σ) (s : Session) (r : Reading) : Pass σ :=
  match c.beforeRead h s with
  | .error f =>
    match c.recover f with
    | .ok reported => ⟨reported, h, s, some (.stuck f)⟩
    | .error e => ⟨[], h, s, some (.raised (.failure e))⟩
  | .ok before =>
    let p := c.afterRead h s r
    { p with events := before ++ .read s.buffer.text s.phase :: p.events }

/-! ## The whole session -/

/-- A session that is over: the events, the states at its end, the readings that are left,
and how it ended. -/
structure Run (σ : Type) where
  events : List Event
  handler : σ
  session : Session
  unread : List Reading
  ending : Ending

/-- The same end after more events. -/
def Run.after (events : List Event) (r : Run σ) : Run σ :=
  { r with events := events ++ r.events }

/-- The readings that a pass with some ending leaves. Nothing gets past what keeps a
session stuck. -/
def unreadAfter (e : Ending) (r : Reading) (rs : List Reading) : List Reading :=
  match e with
  | .stuck _ => r :: rs
  | _ => rs

/-- The end of the input ends a session whose prompt can be shown. -/
theorem ending_pass_endOfInput {h : σ} {s : Session} {es : List Event}
    (he : c.beforeRead h s = .ok es) : (c.pass h s .endOfInput).ending = some .returned := by
  simp only [pass, he, afterRead]

/-- Passes until one has an ending. The end of the input is one. -/
def loop (h : σ) (s : Session) : List Reading → Run σ
  | [] =>
    let p := c.pass h s .endOfInput
    ⟨p.events, p.handler, p.session, [], p.ending.getD .returned⟩
  | r :: rs =>
    let p := c.pass h s r
    match p.ending with
    | none => (loop p.handler p.session rs).after p.events
    | some e => ⟨p.events, p.handler, p.session, unreadAfter e r rs, e⟩

/-- The loop after the greeting. -/
def mainLoop (h : σ) (consoleAttached : Bool) (rs : List Reading) : Run σ :=
  let s := Session.start consoleAttached
  match c.greeting h s with
  | .error f => ⟨[], h, s, rs, .raised (.failure f)⟩
  | .ok events => (c.loop h s rs).after events

/-- What comes of a client's run: a session, or what the handler raised before there was
one. -/
inductive Outcome (σ : Type)
  | notStarted (events : List Event) (handler : σ) (r : Raised)
  | ran (run : Run σ)

/-- A session with its end, of which the handler is told however the session ends. A session
that is stuck never comes to its end. -/
def finish (m : Run σ) : Run σ :=
  match m.ending with
  | .stuck _ => m
  | e =>
    let s := c.handler.shutdown m.handler
    { m with
      events := m.events ++ .shutdown :: s.events
      handler := s.state
      ending := e.afterShutdown s.outcome }

theorem finish_of_stuck {m : Run σ} {f : Failure} (hm : m.ending = .stuck f) :
    c.finish m = m := by
  rw [finish, hm]

theorem finish_of_ends {m : Run σ} (hm : ∀ f, m.ending ≠ .stuck f) :
    c.finish m =
      { m with
        events := m.events ++ .shutdown :: (c.handler.shutdown m.handler).events
        handler := (c.handler.shutdown m.handler).state
        ending := m.ending.afterShutdown (c.handler.shutdown m.handler).outcome } := by
  unfold finish
  split
  next f hf => exact absurd hf (hm f)
  next => rfl

/-- A session from the handler's start to its end. -/
def around (h : σ) (main : σ → Run σ) : Outcome σ :=
  let s := c.handler.startup h
  match s.outcome with
  | .error r => .notStarted (.startup :: s.events) s.state r
  | .ok _ => .ran ((c.finish (main s.state)).after (.startup :: s.events))

/-- A whole session over some readings. -/
def run (h : σ) (consoleAttached : Bool) (rs : List Reading) : Outcome σ :=
  c.around h (fun h => c.mainLoop h consoleAttached rs)

/-! ## A session that reads its own log -/

/-- Passes until one has an ending, over bytes to whose end every pass adds what the log says
about it. There may be no such pass, so the reads are counted. -/
def follow (note : Event → Text) : Nat → LineReader → σ → Session → Run σ
  | 0, _, h, s => ⟨[], h, s, [], .leftOff⟩
  | n + 1, reader, h, s =>
    let (r, reader) := reader.read
    let p := c.pass h s r
    match p.ending with
    | some e => ⟨p.events, p.handler, p.session, [], e⟩
    | none =>
      let reader := reader.extend (Utf8.encode (p.events.flatMap note))
      (follow note n reader p.handler p.session).after p.events

/-- A whole session over bytes at whose end its log goes on, without a console. -/
def runFollowing (note : Event → Text) (reads : Nat) (h : σ) (bs : List UInt8) : Outcome σ :=
  c.around h (fun h => c.follow note reads (.start bs) h (.start false))

end Client

end StatementShell
