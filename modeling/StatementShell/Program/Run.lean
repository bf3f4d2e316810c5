-- The program from its command line to its end: options, start-up, one session, and the
-- properties saved if that was asked for. All of it is a function of what the program is
-- given; only the time and the form of the log are left to the caller.
import StatementShell.Handler.Builtin
import StatementShell.Program.CommandLine
import StatementShell.Program.Startup

namespace StatementShell

/-- How lines of the log are written. -/
structure LogStyle where
  /-- The time in front of a line. -/
  stamp : Text
  /-- What follows a line about something that went wrong. -/
  trace : Raised → Text

/-- The name under which a session writes to the log. -/
def logSource : Text := "interactive"

/-- The lines of the log that an event makes. -/
def LogStyle.lines (style : LogStyle) (e : Event) : Text :=
  match e with
  | .log level message cause =>
    style.stamp ++ " " ++ level.name ++ " [" ++ logSource ++ "] " ++ message ++ "\n" ++
      (match cause with
        | some r => style.trace r ++ "\n"
        | none => [])
  | _ => []

namespace Program

/-- How the program ends: with a code, or with something raised. -/
inductive Exit
  | code (n : Nat)
  | raised (r : Raised)
  deriving DecidableEq, Repr

/-- What the program leaves behind. -/
structure Output where
  exit : Exit
  stdout : Text
  stderr : Text
  files : Files
  deriving DecidableEq, Repr

/-- What the program is given. -/
structure Input where
  argv : List Text
  stdin : Body
  files : Files
  terminals : Terminals
  tick : Tick

/-! ## Before the session -/

/-- The end of a program whose command line asks for no session. -/
def stopped (fs : Files) : CommandLine.Stop → Output
  | .help => ⟨.raised (.exit "0"), CommandLine.helpText, [], fs⟩
  | .version => ⟨.raised (.exit "0"), CommandLine.versionText, [], fs⟩
  | .fault e => ⟨.raised (.exit "2"), [], CommandLine.faultText e, fs⟩

/-- The end of a program whose start-up failed. -/
def failed (fs : Files) (f : Failure) : Output :=
  if f.isFatal then
    ⟨.code 1, [], CommandLine.programName ++ ": " ++ f.message ++ "\n", fs⟩
  else ⟨.raised (.failure f), [], [], fs⟩

/-- The path that an option gives, if it gives one that is not empty. -/
def given? (a : Option CommandLine.FileArgument) : Option Text :=
  match a with
  | some (.path (c :: r)) => some (c :: r)
  | _ => none

/-- The configuration file to load. An option for it has to give a path. -/
def configPath (a : Option CommandLine.FileArgument) : Except Failure (Option Text) :=
  match a with
  | none => .ok none
  | some (.path t) => .ok (some t)
  | some .mark => .error .pathNotText

/-- A program that is ready for its session. -/
structure Ready where
  environment : Environment
  handler : Builtin
  /-- The statements, if they come from a file: its path and its body. -/
  statements : Option (Text × Body)
  saveConfig : Option Text

/-- The options and the start-up. A program may be over after these. -/
def launch (argv : List Text) (fs : Files) (tick : Tick) : Except Output Ready :=
  match CommandLine.parse argv with
  | .error s => .error (stopped fs s)
  | .ok o =>
    match configPath o.config with
    | .error f => .error (failed fs f)
    | .ok config =>
      match (Environment.initial fs).initAll config with
      | (env, .error f) => .error (failed env.files f)
      | (env, .ok g) =>
        let handler : Builtin := ⟨some g, none, ⟨tick, 0⟩⟩
        let ready (statements : Option (Text × Body)) : Ready :=
          ⟨env, handler, statements, given? o.saveConfig⟩
        match given? o.file with
        | none => .ok (ready none)
        | some path =>
          match env.files.read path with
          | .error e => .error (failed env.files (.file e))
          | .ok b => .ok (ready (some (path, b)))

/-- The client of the session. -/
def Ready.client (r : Ready) : Client Builtin := ⟨Builtin.handler, r.environment.logLevel⟩

/-- The source of the statements. A file is never at a console. -/
def Ready.source (r : Ready) (stdin : Body) (t : Terminals) : LineSource :=
  match r.statements with
  | some (_, b) => .ofBody b false
  | none => .ofBody stdin t.stdin

/-- The file that the statements come from, if the log goes there as well. -/
def Ready.ownLog? (r : Ready) : Option Body :=
  match r.statements with
  | none => none
  | some (path, b) =>
    let same (target : LogTarget) : Bool :=
      match target with
      | .stderr => false
      | .file log => r.environment.files.meet log path
    if r.environment.logTargets.any same then some b else none

/-- How many reads a session makes of its own log, before it is left off. -/
def readLimit : Nat := 10000

/-- The session of a program. -/
def Ready.session (r : Ready) (style : LogStyle) (stdin : Body) (t : Terminals) :
    Client.Outcome Builtin :=
  match r.ownLog? with
  | some b => r.client.runFollowing style.lines readLimit r.handler b.toBytes
  | none =>
    let source := r.source stdin t
    r.client.run r.handler (attachesConsole none source t) source.readings

/-! ## After the session -/

/-- Some text of the log in the files, and what of it goes to the standard error stream. -/
def keepLog (targets : List LogTarget) (fs : Files) (t : Text) : Files × Text :=
  targets.foldl (fun (fs, err) target =>
    match target with
    | .stderr => (fs, err ++ t)
    | .file path => ((fs.append path t).toOption.getD fs, err)) (fs, [])

/-- Saves the properties, if that was asked for. -/
def save (fs : Files) (b : Builtin) (path : Option Text) : Files × Exit :=
  match path, b.registry with
  | some path, some g =>
    match g.save fs path with
    | (fs, .ok ()) => (fs, .code 0)
    | (fs, .error f) => (fs, .raised (.failure f))
  | _, _ => (fs, .code 0)

/-- The end of a program whose session has ended. -/
def Ready.finish (r : Ready) (fs : Files) (b : Builtin) (e : Ending) : Files × Exit :=
  match e with
  | .returned => save fs b r.saveConfig
  | .raised x => (fs, .raised x)
  | .stuck f => (fs, .raised (.failure f))
  | .leftOff => (fs, .raised (.interrupt []))

/-- What a program leaves behind after its session. -/
def Ready.conclude (r : Ready) (style : LogStyle) (o : Client.Outcome Builtin) : Output :=
  let fs := r.environment.files
  match o with
  | .notStarted events _ x => ⟨.raised x, Event.written events, [], fs⟩
  | .ran run =>
    let (fs, err) := keepLog r.environment.logTargets fs (run.events.flatMap style.lines)
    let (fs, exit) := r.finish fs run.handler run.ending
    ⟨exit, Event.written run.events, err, fs⟩

/-- The whole program. -/
def run (style : LogStyle) (i : Input) : Output :=
  match launch i.argv i.files i.tick with
  | .error o => o
  | .ok r => r.conclude style (r.session style i.stdin i.terminals)

/-- The end of the program where a code ends the whole process. -/
def Exit.ofProcess : Exit → Exit
  | .code n => .raised (.exit (Integer.digits n))
  | e => e

end Program

end StatementShell
