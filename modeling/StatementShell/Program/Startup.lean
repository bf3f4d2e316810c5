-- Start-up. The properties get their defaults, a configuration file may change them, and
-- then the log goes where the properties say. Whatever fails on the way ends the program.
import StatementShell.Property.ConfigFile
import StatementShell.Session.Loop

namespace StatementShell

/-- Where a log goes. -/
inductive LogTarget
  | stderr
  | file (path : Text)
  deriving DecidableEq, Repr

/-- The last name of a target. -/
def LogTarget.name : LogTarget → Text
  | .stderr => "<stderr>"
  | .file path => Files.lastName path

/-- What all parts of the program share. -/
structure Environment where
  files : Files
  /-- The properties of the program, once there are any. -/
  registry : Option Property.Registry
  logTargets : List LogTarget
  logLevel : LogLevel
  deriving DecidableEq, Repr

namespace Environment

open Property (Registry Validator)

/-- Before start-up nothing is logged, except that warnings would be. -/
def initial (fs : Files) : Environment := ⟨fs, none, [], .warning⟩

/-! ## Properties -/

/-- The most characters of a prompt. -/
def promptLimit : Int := 64

/-- The properties of the program, each with its check, its default and whether it may be
set only at start-up. An empty log file stands for the standard error stream. -/
def defaultProperties : List (Text × Validator × Value × Bool) := [
  ("shell.prompt".toList, .string none promptLimit, .text Client.firstPrompt, false),
  ("shell.continuation_prompt".toList, .string none promptLimit, .text Client.nextPrompt, false),
  ("shell.show_banner".toList, .boolean, .boolean true, false),
  ("log.level".toList, .string (some (LogLevel.all.map LogLevel.name)) Validator.defaultLimit,
    .text LogLevel.warning.name, true),
  ("log.file".toList, .string none Validator.defaultLimit, .text [], true)]

/-- The registry of the program before anything is loaded. -/
def defaultRegistry : Registry :=
  defaultProperties.foldl (fun g (name, v, initial, readonly) => (g.add name v initial readonly).1)
    Registry.empty

/-- Whether a failure to load says that the file is to blame. -/
def blamesFile : Failure → Bool
  | .file e => e.isSystem
  | .ini _ => true
  | .property _ => true
  | _ => false

/-- Loads a configuration file, if one is given. -/
def loadConfig (fs : Files) (config : Option Text) : Except Failure Registry :=
  match config with
  | none => .ok defaultRegistry
  | some path =>
    match defaultRegistry.load fs path with
    | .ok g => .ok g
    | .error e => .error (if blamesFile e then .loading path e else e)

/-- Makes the properties of the program. -/
def initProperties (env : Environment) (config : Option Text) :
    Environment × Except Failure Registry :=
  match loadConfig env.files config with
  | .error e => (env, .error e)
  | .ok g => ({ env with registry := some g }, .ok g)

/-! ## Log -/

/-- A path without steps that lead nowhere or back. -/
def normalPath (path : Text) : Text := Files.pathTo (Files.named path)

/-- A text property, or nothing where it has no text. What is loaded from a file has no surrogates
in it. -/
def textOf (g : Registry) (name : Text) : Except Failure Text :=
  (g.get name).map (fun v =>
    match v with
    | .text t => t
    | _ => [])

/-- Opens the target that a registry asks for. A log file is made if it is not there. -/
def openTarget (fs : Files) (name : Text) : Except Failure (Files × LogTarget) :=
  if name.isEmpty then .ok (fs, .stderr)
  else
    match fs.append (normalPath name) [] with
    | .ok fs => .ok (fs, .file (normalPath name))
    | .error e =>
      .error (if e.isSystem then .logging name (.file e) else .file e)

/-- Sends the log where a registry says, and nowhere else any more. -/
def initLog (env : Environment) (g : Registry) : Environment × Except Failure Unit :=
  match textOf g "log.file" with
  | .error e => (env, .error e)
  | .ok name =>
    match openTarget env.files name with
    | .error e => (env, .error e)
    | .ok (fs, target) =>
      let env := { env with files := fs, logTargets := [target] }
      match textOf g "log.level" with
      | .error e => (env, .error e)
      | .ok level =>
        ({ env with logLevel := (LogLevel.ofName? level).getD env.logLevel }, .ok ())

/-! ## All together -/

/-- Starts everything up. The properties of the program are replaced before the log is. -/
def initAll (env : Environment) (config : Option Text) :
    Environment × Except Failure Registry :=
  match env.initProperties config with
  | (env, .error e) => (env, .error e)
  | (env, .ok g) =>
    match env.initLog g with
    | (env, .error e) => (env, .error e)
    | (env, .ok ()) => ({ env with registry := some g.completeSetup }, .ok g.completeSetup)

end Environment

end StatementShell
