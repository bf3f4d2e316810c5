-- The program at a terminal. What is done here is only what a function cannot do: looking
-- at files, reading lines as they are typed, writing, and ending the process.
import StatementShell.Program.Run

namespace StatementShell.Terminal

/-! ## Files -/

/-- What stands at a path. A directory is known by the refusal to be read. -/
def look (path : String) : IO (Option Entry) := do
  try
    let bytes ← IO.FS.readBinFile path
    return some (.file (Body.ofBytes bytes.toList))
  catch e =>
    match e with
    | .inappropriateType _ _ _ => return some .directory
    | _ => return none

/-- The paths that lead to a path, and the path itself. -/
def onTheWay (path : Text) : List Text :=
  let names := Text.pieces '/' path
  (List.range names.length).map (fun k => Text.joined ['/'] (names.take (k + 1)))

/-- The files with all that stands on the way to some paths. -/
def gather (fs : Files) (paths : List Text) : IO Files :=
  (paths.flatMap onTheWay).foldlM (fun fs path => do
    match ← look (String.ofList path) with
    | some e => return fs.put (Files.named path) e
    | none => return fs) fs

/-- Puts a body at a path in one step. -/
def replaceFile (path : Text) (b : Body) : IO Unit := do
  let beside := String.ofList (Property.Registry.besidePath path)
  IO.FS.writeBinFile beside (ByteArray.mk b.toBytes.toArray)
  IO.FS.rename beside (String.ofList path)

/-- Does what leads from some files to others. -/
def keep (before after : Files) : IO Unit := do
  for (p, e) in after.entries do
    match e with
    | .file b =>
      if before.find? p != some e then replaceFile (Files.pathTo p) b
    | .directory => pure ()
  for (p, _) in before.entries do
    if (after.find? p).isNone then IO.FS.removeFile (String.ofList (Files.pathTo p))

/-- The paths that a command line and a configuration file name. -/
def pathsOf (argv : List Text) : IO (List Text) := do
  match CommandLine.parse argv with
  | .error _ => return []
  | .ok o =>
    let config := o.config.bind (·.path?)
    let saved := (Program.given? o.saveConfig).toList
    let named := config.toList ++ (Program.given? o.file).toList ++ saved ++
      saved.map Property.Registry.besidePath
    let fs ← gather Files.empty named
    match Environment.loadConfig fs config with
    | .error _ => return named
    | .ok g =>
      match Environment.textOf g "log.file" with
      | .ok (c :: r) => return Environment.normalPath (c :: r) :: named
      | _ => return named

/-! ## Events -/

/-- Writes what an event writes. -/
def emit (targets : List LogTarget) (e : Event) : IO Unit := do
  match e with
  | .write t =>
    let out ← IO.getStdout
    out.putStr (String.ofList t)
    out.flush
  | e =>
    let trace (r : Raised) : Text := r.kind ++ ": " ++ r.message
    let style : LogStyle := ⟨Integer.digits (← IO.monoMsNow), trace⟩
    let lines := String.ofList (style.lines e)
    if lines.isEmpty then return
    for target in targets do
      match target with
      | .stderr => IO.eprint lines
      | .file path =>
        IO.FS.withFile (String.ofList path) .append (fun handle => handle.putStr lines)

/-! ## The session -/

/-- The next line that is typed. Lines that came together wait for their turn. -/
def nextLine (waiting : IO.Ref (List Reading)) : IO Reading := do
  match ← waiting.get with
  | r :: rs =>
    waiting.set rs
    return r
  | [] =>
    try
      let line ← (← IO.getStdin).getLine
      let source := LineSource.ofText (Text.unifyLineEnds line.toList) true
      waiting.set source.readings.tail
      return source.next.1
    catch e =>
      waiting.set [.endOfInput]
      return .raises (.failure (.foreign "OSError" e.toString.toList))

/-- The next line of a file, which may have grown since the last one. -/
def nextOfFile (path : Text) (state : IO.Ref (LineReader × Nat)) : IO Reading := do
  let (reader, known) ← state.get
  let bytes ← IO.FS.readBinFile (String.ofList path)
  let (r, reader) := (reader.extend (bytes.toList.drop known)).read
  state.set (reader, bytes.size)
  return r

/-- Reads and handles lines until the session has an ending. A session that is stuck goes round
again and again. -/
partial def converse (c : Client Builtin) (targets : List LogTarget) (next : IO Reading)
    (h : Builtin) (s : Session) : IO (Builtin × Ending) := do
  match c.beforeRead h s with
  | .error f =>
    match c.recover f with
    | .error e => return (h, .raised (.failure e))
    | .ok events =>
      events.forM (emit targets)
      converse c targets next h s
  | .ok before =>
    before.forM (emit targets)
    let p := c.afterRead h s (← next)
    p.events.forM (emit targets)
    match p.ending with
    | none | some (.stuck _) => converse c targets next p.handler p.session
    | some e => return (p.handler, e)

/-- A session from its greeting on. -/
def hold (r : Program.Ready) (t : Terminals) : IO (Builtin × Ending) := do
  let targets := r.environment.logTargets
  let next ←
    match r.statements with
    | some (path, _) => pure (nextOfFile path (← IO.mkRef (.start [], 0)))
    | none => pure (nextLine (← IO.mkRef []))
  let session := Session.start (attachesConsole none (r.source .empty t) t)
  match r.client.greeting r.handler session with
  | .error f => return (r.handler, .raised (.failure f))
  | .ok events =>
    events.forM (emit targets)
    converse r.client targets next r.handler session

/-! ## The end -/

/-- The code with which the process ends. -/
def exitCode : Program.Exit → IO UInt32
  | .code n => return n.toUInt32
  | .raised (.exit m) => return (Text.numeral m).toUInt32
  | .raised r => do
    IO.eprintln (String.ofList (r.kind ++ ": " ++ r.message))
    return 1

/-- The whole program. -/
def runProgram (argv : List Text) : IO UInt32 := do
  let before ← gather Files.empty (← pathsOf argv)
  match Program.launch argv before (.whole 0) with
  | .error o =>
    keep before o.files
    IO.print (String.ofList o.stdout)
    IO.eprint (String.ofList o.stderr)
    exitCode o.exit
  | .ok r =>
    keep before r.environment.files
    let stdin ← (← IO.getStdin).isTty
    let stdout ← (← IO.getStdout).isTty
    let (h, ending) ← hold r ⟨stdin, stdout⟩
    let (after, exit) := r.finish r.environment.files h ending
    keep r.environment.files after
    exitCode exit

end StatementShell.Terminal

/-- Runs the program with its command line. -/
def main (args : List String) : IO UInt32 :=
  StatementShell.Terminal.runProgram (args.map String.toList)
