-- The command line. Long options may be cut short as long as one option fits, short ones
-- may stand together, and a value may follow its option or be part of the same argument.
import StatementShell.Number.Integer
import StatementShell.Text.Line
import StatementShell.Text.Quoted

namespace StatementShell.CommandLine

/-- The options of the program. -/
inductive Flag
  | help
  | config
  | file
  | saveConfig
  | version
  deriving DecidableEq, Repr

namespace Flag

/-- All options, in the order of the help text. -/
def all : List Flag := [help, config, file, saveConfig, version]

/-- The letter of an option, if it has one. -/
def letter? : Flag → Option Char
  | .help => some 'h'
  | .config => some 'c'
  | .file => some 'f'
  | .saveConfig => none
  | .version => none

/-- The name of an option. -/
def name : Flag → Text
  | .help => "--help"
  | .config => "--config"
  | .file => "--file"
  | .saveConfig => "--save-config"
  | .version => "--version"

/-- All spellings of an option. -/
def spellings (f : Flag) : Text :=
  match f.letter? with
  | some c => '-' :: c :: '/' :: f.name
  | none => f.name

/-- Whether an option has a value. -/
def takesValue : Flag → Bool
  | .help => false
  | .version => false
  | _ => true

/-- The option of a letter. -/
def ofLetter? (c : Char) : Option Flag := all.find? (fun f => f.letter? == some c)

/-- The options whose names begin with a text. -/
def withStart (t : Text) : List Flag := all.filter (fun f => t.isPrefixOf f.name)

end Flag

/-- The mark after which nothing is an option. -/
def markText : Text := "--"

/-- The value of an option. The mark is no name of a file, not even where it is written as
part of the same argument as the option. -/
inductive FileArgument
  | path (t : Text)
  | mark
  deriving DecidableEq, Repr

namespace FileArgument

/-- The value that a text stands for. -/
def ofText (t : Text) : FileArgument := if t = markText then .mark else .path t

/-- The path, if there is one. -/
def path? : FileArgument → Option Text
  | .path t => some t
  | .mark => none

end FileArgument

/-- What the options of a command line say. -/
structure Options where
  config : Option FileArgument := none
  file : Option FileArgument := none
  saveConfig : Option FileArgument := none
  deriving DecidableEq, Repr

/-- What is wrong with a command line. -/
inductive Fault
  | ambiguous (argument : Text) (fitting : List Flag)
  | valueMissing (flag : Flag)
  | valueIgnored (flag : Flag) (value : Text)
  | unrecognized (arguments : List Text)
  deriving DecidableEq, Repr

/-- Why a command line gives no options. -/
inductive Stop
  | help
  | version
  | fault (e : Fault)
  deriving DecidableEq, Repr

/-! ## Texts -/

/-- The words for a fault. -/
def Fault.message : Fault → Text
  | .ambiguous t fs =>
    "ambiguous option: " ++ t ++ " could match " ++ Text.joined ", " (fs.map Flag.name)
  | .valueMissing f => "argument " ++ f.spellings ++ ": expected one argument"
  | .valueIgnored f v =>
    "argument " ++ f.spellings ++ ": ignored explicit argument " ++ Text.quoted v
  | .unrecognized ts => "unrecognized arguments: " ++ Text.joined " " ts

/-- The name of the program. -/
def programName : Text := "qshell"

/-- The version of the program. -/
def versionText : Text := programName ++ " 0.1.0\n"

/-- How the program is called. -/
def usage : Text :=
  "usage: " ++ programName ++
    " [-h] [-c FILE] [-f FILE] [--save-config FILE] [--version]\n"

/-- What the options do. -/
def helpLines : List Text := [
  "".toList,
  "Interactive client reading semicolon-terminated statements.".toList,
  "".toList,
  "options:".toList,
  "  -h, --help            show this help message and exit".toList,
  "  -c FILE, --config FILE".toList,
  "                        ini file with a [qshell] section of property values".toList,
  "  -f FILE, --file FILE  read statements from FILE instead of standard input".toList,
  "  --save-config FILE    write the property values to FILE when the session".toList,
  "                        ends".toList,
  "  --version             show program's version number and exit".toList]

/-- The help text. -/
def helpText : Text := usage ++ helpLines.flatMap (· ++ ['\n'])

/-- The report about a fault. -/
def faultText (e : Fault) : Text :=
  usage ++ programName ++ ": error: " ++ e.message ++ "\n"

/-! ## Arguments one by one -/

/-- What an argument is. -/
inductive Argument
  /-- Nothing that begins an option. -/
  | value (t : Text)
  /-- The mark after which nothing is an option. -/
  | mark
  /-- The letter of an option, with what is written behind it. -/
  | letters (f : Flag) (rest : Text)
  /-- The name of an option, or its letter, with what is written behind an equals sign. -/
  | named (f : Flag) (value : Option Text)
  /-- What looks like an option and is none. -/
  | unknown (t : Text)
  deriving DecidableEq, Repr

/-- The argument as it was written, if it is no option. -/
def Argument.plainText? : Argument → Option Text
  | .value t => some t
  | .mark => some markText
  | .unknown t => some t
  | _ => none

/-- Whether a text is a negative number: digits, or digits after a point. -/
def isNegativeNumber (t : Text) : Bool :=
  match Text.dropLast? '\n' t with
  | '-' :: r =>
    let whole := r.takeWhile Text.isDigit
    match r.dropWhile Text.isDigit with
    | [] => !whole.isEmpty
    | '.' :: s => !s.isEmpty && s.all Text.isDigit
    | _ => false
  | _ => false

/-- What an argument is that fits no option. -/
def plainArgument (t : Text) : Argument :=
  if isNegativeNumber t || t.contains ' ' then .value t else .unknown t

/-- A long option, or whatever else begins with two minus signs. -/
def longArgument (t : Text) : Except Fault Argument :=
  let value :=
    match t.dropWhile (· != '=') with
    | [] => none
    | _ :: r => some r
  match Flag.withStart (t.takeWhile (· != '=')) with
  | [] => .ok (plainArgument t)
  | [f] => .ok (.named f value)
  | fs => .error (.ambiguous t fs)

/-- What an argument is that begins with the letter of an option. An equals sign behind the
letter gives a value. Where the option takes none, more letters may follow the sign. -/
def shortArgument (f : Flag) (rest : Text) : Argument :=
  match rest with
  | '=' :: v => if f.takesValue || v.isEmpty then .named f (some v) else .letters f v
  | r => .letters f r

/-- What an argument before the mark is. -/
def argument (t : Text) : Except Fault Argument :=
  match t with
  | '-' :: '-' :: _ => longArgument t
  | '-' :: c :: r =>
    match Flag.ofLetter? c with
    | some f => .ok (shortArgument f r)
    | none => .ok (plainArgument t)
  | _ => .ok (.value t)

/-- What all arguments are. -/
def arguments : List Text → Except Fault (List Argument)
  | [] => .ok []
  | t :: ts =>
    if t = markText then .ok (.mark :: ts.map .value)
    else
      match argument t with
      | .error e => .error e
      | .ok a => (arguments ts).map (a :: ·)

/-! ## Options -/

/-- One use of an option: it may have a value, or need the next argument as one. -/
structure Use where
  flag : Flag
  value : Option Text
  deriving DecidableEq, Repr

/-- The options that a letter and the text behind it stand for. The text is the value of the
first option that takes one; up to there it holds letters of options only. -/
def uses : Flag → Text → Except Fault (List Use)
  | f, [] => .ok [⟨f, none⟩]
  | f, c :: r =>
    if f.takesValue then .ok [⟨f, some (c :: r)⟩]
    else
      match Flag.ofLetter? c with
      | none => .error (.valueIgnored f (c :: r))
      | some g => (uses g r).map (⟨f, none⟩ :: ·)

/-- The options with the value of one more. -/
def Options.put (o : Options) (f : Flag) (v : FileArgument) : Options :=
  match f with
  | .config => { o with config := some v }
  | .file => { o with file := some v }
  | .saveConfig => { o with saveConfig := some v }
  | _ => o

/-- Carries out uses of options. Two of them end the reading of the command line. -/
def Options.apply (o : Options) : List Use → Except Stop Options
  | [] => .ok o
  | ⟨.help, _⟩ :: _ => .error .help
  | ⟨.version, _⟩ :: _ => .error .version
  | ⟨f, v⟩ :: us => (o.put f (.ofText (v.getD []))).apply us

/-- Gives the last of some uses the value that it needs. -/
def fill (v : Text) : List Use → List Use
  | [] => []
  | [u] => [{ u with value := some v }]
  | u :: us => u :: fill v us

/-- The use that still needs a value, which only the last one can. -/
def lacking? (us : List Use) : Option Flag :=
  match us.getLast? with
  | some ⟨f, none⟩ => if f.takesValue then some f else none
  | _ => none

/-- The uses that one argument stands for. -/
def Argument.uses : Argument → Except Fault (List Use)
  | .letters f rest => CommandLine.uses f rest
  | .named f none => .ok [⟨f, none⟩]
  | .named f (some v) =>
    if f.takesValue then .ok [⟨f, some v⟩] else .error (.valueIgnored f v)
  | _ => .ok []

/-- Goes through all arguments, collecting those that are no options. -/
def collect (o : Options) (extras : List Text) : List Argument → Except Stop (Options × List Text)
  | [] => .ok (o, extras)
  | a :: as =>
    match a.uses with
    | .error e => .error (.fault e)
    | .ok us =>
      match lacking? us, as with
      | some _, .value v :: as =>
        match o.apply (fill v us) with
        | .error e => .error e
        | .ok o => collect o extras as
      | some f, _ => .error (.fault (.valueMissing f))
      | none, as =>
        match o.apply us with
        | .error e => .error e
        | .ok o => collect o (extras ++ a.plainText?.toList) as

/-- Reads a command line. -/
def parse (argv : List Text) : Except Stop Options :=
  match arguments argv with
  | .error e => .error (.fault e)
  | .ok as =>
    match collect {} [] as with
    | .error e => .error e
    | .ok (o, []) => .ok o
    | .ok (_, extras) => .error (.fault (.unrecognized extras))

end StatementShell.CommandLine
