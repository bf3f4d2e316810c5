-- Everything that can go wrong, by cause. A failure has a kind and words under which it is
-- reported; the shell's own failures belong to families, each with a number.
import StatementShell.Command.Parser
import StatementShell.Files.Store
import StatementShell.Ini.Basic
import StatementShell.Property.Fault

namespace StatementShell

/-! ## Families -/

/-- The families of the shell's own failures. -/
inductive Family
  | general
  | statement
  | fatal
  | input
  | dispatch
  | parsing
  | property
  | unsupported
  deriving DecidableEq, Repr

namespace Family

/-- The name of a family. -/
def name : Family → Text
  | .general => "QShellInternalError"
  | .statement => "StatementError"
  | .fatal => "FatalError"
  | .input => "InputError"
  | .dispatch => "DispatchError"
  | .parsing => "ParsingException"
  | .property => "PropertyError"
  | .unsupported => "UnsupportedStatementError"

/-- The number of a family, which a report about a statement gives. -/
def number : Family → Nat
  | .general => 0
  | .statement => 1
  | .fatal => 2
  | .input => 10
  | .dispatch => 11
  | .parsing => 20
  | .property => 21
  | .unsupported => 22

/-- Whether a family is about one statement: the session goes on after such a failure. -/
def isStatement : Family → Bool
  | .statement => true
  | .parsing => true
  | .property => true
  | .unsupported => true
  | _ => false

/-- The names of a family and of the wider ones that it belongs to, narrow ones first. -/
def lineage (f : Family) : List Text :=
  let wider : List Text := ["QShellInternalError".toList, "Exception".toList]
  match f with
  | .general => wider
  | .statement => f.name :: wider
  | .fatal => f.name :: wider
  | .input => f.name :: wider
  | .dispatch => f.name :: wider
  | _ => f.name :: Family.statement.name :: wider

/-- The family of a name. Reports that wrap another failure are made from it, not by
name. -/
def ofName? (t : Text) : Option Family :=
  [general, statement, fatal, parsing, property, unsupported].find? (fun f => f.name == t)

end Family

/-! ## Failures -/

/-- What went wrong. -/
inductive Failure
  /-- A text is no command. -/
  | parse (fault : Command.ParseFault)
  /-- A property is not used as it should be. -/
  | property (fault : Property.Fault)
  /-- Nobody runs such statements. -/
  | unsupported (statement : Text)
  /-- The properties cannot be loaded at start-up. -/
  | loading (path : Text) (cause : Failure)
  /-- The log file cannot be opened at start-up. -/
  | logging (path : Text) (cause : Failure)
  /-- Raised by a handler or an executor, in one of the shell's families. -/
  | shell (family : Family) (message : Text)
  /-- Raised by somebody else, under a kind of his own. -/
  | foreign (kind : Text) (message : Text)
  /-- Raised by somebody else, maybe in one of the shell's families. Asking it for its words
  raises another failure. -/
  | wordless (kind : Text) (family : Option Family) (instead : Failure)
  /-- An operation on files failed. -/
  | file (fault : FileFault)
  /-- A document is not read. -/
  | ini (fault : Ini.Fault)
  /-- Some bytes are no text. -/
  | undecodable (fault : Utf8.Fault)
  /-- No bytes are what is to be written. -/
  | unencodable (fault : Ragged.Fault)
  /-- A whole number has too many digits to be written. -/
  | numberTooLong
  /-- A whole number is beyond the floating-point numbers. -/
  | numberTooLarge
  /-- A row does not fit the columns of its table. -/
  | rowLength (given expected : Nat)
  /-- A time is given as something that is no number. -/
  | timeNotNumber (given : Value)
  /-- No name is given for a property that is looked up. -/
  | nameMissing
  /-- Something that is not there is asked for a part. -/
  | absent (part : Text)
  /-- Something else than text is given as a name to store under. -/
  | nameNotText
  /-- Something else than text is given to be stored as text. -/
  | valueNotText
  /-- Something else than text is given as the path of a file. -/
  | pathNotText
  /-- Something else than text is given as a prompt. -/
  | promptNotText (given : Value)
  deriving DecidableEq, Repr

namespace Failure

/-- The words for a whole number that is not written. -/
def digitLimitMessage : Text :=
  "Exceeds the limit (" ++ Integer.digits Integer.digitLimit ++
    " digits) for integer string conversion"

/-- The advice that ends the words about the limit of digits. -/
def digitLimitAdvice : Text := "; use sys.set_int_max_str_digits() to increase the limit"

/-- The name of the type of a value. -/
def typeName : Value → Text
  | .null => "NoneType"
  | .boolean _ => "bool"
  | .integer _ => "int"
  | .real _ => "float"
  | .text _ => "str"
  | .ragged _ => "str"

/-- The family of a failure, if it is one of the shell's own. -/
def family? : Failure → Option Family
  | .parse (.lexical (.tooManyDigits _)) => none
  | .parse _ => some .parsing
  | .property _ => some .property
  | .unsupported _ => some .unsupported
  | .loading _ _ => some .fatal
  | .logging _ _ => some .fatal
  | .shell f _ => some f
  | .wordless _ family _ => family
  | _ => none

/-- The kind under which a failure is reported. -/
def kind (f : Failure) : Text :=
  match f with
  | .foreign k _ => k
  | .wordless k _ _ => k
  | .file e => e.kind
  | .ini e => e.kind
  | .undecodable _ => "UnicodeDecodeError"
  | .unencodable _ => "UnicodeEncodeError"
  | .numberTooLarge => "OverflowError"
  | .timeNotNumber .null => "TypeError"
  | .absent _ => "AttributeError"
  | .nameNotText => "TypeError"
  | .valueNotText => "TypeError"
  | .pathNotText => "TypeError"
  | .promptNotText _ => "TypeError"
  | f =>
    match f.family? with
    | some k => k.name
    | none => "ValueError"

/-- The words for a fault of the lexer. -/
def lexMessage : Command.LexFault → Text
  | .illegalCharacter c line =>
    "Illegal character \"" ++ [c] ++ "\" at line " ++ Integer.digits line
  | .tooManyDigits n =>
    digitLimitMessage ++ ": value has " ++ Integer.digits n ++ " digits" ++ digitLimitAdvice

/-- The words for a text that is no command. A number that a token holds is never too long
to be written, since it was read. -/
def parseMessage : Command.ParseFault → Text
  | .lexical e => lexMessage e
  | .unexpected t =>
    "Syntax error at token " ++ t.kind.label ++ ": \"" ++ (t.value.text?).getD [] ++ "\""
  | .unexpectedEnd => "Syntax error at EOF"

/-- The words for bytes that are no text. -/
def undecodableMessage (e : Utf8.Fault) : Text :=
  "'utf-8' codec can't decode " ++
    (if e.length = 1 then
      "byte 0x" ++ Text.hex 2 e.byte.toNat ++ " in position " ++ Integer.digits e.offset
    else
      "bytes in position " ++ Integer.digits e.offset ++ "-" ++
        Integer.digits (e.offset + e.length - 1)) ++
    ": " ++ e.reason.message

/-- The words for surrogates that are not written. -/
def unencodableMessage (e : Ragged.Fault) : Text :=
  "'utf-8' codec can't encode " ++
    (if e.length = 1 then
      "character '\\u" ++ Text.hex 4 (Surrogate.code e.first) ++ "' in position " ++
        Integer.digits e.offset
    else
      "characters in position " ++ Integer.digits e.offset ++ "-" ++
        Integer.digits (e.offset + e.length - 1)) ++
    ": surrogates not allowed"

/-- The words for a failure, if it has any. -/
def message : Failure → Text
  | .parse e => parseMessage e
  | .property e => e.message
  | .unsupported s => "Statement is not supported by this client: " ++ Text.trim s
  | .loading path cause => "Cannot load properties from " ++ path ++ ": " ++ cause.message
  | .logging path cause => "Cannot open log file " ++ path ++ ": " ++ cause.message
  | .shell _ m => m
  | .foreign k m => if k = "KeyError" then Text.quoted m else m
  | .wordless _ _ _ => []
  | .file e => e.message
  | .ini e => e.message
  | .undecodable e => undecodableMessage e
  | .unencodable e => unencodableMessage e
  | .numberTooLong => digitLimitMessage ++ digitLimitAdvice
  | .numberTooLarge => "int too large to convert to float"
  | .rowLength given expected =>
    "Row has " ++ Integer.digits given ++ " values but the table has " ++
      Integer.digits expected ++ " columns."
  | .timeNotNumber .null => "unsupported format string passed to NoneType.__format__"
  | .timeNotNumber v => "Unknown format code 'f' for object of type '" ++ typeName v ++ "'"
  | .nameMissing => "name cannot be None"
  | .absent part => "'NoneType' object has no attribute '" ++ part ++ "'"
  | .nameNotText => "option keys must be strings"
  | .valueNotText => "option values must be strings"
  | .pathNotText => "expected str, bytes or os.PathLike object, not list"
  | .promptNotText v => "write() argument must be str, not " ++ typeName v

/-- What comes of asking a failure for its words. -/
def words (f : Failure) : Except Failure Text :=
  match f with
  | .wordless _ _ instead => .error instead
  | f => .ok f.message

/-- Whoever asks a failure for its words gets them. -/
def HasWords (f : Failure) : Prop := f.words = .ok f.message

/-- Asking a failure gives its words, or raises another failure. -/
theorem hasWords_or_exists (f : Failure) : f.HasWords ∨ ∃ e, f.words = .error e := by
  cases f with
  | wordless _ _ e => exact .inr ⟨e, rfl⟩
  | _ => exact .inl rfl

/-- The number of a failure, if it is one of the shell's own. -/
def number? (f : Failure) : Option Nat := f.family?.map Family.number

/-- Whether a failure is about one statement. -/
def isStatement (f : Failure) : Bool := f.family?.any Family.isStatement

/-- Whether a failure stops the program before its session begins. -/
def isFatal (f : Failure) : Bool := f.family? == some .fatal

end Failure

/-! ## What leaves an operation early -/

/-- What leaves an operation before its end: a failure, an interruption from the keyboard
or the wish to end the program. -/
inductive Raised
  | failure (f : Failure)
  | interrupt (message : Text)
  | exit (message : Text)
  deriving DecidableEq, Repr

namespace Raised

/-- The kind under which it is reported. -/
def kind : Raised → Text
  | .failure f => f.kind
  | .interrupt _ => "KeyboardInterrupt"
  | .exit _ => "SystemExit"

/-- The words for it. -/
def message : Raised → Text
  | .failure f => f.message
  | .interrupt m => m
  | .exit m => m

/-- Its number, if it is one of the shell's own failures. -/
def number? : Raised → Option Nat
  | .failure f => f.number?
  | _ => none

/-- What is raised under a kind with a message. -/
def ofKind (kind message : Text) : Raised :=
  if kind = "KeyboardInterrupt" then .interrupt message
  else if kind = "SystemExit" then .exit message
  else
    match Family.ofName? kind with
    | some f => .failure (.shell f message)
    | none => .failure (.foreign kind message)

end Raised

/-! ## Reports -/

/-- What a session reports: a read or a statement that failed, or a failure of its own. -/
inductive Report
  | input (cause : Raised)
  | dispatch (statement : Text) (cause : Raised)
  | plain (cause : Failure)
  deriving DecidableEq, Repr

namespace Report

/-- The kind of a report. -/
def kind : Report → Text
  | .input _ => Family.input.name
  | .dispatch _ _ => Family.dispatch.name
  | .plain f => f.kind

/-- What the report is about. -/
def cause : Report → Raised
  | .input r => r
  | .dispatch _ r => r
  | .plain f => .failure f

/-- The words of a report. One that wraps a failure names its kind. -/
def message : Report → Text
  | .input r => r.kind ++ ":  " ++ r.message
  | .dispatch _ r => r.kind ++ ":  " ++ r.message
  | .plain f => f.message

/-- The report of a read that failed. It gives the words of the failure: where there are none,
no report is made, and what asking for them raises comes of it. -/
def ofRead (f : Failure) : Except Failure Report :=
  f.words.map (fun _ => .input (.failure f))

/-- The report of a statement that failed, made likewise. -/
def ofStatement (statement : Text) (f : Failure) : Except Failure Report :=
  f.words.map (fun _ => .dispatch statement (.failure f))

/-- The report of a failure of the session's own, made likewise. -/
def ofLoop (f : Failure) : Except Failure Report := f.words.map (fun _ => .plain f)

/-- The line that a report writes. -/
def line (r : Report) : Text := "Unexpected error:  " ++ r.kind ++ ":  " ++ r.message ++ "\n"

end Report

end StatementShell
