-- The lexer of the shell's own commands. It gives tokens one by one and stops at the first
-- place where nothing fits, so that a reader who needs only the first tokens never meets a
-- fault further on.
import StatementShell.Command.Token

namespace StatementShell.Command

/-- Why there is no next token. -/
inductive LexFault
  | illegalCharacter (c : Char) (line : Nat)
  | tooManyDigits (count : Nat)
  deriving DecidableEq, Repr

/-- The tokens of a text, in order, up to its end or to a fault. -/
inductive Lexing
  | finished
  | failed (fault : LexFault)
  | token (t : Token) (rest : Lexing)
  deriving DecidableEq, Repr

/-- The tokens that were read. -/
def Lexing.tokens : Lexing → List Token
  | .finished => []
  | .failed _ => []
  | .token t rest => t :: rest.tokens

/-- The fault that ended the reading, if one did. -/
def Lexing.fault? : Lexing → Option LexFault
  | .finished => none
  | .failed e => some e
  | .token _ rest => rest.fault?

/-- The number that a lexeme writes. -/
def readNumber (lexeme : Text) : Except Integer.Fault Int :=
  match lexeme with
  | '-' :: ds => Integer.ofDigits true ds
  | ds => Integer.ofDigits false ds

/-- The text between the quotes of a lexeme. -/
def unquote (lexeme : Text) : Text := (lexeme.drop 1).dropLast

/-- What a lexeme of some shape means: the kind and the value of a token, nothing for a
gap, or a number that is too long. -/
def meaning (shape : Shape) (lexeme : Text) : Except LexFault (Option (TokenKind × Value)) :=
  match shape with
  | .gap => .ok none
  | .newlines => .ok none
  | .equals => .ok (some (.equals, .text lexeme))
  | .semicolon => .ok (some (.semicolon, .text lexeme))
  | .name => .ok (some (nameKind lexeme, .text lexeme))
  | .singleQuoted => .ok (some (.singleQuoted, .text (unquote lexeme)))
  | .doubleQuoted => .ok (some (.doubleQuoted, .text (unquote lexeme)))
  | .number =>
    match readNumber lexeme with
    | .ok i => .ok (some (.integer, .integer i))
    | .error (.tooLong n) => .error (.tooManyDigits n)
    | .error .malformed => .ok (some (.integer, .integer 0))

/-- How many lines a lexeme goes down. Line feeds inside comments and quotes are not
counted. -/
def lineStep (shape : Shape) (lexeme : Text) : Nat :=
  if shape = .newlines then lexeme.length else 0

/-- The tokens of a text that begins at a place and a line, after as many characters as are
still to be skipped. -/
def lexFrom : Nat → Nat → Nat → Text → Lexing
  | _, _, _, [] => .finished
  | skip + 1, start, line, _ :: r => lexFrom skip (start + 1) line r
  | 0, start, line, c :: r =>
    match shape? (c :: r) with
    | none => .failed (.illegalCharacter c line)
    | some (shape, n) =>
      let lexeme := (c :: r).take n
      let rest := lexFrom (n - 1) (start + 1) (line + lineStep shape lexeme) r
      match meaning shape lexeme with
      | .error e => .failed e
      | .ok none => rest
      | .ok (some (kind, value)) => .token { kind, value, line, start, lexeme } rest

/-- The tokens of a text. Places count from zero and lines from one. -/
def lex (t : Text) : Lexing := lexFrom 0 0 1 t

end StatementShell.Command
