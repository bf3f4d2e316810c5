-- Reading a command from its tokens with a machine that keeps what it has read on a stack. It
-- takes the next token where some rule asks for it, and puts a part in the place of the symbols
-- that a rule has built it from; the first item that fits neither decides the fault.
import StatementShell.Command.Grammar
import StatementShell.Command.Lexer

namespace StatementShell.Command

/-- Why some text is no command. -/
inductive ParseFault
  | lexical (fault : LexFault)
  | unexpected (t : Token)
  | unexpectedEnd
  deriving DecidableEq, Repr

/-! ## The stack -/

/-- What the machine holds for a symbol that it has read. -/
inductive Held
  | value (v : Value)
  | command (c : Command)
  deriving DecidableEq, Repr

/-- What a rule makes of what its symbols hold. The rules that are not named hand on what
their first symbol holds. -/
def Rule.make : Rule → List Held → Held
  | .exit, _ => .command .exit
  | .quit, _ => .command .exit
  | .setProperty, [_, _, .value (.text name), _, .value v] => .command (.setProperty name v)
  | .showProperties, _ => .command .showProperties
  | .showProperty, [_, _, .value (.text name)] => .command (.showProperty name)
  | .trueLiteral, _ => .value (.boolean true)
  | .falseLiteral, _ => .value (.boolean false)
  | _, held :: _ => held
  | _, [] => .value .null

/-- The symbols that were read, last ones first: the state after each, and what it holds. -/
abbrev Stack := List (State × Held)

namespace Stack

/-- The state that the machine is in. -/
def state : Stack → State
  | [] => .start
  | (s, _) :: _ => s

/-- Puts a part in the place of the symbols that a rule asks for. -/
def reduce (r : Rule) (m : Stack) : Stack :=
  let n := r.asks.length
  let below : Stack := m.drop n
  match (state below).goto? (.part r.builds) with
  | some s => (s, r.make ((m.take n).map Prod.snd).reverse) :: below
  | none => below

/-- Uses the rules that are called for by what stands ahead, one after the other. Each one goes
up a level. -/
def settle (ahead : Option TokenKind) : Nat → Stack → Stack
  | 0, m => m
  | n + 1, m =>
    match (state m).reduction? ahead with
    | some r => settle ahead n (reduce r m)
    | none => m

/-- Uses the rule that needs no look ahead, if there is one. -/
def relax (m : Stack) : Stack :=
  match (state m).default? with
  | some r => reduce r m
  | none => m

/-- The stack with a token on it, where some rule asks for the token. -/
def shift? (t : Token) (m : Stack) : Option Stack :=
  let m := settle (some t.kind) levels m
  ((state m).goto? (.word t.kind)).map (fun s => relax ((s, .value t.value) :: m))

/-- What was read when the text is at its end. -/
def finish (m : Stack) : Except ParseFault Command :=
  match settle none levels m with
  | (s, .command c) :: _ => if s.accepts then .ok c else .error .unexpectedEnd
  | _ => .error .unexpectedEnd

/-- Reads the items that are left. -/
def read (m : Stack) : Lexing → Except ParseFault Command
  | .finished => m.finish
  | .failed e => .error (.lexical e)
  | .token t rest =>
    match shift? t m with
    | some m => read m rest
    | none => .error (.unexpected t)

end Stack

/-- Reads a command. -/
def parse (t : Text) : Except ParseFault Command := Stack.read [] (lex t)

/-! ## Telling commands from other statements -/

/-- Whether the first two tokens make a statement one of the shell's own commands. The
words for setting and showing alone are left to others. -/
def leads : TokenKind → Option TokenKind → Bool
  | .exit, _ => true
  | .quit, _ => true
  | .set, some .property => true
  | .showWord, some .property => true
  | .showWord, some .properties => true
  | _, _ => false

/-- Whether a statement is one of the shell's own commands, by its first two tokens. Two
tokens are always read where the text has them: a character that fits nowhere makes the
statement somebody else's, a number with too many digits is an error. -/
def leadsTokens : Lexing → Except LexFault Bool
  | .finished => .ok false
  | .failed (.illegalCharacter _ _) => .ok false
  | .failed e => .error e
  | .token t rest =>
    match rest with
    | .finished => .ok (leads t.kind none)
    | .failed (.illegalCharacter _ _) => .ok false
    | .failed e => .error e
    | .token u _ => .ok (leads t.kind (some u.kind))

/-- Whether a statement is one of the shell's own commands. -/
def isBuiltin (t : Text) : Except LexFault Bool := leadsTokens (lex t)

end StatementShell.Command
