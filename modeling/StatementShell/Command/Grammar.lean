-- The grammar of the shell's own commands, and the states of a machine that reads them from
-- left to right. A state is a set of rules that are partly read; the machine goes from state
-- to state over tokens and over the parts that it builds from them.
import StatementShell.Command.Basic
import StatementShell.Command.Token

namespace StatementShell.Command

/-! ## Rules -/

/-- What is built from tokens. -/
inductive Part
  | sentence
  | statement
  | command
  | propertyName
  | literal
  deriving DecidableEq, Repr

/-- What a rule asks for. -/
inductive Symbol
  | word (kind : TokenKind)
  | part (p : Part)
  deriving DecidableEq, Repr

/-- The rules of the grammar. -/
inductive Rule
  | sentence
  | closedStatement
  | openStatement
  | exit
  | quit
  | setProperty
  | showProperties
  | showProperty
  | plainName
  | singleQuotedName
  | doubleQuotedName
  | integerLiteral
  | singleQuotedLiteral
  | doubleQuotedLiteral
  | trueLiteral
  | falseLiteral
  deriving DecidableEq, Repr

namespace Rule

/-- All rules. -/
def all : List Rule := [
  .sentence, .closedStatement, .openStatement, .exit, .quit, .setProperty, .showProperties,
  .showProperty, .plainName, .singleQuotedName, .doubleQuotedName, .integerLiteral,
  .singleQuotedLiteral, .doubleQuotedLiteral, .trueLiteral, .falseLiteral]

/-- The part that a rule builds. -/
def builds : Rule → Part
  | .sentence => .sentence
  | .closedStatement => .statement
  | .openStatement => .statement
  | .exit => .command
  | .quit => .command
  | .setProperty => .command
  | .showProperties => .command
  | .showProperty => .command
  | .plainName => .propertyName
  | .singleQuotedName => .propertyName
  | .doubleQuotedName => .propertyName
  | .integerLiteral => .literal
  | .singleQuotedLiteral => .literal
  | .doubleQuotedLiteral => .literal
  | .trueLiteral => .literal
  | .falseLiteral => .literal

/-- What a rule asks for, in order. -/
def asks : Rule → List Symbol
  | .sentence => [.part .statement]
  | .closedStatement => [.part .command, .word .semicolon]
  | .openStatement => [.part .command]
  | .exit => [.word .exit]
  | .quit => [.word .quit]
  | .setProperty =>
    [.word .set, .word .property, .part .propertyName, .word .equals, .part .literal]
  | .showProperties => [.word .showWord, .word .properties]
  | .showProperty => [.word .showWord, .word .property, .part .propertyName]
  | .plainName => [.word .name]
  | .singleQuotedName => [.word .singleQuoted]
  | .doubleQuotedName => [.word .doubleQuoted]
  | .integerLiteral => [.word .integer]
  | .singleQuotedLiteral => [.word .singleQuoted]
  | .doubleQuotedLiteral => [.word .doubleQuoted]
  | .trueLiteral => [.word .trueWord]
  | .falseLiteral => [.word .falseWord]

end Rule

/-- The kinds of token that may stand right after a part, and the end of the text where it
may. -/
def Part.followers : Part → List (Option TokenKind)
  | .sentence => [none]
  | .statement => [none]
  | .command => [some .semicolon, none]
  | .propertyName => [some .equals, some .semicolon, none]
  | .literal => [some .semicolon, none]

/-! ## States -/

/-- A rule that is read up to some place. -/
structure Item where
  rule : Rule
  seen : Nat
  deriving DecidableEq, Repr

namespace Item

/-- What the rule asks for next. -/
def next? (i : Item) : Option Symbol := i.rule.asks[i.seen]?

/-- The rule, read one place further. -/
def advance (i : Item) : Item := { i with seen := i.seen + 1 }

end Item

/-- The rules that begin where some rules stand. -/
def opened (items : List Item) : List Item :=
  (Rule.all.filter (fun r => items.any (fun i => i.next? == some (.part r.builds)))).map (⟨·, 0⟩)

/-- Some items and all that begin where they stand, as many levels down. -/
def closure : Nat → List Item → List Item
  | 0, items => items
  | n + 1, items => items ++ closure n (opened items)

/-- How many levels the rules have: a sentence, a statement, a command and its words. -/
def levels : Nat := 3

/-- The items that a machine stands in. -/
structure State where
  items : List Item
  deriving DecidableEq, Repr

namespace State

/-- A state with one item. -/
def only (r : Rule) (seen : Nat) : State := ⟨[⟨r, seen⟩]⟩

/-- Nothing is read. -/
def start : State := only .sentence 0

/-- The state after one more symbol, if some rule asks for it. -/
def goto? (s : State) (x : Symbol) : Option State :=
  match (closure levels s.items).filter (fun i => i.next? == some x) with
  | [] => none
  | i :: is => some ⟨(i :: is).map Item.advance⟩

/-- Whether a whole sentence is read. -/
def accepts (s : State) : Bool := s.items.any (fun i => i.rule == .sentence && i.next? == none)

/-- The rules that are read to their ends. The one for the sentence is left out, since
reading is over with it. -/
def complete (s : State) : List Rule :=
  (s.items.filter (fun i => i.rule != .sentence && i.next? == none)).map Item.rule

/-- The rule that is used before the given kind of token. Every rule is complete in one state
only, whatever was read before it, so what may follow it there is what may follow the part
that it builds anywhere. -/
def reduction? (s : State) (ahead : Option TokenKind) : Option Rule :=
  s.complete.find? (fun r => r.builds.followers.contains ahead)

/-- The rule that is used without a look at the next token: the state has nothing else to do,
and only one thing can stand ahead. -/
def default? (s : State) : Option Rule :=
  match s.items, s.complete with
  | [_], [r] => if r.builds.followers.length = 1 then some r else none
  | _, _ => none

end State

end StatementShell.Command
