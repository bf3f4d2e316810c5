-- The handler of the shell's own commands. Other statements go to an executor, if there is
-- one; a failure that is about one statement is reported in a line and the session goes
-- on.
import StatementShell.Handler.Basic
import StatementShell.Handler.Clock
import StatementShell.Result
import StatementShell.Segment

namespace StatementShell

/-- What an executor gives back. -/
inductive Answer
  /-- Nothing, which is shown as an empty result. -/
  | nothing
  /-- A result to show. -/
  | result (r : Result)
  /-- Something that is no result. This is raised when it is treated as one. -/
  | unusable (r : Raised)
  deriving DecidableEq, Repr

/-- Runs the statements that are no commands. -/
abbrev Executor := Text → Except Raised Answer

/-- The state of the handler. -/
structure Builtin where
  registry : Option Property.Registry
  executor : Option Executor
  clock : Clock

/-- The line that reports a failed statement. -/
def errorLine (number : Int) (message : Text) : Text :=
  "ERROR(" ++ Integer.write number ++ "): " ++ message ++ "\n"

namespace Builtin

open Property (Registry)

/-- The columns of a table of properties. -/
def propertyFields : List Value :=
  [.text "name", .text "value", .text "type", .text "readonly"]

/-- Wraps what went wrong. -/
def lift {α : Type} (r : Except Failure α) : Except Raised α := r.mapError .failure

/-! ## Commands -/

/-- Sets a property and says so. -/
def setProperty (g : Registry) (name : Text) (v : Value) :
    Except Failure (Registry × Result) :=
  match g.set name v with
  | .error e => .error e
  | .ok (h, w) =>
    match w.quoted? with
    | none => .error .numberTooLong
    | some shown =>
      .ok (h, { notice := some ("Property \"" ++ name ++ "\" set to " ++ shown ++ ".") })

/-- The row of a property. -/
def propertyRow (g : Registry) (name : Text) : Except Failure (List Value) := do
  let readonly ← g.isReadonly name
  let value ← g.get name
  let typeName ← g.typeName name
  pure [.text (Text.fold name), value, .text typeName, .boolean readonly]

/-- The table of some properties. -/
def showProperties (g : Registry) (names : List Text) : Except Failure Result :=
  (names.mapM (propertyRow g)).map
    (fun rows => { fields := some propertyFields, rows := some rows })

/-- The registry that a command needs, with the part of it that is asked for first. -/
def needRegistry (b : Builtin) (part : Text) : Except Failure Registry :=
  match b.registry with
  | some g => .ok g
  | none => .error (.absent part)

/-- Runs a command. -/
def runCommand (b : Builtin) (c : Command) : Builtin × Except Failure Result :=
  match c with
  | .exit => (b, .ok { terminate := true })
  | .setProperty name v =>
    match b.needRegistry "set_value" with
    | .error e => (b, .error e)
    | .ok g =>
      match setProperty g name v with
      | .error e => (b, .error e)
      | .ok (h, r) => ({ b with registry := some h }, .ok r)
  | .showProperty name =>
    match b.needRegistry "is_readonly" with
    | .error e => (b, .error e)
    | .ok g => (b, showProperties g [name])
  | .showProperties =>
    match b.needRegistry "get_all_property_names" with
    | .error e => (b, .error e)
    | .ok g => (b, showProperties g g.names)

/-! ## Statements -/

/-- Gives a statement to the executor. -/
def delegate (b : Builtin) (statement : Text) : Step Builtin Answer :=
  match b.executor with
  | none => ⟨[], b, .error (.failure (.unsupported statement))⟩
  | some x => ⟨[.execute statement], b, x statement⟩

/-- Runs a statement. -/
def execute (b : Builtin) (statement : Text) : Step Builtin Answer :=
  if Segment.isEmpty statement then ⟨[], b, .ok .nothing⟩
  else
    match Command.isBuiltin statement with
    | .error e => ⟨[], b, .error (.failure (.parse (.lexical e)))⟩
    | .ok false => b.delegate statement
    | .ok true =>
      match Command.parse statement with
      | .error e => ⟨[], b, .error (.failure (.parse e))⟩
      | .ok c =>
        let (b, r) := b.runCommand c
        ⟨[], b, (lift r).map .result⟩

/-- The failure about one statement that something raised is, if it is one. -/
def statementFailure? : Raised → Option Failure
  | .failure f => if f.isStatement then some f else none
  | _ => none

/-- The result that an answer gives. -/
def resultOf : Answer → Except Raised Result
  | .nothing => .ok {}
  | .result r => .ok r
  | .unusable e => .error e

/-- Shows a result, unless it ends the session. -/
def present (r : Result) : List Event × Except Raised Result :=
  if r.terminate then ([], .ok r)
  else
    match r.text with
    | .error e => ([], .error (.failure e))
    | .ok t => ([.write (t ++ "\n")], .ok r)

/-- Runs a statement, takes its time and shows what came of it. Only a failure of the run
itself is reported here, in its words, and where it has none what asking for them raises leaves
the handler. An answer that is of no use leaves the handler as a failure, after the time was
taken. -/
def handle (b : Builtin) (statement : Text) : Step Builtin Result :=
  let (start, clock) := b.clock.read
  let s := { b with clock := clock }.execute statement
  match s.outcome with
  | .error e =>
    match statementFailure? e with
    | none => ⟨s.events, s.state, .error e⟩
    | some f =>
      match f.words with
      | .error e => ⟨s.events, s.state, .error (.failure e)⟩
      | .ok m =>
        let line := errorLine ((f.number?).getD 0) m
        ⟨s.events ++ [.write line], s.state, .ok { success := false }⟩
  | .ok a =>
    let (finish, clock) := s.state.clock.read
    let state := { s.state with clock := clock }
    match resultOf a with
    | .error e => ⟨s.events, state, .error e⟩
    | .ok r =>
      let (events, outcome) := present { r with elapsed := Clock.between start finish }
      ⟨s.events ++ events, state, outcome⟩

/-- The handler of the shell's own commands, for a session. -/
def handler : Handler Builtin where
  startup b := ⟨[], b, .ok ()⟩
  handle b statement :=
    let s := b.handle statement
    ⟨s.events, s.state, s.outcome.map (fun r => .answers (.ok r.terminate))⟩
  shutdown b := ⟨[], b, .ok ()⟩
  properties b := b.registry

end Builtin

end StatementShell
