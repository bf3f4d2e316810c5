-- Blanks in front of a statement. The lexer passes over four kinds of blank, and what it gives
-- for the text behind them is the same at another place; a blank of any other kind is no part of
-- a command, so a statement behind it is told to be somebody else's.
import StatementShell.Proofs.LexicalPieces
import StatementShell.Proofs.PropertyWrites
import StatementShell.Proofs.QuoteScan

namespace StatementShell

namespace Command

/-! ## Moved tokens -/

/-- The token, further on in a text. -/
def Token.moved (places lines : Nat) (t : Token) : Token :=
  { t with line := t.line + lines, start := t.start + places }

def LexFault.moved (lines : Nat) : LexFault → LexFault
  | .illegalCharacter c line => .illegalCharacter c (line + lines)
  | .tooManyDigits n => .tooManyDigits n

def Lexing.moved (places lines : Nat) : Lexing → Lexing
  | .finished => .finished
  | .failed e => .failed (e.moved lines)
  | .token t rest => .token (t.moved places lines) (rest.moved places lines)

def ParseFault.moved (places lines : Nat) : ParseFault → ParseFault
  | .lexical e => .lexical (e.moved lines)
  | .unexpected t => .unexpected (t.moved places lines)
  | .unexpectedEnd => .unexpectedEnd

theorem lexFault_of_meaning {s : Shape} {p : Text} {e : LexFault} (h : meaning s p = .error e)
    (lines : Nat) : e.moved lines = e := by
  unfold meaning at h
  split at h
  any_goals cases h
  next =>
    split at h
    all_goals cases h
    rfl

theorem lexFrom_moved (places lines skip start line : Nat) (t : Text) :
    lexFrom skip (start + places) (line + lines) t =
      (lexFrom skip start line t).moved places lines := by
  induction t generalizing skip start line with
  | nil => rw [lexFrom, lexFrom]; rfl
  | cons c r ih =>
    cases skip with
    | succ skip =>
      rw [lexFrom, lexFrom, ← ih, Nat.add_right_comm]
    | zero =>
      rw [lexFrom, lexFrom]
      cases hs : shape? (c :: r) with
      | none => rfl
      | some q =>
        obtain ⟨s, n⟩ := q
        dsimp only
        rw [Nat.add_right_comm start, Nat.add_right_comm line, ih]
        cases hm : meaning s ((c :: r).take n) with
        | error e =>
          have := lexFault_of_meaning hm lines
          simp [Lexing.moved, this]
        | ok o =>
          rcases o with _ | ⟨kind, value⟩
          · rfl
          · rfl

theorem shift?_moved (places lines : Nat) (t : Token) (m : Stack) :
    Stack.shift? (t.moved places lines) m = Stack.shift? t m := rfl

/-- The end of the text is the same everywhere. -/
theorem finish_moved (places lines : Nat) (m : Stack) :
    m.finish.mapError (ParseFault.moved places lines) = m.finish := by
  unfold Stack.finish
  split
  · split
    · rfl
    · rfl
  · rfl

theorem read_moved (places lines : Nat) (m : Stack) (l : Lexing) :
    Stack.read m (l.moved places lines) =
      (Stack.read m l).mapError (ParseFault.moved places lines) := by
  induction l generalizing m with
  | finished =>
    rw [Lexing.moved, Stack.read, finish_moved]
  | failed e => rfl
  | token t rest ih =>
    rw [Lexing.moved, Stack.read, Stack.read, shift?_moved]
    cases Stack.shift? t m with
    | none => rfl
    | some k => exact ih k

theorem leadsTokens_moved (places lines : Nat) (l : Lexing) :
    leadsTokens (l.moved places lines) = leadsTokens l := by
  cases l with
  | finished => rfl
  | failed e => cases e <;> rfl
  | token t rest =>
    cases rest with
    | finished => rfl
    | failed e => cases e <;> rfl
    | token u r => rfl

/-! ## Layout -/

/-- The blanks that the lexer passes over. -/
def IsLayout (c : Char) : Prop := c = ' ' ∨ c = '\t' ∨ c = '\r' ∨ c = '\n'

instance (c : Char) : Decidable (IsLayout c) := inferInstanceAs (Decidable (_ ∨ _))

theorem blank_of_layouts {w : Text} (hw : ∀ c ∈ w, IsLayout c) : Text.Blank w := by
  intro c hc
  rcases hw c hc with rfl | rfl | rfl | rfl
  all_goals decide

theorem shape?_feed (r : Text) :
    shape? ('\n' :: r) = some (.newlines, (r.takeWhile (· == '\n')).length + 1) := rfl

theorem lexFrom_newlines (start line : Nat) (r : Text) :
    lexFrom 0 start line ('\n' :: r) =
      lexFrom (r.takeWhile (· == '\n')).length (start + 1)
        (line + ((r.takeWhile (· == '\n')).length + 1)) r := by
  have hrun : (('\n' :: r).take ((r.takeWhile (· == '\n')).length + 1)).length =
      (r.takeWhile (· == '\n')).length + 1 := by
    have := (takeWhile_take (· == '\n') r).1
    simp
    omega
  rw [lexFrom, shape?_feed]
  dsimp only
  rw [lineStep, if_pos rfl, hrun, Nat.add_sub_cancel]
  rfl

/-- A line feed may be read alone, or with those that come right after it. -/
theorem lexFrom_feed (start line : Nat) (r : Text) :
    lexFrom 0 start line ('\n' :: r) = lexFrom 0 (start + 1) (line + 1) r := by
  rw [lexFrom_newlines]
  cases r with
  | nil => rfl
  | cons d r =>
    by_cases hd : d = '\n'
    · subst hd
      rw [lexFrom_newlines, List.takeWhile_cons_of_pos (by decide), List.length_cons, lexFrom]
      congr 1
      omega
    · rw [List.takeWhile_cons_of_neg (by simpa using hd)]
      rfl

theorem lexFrom_layout {c : Char} (hc : IsLayout c) (start line : Nat) (r : Text) :
    ∃ lines, lexFrom 0 start line (c :: r) = lexFrom 0 (start + 1) (line + lines) r := by
  rcases hc with rfl | rfl | rfl | rfl
  · exact ⟨0, rfl⟩
  · exact ⟨0, rfl⟩
  · exact ⟨0, rfl⟩
  · exact ⟨1, lexFrom_feed start line r⟩

theorem lexFrom_layouts {w : Text} (hw : ∀ c ∈ w, IsLayout c) (start line : Nat) (t : Text) :
    ∃ lines, lexFrom 0 start line (w ++ t) = lexFrom 0 (start + w.length) (line + lines) t := by
  induction w generalizing start line with
  | nil => exact ⟨0, rfl⟩
  | cons c w ih =>
    obtain ⟨k, hk⟩ := lexFrom_layout (hw c List.mem_cons_self) start line (w ++ t)
    obtain ⟨n, hn⟩ := ih (fun d hd => hw d (List.mem_cons_of_mem c hd)) (start + 1) (line + k)
    refine ⟨k + n, ?_⟩
    rw [List.cons_append, hk, hn, List.length_cons]
    congr 1 <;> omega

theorem lex_layouts {w : Text} (hw : ∀ c ∈ w, IsLayout c) (t : Text) :
    ∃ places lines, lex (w ++ t) = (lex t).moved places lines := by
  obtain ⟨lines, h⟩ := lexFrom_layouts hw 0 1 t
  exact ⟨w.length, lines, h.trans (lexFrom_moved w.length lines 0 0 1 t)⟩

/-! ## Other blanks -/

theorem isDigit_of_isBlank {c : Char} (h : Text.isBlank c = true) : Text.isDigit c = false := by
  have htable : ∀ p ∈ Text.blankRanges, ∀ k < p.2 + 1 - p.1,
      Text.isDigit (Char.ofNat (p.1 + k)) = false := by decide
  obtain ⟨p, hp, hrange⟩ := List.any_eq_true.1 h
  simp only [Bool.and_eq_true, decide_eq_true_eq] at hrange
  have := htable p hp (c.toNat - p.1) (by omega)
  rwa [Nat.add_sub_cancel' hrange.1, Char.ofNat_toNat] at this

theorem shape?_foreign {c : Char} (hb : Text.isBlank c = true) (hc : ¬ IsLayout c) (r : Text) :
    shape? (c :: r) = none := by
  have hsolid {d : Char} (hd : Text.isBlank d = false) : c ≠ d := by
    rintro rfl
    simp [hb] at hd
  unfold shape?
  split
  next h => cases h
  next h => exact absurd (List.cons.inj h).1 (hsolid (by decide))
  next h => exact absurd (List.cons.inj h).1 (hsolid (by decide))
  next h => exact absurd (List.cons.inj h).1 (hsolid (by decide))
  next h => exact absurd (List.cons.inj h).1 (hsolid (by decide))
  next h => exact absurd (List.cons.inj h).1 (hsolid (by decide))
  next h =>
    obtain ⟨rfl, -⟩ := List.cons.inj h
    unfold IsLayout at hc
    have hname : isNameStart c ≠ true := by
      intro hname
      simp [(solid_of_isNameStart hname).1] at hb
    have hequals : c ≠ '=' := hsolid (by decide)
    have hsemicolon : c ≠ ';' := hsolid (by decide)
    simp_all [isDigit_of_isBlank hb]

/-- A blank that the lexer does not pass over makes a statement somebody else's. -/
theorem isBuiltin_foreign {w : Text} (hw : Text.Blank w) (hf : ¬ ∀ c ∈ w, IsLayout c) (t : Text) :
    isBuiltin (w ++ t) = .ok false := by
  have hfrom (start line : Nat) : leadsTokens (lexFrom 0 start line (w ++ t)) = .ok false := by
    induction w generalizing start line with
    | nil => simp at hf
    | cons c w ih =>
      by_cases hc : IsLayout c
      · obtain ⟨lines, h⟩ := lexFrom_layout hc start line (w ++ t)
        rw [List.cons_append, h]
        refine ih (fun d hd => hw d (List.mem_cons_of_mem c hd)) ?_ _ _
        intro hall
        apply hf
        intro d hd
        rcases List.mem_cons.1 hd with rfl | hd
        · exact hc
        · exact hall d hd
      · rw [List.cons_append, lexFrom, shape?_foreign (hw c List.mem_cons_self) hc]
        rfl
  exact hfrom 0 1

end Command

theorem Segment.isEmpty_blank_append {w : Text} (hw : Text.Blank w) (t : Text) :
    isEmpty (w ++ t) = isEmpty t := by
  unfold isEmpty Text.trim
  rw [Text.trimFront_append hw]

/-! ## The handler -/

/-- What a session goes by in a result. -/
def Result.flags (r : Result) : Bool × Bool := (r.terminate, r.success)

namespace Builtin

/-- What is raised is told in a line: it is a failure about the statement, and has words. -/
def IsTold (r : Raised) : Prop := ∃ f, statementFailure? r = some f ∧ f.HasWords

/-- Two runs of a statement that a session cannot tell apart: they leave the same state, and
give the same, or both a failure that is told in a line. -/
def Alike (s u : Step Builtin Answer) : Prop :=
  s.state = u.state ∧ (s.outcome = u.outcome ∨
    ∃ e f, s.outcome = .error e ∧ u.outcome = .error f ∧ IsTold e ∧ IsTold f)

theorem handle_of_alike {b : Builtin} {t u : Text}
    (h : Alike (b.ticked.execute t) (b.ticked.execute u)) :
    (b.handle t).outcome.map Result.flags = (b.handle u).outcome.map Result.flags ∧
      (b.handle t).state.registry = (b.handle u).state.registry := by
  obtain ⟨hstate, houtcome⟩ := h
  unfold ticked at hstate houtcome
  unfold handle
  dsimp only
  rw [hstate]
  rcases houtcome with houtcome | ⟨e, f, he, hf, ⟨g, hg, hgwords⟩, k, hk, hkwords⟩
  · rw [houtcome]
    -- only the events of the two runs can differ
    generalize ({ b with clock := b.clock.read.2 }.execute u).outcome = outcome
    cases outcome with
    | error e =>
      dsimp only
      cases statementFailure? e with
      | none => exact ⟨rfl, rfl⟩
      | some f =>
        dsimp only
        cases f.words with
        | error e => exact ⟨rfl, rfl⟩
        | ok m => exact ⟨rfl, rfl⟩
    | ok a =>
      dsimp only
      cases resultOf a with
      | error e => exact ⟨rfl, rfl⟩
      | ok r => exact ⟨rfl, rfl⟩
  · rw [he, hf]
    dsimp only
    rw [hg, hk]
    dsimp only
    rw [hgwords, hkwords]
    exact ⟨rfl, rfl⟩

/-- A failure about the statement is told, and nothing else happens. -/
theorem handle_eq_of_failure {b : Builtin} {t : Text} {f : Failure} (hf : f.isStatement = true)
    (hwords : f.HasWords)
    (h : b.ticked.execute t = ⟨[], b.ticked, .error (.failure f)⟩) :
    b.handle t = ⟨[.write (errorLine ((f.number?).getD 0) f.message)], b.ticked,
      .ok { success := false }⟩ := by
  unfold ticked at h
  have hreported : statementFailure? (.failure f) = some f := if_pos hf
  unfold handle
  dsimp only
  rw [h]
  dsimp only
  rw [hreported]
  dsimp only
  rw [hwords]
  rfl

theorem handle_of_failure {b : Builtin} {t : Text} {f : Failure} (hf : f.isStatement = true)
    (hwords : f.HasWords)
    (h : b.ticked.execute t = ⟨[], b.ticked, .error (.failure f)⟩) :
    (b.handle t).outcome.map Result.flags = .ok (false, false) ∧
      (b.handle t).state.registry = b.registry := by
  rw [handle_eq_of_failure hf hwords h]
  exact ⟨rfl, rfl⟩

theorem moved_parse_failure (places lines : Nat) (e : Command.ParseFault) :
    e.moved places lines = e ∨
      (IsTold (.failure (.parse (e.moved places lines))) ∧ IsTold (.failure (.parse e))) := by
  cases e with
  | lexical e =>
    cases e with
    | illegalCharacter c line => exact .inr ⟨⟨_, rfl, rfl⟩, _, rfl, rfl⟩
    | tooManyDigits n => exact .inl rfl
  | unexpected t => exact .inr ⟨⟨_, rfl, rfl⟩, _, rfl, rfl⟩
  | unexpectedEnd => exact .inl rfl

theorem execute_layouts {b : Builtin} (hb : b.executor = none) {w : Text}
    (hw : ∀ c ∈ w, Command.IsLayout c) (t : Text) :
    Alike (b.execute (w ++ t)) (b.execute t) := by
  have hblank : Text.Blank w := Command.blank_of_layouts hw
  obtain ⟨places, lines, hlex⟩ := Command.lex_layouts hw t
  have hbuiltin : Command.isBuiltin (w ++ t) = Command.isBuiltin t := by
    rw [Command.isBuiltin, hlex, Command.leadsTokens_moved]
    rfl
  have hparse : Command.parse (w ++ t) =
      (Command.parse t).mapError (Command.ParseFault.moved places lines) := by
    rw [Command.parse, hlex, Command.read_moved]
    rfl
  unfold execute
  rw [Segment.isEmpty_blank_append hblank, hbuiltin]
  split
  next => exact ⟨rfl, .inl rfl⟩
  next =>
    split
    next => exact ⟨rfl, .inl rfl⟩
    next =>
      unfold delegate
      rw [hb]
      exact ⟨rfl, .inr ⟨_, _, rfl, rfl, ⟨_, rfl, rfl⟩, _, rfl, rfl⟩⟩
    next =>
      rw [hparse]
      cases Command.parse t with
      | error e =>
        rcases moved_parse_failure places lines e with h | ⟨hmoved, h⟩
        · exact ⟨rfl, .inl (by simp [Except.mapError, h])⟩
        · exact ⟨rfl, .inr ⟨_, _, rfl, rfl, hmoved, h⟩⟩
      | ok c => exact ⟨rfl, .inl rfl⟩

/-- Without an executor a statement that is nobody's fails, whatever stands in front of it. -/
theorem execute_blanks_of_other {b : Builtin} (hb : b.executor = none) {w : Text}
    (hw : Text.Blank w) (hf : ¬ ∀ c ∈ w, Command.IsLayout c) {t : Text}
    (ht : Segment.isEmpty t = false) :
    b.execute (w ++ t) = ⟨[], b, .error (.failure (.unsupported (w ++ t)))⟩ := by
  rw [execute, Segment.isEmpty_blank_append hw, ht, Command.isBuiltin_foreign hw hf, delegate, hb]
  rfl

theorem execute_of_other {b : Builtin} (hb : b.executor = none) {t : Text}
    (ht : Segment.isEmpty t = false) (hother : Command.isBuiltin t = .ok false) :
    b.execute t = ⟨[], b, .error (.failure (.unsupported t))⟩ := by
  rw [execute, ht, hother, delegate, hb]
  rfl

theorem handle_layouts {b : Builtin} (hb : b.executor = none) {w : Text}
    (hw : ∀ c ∈ w, Command.IsLayout c) (t : Text) :
    (b.handle (w ++ t)).outcome.map Result.flags = (b.handle t).outcome.map Result.flags ∧
      (b.handle (w ++ t)).state.registry = (b.handle t).state.registry :=
  handle_of_alike (execute_layouts (b := b.ticked) hb hw t)

/-- Blanks that the lexer passes over change nothing in front of any statement, and no blanks
change anything in front of one that is empty or nobody's. Other blanks make every other
statement fail, and so do not reach the registry. -/
theorem leading_blanks_of_a_statement (b : Builtin) (hb : b.executor = none) (w s : Text)
    (hw : Text.Blank w) :
    ((∀ c ∈ w, Command.IsLayout c) ∨ Segment.isEmpty s = true ∨ Command.isBuiltin s = .ok false →
      (b.handle (w ++ s)).outcome.map Result.flags = (b.handle s).outcome.map Result.flags ∧
        (b.handle (w ++ s)).state.registry = (b.handle s).state.registry) ∧
    (¬ (∀ c ∈ w, Command.IsLayout c) → Segment.isEmpty s = false →
      (b.handle (w ++ s)).outcome.map Result.flags = .ok (false, false) ∧
        (b.handle (w ++ s)).state.registry = b.registry) ∧
    ∀ t : Text, (∀ c ∈ t.takeWhile Text.isBlank, Command.IsLayout c) →
      (b.handle t).outcome.map Result.flags =
          (b.handle (Text.trimFront t)).outcome.map Result.flags ∧
        (b.handle t).state.registry = (b.handle (Text.trimFront t)).state.registry := by
  refine ⟨?_, ?_, ?_⟩
  · intro h
    by_cases hlayout : ∀ c ∈ w, Command.IsLayout c
    · exact handle_layouts hb hlayout s
    · apply handle_of_alike
      by_cases hempty : Segment.isEmpty s = true
      · rw [execute, execute, Segment.isEmpty_blank_append hw, hempty]
        exact ⟨rfl, .inl rfl⟩
      · have hempty : Segment.isEmpty s = false := by simpa using hempty
        have hother : Command.isBuiltin s = .ok false := by simpa [hlayout, hempty] using h
        rw [execute_blanks_of_other (b := b.ticked) hb hw hlayout hempty,
          execute_of_other (b := b.ticked) hb hempty hother]
        exact ⟨rfl, .inr ⟨_, _, rfl, rfl, ⟨_, rfl, rfl⟩, _, rfl, rfl⟩⟩
  · intro hf hempty
    exact handle_of_failure (f := .unsupported (w ++ s)) rfl rfl
      (execute_blanks_of_other (b := b.ticked) hb hw hf hempty)
  · intro t ht
    have h := handle_layouts hb ht (Text.trimFront t)
    rwa [Text.takeWhile_append_trimFront] at h

theorem vertical_tab_is_blank : Text.isBlank '\u000b' = true := by decide

theorem exit_behind_blanks :
    ((∀ c ∈ " \t\n".toList, Command.IsLayout c) ∧
      ((⟨none, none, .stopped⟩ : Builtin).handle (" \t\n".toList ++ "EXIT;".toList)).outcome.map
        Result.flags = .ok (true, true)) ∧
    (¬ ∀ c ∈ ['\u000b'], Command.IsLayout c) ∧
      ((⟨none, none, .stopped⟩ : Builtin).handle (['\u000b'] ++ "EXIT;".toList)).outcome.map
        Result.flags = .ok (false, false) := by
  have hlayout : ∀ c ∈ " \t\n".toList, Command.IsLayout c := by simp [Command.IsLayout]
  have hforeign : ¬ ∀ c ∈ ['\u000b'], Command.IsLayout c := by simp [Command.IsLayout]
  have hblank : Text.Blank ['\u000b'] := by simp [Text.Blank, vertical_tab_is_blank]
  refine ⟨⟨hlayout, ?_⟩, hforeign, ?_⟩
  · rw [((leading_blanks_of_a_statement ⟨none, none, .stopped⟩ rfl " \t\n".toList "EXIT;".toList
      (Command.blank_of_layouts hlayout)).1 (.inl hlayout)).1]
    rfl
  · exact ((leading_blanks_of_a_statement ⟨none, none, .stopped⟩ rfl ['\u000b'] "EXIT;".toList
      hblank).2.1 hforeign rfl).1

/-- A vertical tab is a blank that the lexer does not pass over: it keeps a statement behind it
from being read as a command. -/
theorem vertical_tab_hides_a_command :
    ¬ ∀ (b : Builtin) (w s : Text), b.executor = none → Text.Blank w →
      (b.handle (w ++ s)).outcome.map Result.flags = (b.handle s).outcome.map Result.flags ∧
        (b.handle (w ++ s)).state.registry = (b.handle s).state.registry := by
  intro h
  have hblank : Text.Blank ['\u000b'] := by simp [Text.Blank, vertical_tab_is_blank]
  have hsame := (h ⟨none, none, .stopped⟩ ['\u000b'] "EXIT;".toList rfl hblank).1
  have hhidden : ((⟨none, none, .stopped⟩ : Builtin).handle
      (['\u000b'] ++ "EXIT;".toList)).outcome.map Result.flags = .ok (false, false) := by rfl
  have hseen : ((⟨none, none, .stopped⟩ : Builtin).handle "EXIT;".toList).outcome.map
      Result.flags = .ok (true, true) := by rfl
  rw [hhidden, hseen] at hsame
  cases hsame

end Builtin

end StatementShell
