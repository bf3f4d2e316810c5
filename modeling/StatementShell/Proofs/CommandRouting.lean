-- Where a statement goes. A statement is told from its first two tokens, read as a command from
-- all of them, and found empty from its characters alone; the three readers agree, so a command
-- never reaches the executor.
import StatementShell.Handler.Builtin
import StatementShell.Proofs.CommandReading
import StatementShell.Proofs.PropertyWrites

namespace StatementShell

namespace Segment

theorem mem_dropWhile {α : Type} {p : α → Bool} {l : List α} {a : α} (h : a ∈ l)
    (hp : p a = false) : a ∈ l.dropWhile p := by
  rw [← List.takeWhile_append_dropWhile (p := p) (l := l), List.mem_append] at h
  rcases h with h | h
  · have := List.mem_takeWhile_imp h
    simp [hp] at this
  · exact h

/-- A statement with anything but blanks and semicolons in it is not empty. -/
theorem isEmpty_of_solid {t : Text} {c : Char} (h : c ∈ t) (hb : Text.isBlank c = false)
    (hc : c ≠ terminator) : isEmpty t = false := by
  have htrim : ∀ u : Text, c ∈ u → c ∈ Text.trim u := by
    intro u hu
    unfold Text.trim Text.trimBack Text.trimFront
    rw [List.mem_reverse]
    apply mem_dropWhile _ hb
    rw [List.mem_reverse]
    exact mem_dropWhile hu hb
  have hdrop : c ∈ Text.dropBack terminator (Text.trim t) := by
    unfold Text.dropBack
    rw [List.mem_reverse]
    apply mem_dropWhile
    · rw [List.mem_reverse]
      exact htrim t h
    · simpa using hc
  unfold isEmpty
  rw [List.isEmpty_eq_false_iff]
  exact List.ne_nil_of_mem (htrim _ hdrop)

end Segment

namespace Command

/-! ## First words -/

/-- The words that a command can begin with. -/
def TokenKind.IsFirst (k : TokenKind) : Prop :=
  k = .exit ∨ k = .quit ∨ k = .set ∨ k = .showWord

theorem sentence_first {ts : List Token} {c : Command} (h : Sentence ts c) :
    ∃ t us, ts = t :: us ∧ t.kind.IsFirst := by
  unfold TokenKind.IsFirst
  cases h with
  | exit ht _ => exact ⟨_, _, rfl, by rcases ht with ht | ht <;> simp [ht]⟩
  | setProperty ht _ _ _ _ _ => exact ⟨_, _, rfl, by simp [ht]⟩
  | showProperties ht _ _ => exact ⟨_, _, rfl, by simp [ht]⟩
  | showProperty ht _ _ _ => exact ⟨_, _, rfl, by simp [ht]⟩

theorem Token.Sound.first_char {t : Token} (h : t.Sound) (hk : t.kind.IsFirst) :
    ∃ c ∈ t.lexeme, isNameStart c = true := by
  obtain ⟨s, hl, hm⟩ := h
  unfold TokenKind.IsFirst at hk
  generalize t.lexeme = p at *
  generalize t.kind = kind at *
  generalize t.value = value at *
  cases hm with
  | name =>
    cases hl with
    | name hc _ => exact ⟨_, List.mem_cons_self, hc⟩
  | _ => simp at hk

theorem leadsTokens_of_sentence {l : Lexing} {c : Command} (hf : l.fault? = none)
    (h : Sentence l.tokens c) : leadsTokens l = .ok true := by
  cases l with
  | finished => cases h
  | failed e => cases hf
  | token t rest =>
    cases rest with
    | finished =>
      cases h with
      | exit ht _ => rcases ht with ht | ht <;> simp [leadsTokens, ht, leads]
    | failed e => cases hf
    | token u r =>
      simp only [Lexing.tokens] at h
      generalize r.tokens = us at h
      cases h with
      | exit ht _ => rcases ht with ht | ht <;> simp [leadsTokens, ht, leads]
      | setProperty ht hu _ _ _ _ => simp [leadsTokens, ht, hu, leads]
      | showProperties ht hu _ => simp [leadsTokens, ht, hu, leads]
      | showProperty ht hu _ _ => simp [leadsTokens, ht, hu, leads]

theorem isBuiltin_of_parse {t : Text} {c : Command} (h : parse t = .ok c) :
    isBuiltin t = .ok true := by
  obtain ⟨hf, hs⟩ := sentence_of_parse h
  exact leadsTokens_of_sentence hf hs

theorem isEmpty_of_parse {t : Text} {c : Command} (h : parse t = .ok c) :
    Segment.isEmpty t = false := by
  obtain ⟨-, hs⟩ := sentence_of_parse h
  obtain ⟨u, us, hu, hk⟩ := sentence_first hs
  have hin : u ∈ (lex t).tokens := by
    rw [hu]
    exact List.mem_cons_self
  obtain ⟨d, hd, hname⟩ := ((lexes_lex t).sound u hin).first_char hk
  obtain ⟨hblank, hterminator⟩ := solid_of_isNameStart hname
  exact Segment.isEmpty_of_solid (((lexes_lex t).lexeme_sublist u hin).subset hd) hblank hterminator

end Command

/-! ## The handler -/

namespace Builtin

theorem execute_of_parse {t : Text} {c : Command} (h : Command.parse t = .ok c) (b : Builtin) :
    b.execute t = ⟨[], (b.runCommand c).1, (lift (b.runCommand c).2).map .result⟩ := by
  rw [execute, if_neg (by simp [Command.isEmpty_of_parse h]), Command.isBuiltin_of_parse h]
  simp [h]

/-- What a command does to the properties has nothing to do with the clock. -/
theorem registry_runCommand_ticked (b : Builtin) (c : Command) :
    (b.ticked.runCommand c).1.registry = (b.runCommand c).1.registry := by
  have hneed (part : Text) : b.ticked.needRegistry part = b.needRegistry part := rfl
  cases c with
  | exit => rfl
  | setProperty name v =>
    unfold runCommand
    dsimp only
    rw [hneed]
    split
    next => rfl
    next => split <;> rfl
  | showProperties =>
    unfold runCommand
    dsimp only
    rw [hneed]
    split <;> rfl
  | showProperty name =>
    unfold runCommand
    dsimp only
    rw [hneed]
    split <;> rfl

/-- Only a statement that is neither empty nor a command is given to the executor. -/
theorem execute_mem_execute {b : Builtin} {t s : Text} (h : .execute s ∈ (b.execute t).events) :
    s = t ∧ Segment.isEmpty t = false ∧ Command.isBuiltin t = .ok false := by
  unfold execute at h
  split at h
  next => simp at h
  next hempty =>
    split at h
    next => simp at h
    next hbuiltin =>
      unfold delegate at h
      split at h
      · simp at h
      · simp only [List.mem_singleton, Event.execute.injEq] at h
        exact ⟨h, by simpa using hempty, hbuiltin⟩
    next =>
      split at h
      · simp at h
      · simp at h

theorem execute_mem_handle {b : Builtin} {t s : Text} (h : .execute s ∈ (b.handle t).events) :
    .execute s ∈ (b.ticked.execute t).events := by
  unfold ticked
  unfold handle present at h
  simp only at h
  split at h
  · split at h
    · exact h
    · split at h
      · exact h
      · simpa using h
  · split at h
    · exact h
    · split at h
      · simpa using h
      · split at h
        · simpa using h
        · simpa using h

/-- A text that is read as a command is told as one, is not empty, and is run by the handler
itself; whatever reaches the executor is no command. -/
theorem commands_are_run_here (t : Text) :
    (∀ c, Command.parse t = .ok c →
      Command.isBuiltin t = .ok true ∧ Segment.isEmpty t = false ∧
      ∀ b : Builtin,
        b.execute t = ⟨[], (b.runCommand c).1, (lift (b.runCommand c).2).map .result⟩ ∧
        (b.handle t).state.registry = (b.runCommand c).1.registry ∧
        ∀ s, .execute s ∉ (b.handle t).events) ∧
    ∀ (b : Builtin) (s : Text), .execute s ∈ (b.handle t).events →
      s = t ∧ Segment.isEmpty t = false ∧ ∃ e, Command.parse t = .error e := by
  have hrejected : ∀ (b : Builtin) (s : Text), .execute s ∈ (b.handle t).events →
      s = t ∧ Segment.isEmpty t = false ∧ ∃ e, Command.parse t = .error e := by
    intro b s hs
    obtain ⟨rfl, hempty, hbuiltin⟩ := execute_mem_execute (execute_mem_handle hs)
    refine ⟨rfl, hempty, ?_⟩
    cases hp : Command.parse s with
    | error e => exact ⟨e, rfl⟩
    | ok c =>
      rw [Command.isBuiltin_of_parse hp] at hbuiltin
      cases hbuiltin
  refine ⟨?_, hrejected⟩
  intro c hc
  refine ⟨Command.isBuiltin_of_parse hc, Command.isEmpty_of_parse hc, ?_⟩
  intro b
  refine ⟨execute_of_parse hc b, ?_, ?_⟩
  · rw [registry_handle_eq, execute_of_parse hc, registry_runCommand_ticked]
  · intro s hs
    obtain ⟨-, -, e, he⟩ := hrejected b s hs
    rw [hc] at he
    cases he

theorem routes_of_the_sample :
    (Command.parse "-- all\nSHOW PROPERTIES;".toList = .ok .showProperties ∧
      Command.isBuiltin "-- all\nSHOW PROPERTIES;".toList = .ok true) ∧
    .execute "SELECT 1;".toList ∈ ((⟨none, some (fun _ => .ok .nothing), .stopped⟩ :
      Builtin).handle "SELECT 1;".toList).events ∧
    ∃ e, Command.parse "SELECT 1;".toList = .error e := by
  have hcommand : Command.parse "-- all\nSHOW PROPERTIES;".toList = .ok .showProperties := by rfl
  have hother : .execute "SELECT 1;".toList ∈ ((⟨none, some (fun _ => .ok .nothing), .stopped⟩ :
      Builtin).handle "SELECT 1;".toList).events := List.mem_cons_self
  obtain ⟨hbuiltin, -⟩ := (commands_are_run_here _).1 _ hcommand
  obtain ⟨-, -, hrejected⟩ := (commands_are_run_here _).2 _ _ hother
  exact ⟨⟨hcommand, hbuiltin⟩, hother, hrejected⟩

end Builtin

end StatementShell
