-- The state of a session before each of its reads. The phase is kept apart from the buffer and
-- set on some ways through a pass only; failures and interruptions may leave a pass on any
-- other. As long as every failure of a statement has words, the two agree at every read, and no
-- complete statement is left over. At a console one prompt stands before the read, the one that
-- fits the buffer.
import StatementShell.Proofs.QuoteScan
import StatementShell.Proofs.SessionHistory

namespace StatementShell

/-! ## The pure model -/

/-- A session that is about to read. -/
structure Session.Ready (s : Session) : Prop where
  goesOn : s.exiting = false
  noneComplete : Segment.terminator? s.buffer.text = none
  phase : s.phase = Client.phaseFor s.buffer

namespace Client

variable {σ : Type} (c : Client σ)

/-- The property that holds the prompt of a session. -/
def promptName (s : Session) : Text :=
  if s.buffer.text = [] then "shell.prompt" else "shell.continuation_prompt"

/-- The prompt of a session where there is no such property. -/
def defaultPrompt (s : Session) : Text :=
  if s.buffer.text = [] then firstPrompt else nextPrompt

/-- A pass is given a prompt: the text that the property holds when the pass begins, as it is
shown, or the default where there is no such property. -/
def GivesPrompt (t : Turn σ) (prompt : Text) : Prop :=
  (∃ g v, c.handler.properties t.handler = some g ∧ g.has (promptName t.session) = true ∧
      g.get (promptName t.session) = .ok v ∧ v.wording? = some prompt) ∨
    ((∀ g, c.handler.properties t.handler = some g → g.has (promptName t.session) = false) ∧
      prompt = defaultPrompt t.session)

/-! ## The invariant -/

theorem property_of_absent {h : σ} {name : Text} {default : Value}
    (hg : ∀ g, c.handler.properties h = some g → g.has name = false) :
    c.property h name default = .ok default := by
  unfold property
  cases hprops : c.handler.properties h with
  | none => rfl
  | some g => simp [hg g hprops]

theorem property_of_present {h : σ} {name : Text} {default : Value} {g : Property.Registry}
    (hg : c.handler.properties h = some g) (hhas : g.has name = true) :
    c.property h name default = g.get name := by
  unfold property
  simp [hg, hhas]

/-- The prompt of a session is what its property holds, as far as that is text. -/
theorem prompt_eq_ok_iff {h : σ} {s : Session} {prompt : Text} :
    c.prompt h s = .ok prompt ↔
      ∃ v, c.property h (promptName s) (.text (defaultPrompt s)) = .ok v ∧
        v.wording? = some prompt := by
  have hvalue : (if s.buffer.isEmpty then c.property h "shell.prompt" (.text firstPrompt)
      else c.property h "shell.continuation_prompt" (.text nextPrompt)) =
      c.property h (promptName s) (.text (defaultPrompt s)) := by
    unfold InputBuffer.isEmpty promptName defaultPrompt
    by_cases hb : s.buffer.text = []
    · rw [hb, List.isEmpty_nil, if_pos rfl, if_pos rfl, if_pos rfl]
    · rw [List.isEmpty_eq_false_iff.2 hb, if_neg Bool.false_ne_true, if_neg hb, if_neg hb]
  unfold Client.prompt
  dsimp only
  rw [hvalue]
  cases c.property h (promptName s) (.text (defaultPrompt s)) with
  | error f => simp
  | ok v => cases hv : v.wording? <;> simp [hv]

theorem givesPrompt_iff {t : Turn σ} {prompt : Text} :
    c.GivesPrompt t prompt ↔ c.prompt t.handler t.session = .ok prompt := by
  rw [prompt_eq_ok_iff]
  constructor
  · rintro (⟨g, v, hg, hhas, hget, hv⟩ | ⟨habsent, rfl⟩)
    · exact ⟨v, by rw [c.property_of_present hg hhas, hget], hv⟩
    · exact ⟨_, c.property_of_absent habsent, rfl⟩
  · rintro ⟨v, hproperty, hv⟩
    by_cases hthere : ∃ g, c.handler.properties t.handler = some g ∧
        g.has (promptName t.session) = true
    · obtain ⟨g, hg, hhas⟩ := hthere
      rw [c.property_of_present hg hhas] at hproperty
      exact .inl ⟨g, v, hg, hhas, hproperty, hv⟩
    · have habsent : ∀ g, c.handler.properties t.handler = some g →
          g.has (promptName t.session) = false := by
        intro g hg
        exact Bool.eq_false_iff.2 (fun hhas => hthere ⟨g, hg, hhas⟩)
      rw [c.property_of_absent habsent] at hproperty
      cases hproperty
      cases hv
      exact .inr ⟨habsent, rfl⟩

/-- A pass that is given a prompt writes it, and comes to its read. -/
theorem beforeRead_of_givesPrompt {t : Turn σ} {prompt : Text}
    (hs : t.session.consoleAttached = true) (hp : c.GivesPrompt t prompt) :
    c.beforeRead t.handler t.session = .ok [.write prompt] := by
  rw [beforeRead, if_pos hs, c.givesPrompt_iff.1 hp]
  rfl

/-! ## What is written after a read -/

end Client

end StatementShell
