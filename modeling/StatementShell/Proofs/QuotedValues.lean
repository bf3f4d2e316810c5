-- Quoted values on their whole way. A quoted text is cut out of the input by one scanner and read
-- by another one; the check of a prompt looks at its length only, and the registry keeps it as it
-- is. So whatever stands between the quotes comes back as the value of the property.
import StatementShell.Proofs.OneStatement
import StatementShell.Proofs.QuoteGrammar
import StatementShell.Proofs.SavedProperties
import StatementShell.Proofs.StatementReports

namespace StatementShell

/-! ## Statements with a quoted text -/

/-- The properties that hold prompts. -/
def promptNames : List Text := ["shell.prompt".toList, "shell.continuation_prompt".toList]

/-- The statement that sets a property to a quoted text, up to its semicolon. -/
def quotedWrite (p : Text) (q : Char) (v : Text) : Text :=
  "SET PROPERTY ".toList ++ p ++ " = ".toList ++ (q :: (v ++ [q]))

theorem quotedWrite_append (p : Text) (q : Char) (v r : Text) :
    quotedWrite p q v ++ r =
      "SET PROPERTY ".toList ++ (p ++ (" = ".toList ++ (q :: (v ++ [q]) ++ r))) := by
  have htext : quotedWrite p q v =
      "SET PROPERTY ".toList ++ p ++ " = ".toList ++ (q :: (v ++ [q])) := rfl
  rw [htext, List.append_assoc, List.append_assoc, List.append_assoc]

theorem neutral_quotedWrite {p : Text} (hp : p ∈ promptNames) {q : Char} (hq : IsQuote q)
    {v : Text} (hv : q ∉ v) : Segment.Neutral (quotedWrite p q v) := by
  have hfront : ∀ p ∈ promptNames,
      Segment.Neutral ("SET PROPERTY ".toList ++ p ++ " = ".toList) := by decide
  exact (hfront p hp).append (Segment.neutral_quoted hq hv)

theorem returnFree_quotedWrite {p : Text} (hp : p ∈ promptNames) {q : Char} (hq : IsQuote q)
    {v : Text} (hv : Text.ReturnFree v) : Text.ReturnFree (quotedWrite p q v) := by
  have hquote : q ≠ '\r' ∧ q ≠ '\n' := by
    rcases hq with rfl | rfl <;> decide
  have hfront : ∀ p ∈ promptNames,
      Text.ReturnFree ("SET PROPERTY ".toList ++ p ++ " = ".toList) := by
    unfold Text.ReturnFree
    decide
  have hclosed : Text.ReturnFree (v ++ [q]) :=
    hv.append (List.isChain_singleton q) (.inr (by simp [hquote.2]))
  have hbody : Text.ReturnFree ([q] ++ (v ++ [q])) :=
    Text.ReturnFree.append (List.isChain_singleton q) hclosed (.inl (by simp [hquote.1]))
  exact (hfront p hp).append hbody (.inr (by simp [hquote.2]))

namespace Command

/-! ## Reading -/

/-- A quoted text is one token, and its value is the text between the quotes. -/
theorem lexFrom_quoted {q : Char} (hq : IsQuote q) {v : Text} (h : q ∉ v) (start line : Nat)
    (r : Text) :
    ∃ t k, Token.Denotes t (.text v) ∧
      lexFrom 0 start line (q :: (v ++ [q]) ++ r) = .token t (lexFrom 0 k line r) := by
  have hinner : .text (unquote (q :: (v ++ [q]))) = Value.text v := by simp [unquote]
  have htail := quoteTail?_append h r
  have hlength : v.length + 1 + 1 = (q :: (v ++ [q])).length := by simp
  rcases hq with rfl | rfl
  · have hs : shape? ('\'' :: (v ++ ['\'']) ++ r) = some (.singleQuoted, v.length + 1 + 1) := by
      rw [List.cons_append, shape?, htail]
      rfl
    refine ⟨_, _, ?_, lexFrom_piece (hlength ▸ hs) .singleQuoted⟩
    exact hinner ▸ Token.Denotes.quoted (.inl rfl)
  · have hs : shape? ('"' :: (v ++ ['"']) ++ r) = some (.doubleQuoted, v.length + 1 + 1) := by
      rw [List.cons_append, shape?, htail]
      rfl
    refine ⟨_, _, ?_, lexFrom_piece (hlength ▸ hs) .doubleQuoted⟩
    exact hinner ▸ Token.Denotes.quoted (.inr rfl)

theorem lex_opening (r : Text) :
    lex ("SET PROPERTY ".toList ++ r) =
      .token ⟨.set, .text "SET", 1, 0, "SET"⟩
        (.token ⟨.property, .text "PROPERTY", 1, 4, "PROPERTY"⟩ (lexFrom 0 13 1 r)) := by
  rfl

theorem lexFrom_promptName {p : Text} (hp : p ∈ promptNames) (start line : Nat) (r : Text) :
    lexFrom 0 start line (p ++ (" = ".toList ++ r)) =
      .token ⟨.name, .text p, line, start, p⟩
        (lexFrom 0 (start + p.length) line (" = ".toList ++ r)) := by
  have hs : shape? (p ++ (" = ".toList ++ r)) = some (.name, p.length) := by
    rcases List.mem_pair.1 hp with rfl | rfl <;> rfl
  have hkind : ∀ p ∈ promptNames, nameKind p = .name := by decide
  exact hkind p hp ▸ lexFrom_piece hs .name

theorem lexFrom_equals (start line : Nat) (r : Text) :
    lexFrom 0 start line (" = ".toList ++ r) =
      .token ⟨.equals, .text "=", line, start + 1, "="⟩ (lexFrom 0 (start + 3) line r) := by
  rfl

theorem lexFrom_semicolon (start line : Nat) :
    lexFrom 0 start line [Segment.terminator] =
      .token ⟨.semicolon, .text ";", line, start, ";"⟩ .finished := by
  rfl

/-- The statement is read as the command with the text between its quotes. -/
theorem parse_quotedWrite {p : Text} (hp : p ∈ promptNames) {q : Char} (hq : IsQuote q) {v : Text}
    (hv : q ∉ v) :
    parse (quotedWrite p q v ++ [Segment.terminator]) = .ok (.setProperty p (.text v)) := by
  obtain ⟨d, k, hd, hquoted⟩ := lexFrom_quoted hq hv (13 + p.length + 3) 1 [Segment.terminator]
  refine (outcome_parse _).unique ?_
  rw [quotedWrite_append, lex_opening, lexFrom_promptName hp, lexFrom_equals, hquoted,
    lexFrom_semicolon]
  exact .command rfl (.setProperty rfl rfl ⟨.inl rfl, rfl⟩ rfl hd (.semicolon rfl))

end Command

namespace Property.Registry

/-! ## Prompts in a registry -/

/-- The prompts can be set at any time, to every text that is not too long. -/
def TakesPrompts (g : Registry) : Prop :=
  ∀ p ∈ promptNames, ∃ d, g.descriptor? p = some d ∧ d.readonly = false ∧
    d.validator = .string none Environment.promptLimit

variable {g : Registry}

theorem has_of_get {name : Text} {v : Value} (h : g.get name = .ok v) : g.has name = true := by
  unfold get descriptor at h
  cases hd : g.descriptor? name with
  | none =>
    rw [hd] at h
    cases h
  | some d => rw [has, hd, Option.isSome_some]

theorem TakesPrompts.exists_get (hg : g.TakesPrompts) (hsound : g.Sound) {p : Text}
    (hp : p ∈ promptNames) : ∃ v t, g.get p = .ok v ∧ v.wording? = some t := by
  obtain ⟨d, hd, -, hv⟩ := hg p hp
  have hget : g.get p = .ok (g.storedAt d).value := by
    rw [get, descriptor_eq_ok_iff.2 hd]
    exact hsound.valueOf_string (mem_of_descriptor? hd).1 hv
  generalize g.storedAt d = s at hget
  cases s with
  | text t => exact ⟨.text t, t, hget, rfl⟩
  | ragged r => exact ⟨.ragged r, r.shown, hget, rfl⟩

/-- A prompt is set to a text and has this text then. All else is as it was. -/
theorem TakesPrompts.set (hg : g.TakesPrompts) (hsound : g.Sound) {p : Text}
    (hp : p ∈ promptNames) {v : Text} (hv : v.length ≤ 64) :
    ∃ h, g.set p (.text v) = .ok (h, .text v) ∧ h.Sound ∧ h.TakesPrompts ∧
      h.get p = .ok (.text v) ∧
      ∀ other, Text.fold other ≠ Text.fold p → h.get other = g.get other := by
  obtain ⟨d, hd, hwritable, hvalidator⟩ := hg p hp
  have htakes : d.validator.Takes (.text v) (.text v) := by
    rw [hvalidator]
    refine .string (fun ts hts => by cases hts) ?_
    unfold Environment.promptLimit
    omega
  have haccept : g.accept p (.text v) = .ok (d, .text v) :=
    accept_eq_ok_iff.2 ⟨hd, by simp [hwritable], htakes⟩
  have hset : g.set p (.text v) = .ok (g.store d.name v, .text v) :=
    set_eq_ok_iff.2 ⟨d, v, haccept, rfl, rfl⟩
  have hany : (g.descriptor p).map (·.validator) ≠ .ok .any := by
    rw [descriptor_eq_ok_iff.2 hd]
    simp [Except.map, hvalidator]
  refine ⟨_, hset, sound_set hsound hset, hg, hsound.get_of_set hset hany rfl .refl, ?_⟩
  intro other hother
  exact ((Operation.sets hset).sameAt (by simpa using hother)).get_eq

end Property.Registry

namespace Environment

open Property (Registry)

/-- The registry of the program, during its set-up or after it. -/
def IsDefault (g : Registry) : Prop := g = defaultRegistry ∨ g = defaultRegistry.completeSetup

variable {g : Registry}

theorem IsDefault.sound (hg : IsDefault g) : g.Sound := by
  have hlived := built_defaultRegistry.lived
  rcases hg with rfl | rfl
  · exact hlived.sound
  · exact Property.Registry.Operation.completes.sound hlived.sound

theorem IsDefault.takesPrompts (hg : IsDefault g) : g.TakesPrompts := by
  intro p hp
  rcases hg with rfl | rfl
  · rcases List.mem_pair.1 hp with rfl | rfl <;> exact ⟨_, rfl, rfl, rfl⟩
  · rcases List.mem_pair.1 hp with rfl | rfl <;> exact ⟨_, rfl, rfl, rfl⟩

theorem IsDefault.get_showBanner (hg : IsDefault g) :
    g.get "shell.show_banner" = .ok (.boolean true) := by
  rcases hg with rfl | rfl <;> rfl

end Environment

namespace Client

variable {σ : Type} {c : Client σ}

theorem alwaysShows_of_takesPrompts {h : σ} {g : Property.Registry}
    (hg : c.handler.properties h = some g) (hprompts : g.TakesPrompts) (hsound : g.Sound)
    (a : Bool) : c.AlwaysShows h a := by
  intro s _
  have hname : promptName s ∈ promptNames := by
    unfold promptName
    split
    · exact List.mem_cons_self
    · exact List.mem_cons_of_mem _ List.mem_cons_self
  obtain ⟨v, t, hv, ht⟩ := hprompts.exists_get hsound hname
  cases hs : s.consoleAttached with
  | false => exact ⟨[], c.beforeRead_of_no_console hs⟩
  | true =>
    have hgives : c.GivesPrompt ⟨h, s, .endOfInput⟩ t :=
      .inl ⟨g, v, hg, Property.Registry.has_of_get hv, hv, ht⟩
    exact ⟨[.write t], c.beforeRead_of_givesPrompt hs hgives⟩

theorem exists_greeting {h : σ} {g : Property.Registry} (hg : c.handler.properties h = some g)
    {v : Value} (hv : g.get "shell.show_banner" = .ok v) (s : Session) :
    ∃ es, c.greeting h s = .ok es := by
  unfold greeting
  split
  next =>
    rw [c.property_of_present hg (Property.Registry.has_of_get hv), hv]
    exact ⟨_, rfl⟩
  next => exact ⟨[], rfl⟩

end Client

/-- Only its time can keep a result from being shown whose table is fine, and that is told. -/
theorem Result.hasWords_of_text {r : Result} {ls : List Text} (hls : r.tableLines = .ok ls)
    {f : Failure} (hf : r.text = .error f) : f.HasWords := by
  cases htime : timeText r.elapsed with
  | ok time =>
    obtain ⟨t, ht⟩ := text_of_tableLines hls htime
    cases hf.symm.trans ht
  | error e =>
    have htext : r.text = .error e := by
      rw [text, hls, htime]
      rfl
    have hwhole {i : Int} (h : timeText.whole i = .error e) : e.HasWords := by
      unfold timeText.whole at h
      split at h <;> cases h
      rfl
    cases hf.symm.trans htext
    unfold timeText at htime
    split at htime
    · exact hwhole htime
    · exact hwhole htime
    · cases htime
    · cases htime
      rfl

namespace Builtin

open Property (Registry)
open Event (handled)

/-! ## The handler -/

theorem present_of_goesOn {r : Result} (hr : r.terminate = false) {ls : List Text}
    (hls : r.tableLines = .ok ls) :
    handled (present r).1 = [] ∧
      ((present r).2 = .ok r ∨ ∃ f, (present r).2 = .error (.failure f) ∧ f.HasWords) := by
  rw [present, if_neg (by simp [hr])]
  cases ht : r.text with
  | error e => exact ⟨rfl, .inr ⟨e, rfl, Result.hasWords_of_text hls ht⟩⟩
  | ok t => exact ⟨rfl, .inl rfl⟩

/-- A command that sets a property, for a session: the registry is written, nothing else is handed
over, and the session goes on. -/
theorem tried_of_set (level : LogLevel) {b : Builtin} {g h : Registry} (hb : b.registry = some g)
    {s name t : Text} (hparse : Command.parse s = .ok (.setProperty name (.text t)))
    (hset : g.set name (.text t) = .ok (h, .text t)) :
    let step := Client.tried ⟨handler, level⟩ ⟨b, s⟩
    step.outcome = .ok false ∧ step.state.registry = some h ∧
      handled (b.handle s).events = [] := by
  intro step
  have hrun : ∃ r, b.ticked.runCommand (.setProperty name (.text t)) =
      ({ b.ticked with registry := some h }, .ok r) ∧ r.terminate = false ∧
        r.fields = none := by
    have hneed : b.ticked.needRegistry "set_value" = .ok g := by
      have hticked : b.ticked.registry = some g := hb
      rw [needRegistry, hticked]
    rw [runCommand, hneed]
    dsimp only
    rw [setProperty, hset]
    exact ⟨_, rfl, rfl, rfl⟩
  obtain ⟨r, hrun, hgoesOn, hfields⟩ := hrun
  have hexecute := execute_of_parse hparse b.ticked
  rw [hrun] at hexecute
  obtain ⟨e, -, hhandle⟩ := handle_of_answer hexecute rfl rfl
  have hlines : Result.tableLines { r with elapsed := e } = .ok [] := by
    rw [Result.tableLines, hfields]
  obtain ⟨hquiet, houtcome⟩ := present_of_goesOn (r := { r with elapsed := e }) hgoesOn hlines
  refine ⟨?_, ?_, ?_⟩
  · have hanswer : Client.answer ⟨handler, level⟩ ⟨b, s⟩ =
        ((b.handle s).outcome.map (fun r => .answers (.ok r.terminate))).bind Reply.ends := rfl
    rw [Client.outcome_tried, hanswer, hhandle]
    rcases houtcome with houtcome | ⟨f, houtcome, hwords⟩
    · rw [houtcome]
      exact congrArg Except.ok hgoesOn
    · rw [houtcome]
      exact Client.settle_of_hasWords hwords
  · have hstate : step.state = (b.handle s).state := Client.state_tried _ _
    rw [hstate, hhandle]
  · rw [hhandle]
    exact hquiet

/-- The handler itself does nothing when a session begins or ends. -/
theorem exists_run (level : LogLevel) (b : Builtin) (a : Bool) (rs : List Reading) :
    ∃ r, Client.run ⟨handler, level⟩ b a rs = .ran r ∧
      let m := Client.mainLoop ⟨handler, level⟩ b a rs
      r.ending = m.ending ∧ r.handler = m.handler ∧ handled r.events = handled m.events := by
  have hrun : Client.run ⟨handler, level⟩ b a rs = .ran ((Client.finish ⟨handler, level⟩
    (Client.mainLoop ⟨handler, level⟩ b a rs)).after [.startup]) := rfl
  refine ⟨_, hrun, ?_⟩
  generalize Client.mainLoop ⟨handler, level⟩ b a rs = m
  by_cases hm : ∃ f, m.ending = .stuck f
  · obtain ⟨f, hm⟩ := hm
    rw [Client.finish_of_stuck _ hm]
    exact ⟨rfl, rfl, rfl⟩
  · rw [Client.finish_of_ends _ (not_exists.1 hm)]
    refine ⟨rfl, rfl, ?_⟩
    rw [Client.Run.after, Client.handled_append, Client.handled_append]
    exact List.append_nil _

/-- Whatever stands between its quotes, a session over one statement that sets a prompt hands this
statement over once, and then the prompt is the text between the quotes. All else is as it was. -/
theorem quoted_values_arrive (level : LogLevel) {b : Builtin} {g : Registry}
    (hg : Environment.IsDefault g) (hb : b.registry = some g) (consoleAttached interactive : Bool)
    {p : Text} (hp : p ∈ promptNames) {q : Char} (hq : IsQuote q) {v : Text}
    (hlength : v.length ≤ 64) (hquote : q ∉ v) (hreturn : Text.ReturnFree v) :
    let t := quotedWrite p q v ++ [Segment.terminator]
    ∃ r h, Client.run ⟨handler, level⟩ b consoleAttached
        (LineSource.ofText (t ++ ['\n']) interactive).readings = .ran r ∧
      r.ending = .returned ∧ handled r.events = [t] ∧ r.handler.registry = some h ∧
      h.get p = .ok (.text v) ∧
      ∀ other, Text.fold other ≠ Text.fold p → h.get other = g.get other := by
  intro t
  obtain ⟨r, hrun, hreturned, hstate, hevents⟩ := exists_run level b consoleAttached
    (LineSource.ofText (t ++ ['\n']) interactive).readings
  -- the client is opaque from here on, so that no step tries to run the session
  generalize hc : (⟨handler, level⟩ : Client Builtin) = c
  have hproperties (k : Builtin) : c.handler.properties k = k.registry := by rw [← hc]; rfl
  have hhandle (k : Builtin) (s : Text) : (c.handler.handle k s).events = (k.handle s).events := by
    rw [← hc]
    rfl
  obtain ⟨h, hset, hsound, hprompts, hget, hother⟩ := hg.takesPrompts.set hg.sound hp hlength
  obtain ⟨hgoesOn, hregistry, hquiet⟩ :=
    tried_of_set level hb (Command.parse_quotedWrite hp hq hquote) hset
  rw [hc] at hrun hreturned hstate hevents hgoesOn hregistry
  have hshow : c.AlwaysShows b consoleAttached :=
    Client.alwaysShows_of_takesPrompts ((hproperties b).trans hb) hg.takesPrompts hg.sound _
  have hnext : c.AlwaysShows (c.tried ⟨b, t⟩).state consoleAttached :=
    Client.alwaysShows_of_takesPrompts ((hproperties _).trans hregistry) hprompts hsound _
  obtain ⟨hending, hhandler, hhandled⟩ := Client.mainLoop_of_statement
    (neutral_quotedWrite hp hq hquote) (returnFree_quotedWrite hp hq hreturn)
    (Client.exists_greeting ((hproperties b).trans hb) hg.get_showBanner _) hshow hgoesOn hnext
    interactive
  have hone : handled r.events = [t] := by rw [hevents, hhandled, hhandle, hquiet]
  refine ⟨r, h, hrun, hreturned.trans hending, hone, ?_, hget, hother⟩
  rw [hstate, hhandler, hregistry]

def hostileSample : Text := "> ; it's\n-- EXIT;\n\n/* \r"

/-- A prompt with semicolons, the other quote, line feeds and marks of comments. -/
theorem hostile_sample_arrives :
    let v := hostileSample
    let t := quotedWrite "shell.continuation_prompt" '"' v ++ [Segment.terminator]
    let b : Builtin := ⟨some Environment.defaultRegistry, none, .stopped⟩
    (v.length ≤ 64 ∧ '"' ∉ v ∧ Text.ReturnFree v) ∧
      ∃ r h, Client.run ⟨handler, .warning⟩ b true
          (LineSource.ofText (t ++ ['\n']) true).readings = .ran r ∧
        r.ending = .returned ∧ handled r.events = [t] ∧ r.handler.registry = some h ∧
        h.get "shell.continuation_prompt" = .ok (.text v) ∧
        ∀ other, Text.fold other ≠ Text.fold "shell.continuation_prompt" →
          h.get other = Environment.defaultRegistry.get other := by
  have hlength : hostileSample.length ≤ 64 := by decide
  have hquote : '"' ∉ hostileSample := by decide
  have hreturn : Text.ReturnFree hostileSample := by
    unfold Text.ReturnFree
    decide
  refine ⟨⟨hlength, hquote, hreturn⟩, ?_⟩
  exact quoted_values_arrive .warning (.inl rfl) rfl true true (by decide) (.inr rfl) hlength hquote
    hreturn

end Builtin

end StatementShell
