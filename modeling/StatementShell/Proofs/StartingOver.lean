-- Interruptions. Whatever is interrupted, a read or a statement anywhere in its line, the session
-- forgets what it has read and starts over: what it does from there on is what a new session
-- does with the readings that are left and the handler as it was left.
import StatementShell.Proofs.BeforeRead
import StatementShell.Proofs.StatementOrder

namespace StatementShell

/-- The statements of a text stand in it, and what is left is its end. -/
theorem Segment.extractAll_infix (t : Text) :
    (∀ s ∈ (extractAll t).1, s <:+: t) ∧ (extractAll t).2 <:+ t := by
  induction h : t.length using Nat.strongRecOn generalizing t with
  | _ n ih =>
    cases he : extract? t with
    | none =>
      rw [extractAll_of_none he]
      exact ⟨by simp, List.suffix_refl t⟩
    | some p =>
      obtain ⟨s, r⟩ := p
      obtain ⟨hall, hleft⟩ := ih _ (h ▸ length_lt_of_extract? he) r rfl
      have hr : r <:+ t := suffix_of_extract? he
      rw [extractAll_of_some he]
      obtain ⟨i, -, rfl, -⟩ := extract?_eq_some he
      refine ⟨?_, hleft.trans hr⟩
      intro s hs
      rcases List.mem_cons.1 hs with rfl | hs
      · exact (List.take_prefix _ _).isInfix
      · exact (hall s hs).trans hr.isInfix

namespace Client

variable {σ : Type} (c : Client σ)

/-! ## The pure model -/

/-- What interrupts a pass, and the state that the handler is left in: the read, or a call,
inside the handler or where its answer is asked whether the session ends. -/
inductive Interrupted (t : Turn σ) : σ → Prop
  | read {m : Text} : c.Shows t → t.reading = .raises (.interrupt m) → Interrupted t t.handler
  | call {x : Call σ} {m : Text} : x ∈ c.callsOf t → c.answer x = .error (.interrupt m) →
      Interrupted t (c.handler.handle x.handler x.statement).state

/-- The state of the handler after some calls. -/
def stateAfter (h : σ) (xs : List (Call σ)) : σ := xs.foldl (fun _ x => (c.tried x).state) h

/-! ## The interrupted call -/

theorem state_tried (x : Call σ) :
    (c.tried x).state = (c.handler.handle x.handler x.statement).state := by
  simp only [tried, dispatch]
  cases (c.handler.handle x.handler x.statement).outcome.bind Reply.ends with
  | ok ends => rfl
  | error r =>
    cases r with
    | failure f =>
      dsimp only
      cases Report.ofStatement x.statement f <;> rfl
    | interrupt m => rfl
    | exit m => rfl

/-- A call that does not let the session go on is the last one of its line. -/
theorem stopsWith_of_mem_calls {h : σ} {ts : List Text} {x : Call σ} (hx : x ∈ c.calls h ts)
    (hstop : (c.tried x).outcome ≠ .ok false) :
    ∃ ys, c.calls h ts = ys ++ [x] ∧ c.AllGoOn ys := by
  induction ts generalizing h with
  | nil => cases hx
  | cons t ts ih =>
    by_cases ho : (c.tried ⟨h, t⟩).outcome = .ok false
    · rw [c.calls_cons_of_goesOn ho] at hx ⊢
      rcases List.mem_cons.1 hx with rfl | hx
      · exact absurd ho hstop
      · obtain ⟨ys, hys, hon⟩ := ih hx
        exact ⟨⟨h, t⟩ :: ys, by rw [hys, List.cons_append],
          (c.allGoOn_singleton ho).append c hon⟩
    · rw [c.calls_cons_of_stops ho] at hx ⊢
      obtain rfl := List.mem_singleton.1 hx
      exact ⟨[], rfl, c.allGoOn_nil⟩

/-- A buffer leaves the handler in the state after its last call. -/
theorem state_runBuffer (h : σ) (b : InputBuffer) :
    (c.runBuffer h b).2.1 = c.stateAfter h (c.calls h (Segment.extractAll b.text).1) := by
  induction hn : b.text.length using Nat.strongRecOn generalizing h b with
  | _ n ih =>
    cases hb : Segment.extract? b.text with
    | none =>
      have hnone : b.extract? = none := by rw [InputBuffer.extract?, hb]; rfl
      rw [c.runBuffer_of_none hnone, Segment.extractAll_of_none hb]
      rfl
    | some p =>
      obtain ⟨t, r⟩ := p
      have hsome : b.extract? = some (t, ⟨r⟩) := by rw [InputBuffer.extract?, hb]; rfl
      have hlt := hn ▸ Segment.length_lt_of_extract? hb
      have htried : c.dispatch h t = c.tried ⟨h, t⟩ := rfl
      rw [c.runBuffer_of_some hsome, Segment.extractAll_of_some hb, htried]
      cases ho : (c.tried ⟨h, t⟩).outcome with
      | error e =>
        simp only [c.calls_cons_of_stops (by rw [ho]; simp)]
        rfl
      | ok ends =>
        cases ends with
        | true =>
          simp only [c.calls_cons_of_stops (by rw [ho]; simp)]
          rfl
        | false =>
          simp only [c.calls_cons_of_goesOn ho]
          exact ih _ hlt (c.tried ⟨h, t⟩).state ⟨r⟩ rfl

theorem handler_leave (events : List Event) (h : σ) (s : Session) (r : Raised) :
    (c.leave events h s r).handler = h := by
  cases r with
  | interrupt m => rfl
  | failure f =>
    simp only [leave]
    cases c.recover f <;> rfl
  | exit m => rfl

theorem handler_pass_line {t : Turn σ} {l : Text} (hb : c.Shows t) (hr : t.reading = .line l) :
    (c.passOf t).handler = c.stateAfter t.handler (c.callsOf t) := by
  obtain ⟨shown, hshown⟩ := hb
  have hstate := c.state_runBuffer t.handler (t.session.buffer.append (l ++ ['\n']))
  rw [InputBuffer.append, ← c.callsOf_of_line hshown hr] at hstate
  rw [← hstate, passOf, pass, hshown, hr]
  simp only [afterRead, InputBuffer.append]
  rcases c.runBuffer t.handler ⟨t.session.buffer.text ++ (l ++ ['\n'])⟩ with ⟨events, k, p⟩
  cases p with
  | waits b => rfl
  | ends => rfl
  | left r b => exact c.handler_leave _ _ _ r

/-! ## The interrupted pass -/

theorem shows_of_mem_callsOf {t : Turn σ} {x : Call σ} (hx : x ∈ c.callsOf t) :
    c.Shows t ∧ ∃ l, t.reading = .line l := by
  unfold callsOf at hx
  split at hx
  next shown l hb hr => exact ⟨⟨shown, hb⟩, l, hr⟩
  next => cases hx

theorem exists_callsOf_eq {t : Turn σ} {x : Call σ} (hx : x ∈ c.callsOf t)
    (hstop : (c.tried x).outcome ≠ .ok false) : ∃ ys, c.callsOf t = ys ++ [x] ∧ c.AllGoOn ys := by
  obtain ⟨⟨shown, hb⟩, l, hr⟩ := c.shows_of_mem_callsOf hx
  rw [c.callsOf_of_line hb hr] at hx ⊢
  exact c.stopsWith_of_mem_calls hx hstop

theorem stopsWith_of_interrupt {t : Turn σ} {x : Call σ} {m : Text} (hx : x ∈ c.callsOf t)
    (ha : c.answer x = .error (.interrupt m)) :
    ∃ ys, c.callsOf t = ys ++ [x] ∧ (c.tried x).outcome = .error (.interrupt m) ∧
      c.AllGoOn ys := by
  have ho : (c.tried x).outcome = .error (.interrupt m) := by
    rw [outcome_tried, ha, settle_eq_interrupt_iff]
  obtain ⟨ys, hys, hon⟩ := c.exists_callsOf_eq hx (by simp [ho])
  exact ⟨ys, hys, ho, hon⟩

/-- An interrupted pass goes on, with a session that has nothing in its buffer. -/
theorem passOf_interrupted {t : Turn σ} {k : σ} (hi : c.Interrupted t k) :
    (c.passOf t).ending = none ∧
      (c.passOf t).session =
        ⟨t.session.consoleAttached, t.session.exiting, .empty, .awaitingInput⟩ := by
  cases hi with
  | read hb hr =>
    obtain ⟨shown, hshown⟩ := hb
    rw [passOf, pass, hshown, hr]
    exact ⟨rfl, rfl⟩
  | call hx ha =>
    obtain ⟨hb, l, hr⟩ := c.shows_of_mem_callsOf hx
    obtain ⟨ys, hys, ho, hon⟩ := c.stopsWith_of_interrupt hx ha
    obtain ⟨hending, hsession⟩ := c.passOf_of_stopsWith hb hr ⟨ys, _, hys, ho, hon⟩ (by simp)
    exact ⟨hending, hsession _ rfl⟩

theorem handler_passOf_interrupted {t : Turn σ} {k : σ} (hi : c.Interrupted t k) :
    (c.passOf t).handler = k := by
  cases hi with
  | read hb hr =>
    obtain ⟨shown, hshown⟩ := hb
    rw [passOf, pass, hshown, hr]
    rfl
  | call hx ha =>
    obtain ⟨hb, l, hr⟩ := c.shows_of_mem_callsOf hx
    obtain ⟨ys, hys, -, -⟩ := c.stopsWith_of_interrupt hx ha
    rw [c.handler_pass_line hb hr, hys, stateAfter, List.foldl_concat, state_tried]

/-- The note of the interruption comes last, and there is no other one: what stands before it
are the prompt, the read, and the calls up to the interrupted one. -/
theorem eventsOf_interrupted {t : Turn σ} {k : σ} (hi : c.Interrupted t k) :
    ∃ shown, c.beforeRead t.handler t.session = .ok shown ∧
      c.eventsOf t = shown ++ .read t.session.buffer.text t.session.phase ::
        (c.callsOf t).flatMap (fun x => (c.tried x).events) ++ [.write interruptText] := by
  cases hi with
  | read hb hr =>
    obtain ⟨shown, hshown⟩ := hb
    refine ⟨shown, hshown, ?_⟩
    rw [eventsOf, hshown, aftermath, readEvents, hr, c.callsOf_of_not_line (by simp [hr])]
    simp [noteOf]
  | call hx ha =>
    obtain ⟨⟨shown, hshown⟩, l, hr⟩ := c.shows_of_mem_callsOf hx
    obtain ⟨ys, hys, ho, hon⟩ := c.stopsWith_of_interrupt hx ha
    refine ⟨shown, hshown, ?_⟩
    rw [eventsOf, hshown, aftermath, readEvents, hr,
      c.callEvents_of_stopsWith ⟨ys, _, hys, ho, hon⟩]
    simp [callNote, noteOf]

/-! ## What comes after a pass -/

theorem ending_pass_endOfInput_ne (h : σ) (s : Session) :
    (c.pass h s .endOfInput).ending ≠ none := by
  cases hb : c.beforeRead h s with
  | error f => simp [pass, hb, c.recover_of_hasWords (c.hasWords_of_beforeRead hb)]
  | ok shown => simp [c.ending_pass_endOfInput hb]

/-- A pass that goes on is followed by what a loop from its end does with the readings that
are left. -/
theorem turns_split {h : σ} {s : Session} {rs : List Reading} {before after : List (Turn σ)}
    {t : Turn σ} (ht : c.turns h s rs = before ++ t :: after)
    (hon : (c.passOf t).ending = none) :
    ∃ rest, rs = before.map Turn.reading ++ t.reading :: rest ∧
      after = c.turns (c.passOf t).handler (c.passOf t).session rest ∧
      c.loop h s rs = (c.loop (c.passOf t).handler (c.passOf t).session rest).after
        (before.flatMap c.eventsOf ++ c.eventsOf t) := by
  induction rs generalizing h s before with
  | nil =>
    rw [turns, List.singleton_eq_append_iff] at ht
    rcases ht with ⟨-, ht⟩ | ⟨-, ht⟩
    · obtain ⟨rfl, -⟩ := List.cons.inj ht
      exact absurd hon (c.ending_pass_endOfInput_ne h s)
    · cases ht
  | cons r rs ih =>
    cases hp : (c.pass h s r).ending with
    | some e =>
      rw [c.turns_of_ends hp, List.singleton_eq_append_iff] at ht
      rcases ht with ⟨-, ht⟩ | ⟨-, ht⟩
      · obtain ⟨rfl, -⟩ := List.cons.inj ht
        exact absurd hon (by simp [passOf, hp])
      · cases ht
    | none =>
      have hevents : (c.pass h s r).events = c.eventsOf ⟨h, s, r⟩ := c.events_passOf ⟨h, s, r⟩
      rw [c.turns_of_goesOn hp] at ht
      rw [c.loop_of_goesOn hp, hevents]
      cases before with
      | nil =>
        obtain ⟨rfl, rfl⟩ := List.cons.inj ht
        exact ⟨rs, rfl, rfl, rfl⟩
      | cons u before =>
        obtain ⟨rfl, hrest⟩ := List.cons.inj ht
        obtain ⟨rest, hrs, hafter, hloop⟩ := ih hrest
        refine ⟨rest, by rw [hrs]; rfl, hafter, ?_⟩
        rw [hloop, List.flatMap_cons, List.append_assoc]
        simp [Run.after]

/-! ## Statements and the text that was read -/

theorem statement_of_mem_callsOf {t : Turn σ} {x : Call σ} (hx : x ∈ c.callsOf t) :
    x.statement <:+: t.session.buffer.text ++ t.reading.added := by
  obtain ⟨⟨shown, hb⟩, l, hr⟩ := c.shows_of_mem_callsOf hx
  rw [c.callsOf_of_line hb hr] at hx
  rw [hr]
  exact (Segment.extractAll_infix _).1 _ ((c.calls_prefix _ _).subset (List.mem_map_of_mem hx))

theorem buffer_passOf {t : Turn σ} (hon : (c.passOf t).ending = none) :
    (c.passOf t).session.buffer.text <:+ t.session.buffer.text ++ t.reading.added := by
  have hdoes := c.passOf_does t
  generalize (c.passOf t).session = s' at hdoes ⊢
  rw [hon] at hdoes
  cases hdoes with
  | readFails _ hr => simp [hr]
  | interrupted => exact List.nil_suffix
  | recovered _ hr _ _ hrest =>
    rw [hr]
    exact hrest
  | waits _ hr hrest =>
    rw [hr]
    exact hrest ▸ (Segment.extractAll_infix _).2

/-- Whatever a loop hands over stood in its buffer, or stands in the lines that it reads. -/
theorem statement_of_mem_turns (h : σ) (s : Session) (rs : List Reading) :
    ∀ x ∈ (c.turns h s rs).flatMap c.callsOf,
      x.statement <:+: s.buffer.text ++ textRead (c.turns h s rs) := by
  have hfirst (t : Turn σ) (ts : List (Turn σ)) {x : Call σ} (hx : x ∈ c.callsOf t) :
      x.statement <:+: t.session.buffer.text ++ textRead (t :: ts) := by
    rw [textRead, List.map_cons, List.flatten_cons, ← List.append_assoc]
    exact (c.statement_of_mem_callsOf hx).trans (List.prefix_append _ _).isInfix
  induction rs generalizing h s with
  | nil =>
    intro x hx
    rw [turns, List.flatMap_singleton] at hx
    exact hfirst ⟨h, s, .endOfInput⟩ [] hx
  | cons r rs ih =>
    intro x hx
    cases hp : (c.pass h s r).ending with
    | some e =>
      rw [c.turns_of_ends hp] at hx ⊢
      rw [List.flatMap_singleton] at hx
      exact hfirst ⟨h, s, r⟩ [] hx
    | none =>
      rw [c.turns_of_goesOn hp] at hx ⊢
      rcases List.mem_append.1 hx with hx | hx
      · exact hfirst ⟨h, s, r⟩ _ hx
      · -- the lines before were cut off from the buffer, so all of it stands in both texts
        obtain ⟨u, hu⟩ := c.buffer_passOf (t := ⟨h, s, r⟩) hp
        have hall (ts : List (Turn σ)) : s.buffer.text ++ textRead (⟨h, s, r⟩ :: ts) =
            u ++ ((c.passOf ⟨h, s, r⟩).session.buffer.text ++ textRead ts) := by
          rw [textRead, List.map_cons, List.flatten_cons, ← List.append_assoc, ← hu,
            List.append_assoc]
          rfl
        rw [hall]
        exact (ih _ _ x hx).trans (List.suffix_append _ _).isInfix

/-! ## The law of interruptions -/

/-- An interruption, of a read or of any call of a line, does not end the session. It is noted
once, after all else of its pass; then the session is a new one without its greeting, over the
readings that are left and with the handler as it was left. So nothing that was read before,
complete statements among it, is handed over afterwards. -/
theorem interruption_starts_over (h : σ) (consoleAttached : Bool) (rs : List Reading)
    {before after : List (Turn σ)} {t : Turn σ} {k : σ}
    (ht : c.history h consoleAttached rs = before ++ t :: after) (hi : c.Interrupted t k) :
    ∃ rest shown,
      rs = before.map Turn.reading ++ t.reading :: rest ∧
      c.beforeRead t.handler t.session = .ok shown ∧
      c.eventsOf t = shown ++ .read t.session.buffer.text t.session.phase ::
        (c.callsOf t).flatMap (fun x => (c.tried x).events) ++ [.write interruptText] ∧
      c.mainLoop h consoleAttached rs =
        (c.loop k (Session.start consoleAttached) rest).after
          (c.greeted h consoleAttached ++ before.flatMap c.eventsOf ++ c.eventsOf t) ∧
      (∀ greeting, c.greeting k (Session.start consoleAttached) = .ok greeting →
        c.mainLoop k consoleAttached rest =
          (c.loop k (Session.start consoleAttached) rest).after greeting) ∧
      after = c.turns k (Session.start consoleAttached) rest ∧
      ∀ x ∈ after.flatMap c.callsOf, x.statement <:+: textRead after := by
  have hmem : t ∈ c.history h consoleAttached rs := by simp [ht]
  obtain ⟨hon, hsession⟩ := c.passOf_interrupted hi
  have hstart : (c.passOf t).session = Session.start consoleAttached := by
    rw [hsession, c.consoleAttached_of_mem_history hmem, c.goesOn_of_mem_history hmem]
    rfl
  cases hg : c.greeting h (Session.start consoleAttached) with
  | error f =>
    rw [(c.history_of_error hg rs).1] at ht
    simp at ht
  | ok greeting =>
    rw [(c.history_of_ok hg rs).1] at ht
    obtain ⟨rest, hrs, hafter, hloop⟩ := c.turns_split ht hon
    rw [c.handler_passOf_interrupted hi, hstart] at hafter hloop
    obtain ⟨shown, hshown, hevents⟩ := c.eventsOf_interrupted hi
    refine ⟨rest, shown, hrs, hshown, hevents, ?_, ?_, hafter, ?_⟩
    · rw [(c.history_of_ok hg rs).2, hloop, greeted, hg]
      simp [Run.after]
    · intro greeting hk
      exact (c.history_of_ok hk rest).2
    · rw [hafter]
      exact c.statement_of_mem_turns k (Session.start consoleAttached) rest

/-- A client that is interrupted at one statement, and silent about all others. -/
def interruptedSample : Client Unit :=
  ⟨.ofAnswers fun statement =>
    if statement = "B;".toList then .error (.interrupt []) else .ok .silent, .warning⟩

theorem interruption_of_the_sample :
    let readings : List Reading := [.line "A; B; C; 'x", .line "D;"]
    let t : Turn Unit := ⟨(), Session.start false, .line "A; B; C; 'x"⟩
    ∃ after, interruptedSample.history () false readings = [] ++ t :: after ∧
      interruptedSample.Interrupted t () ∧
      interruptedSample.mainLoop () false readings =
        (interruptedSample.loop () (Session.start false) [.line "D;"]).after
          (interruptedSample.eventsOf t) ∧
      ∀ x ∈ after.flatMap interruptedSample.callsOf, x.statement <:+: textRead after := by
  intro readings t
  obtain ⟨after, hhistory⟩ : ∃ after,
      interruptedSample.history () false readings = [] ++ t :: after := ⟨_, rfl⟩
  have hfirst : Segment.extract? "A; B; C; 'x\n".toList =
    some ("A;".toList, "B; C; 'x\n".toList) := by decide
  have hsecond : Segment.extract? "B; C; 'x\n".toList =
    some ("B;".toList, "C; 'x\n".toList) := by decide
  have hcall : (⟨(), "B;".toList⟩ : Call Unit) ∈ interruptedSample.callsOf t := by
    rw [interruptedSample.callsOf_of_line rfl rfl]
    have htext : t.session.buffer.text ++ ("A; B; C; 'x" ++ ['\n']) = "A; B; C; 'x\n".toList := rfl
    rw [htext, Segment.extractAll_of_some hfirst, Segment.extractAll_of_some hsecond]
    exact List.mem_cons_of_mem _ List.mem_cons_self
  have hi : interruptedSample.Interrupted t () := .call hcall rfl
  obtain ⟨rest, -, hrest, -, -, hloop, -, -, hinfix⟩ :=
    interruptedSample.interruption_starts_over () false readings hhistory hi
  obtain rfl : [.line "D;"] = rest := (List.cons.inj hrest).2
  exact ⟨after, hhistory, hi, hloop, hinfix⟩

end Client

end StatementShell
