-- The progress of a session. A pass that shows its prompt reads once, and what it read is never
-- read again; a pass whose prompt fails reads nothing and leaves all as it was, so that the next
-- one fails as well. So a session comes to its end if and only if its prompts are shown.
import StatementShell.Proofs.BeforeRead
import StatementShell.Proofs.SessionCourse

namespace StatementShell

/-! ## The pure model -/

def Event.isRead : Event → Bool
  | .read _ _ => true
  | _ => false

/-- A session between two passes, and what its source has left. -/
structure Standing (σ : Type) where
  handler : σ
  session : Session
  unread : List Reading

/-- The pass that comes next. A source that has nothing left is at its end. -/
def Standing.turn {σ : Type} (x : Standing σ) : Turn σ :=
  ⟨x.handler, x.session, x.unread.head?.getD .endOfInput⟩

/-- A source from which every read gives a line, the end of the input, or something raised. -/
def Standing.Sound {σ : Type} (x : Standing σ) : Prop := ∀ r ∈ x.unread, ∀ f, r ≠ .broken f

/-- A client whose handler says nothing, with some properties. -/
def Client.silent (g : Property.Registry) : Client Unit :=
  ⟨{ Handler.ofAnswers (fun _ => .ok .silent) with properties := fun _ => some g }, .warning⟩

namespace Client

variable {σ : Type} (c : Client σ)

/-- The session after its next pass, if that pass does not end it. A pass that is stuck has taken
nothing from its source, and does not end the session: there is a next pass, and a next one. -/
def nextStanding (x : Standing σ) : Option (Standing σ) :=
  match (c.passOf x.turn).ending with
  | none => some ⟨(c.passOf x.turn).handler, (c.passOf x.turn).session, x.unread.tail⟩
  | some (.stuck _) => some ⟨(c.passOf x.turn).handler, (c.passOf x.turn).session, x.unread⟩
  | some _ => none

/-- The session after some passes, if none of them ends it. -/
def standingAfter : Nat → Standing σ → Option (Standing σ)
  | 0, x => some x
  | n + 1, x => (c.nextStanding x).bind (standingAfter n)

/-- Every pass that the session comes to shows its prompt. -/
def AllShow (x : Standing σ) : Prop :=
  ∀ n y, c.standingAfter n x = some y → c.Shows y.turn

/-! ## The prompt of a pass -/

/-- A pass shows its prompt where there is no console, or where it is given one. -/
theorem shows_iff {t : Turn σ} :
    c.Shows t ↔ (t.session.consoleAttached = true → ∃ prompt, c.GivesPrompt t prompt) := by
  constructor
  · rintro ⟨shown, hshown⟩ hconsole
    rw [beforeRead, if_pos hconsole] at hshown
    cases hp : c.prompt t.handler t.session with
    | error f =>
      rw [hp] at hshown
      cases hshown
    | ok prompt => exact ⟨prompt, c.givesPrompt_iff.2 hp⟩
  · intro hgiven
    cases hconsole : t.session.consoleAttached with
    | false => exact ⟨[], c.beforeRead_of_no_console hconsole⟩
    | true =>
      obtain ⟨prompt, hp⟩ := hgiven hconsole
      exact ⟨_, c.beforeRead_of_givesPrompt hconsole hp⟩

/-! ## One pass -/

theorem filter_isRead_course (es : List Event) :
    (Event.course es).filter Event.isRead = es.filter Event.isRead := by
  rw [Event.course, List.filter_filter]
  refine List.filter_congr ?_
  intro e _
  cases e <;> rfl

/-- A pass that shows its prompt makes one read. -/
theorem reads_of_shows (hown : c.handler.Discreet) {t : Turn σ} (hb : c.Shows t) :
    (c.passOf t).events.filter Event.isRead = [.read t.session.buffer.text t.session.phase] := by
  have hhandled : ((c.callsOf t).map (fun x => Event.handle x.statement)).filter Event.isRead =
      [] := by
    rw [List.filter_eq_nil_iff]
    intro e he
    obtain ⟨x, -, rfl⟩ := List.mem_map.1 he
    exact Bool.false_ne_true
  rw [c.events_passOf, ← filter_isRead_course, c.course_eventsOf hown hb, groupOf,
    List.filter_cons_of_pos rfl, hhandled]

/-- A pass whose prompt fails makes no read. -/
theorem reads_of_not_shows {t : Turn σ} (hb : ¬ c.Shows t) :
    (c.passOf t).events.filter Event.isRead = [] := by
  rw [c.events_passOf, ← filter_isRead_course, c.course_eventsOf_of_not_shows hb]
  rfl

theorem passOf_of_not_shows {t : Turn σ} (hb : ¬ c.Shows t) :
    ∃ f, (c.passOf t).ending = some (.stuck f) ∧ (c.passOf t).handler = t.handler ∧
      (c.passOf t).session = t.session := by
  unfold passOf pass
  cases hshown : c.beforeRead t.handler t.session with
  | error f =>
    refine ⟨f, ?_⟩
    simp [c.recover_of_hasWords (c.hasWords_of_beforeRead hshown)]
  | ok shown => exact absurd ⟨shown, hshown⟩ hb

/-- A pass whose prompt fails leaves all as it was. -/
theorem nextStanding_of_not_shows {x : Standing σ} (hb : ¬ c.Shows x.turn) :
    c.nextStanding x = some x := by
  obtain ⟨f, hending, hhandler, hsession⟩ := c.passOf_of_not_shows hb
  rw [nextStanding, hending, hhandler, hsession]
  rfl

theorem Standing.reading_ne_broken {x : Standing σ} (hx : x.Sound) (e : Utf8.Fault) :
    x.turn.reading ≠ .broken e := by
  unfold Standing.turn
  cases hunread : x.unread with
  | nil => simp
  | cons r rs => exact hx r (by simp [hunread]) e

theorem ending_ne_stuck {x : Standing σ} (hx : x.Sound) (hb : c.Shows x.turn) (f : Failure) :
    (c.passOf x.turn).ending ≠ some (.stuck f) := by
  intro he
  have hcause := (c.ending_passOf_iff hb (Standing.reading_ne_broken hx)).1 he
  cases hcause

/-- A pass that shows its prompt leaves what its read did not take. -/
theorem nextStanding_of_shows {x y : Standing σ} (hx : x.Sound) (hb : c.Shows x.turn)
    (hy : c.nextStanding x = some y) :
    (c.passOf x.turn).ending = none ∧
      y = ⟨(c.passOf x.turn).handler, (c.passOf x.turn).session, x.unread.tail⟩ := by
  unfold nextStanding at hy
  cases he : (c.passOf x.turn).ending with
  | none =>
    rw [he] at hy
    cases hy
    exact ⟨rfl, rfl⟩
  | some e =>
    rw [he] at hy
    cases e with
    | stuck f => exact absurd he (c.ending_ne_stuck hx hb f)
    | _ => cases hy

theorem sound_nextStanding {x y : Standing σ} (hx : x.Sound) (hy : c.nextStanding x = some y) :
    y.Sound := by
  by_cases hb : c.Shows x.turn
  · obtain ⟨-, rfl⟩ := c.nextStanding_of_shows hx hb hy
    intro r hr
    exact hx r (List.mem_of_mem_tail hr)
  · rw [c.nextStanding_of_not_shows hb] at hy
    cases hy
    exact hx

/-! ## All passes -/

theorem standingAfter_add (m n : Nat) (x : Standing σ) :
    c.standingAfter (m + n) x = (c.standingAfter m x).bind (c.standingAfter n) := by
  induction m generalizing x with
  | zero => rw [Nat.zero_add, standingAfter, Option.bind_some]
  | succ m ih =>
    rw [Nat.succ_add, standingAfter, standingAfter, Option.bind_assoc]
    exact Option.bind_congr (fun y _ => ih y)

theorem standingAfter_of_not_shows {x : Standing σ} (hb : ¬ c.Shows x.turn) (n : Nat) :
    c.standingAfter n x = some x := by
  induction n with
  | zero => rfl
  | succ n ih => rw [standingAfter, c.nextStanding_of_not_shows hb, Option.bind_some, ih]

theorem sound_standingAfter {x y : Standing σ} (hx : x.Sound) {n : Nat}
    (hy : c.standingAfter n x = some y) : y.Sound := by
  induction n generalizing x with
  | zero =>
    cases hy
    exact hx
  | succ n ih =>
    obtain ⟨z, hz, hy⟩ := Option.bind_eq_some_iff.1 hy
    exact ih (c.sound_nextStanding hx hz) hy

theorem consoleAttached_standingAfter {x y : Standing σ} {n : Nat}
    (hy : c.standingAfter n x = some y) :
    y.session.consoleAttached = x.session.consoleAttached := by
  induction n generalizing x with
  | zero =>
    cases hy
    rfl
  | succ n ih =>
    obtain ⟨z, hz, hy⟩ := Option.bind_eq_some_iff.1 hy
    have hpass := c.consoleAttached_pass x.turn.handler x.turn.session x.turn.reading
    refine (ih hy).trans (Eq.trans ?_ hpass)
    unfold nextStanding at hz
    split at hz <;> cases hz <;> rfl

theorem allShow_iff {x : Standing σ} :
    c.AllShow x ↔ c.Shows x.turn ∧ ∀ y, c.nextStanding x = some y → c.AllShow y := by
  constructor
  · intro hall
    refine ⟨hall 0 x rfl, ?_⟩
    intro y hy n z hz
    exact hall (n + 1) z (by rw [standingAfter, hy, Option.bind_some, hz])
  · rintro ⟨hb, hall⟩ n z hz
    cases n with
    | zero =>
      cases hz
      exact hb
    | succ n =>
      obtain ⟨y, hy, hz⟩ := Option.bind_eq_some_iff.1 hz
      exact hall y hy n z hz

/-- Each pass that shows its prompt takes one reading, and the end of the input ends the session,
so the readings that are left bound the passes. -/
theorem standingAfter_of_allShow {x : Standing σ} (hx : x.Sound) (hall : c.AllShow x) :
    c.standingAfter (x.unread.length + 1) x = none := by
  induction hn : x.unread.length generalizing x with
  | zero =>
    have hend : c.nextStanding x = none := by
      obtain ⟨shown, hshown⟩ := hall 0 x rfl
      have hreading : x.turn.reading = .endOfInput := by
        rw [Standing.turn, List.eq_nil_of_length_eq_zero hn]
        rfl
      rw [nextStanding, passOf, hreading, c.ending_pass_endOfInput hshown]
    rw [standingAfter, hend, Option.bind_none]
  | succ n ih =>
    obtain ⟨hb, hnext⟩ := c.allShow_iff.1 hall
    rw [standingAfter, Option.bind_eq_none_iff]
    intro y hy
    have hlength : y.unread.length = n := by
      rw [(c.nextStanding_of_shows hx hb hy).2, List.length_tail, hn, Nat.add_sub_cancel]
    exact ih (c.sound_nextStanding hx hy) (hnext y hy) hlength

theorem ends_iff_allShow {x : Standing σ} (hx : x.Sound) :
    (∃ n, c.standingAfter n x = none) ↔ c.AllShow x := by
  constructor
  · rintro ⟨n, hn⟩ m y hy
    by_contra hb
    -- the session cannot be over before the pass that fails, and after it nothing changes
    rcases Nat.le_total n m with h | h
    · obtain ⟨k, rfl⟩ := Nat.exists_eq_add_of_le h
      rw [c.standingAfter_add, hn] at hy
      cases hy
    · obtain ⟨k, rfl⟩ := Nat.exists_eq_add_of_le h
      rw [c.standingAfter_add, hy, Option.bind_some, c.standingAfter_of_not_shows hb] at hn
      cases hn
  · intro hall
    exact ⟨_, c.standingAfter_of_allShow hx hall⟩

theorem ending_loop_of_ends {x : Standing σ} {e : Ending}
    (he : (c.passOf x.turn).ending = some e) :
    (c.loop x.handler x.session x.unread).ending = e := by
  obtain ⟨h, s, rs⟩ := x
  cases rs with
  | nil =>
    have hpass : (c.pass h s .endOfInput).ending = some e := he
    rw [loop, hpass, Option.getD_some]
  | cons r rs =>
    have hpass : (c.pass h s r).ending = some e := he
    rw [c.loop_of_ends hpass]

theorem loop_ne_stuck_iff_of_ends {x : Standing σ} (hx : x.Sound) {e : Ending}
    (he : (c.passOf x.turn).ending = some e) :
    (∀ f, (c.loop x.handler x.session x.unread).ending ≠ .stuck f) ↔ c.AllShow x := by
  rw [c.ending_loop_of_ends he, c.allShow_iff]
  by_cases hb : c.Shows x.turn
  · have hstuck : ∀ f, e ≠ .stuck f := by
      rintro f rfl
      exact c.ending_ne_stuck hx hb f he
    refine iff_of_true hstuck ⟨hb, ?_⟩
    intro y hy
    have hon := (c.nextStanding_of_shows hx hb hy).1
    cases he.symm.trans hon
  · obtain ⟨f, hf, -⟩ := c.passOf_of_not_shows hb
    cases he.symm.trans hf
    exact iff_of_false (fun hstuck => hstuck f rfl) (fun hall => hb hall.1)

/-- The loop is stuck where one of its passes does not show its prompt, and only there. -/
theorem loop_ne_stuck_iff {x : Standing σ} (hx : x.Sound) :
    (∀ f, (c.loop x.handler x.session x.unread).ending ≠ .stuck f) ↔ c.AllShow x := by
  obtain ⟨h, s, rs⟩ := x
  induction rs generalizing h s with
  | nil =>
    obtain ⟨e, he⟩ := Option.ne_none_iff_exists'.1 (c.ending_pass_endOfInput_ne h s)
    exact c.loop_ne_stuck_iff_of_ends hx he
  | cons r rs ih =>
    cases he : (c.pass h s r).ending with
    | some e => exact c.loop_ne_stuck_iff_of_ends hx he
    | none =>
      have hpass : (c.passOf (Standing.mk h s (r :: rs)).turn).ending = none := he
      have hnext : c.nextStanding ⟨h, s, r :: rs⟩ =
          some ⟨(c.pass h s r).handler, (c.pass h s r).session, rs⟩ := by
        rw [nextStanding, hpass]
        rfl
      have hb : c.Shows (Standing.mk h s (r :: rs)).turn := by
        by_contra hb
        obtain ⟨f, hf, -⟩ := c.passOf_of_not_shows hb
        cases hf.symm.trans hpass
      have hall : c.AllShow ⟨h, s, r :: rs⟩ ↔
          c.AllShow ⟨(c.pass h s r).handler, (c.pass h s r).session, rs⟩ := by
        rw [c.allShow_iff, hnext]
        simp [hb]
      rw [c.loop_of_goesOn he, Run.after, hall]
      exact ih _ _ (c.sound_nextStanding hx hnext)

/-! ## The law of progress -/

/-- Whatever the registry holds for the prompts, a pass at a console shows its prompt if it is given
one, and a pass without a console has none to show. A pass that shows its prompt makes one read, and
leaves what the source has after it. One that does not makes none, and leaves all as it was for ever.
So the session ends if and only if every pass shows its prompt, and then it does so within one pass
more than its source has outcomes. -/
theorem passes_read_once_iff_their_prompts_are_shown (h : σ) (consoleAttached : Bool)
    (outcomes : List (Except Raised (Option Text))) (hown : c.handler.Discreet) :
    let readings := outcomes.map Reading.ofRead
    let start : Standing σ := ⟨h, .start consoleAttached, readings⟩
    (∀ n x, c.standingAfter n start = some x →
      (c.Shows x.turn ↔ (consoleAttached = true → ∃ prompt, c.GivesPrompt x.turn prompt)) ∧
      (c.Shows x.turn →
        (c.passOf x.turn).events.filter Event.isRead =
          [.read x.session.buffer.text x.session.phase] ∧
        ∀ y, c.nextStanding x = some y → y.unread = x.unread.tail) ∧
      (¬ c.Shows x.turn →
        (c.passOf x.turn).events.filter Event.isRead = [] ∧
        ∀ m, c.standingAfter m x = some x)) ∧
    ((∃ n, c.standingAfter n start = none) ↔ c.AllShow start) ∧
    ((∀ f, (c.loop h (.start consoleAttached) readings).ending ≠ .stuck f) ↔ c.AllShow start) ∧
    (c.AllShow start → c.standingAfter (outcomes.length + 1) start = none) := by
  intro readings start
  have hsound : start.Sound := by
    intro r hr f
    obtain ⟨o, -, rfl⟩ := List.mem_map.1 hr
    exact Reading.ofRead_ne_broken o f
  refine ⟨?_, c.ends_iff_allShow hsound, c.loop_ne_stuck_iff hsound, ?_⟩
  · intro n x hx
    have hconsole : x.session.consoleAttached = consoleAttached :=
      c.consoleAttached_standingAfter hx
    refine ⟨?_, ?_, ?_⟩
    · rw [c.shows_iff, show x.turn.session.consoleAttached = consoleAttached from hconsole]
    · intro hb
      refine ⟨c.reads_of_shows hown hb, ?_⟩
      intro y hy
      rw [(c.nextStanding_of_shows (c.sound_standingAfter hsound hx) hb hy).2]
    · intro hb
      exact ⟨c.reads_of_not_shows hb, c.standingAfter_of_not_shows hb⟩
  · intro hall
    have hend := c.standingAfter_of_allShow hsound hall
    rwa [show start.unread.length = outcomes.length from List.length_map _] at hend

theorem progress_of_the_sample :
    let outcomes : List (Except Raised (Option Text)) :=
      [.ok (some "A; 'x".toList), .error (.failure .nameMissing), .error (.interrupt []),
        .ok (some "B;".toList)]
    let start : Standing Unit := ⟨(), .start true, outcomes.map Reading.ofRead⟩
    sample.AllShow start ∧ sample.standingAfter 5 start = none := by
  intro outcomes start
  obtain ⟨hpasses, -, -, hends⟩ := sample.passes_read_once_iff_their_prompts_are_shown () true
    outcomes ⟨fun _ => rfl, fun _ _ => rfl, fun _ => rfl⟩
  have hall : sample.AllShow start := by
    intro n x hx
    refine (hpasses n x hx).1.2 (fun _ => ⟨_, .inr ⟨?_, rfl⟩⟩)
    intro g hg
    cases hg
  exact ⟨hall, hends hall⟩

/-- A prompt that is longer than its property takes, stored unchecked, is never shown: the end of
the input stays unread. -/
theorem overlong_prompt_keeps_the_end_unread :
    let g := (Property.Registry.empty.add "shell.prompt" (.string none 8) (.text "CMD> ") false).1
    let c := silent (g.store "shell.prompt" "production> ")
    let start : Standing Unit := ⟨(), .start true, []⟩
    (c.passOf start.turn).events.filter Event.isRead = [] ∧
      ∀ n, c.standingAfter n start = some start := by
  intro g c start
  have hfails : c.beforeRead () start.session =
      .error (.property (.tooLong "shell.prompt" 8)) := rfl
  have hb : ¬ c.Shows start.turn := by
    rintro ⟨shown, hshown⟩
    cases hfails.symm.trans hshown
  exact ⟨c.reads_of_not_shows hb, c.standingAfter_of_not_shows hb⟩

end Client

end StatementShell
