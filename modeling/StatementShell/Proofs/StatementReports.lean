-- How statements fail. Whatever is wrong with a statement has a number and is told in one line.
-- Only a whole number with too many digits leaves the handler, on its way in from a command or on
-- its way out into the words of a report.
import StatementShell.Proofs.ShownResults

namespace StatementShell

namespace Builtin

open Property (Registry)

/-! ## Reports -/

/-- What a handler does with a statement where nothing leaves it: the result is shown, or ends the
session, or one line reports what went wrong. -/
inductive Told : Step Builtin Result → Prop
  | shown {b : Builtin} {r : Result} {t : Text} : r.success = true → r.terminate = false →
      r.text = .ok t → Told ⟨[.write (t ++ "\n")], b, .ok r⟩
  | ended {b : Builtin} {r : Result} : r.success = true → r.terminate = true → Told ⟨[], b, .ok r⟩
  | reported {b : Builtin} {f : Failure} {n : Nat} : f.isStatement = true → f.number? = some n →
      f.HasWords → Told ⟨[.write (errorLine n f.message)], b, .ok { success := false }⟩

theorem handle_of_error {b : Builtin} {s : Text} {e : Raised} (he : statementFailure? e = none)
    (h : b.ticked.execute s = ⟨[], b.ticked, .error e⟩) :
    b.handle s = ⟨[], b.ticked, .error e⟩ := by
  unfold ticked at h
  unfold handle
  dsimp only
  rw [h]
  dsimp only
  rw [he]
  rfl

theorem told_of_failure {b : Builtin} {s : Text} {f : Failure} (hf : f.isStatement = true)
    (hwords : f.HasWords)
    (h : b.ticked.execute s = ⟨[], b.ticked, .error (.failure f)⟩) : Told (b.handle s) := by
  obtain ⟨n, hn⟩ : ∃ n, f.number? = some n := by
    unfold Failure.isStatement at hf
    unfold Failure.number?
    cases hfamily : f.family? with
    | none => simp [hfamily] at hf
    | some k => exact ⟨_, rfl⟩
  rw [handle_eq_of_failure hf hwords h, hn]
  exact .reported hf hn hwords

/-- A result is shown with the time that was taken. -/
theorem handle_of_answer {b k : Builtin} {s : Text} {a : Answer} {r : Result}
    (h : b.ticked.execute s = ⟨[], k, .ok a⟩) (hk : k.clock = b.ticked.clock)
    (ha : resultOf a = .ok r) :
    ∃ e, e = Clock.between b.clock.read.1 b.clock.read.2.read.1 ∧
      b.handle s = ⟨(present { r with elapsed := e }).1, { k with clock := k.clock.read.2 },
        (present { r with elapsed := e }).2⟩ := by
  refine ⟨_, rfl, ?_⟩
  unfold ticked at h hk
  unfold handle
  dsimp only
  rw [h]
  dsimp only
  rw [ha, hk]
  rfl

/-- A result that does not end the session is written, and is what comes of the statement. -/
theorem shown_of_answer {b k : Builtin} {s : Text} {a : Answer} {r : Result}
    (hclock : b.clock.Measures) (h : b.ticked.execute s = ⟨[], k, .ok a⟩)
    (hk : k.clock = b.ticked.clock) (ha : resultOf a = .ok r) (hr : r.Presentable)
    (hterminate : r.terminate = false) :
    ∃ e t, Result.text { r with elapsed := e } = .ok t ∧
      b.handle s = ⟨[.write (t ++ "\n")], { k with clock := k.clock.read.2 },
        .ok { r with elapsed := e }⟩ := by
  obtain ⟨time, htime⟩ := hclock.timeText
  obtain ⟨-, ls, hls⟩ := hr
  obtain ⟨e, rfl, hhandle⟩ := handle_of_answer h hk ha
  obtain ⟨shown, hshown⟩ := Result.text_of_tableLines
    (r := { r with elapsed := Clock.between b.clock.read.1 b.clock.read.2.read.1 }) hls htime
  refine ⟨_, shown, hshown, ?_⟩
  rw [hhandle, present, if_neg (by simp [hterminate]), hshown]

theorem told_of_answer {b k : Builtin} {s : Text} {a : Answer} {r : Result}
    (hclock : b.clock.Measures) (h : b.ticked.execute s = ⟨[], k, .ok a⟩)
    (hk : k.clock = b.ticked.clock) (ha : resultOf a = .ok r) (hr : r.Presentable) :
    Told (b.handle s) := by
  cases hterminate : r.terminate with
  | true =>
    obtain ⟨e, -, hhandle⟩ := handle_of_answer h hk ha
    rw [hhandle, present, if_pos (by simp [hterminate])]
    exact .ended hr.1 hterminate
  | false =>
    obtain ⟨e, t, ht, hhandle⟩ := shown_of_answer hclock h hk ha hr hterminate
    rw [hhandle]
    exact .shown hr.1 hterminate ht

/-! ### Commands -/

/-- A property that was set is told with a result. -/
theorem setProperty_of_set {g h : Registry} {name : Text} {v w : Value}
    (hset : g.set name v = .ok (h, w)) :
    ∃ r, setProperty g name v = .ok (h, r) ∧ r.Presentable ∧ r.terminate = false := by
  obtain ⟨d, t, -, ht, -⟩ := Registry.set_eq_ok_iff.1 hset
  obtain ⟨shown, hshown⟩ : ∃ shown, w.quoted? = some shown := by
    obtain ⟨u, hu⟩ := Registry.hasText_iff.2 ⟨t, ht⟩
    cases w with
    | text => exact ⟨_, rfl⟩
    | ragged => exact ⟨_, rfl⟩
    | _ => exact ⟨u, hu⟩
  rw [setProperty, hset]
  dsimp only
  rw [hshown]
  exact ⟨_, rfl, ⟨rfl, [], rfl⟩, rfl⟩

theorem setProperty_cases {g : Registry} (name : Text) {v : Value} (hv : v.HasText) :
    (∃ h r, setProperty g name v = .ok (h, r) ∧ r.Presentable) ∨
      ∃ f, setProperty g name v = .error f ∧ g.Refusal f := by
  cases hset : g.set name v with
  | error f =>
    rw [setProperty, hset]
    exact .inr ⟨f, rfl, Registry.refusal_of_set hv hset⟩
  | ok p =>
    obtain ⟨r, hr, hpresentable, -⟩ := setProperty_of_set hset
    exact .inl ⟨p.1, r, hr, hpresentable⟩

theorem propertyRow_cases {g : Registry} (hg : ∀ d ∈ g.descriptors, d.Added)
    (name : Text) :
    (∃ row, propertyRow g name = .ok row ∧ row.length = propertyFields.length ∧
        ∀ v ∈ row, v.HasText) ∨
      ∃ f, propertyRow g name = .error f ∧ g.Refusal f := by
  unfold propertyRow Registry.isReadonly Registry.typeName
  rcases Registry.descriptor_cases g name with ⟨d, -, hd⟩ | hd
  · rw [hd]
    rcases Registry.get_cases hg name with ⟨w, hw, htext⟩ | ⟨f, hf, hrefusal⟩
    · rw [hw]
      refine .inl ⟨_, rfl, rfl, ?_⟩
      intro v hv
      simp only [List.mem_cons, List.not_mem_nil, or_false] at hv
      rcases hv with rfl | rfl | rfl | rfl
      · exact ⟨_, rfl⟩
      · exact htext
      · exact ⟨_, rfl⟩
      · exact ⟨_, rfl⟩
    · rw [hf]
      exact .inr ⟨f, rfl, hrefusal⟩
  · rw [hd]
    exact .inr ⟨_, rfl, .inl ⟨_, rfl⟩⟩

theorem showProperties_cases {g : Registry} (hg : ∀ d ∈ g.descriptors, d.Added)
    (names : List Text) :
    (∃ r, showProperties g names = .ok r ∧ r.Presentable) ∨
      ∃ f, showProperties g names = .error f ∧ g.Refusal f := by
  unfold showProperties
  rcases mapM_cases (fun name (_ : name ∈ names) => propertyRow_cases hg name) with
    ⟨rows, hrows, hall⟩ | ⟨f, hf, hrefusal⟩
  · rw [hrows]
    exact .inl ⟨_, rfl, Result.presentable_of_rows hall⟩
  · rw [hf]
    exact .inr ⟨f, rfl, hrefusal⟩

theorem runCommand_cases {b : Builtin} {g : Registry} (hb : b.registry = some g)
    (hg : ∀ d ∈ g.descriptors, d.Added) {c : Command}
    (hc : ∀ name v, c = .setProperty name v → v.HasText) :
    (∃ k r, b.runCommand c = (k, .ok r) ∧ k.clock = b.clock ∧ r.Presentable) ∨
      ∃ f, b.runCommand c = (b, .error f) ∧ g.Refusal f := by
  have hneed (part : Text) : b.needRegistry part = .ok g := by rw [needRegistry, hb]
  have hshow (names : List Text) :
      (∃ k r, (b, showProperties g names) = (k, .ok r) ∧ k.clock = b.clock ∧ r.Presentable) ∨
        ∃ f, (b, showProperties g names) = (b, .error f) ∧ g.Refusal f := by
    rcases showProperties_cases hg names with ⟨r, hrows, hr⟩ | ⟨f, hrows, hf⟩
    · exact .inl ⟨b, r, by rw [hrows], rfl, hr⟩
    · exact .inr ⟨f, by rw [hrows], hf⟩
  cases c with
  | exit => exact .inl ⟨b, _, rfl, rfl, rfl, [], rfl⟩
  | setProperty name v =>
    rw [runCommand, hneed]
    rcases setProperty_cases (g := g) name (hc name v rfl) with ⟨h, r, hset, hr⟩ | ⟨f, hset, hf⟩
    · dsimp only
      rw [hset]
      exact .inl ⟨_, r, rfl, rfl, hr⟩
    · dsimp only
      rw [hset]
      exact .inr ⟨f, rfl, hf⟩
  | showProperties =>
    rw [runCommand, hneed]
    exact hshow g.names
  | showProperty name =>
    rw [runCommand, hneed]
    exact hshow [name]

/-! ### Statements -/

/-- A number that is too long leaves the handler, wherever a reader of commands comes to it. -/
theorem execute_of_stumbles {b : Builtin} {s : Text} {n : Nat} (h : Command.Stumbles s n) :
    b.execute s = ⟨[], b, .error (.failure (.parse (.lexical (.tooManyDigits n))))⟩ := by
  obtain ⟨hlong, hplace⟩ := h
  rw [execute, hlong.isEmpty, if_neg Bool.false_ne_true]
  by_cases hfirst : (Command.lex s).tokens.length ≤ 1
  · rw [Command.isBuiltin_eq_error_iff.2 ⟨n, rfl, hlong, hfirst⟩]
  · have hbegins := hplace.resolve_left hfirst
    rw [Command.isBuiltin, Command.leadsTokens_of_begins hbegins (by omega)]
    dsimp only
    rw [Command.parse_eq_tooManyDigits_iff.2 ⟨hlong, hbegins⟩]

/-- All that can be wrong with a command is a fault of parsing, but for numbers too long. -/
theorem family?_parse {e : Command.ParseFault} (he : ∀ n, e ≠ .lexical (.tooManyDigits n)) :
    (Failure.parse e).family? = some .parsing := by
  cases e with
  | unexpected => rfl
  | unexpectedEnd => rfl
  | lexical e =>
    cases e with
    | illegalCharacter => rfl
    | tooManyDigits n => exact absurd rfl (he n)

theorem told_of_readable {b : Builtin} {g : Registry} (hb : b.registry = some g)
    (hg : ∀ d ∈ g.descriptors, d.Added) (hx : b.executor = none) (hclock : b.clock.Measures)
    {s : Text} (hs : ∀ n, ¬ Command.Stumbles s n) :
    Told (b.handle s) ∨ (b.handle s).outcome = .error (.failure .numberTooLong) ∧
      ∃ d ∈ g.descriptors, d.validator.isWritable = false := by
  by_cases hempty : Segment.isEmpty s = true
  · refine .inl (told_of_answer (a := .nothing) (k := b.ticked) hclock ?_ rfl rfl ⟨rfl, [], rfl⟩)
    rw [execute, if_pos hempty]
  · have hempty : Segment.isEmpty s = false := by simpa using hempty
    cases hbuiltin : Command.isBuiltin s with
    | error e =>
      obtain ⟨n, -, hlong, hfirst⟩ := Command.isBuiltin_eq_error_iff.1 hbuiltin
      exact absurd ⟨hlong, .inl hfirst⟩ (hs n)
    | ok leads =>
      cases leads with
      | false =>
        exact .inl (told_of_failure (f := .unsupported s) rfl rfl
          (execute_of_other (b := b.ticked) hx hempty hbuiltin))
      | true =>
        cases hparse : Command.parse s with
        | error e =>
          have hexecute : b.ticked.execute s = ⟨[], b.ticked, .error (.failure (.parse e))⟩ := by
            rw [execute, hempty, hbuiltin]
            dsimp only
            rw [hparse]
            rfl
          have hfamily : (Failure.parse e).family? = some .parsing := by
            refine family?_parse ?_
            rintro n rfl
            obtain ⟨hlong, hbegins⟩ := Command.parse_eq_tooManyDigits_iff.1 hparse
            exact hs n ⟨hlong, .inr hbegins⟩
          refine .inl (told_of_failure (f := .parse e) ?_ rfl hexecute)
          rw [Failure.isStatement, hfamily]
          rfl
        | ok c =>
          have hexecute := execute_of_parse hparse b.ticked
          have htext (name : Text) (v : Value) (hc : c = .setProperty name v) : v.HasText :=
            Command.hasText_of_setProperty (hc ▸ hparse)
          rcases runCommand_cases (b := b.ticked) hb hg htext with
            ⟨k, r, hrun, hk, hr⟩ | ⟨f, hrun, hf⟩
          · rw [hrun] at hexecute
            exact .inl (told_of_answer hclock hexecute hk rfl hr)
          · rw [hrun] at hexecute
            rcases hf with ⟨e, rfl⟩ | ⟨rfl, hd⟩
            · exact .inl (told_of_failure (f := .property e) rfl rfl hexecute)
            · exact .inr ⟨by rw [handle_of_error rfl hexecute], hd⟩

/-- A bad statement is reported and never leaves the handler, but for whole numbers with more
digits than the limit. Such a number is a run of digits in the statement. It is not read where a
reader of commands comes to it: that is no fault of parsing, telling commands from other statements
does not answer, and it leaves the handler. Everything else that is wrong with a statement has a
number and is told in one line, as long as the bounds of the properties can be written. -/
theorem bad_statements_are_reported (s : Text) :
    (∀ n, Command.TooLong s n → Command.LongRun s n) ∧
    (∀ n, Command.parse s = .error (.lexical (.tooManyDigits n)) ↔
      Command.TooLong s n ∧ Command.Begins (Command.lex s).tokens) ∧
    (∀ e, Command.parse s = .error e → (∀ n, e ≠ .lexical (.tooManyDigits n)) →
      (Failure.parse e).family? = some .parsing) ∧
    (∀ e, Command.isBuiltin s = .error e ↔
      ∃ n, e = .tooManyDigits n ∧ Command.TooLong s n ∧ (Command.lex s).tokens.length ≤ 1) ∧
    ∀ (b : Builtin) (g : Registry), b.registry = some g →
      (∀ d ∈ g.descriptors, d.Added) → b.executor = none → b.clock.Measures →
      (∀ n, (b.handle s).outcome = .error (.failure (.parse (.lexical (.tooManyDigits n)))) ↔
        Command.Stumbles s n) ∧
      ((∀ n, ¬ Command.Stumbles s n) →
        Told (b.handle s) ∨ (b.handle s).outcome = .error (.failure .numberTooLong) ∧
          ∃ d ∈ g.descriptors, d.validator.isWritable = false) := by
  refine ⟨fun n h => h.longRun, fun n => Command.parse_eq_tooManyDigits_iff,
    fun e _ he => family?_parse he, fun e => Command.isBuiltin_eq_error_iff, ?_⟩
  intro b g hb hg hx hclock
  have hstumbles {n : Nat} (h : Command.Stumbles s n) :
      (b.handle s).outcome = .error (.failure (.parse (.lexical (.tooManyDigits n)))) := by
    rw [handle_of_error rfl (execute_of_stumbles (b := b.ticked) h)]
  refine ⟨?_, told_of_readable hb hg hx hclock⟩
  intro n
  refine ⟨?_, hstumbles⟩
  intro h
  by_cases hs : ∃ m, Command.Stumbles s m
  · obtain ⟨m, hm⟩ := hs
    obtain rfl : m = n := by simpa [h] using (hstumbles hm).symm
    exact hm
  · rcases told_of_readable hb hg hx hclock (not_exists.1 hs) with htold | ⟨hlong, -⟩
    · generalize b.handle s = step at h htold
      cases htold <;> cases h
    · rw [h] at hlong
      cases hlong

/-- A size beyond its bounds is told, and a number with one digit too many leaves the handler. -/
theorem reports_of_the_sample :
    let g := Registry.fresh Registry.keptSample
    let b : Builtin := ⟨some g, none, .stopped⟩
    (∀ d ∈ g.descriptors, d.Added) ∧ Told (b.handle "SET PROPERTY size = 501;") ∧
      (b.handle (Command.ones 4301)).outcome =
        .error (.failure (.parse (.lexical (.tooManyDigits 4301)))) := by
  intro g b
  have hbuilt : Registry.Built Registry.keptSample g :=
    .add (.add .empty rfl) rfl
  have hadded : ∀ d ∈ g.descriptors, d.Added := hbuilt.lived.added
  have hclock : b.clock.Measures := Clock.measures_stopped
  refine ⟨hadded, ?_, ?_⟩
  · have hread : ∀ n, ¬ Command.Stumbles "SET PROPERTY size = 501;" n := by
      intro n h
      have hnone : (Command.lex "SET PROPERTY size = 501;").fault? = none := by rfl
      rw [Command.Stumbles, Command.TooLong, hnone] at h
      cases h.1
    rcases ((bad_statements_are_reported _).2.2.2.2 b g rfl hadded rfl hclock).2 hread with
      h | ⟨-, d, hd, hbounds⟩
    · exact h
    · have hwritable : ∀ d ∈ g.descriptors, d.validator.isWritable = true := by decide
      rw [hwritable d hd] at hbounds
      cases hbounds
  · exact (((bad_statements_are_reported _).2.2.2.2 b g rfl hadded rfl hclock).1 4301).2
      Command.stumbles_ones

/-- A number with one digit too many is no fault of parsing, leaves telling commands from other
statements without an answer, and leaves the handler. -/
theorem long_number_is_not_reported :
    ¬ ∀ s : Text,
      (∀ e, Command.parse s = .error e → (Failure.parse e).family? = some .parsing) ∧
      (∃ leads, Command.isBuiltin s = .ok leads) ∧
      ∀ (b : Builtin) (g : Registry), b.registry = some g →
        (∀ d ∈ g.descriptors, d.Added) → b.executor = none → b.clock.Measures →
        ∃ r, (b.handle s).outcome = .ok r := by
  intro h
  have hadded : ∀ d ∈ Registry.empty.descriptors, d.Added := by simp [Registry.empty]
  obtain ⟨r, hr⟩ := (h (Command.ones 4301)).2.2 ⟨some .empty, none, .stopped⟩ .empty rfl hadded rfl
    Clock.measures_stopped
  rw [handle_of_error rfl (execute_of_stumbles Command.stumbles_ones)] at hr
  cases hr

end Builtin

end StatementShell
