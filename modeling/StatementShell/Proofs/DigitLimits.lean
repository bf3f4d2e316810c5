-- Numbers with too many digits. The limit on digits works in two places: a reader of commands that
-- comes to such a number stops there with a fault of its own, and a value that is out of bounds
-- with so many digits is refused without words. All else that is refused is refused with words.
import StatementShell.Proofs.CommandRouting
import StatementShell.Proofs.KeptValues
import StatementShell.Proofs.LeadingBlanks

namespace StatementShell

/-- The value can be shown: a whole number must not have too many digits. -/
def Value.HasText (v : Value) : Prop := ∃ t, v.text? = some t

namespace Command

/-! ## Numbers that are too long -/

/-- The lexer comes to a number of so many digits, and there are too many of them. -/
def TooLong (s : Text) (n : Nat) : Prop := (lex s).fault? = some (.tooManyDigits n)

/-- So many digits stand in a row in the text, and they are more than the limit. -/
def LongRun (t : Text) (n : Nat) : Prop :=
  ∃ ds, ds <:+: t ∧ (∀ c ∈ ds, Text.isDigit c = true) ∧ ds.length = n ∧ Integer.digitLimit < n

/-- A reader of commands comes to a number with too many digits: it is one of the first two
items, or what stands in front of it begins a command. -/
def Stumbles (s : Text) (n : Nat) : Prop :=
  TooLong s n ∧ ((lex s).tokens.length ≤ 1 ∨ Begins (lex s).tokens)

theorem LongRun.mono {t u : Text} {n : Nat} (h : LongRun t n) (hin : t <:+: u) :
    LongRun u n := by
  obtain ⟨ds, hds, hrest⟩ := h
  exact ⟨ds, hds.trans hin, hrest⟩

theorem longRun_of_lexeme {p : Text} {n : Nat} (hp : Lexeme .number p)
    (h : readNumber p = .error (.tooLong n)) : LongRun p n := by
  obtain ⟨ds, rfl | rfl, hds, hlong⟩ := digits_of_tooLong hp h
  · exact ⟨p, List.infix_rfl, hds, hlong⟩
  · exact ⟨ds, (List.suffix_cons '-' ds).isInfix, hds, hlong⟩

theorem Lexes.longRun {start line n : Nat} {t : Text} {ps : List Piece} {l : Lexing}
    (h : Lexes start line t ps l) (hf : l.fault? = some (.tooManyDigits n)) : LongRun t n := by
  induction h with
  | finished => cases hf
  | illegal => cases hf
  | tooLong hs hread =>
    cases hf
    exact (longRun_of_lexeme (lexeme_of_piece hs) hread).mono (List.prefix_append _ _).isInfix
  | gap _ _ _ ih => exact (ih hf).mono (List.suffix_append _ _).isInfix
  | token _ _ _ ih => exact (ih hf).mono (List.suffix_append _ _).isInfix

theorem TooLong.longRun {s : Text} {n : Nat} (h : TooLong s n) : LongRun s n :=
  (lexes_lex s).longRun h

theorem TooLong.isEmpty {s : Text} {n : Nat} (h : TooLong s n) : Segment.isEmpty s = false := by
  obtain ⟨ds, hin, hds, rfl, hlimit⟩ := h.longRun
  obtain ⟨c, hc⟩ := List.exists_mem_of_length_pos (Nat.zero_lt_of_lt hlimit)
  refine Segment.isEmpty_of_solid (hin.subset hc) ?_ ?_
  · cases hb : Text.isBlank c with
    | false => rfl
    | true =>
      have := hds c hc
      rw [isDigit_of_isBlank hb] at this
      cases this
  · rintro rfl
    exact absurd (hds _ hc) (by decide)

/-! ## Readers of commands -/

theorem leadsTokens_eq_error_iff {l : Lexing} {e : LexFault} :
    leadsTokens l = .error e ↔
      ∃ n, e = .tooManyDigits n ∧ l.fault? = some (.tooManyDigits n) ∧ l.tokens.length ≤ 1 := by
  cases l with
  | finished => simp [leadsTokens, Lexing.fault?]
  | failed f => cases f <;> simp [leadsTokens, Lexing.fault?, Lexing.tokens, eq_comm]
  | token t rest =>
    cases rest with
    | finished => simp [leadsTokens, Lexing.fault?]
    | failed f => cases f <;> simp [leadsTokens, Lexing.fault?, Lexing.tokens, eq_comm]
    | token u rest => simp [leadsTokens, Lexing.tokens]

theorem isBuiltin_eq_error_iff {s : Text} {e : LexFault} :
    isBuiltin s = .error e ↔
      ∃ n, e = .tooManyDigits n ∧ TooLong s n ∧ (lex s).tokens.length ≤ 1 :=
  leadsTokens_eq_error_iff

theorem leadsTokens_of_begins {l : Lexing} (hb : Begins l.tokens) (hl : 2 ≤ l.tokens.length) :
    leadsTokens l = .ok true := by
  cases l with
  | finished => simp [Lexing.tokens] at hl
  | failed f => simp [Lexing.tokens] at hl
  | token t rest =>
    cases rest with
    | finished => simp [Lexing.tokens] at hl
    | failed f => simp [Lexing.tokens] at hl
    | token u rest =>
      obtain ⟨more, c, hc⟩ := hb
      simp only [Lexing.tokens, List.cons_append] at hc
      rw [leadsTokens]
      generalize rest.tokens ++ more = ts at hc
      cases hc with
      | exit ht _ => rcases ht with ht | ht <;> simp [ht, leads]
      | setProperty ht hu _ _ _ _ => simp [ht, hu, leads]
      | showProperties ht hu _ => simp [ht, hu, leads]
      | showProperty ht hu _ _ => simp [ht, hu, leads]

theorem parse_eq_tooManyDigits_iff {s : Text} {n : Nat} :
    parse s = .error (.lexical (.tooManyDigits n)) ↔ TooLong s n ∧ Begins (lex s).tokens := by
  constructor
  · intro h
    have houtcome := outcome_parse s
    rw [h] at houtcome
    cases houtcome with
    | lexical hf hb => exact ⟨hf, hb⟩
  · rintro ⟨hf, hb⟩
    exact (outcome_parse s).unique (.lexical hf hb)

/-- The value that a command sets was read from text, so it can be written. -/
theorem hasText_of_setProperty {s : Text} {name : Text} {v : Value}
    (h : parse s = .ok (.setProperty name v)) : v.HasText := by
  obtain ⟨-, hs⟩ := sentence_of_parse h
  have hsound := (lexes_lex s).sound
  generalize (lex s).tokens = ts at hs hsound
  cases hs with
  | @setProperty _ _ _ _ d _ _ _ _ _ _ _ hd _ =>
    cases hd with
    | trueWord => exact ⟨_, rfl⟩
    | falseWord => exact ⟨_, rfl⟩
    | number => exact (hsound d (by simp)).text?
    | quoted => exact (hsound d (by simp)).text?

/-- Ones and a semicolon. -/
def ones (count : Nat) : Text := List.replicate count '1' ++ [';']

theorem lex_ones {m : Nat} (h : Integer.digitLimit ≤ m) :
    lex (ones (m + 1)) = .failed (.tooManyDigits (m + 1)) := by
  have hrun : digitRun (List.replicate m '1' ++ [';']) = m := by
    rw [digitRun, List.takeWhile_append_of_pos]
    · simp [show Text.isDigit ';' = false by decide]
    · intro c hc
      rw [List.eq_of_mem_replicate hc]
      decide
  have hshape (r : Text) :
      shape? ('1' :: r) = some (.number, digitRun r + 1) := rfl
  have htake : (List.replicate m '1' ++ [';']).take m = List.replicate m '1' := by simp
  have hread : readNumber ('1' :: List.replicate m '1') = .error (.tooLong (m + 1)) := by
    have hlimit : Integer.digitLimit < ('1' :: List.replicate m '1').length := by
      rw [List.length_cons, List.length_replicate]
      omega
    have hdigits : readNumber ('1' :: List.replicate m '1') =
      Integer.ofDigits false ('1' :: List.replicate m '1') := rfl
    rw [hdigits, Integer.ofDigits, if_pos hlimit, List.length_cons, List.length_replicate]
  rw [ones, List.replicate_succ, List.cons_append, lex, lexFrom, hshape, hrun]
  dsimp only
  rw [List.take_succ_cons, htake, meaning, hread]

theorem stumbles_ones : Stumbles (ones 4301) 4301 := by
  have hlex : lex (ones 4301) = .failed (.tooManyDigits 4301) := lex_ones (le_refl 4300)
  refine ⟨?_, .inl ?_⟩
  · rw [TooLong, hlex]
    rfl
  · rw [hlex]
    exact Nat.zero_le 1

end Command

namespace Property

/-! ## What goes wrong with properties -/

/-- The bounds of a check can be written into the words that refuse a value. -/
def Validator.isWritable : Validator → Bool
  | .integer low high => (Integer.write? low).isSome && (Integer.write? high).isSome
  | .string _ limit => (Integer.write? limit).isSome
  | _ => true

theorem Validator.refuse_eq_error {α : Type} {e : Fault} {f : Failure}
    (h : (refuse e : Except Failure α) = .error f) :
    f = .property e ∨ (f = .numberTooLong ∧ e.isWritable = false) := by
  unfold refuse at h
  cases h
  cases he : e.isWritable with
  | true => exact .inl rfl
  | false => exact .inr ⟨rfl, rfl⟩

/-- A check refuses a value with words about a property, if it finds them. -/
theorem Validator.validate_eq_error {v : Validator} {name : Text} {x : Value} {f : Failure}
    (h : v.validate name x = .error f) :
    (∃ e, f = .property e) ∨ (f = .numberTooLong ∧ v.isWritable = false) := by
  have hrefused {α : Type} {e : Fault} (he : (refuse e : Except Failure α) = .error f)
      (hv : e.isWritable = true ∨ e.isWritable = v.isWritable) :
      (∃ e, f = .property e) ∨ (f = .numberTooLong ∧ v.isWritable = false) := by
    rcases refuse_eq_error he with rfl | ⟨rfl, hfalse⟩
    · exact .inl ⟨e, rfl⟩
    · rcases hv with hv | hv
      · rw [hv] at hfalse
        cases hfalse
      · exact .inr ⟨rfl, hv ▸ hfalse⟩
  unfold validate at h
  split at h
  next => cases h
  next low high =>
    split at h
    next i _ =>
      unfold checkRange at h
      split at h
      next => cases h
      next => exact hrefused h (.inr rfl)
    next => exact hrefused h (.inl rfl)
  next =>
    split at h
    next => cases h
    next => exact hrefused h (.inl rfl)
  next allowed limit =>
    have hlength {n : Nat} {w : Value} (ht : checkLength name limit n w = .error f) :
        (∃ e, f = .property e) ∨
          (f = .numberTooLong ∧ (Validator.string allowed limit).isWritable = false) := by
      unfold checkLength at ht
      split at ht
      next => exact hrefused ht (.inr rfl)
      next => cases ht
    split at h
    next t =>
      unfold checkText at h
      split at h
      next ts =>
        split at h
        next => exact hlength h
        next => exact hrefused h (.inl rfl)
      next => exact hlength h
    next r =>
      unfold checkRagged at h
      split at h
      next => exact hrefused h (.inl rfl)
      next => exact hlength h
    next => exact hrefused h (.inl rfl)

/-- The property came into some registry by an addition that succeeded. -/
def Descriptor.Added (d : Descriptor) : Prop :=
  ∃ (g h : Registry) (a : Addition), g.adding a = (h, .ok ()) ∧ h.descriptor? a.name = some d

namespace Registry

/-- What a registry answers to a statement that it refuses. -/
def Refusal (g : Registry) (f : Failure) : Prop :=
  (∃ e, f = .property e) ∨
    (f = .numberTooLong ∧ ∃ d ∈ g.descriptors, d.validator.isWritable = false)

theorem hasText_iff {w : Value} : w.HasText ↔ ∃ t, textOf w = .ok t := by
  cases w with
  | integer i => simp [Value.HasText, Value.text?, textOf_integer]
  | boolean b => cases b <;> exact ⟨fun _ => ⟨_, rfl⟩, fun _ => ⟨_, rfl⟩⟩
  | null => exact ⟨fun _ => ⟨_, rfl⟩, fun _ => ⟨_, rfl⟩⟩
  | real => exact ⟨fun _ => ⟨_, rfl⟩, fun _ => ⟨_, rfl⟩⟩
  | text => exact ⟨fun _ => ⟨_, rfl⟩, fun _ => ⟨_, rfl⟩⟩
  | ragged => exact ⟨fun _ => ⟨_, rfl⟩, fun _ => ⟨_, rfl⟩⟩

theorem find?_place_self (d : Descriptor) (ds : List Descriptor) :
    (place d ds).find? (·.name == d.name) = some d := by
  fun_induction place d ds with
  | case1 => simp
  | case2 => simp
  | case3 => simp
  | case4 e r hname _ ih =>
    have he : (e.name == d.name) = false := by simpa using hname
    rw [List.find?_cons, he, ih]

theorem descriptor?_adding {g h : Registry} {a : Addition} (hadd : g.adding a = (h, .ok ())) :
    ∃ w t, textOf w = .ok t ∧
      h.descriptor? a.name = some (a.descriptor w) ∧
      h.descriptors = place (a.descriptor w) g.descriptors := by
  obtain ⟨w, t, -, ht, rfl⟩ := adding_eq_ok_iff.1 hadd
  exact ⟨w, t, ht, find?_place_self (a.descriptor w) g.descriptors, rfl⟩

end Registry

theorem Descriptor.Added.default {d : Descriptor} (h : d.Added) :
    ∃ t, Registry.textOf d.default = .ok t := by
  obtain ⟨g, k, a, hadd, hd⟩ := h
  obtain ⟨w, t, ht, hself, -⟩ := Registry.descriptor?_adding hadd
  obtain rfl := Option.some.inj (hself.symm.trans hd)
  exact ⟨t, ht⟩

namespace Registry

theorem Lived.added {g : Registry} (h : Lived g) : ∀ d ∈ g.descriptors, d.Added := by
  induction h with
  | refl => simp [empty]
  | @tail g k _ hstep ih =>
    obtain ⟨names, ho⟩ := hstep
    cases ho with
    | @adds a _ hadd =>
      intro d hd
      obtain ⟨w, t, -, hself, hplaced⟩ := descriptor?_adding hadd
      rw [hplaced] at hd
      rcases mem_place hd with rfl | hd
      · exact ⟨g, k, a, hadd, hself⟩
      · exact ih d hd
    | sets hset =>
      obtain ⟨d, t, -, -, rfl⟩ := set_eq_ok_iff.1 hset
      exact ih
    | refuses => exact ih
    | loads hl =>
      obtain ⟨ps, -, hstore⟩ := load_items hl
      rw [(storeAll_frame hstore).1]
      exact ih
    | rejects => exact ih
    | completes => exact ih

/-- What a check makes of a value that has a text has one itself. -/
theorem hasText_of_takes {v : Validator} {x w : Value} (hx : x.HasText) (h : v.Takes x w) :
    w.HasText := by
  cases h with
  | any => exact hx
  | @integer low high i x hi hlow hhigh =>
    cases x with
    | integer j =>
      obtain rfl : j = i := by simpa [Validator.wholeNumber?] using hi
      exact hx
    | text t => exact hasText_iff.2 (textOf_of_takes_stored (s := .text t) (.integer hi hlow hhigh))
    | _ => simp [Validator.wholeNumber?] at hi
  | boolean => exact ⟨_, rfl⟩
  | string => exact hx
  | ragged => exact hx

theorem descriptor_cases (g : Registry) (name : Text) :
    (∃ d ∈ g.descriptors, g.descriptor name = .ok d) ∨
      g.descriptor name = .error (.property (.unknown name)) := by
  unfold descriptor
  split
  next d hd => exact .inl ⟨d, (mem_of_descriptor? hd).1, rfl⟩
  next => exact .inr rfl

variable {g : Registry}

theorem refusal_of_validate {d : Descriptor} (hd : d ∈ g.descriptors) {name : Text} {x : Value}
    {f : Failure} (h : d.validator.validate name x = .error f) : g.Refusal f :=
  (Validator.validate_eq_error h).imp_right (fun hv => ⟨hv.1, d, hd, hv.2⟩)

theorem refusal_of_accept {name : Text} {v : Value} {f : Failure}
    (h : g.accept name v = .error f) : g.Refusal f := by
  unfold accept at h
  rcases descriptor_cases g name with ⟨d, hd, he⟩ | he
  · rw [he] at h
    unfold checkWritable at h
    dsimp only at h
    split at h
    next e hw =>
      split at hw
      next =>
        cases hw
        cases h
        exact .inl ⟨_, rfl⟩
      next => cases hw
    next => exact refusal_of_validate hd (map_eq_error h)
  · rw [he] at h
    cases h
    exact .inl ⟨_, rfl⟩

theorem refusal_of_set {name : Text} {v : Value} {f : Failure} (hv : v.HasText)
    (h : g.set name v = .error f) : g.Refusal f := by
  unfold set at h
  split at h
  next e ha =>
    cases h
    exact refusal_of_accept ha
  next d w ha =>
    obtain ⟨t, ht⟩ := hasText_iff.1 (hasText_of_takes hv (accept_eq_ok_iff.1 ha).2.2)
    rw [ht] at h
    cases h

theorem get_cases (hg : ∀ d ∈ g.descriptors, d.Added) (name : Text) :
    (∃ w, g.get name = .ok w ∧ w.HasText) ∨ ∃ f, g.get name = .error f ∧ g.Refusal f := by
  unfold get
  rcases descriptor_cases g name with ⟨d, hd, he⟩ | he
  · obtain ⟨t, ht⟩ := (hg d hd).default
    rw [he]
    dsimp only [valueOf]
    rw [ht]
    dsimp only
    cases hvalue : d.validator.validate d.name ((g.text? d.name).getD t).value with
    | error f => exact .inr ⟨f, rfl, refusal_of_validate hd hvalue⟩
    | ok w =>
      have htakes := Validator.validate_eq_ok_iff.1 hvalue
      exact .inl ⟨w, rfl, hasText_iff.2 (textOf_of_takes_stored htakes)⟩
  · exact .inr ⟨_, by rw [he], .inl ⟨_, rfl⟩⟩

end Registry

end Property

end StatementShell
