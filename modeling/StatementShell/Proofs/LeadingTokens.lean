-- How a statement is told to be one of the shell's own commands. Its first two items are looked
-- at, and both have to be readable: what cannot be read there decides over the statement, even
-- where the first word alone would do. Whatever follows the first two tokens is not looked at.
import StatementShell.Command.Parser
import StatementShell.Proofs.LexicalPieces

namespace StatementShell.Command

/-! ## The pure model -/

/-- What stands first in a text, behind what the lexer passes over: nothing, a character that fits
nowhere, a number with too many digits, or a token, with the text that follows it. -/
inductive Found
  | nothing
  | illegal (c : Char)
  | tooLong (count : Nat)
  | token (kind : TokenKind) (rest : Text)

/-- The item stands first in the text. -/
inductive Finds : Text → Found → Prop
  | nothing : Finds [] .nothing
  | illegal {c : Char} {r : Text} : shape? (c :: r) = none → Finds (c :: r) (.illegal c)
  | tooLong {n : Nat} {p r : Text} : shape? (p ++ r) = some (.number, p.length) →
      readNumber p = .error (.tooLong n) → Finds (p ++ r) (.tooLong n)
  | gap {s : Shape} {p r : Text} {i : Found} : shape? (p ++ r) = some (s, p.length) → s.IsGap →
      Finds r i → Finds (p ++ r) i
  | token {s : Shape} {p r : Text} {kind : TokenKind} {value : Value} :
      shape? (p ++ r) = some (s, p.length) → Means s p kind value →
        Finds (p ++ r) (.token kind r)

/-- The item is one of the first two in the text. -/
def Meets (t : Text) (i : Found) : Prop :=
  Finds t i ∨ ∃ kind r, Finds t (.token kind r) ∧ Finds r i

/-- The text begins as one of the shell's own commands does. -/
inductive Opens : Text → Prop
  | exit {t r : Text} : Finds t (.token .exit r) → Opens t
  | quit {t r : Text} : Finds t (.token .quit r) → Opens t
  | setProperty {t r u : Text} : Finds t (.token .set r) → Finds r (.token .property u) → Opens t
  | showProperty {t r u : Text} : Finds t (.token .showWord r) → Finds r (.token .property u) →
      Opens t
  | showProperties {t r u : Text} : Finds t (.token .showWord r) →
      Finds r (.token .properties u) → Opens t

/-- The lexer gives the item first, and then what it gives for the rest of the text. -/
inductive Found.Gives : Found → Lexing → Prop
  | nothing : Gives .nothing .finished
  | illegal {c : Char} {line : Nat} : Gives (.illegal c) (.failed (.illegalCharacter c line))
  | tooLong {n : Nat} : Gives (.tooLong n) (.failed (.tooManyDigits n))
  | token {kind : TokenKind} {t : Token} {r : Text} {l : Lexing} {start line : Nat} :
      t.kind = kind → l = lexFrom 0 start line r → Gives (.token kind r) (.token t l)

/-! ## Founds -/

theorem Lexes.exists_finds {start line : Nat} {t : Text} {ps : List Piece} {l : Lexing}
    (h : Lexes start line t ps l) : ∃ i, Finds t i := by
  induction h with
  | finished => exact ⟨_, .nothing⟩
  | illegal hs => exact ⟨_, .illegal hs⟩
  | tooLong hs hread => exact ⟨_, .tooLong hs hread⟩
  | gap hs hgap _ ih =>
    obtain ⟨i, hi⟩ := ih
    exact ⟨i, .gap hs hgap hi⟩
  | token hs hm _ _ => exact ⟨_, .token hs hm⟩

theorem exists_finds (t : Text) : ∃ i, Finds t i := (lexes_lex t).exists_finds

/-- Where an item stands first in a text, the lexer gives it first, at any place. -/
theorem Finds.gives {t : Text} {i : Found} (h : Finds t i) (start line : Nat) :
    i.Gives (lexFrom 0 start line t) := by
  induction h generalizing start line with
  | nothing => exact .nothing
  | illegal hs =>
    rw [lexFrom, hs]
    exact .illegal
  | @tooLong n p r hs hread =>
    have hmeaning : meaning .number p = .error (.tooManyDigits n) := by rw [meaning, hread]
    rw [(lexFrom_append hs start line).1 _ hmeaning]
    exact .tooLong
  | gap hs hgap _ ih =>
    rw [(lexFrom_append hs start line).2.1 (meaning_of_isGap hgap _)]
    exact ih _ _
  | token hs hm =>
    rw [lexFrom_piece hs hm]
    exact .token rfl rfl

/-! ## The first two items -/

theorem lex_of_first {t : Text} {i : Found} (h : Finds t i) : ∃ l, lex t = l ∧ i.Gives l :=
  ⟨_, rfl, h.gives 0 1⟩

theorem lex_of_second {t r : Text} {kind : TokenKind} {i : Found}
    (ht : Finds t (.token kind r)) (hr : Finds r i) :
    ∃ u l, lex t = .token u l ∧ u.kind = kind ∧ i.Gives l := by
  obtain ⟨l, hl, hgives⟩ := lex_of_first ht
  cases hgives with
  | token hkind hrest => exact ⟨_, _, hl, hkind, hrest ▸ hr.gives _ _⟩

theorem isBuiltin_of_nothing {t : Text} (h : Finds t .nothing) : isBuiltin t = .ok false := by
  obtain ⟨l, hl, hgives⟩ := lex_of_first h
  cases hgives
  rw [isBuiltin, hl, leadsTokens]

theorem isBuiltin_of_illegal {t : Text} {c : Char} (h : Meets t (.illegal c)) :
    isBuiltin t = .ok false := by
  rcases h with h | ⟨kind, r, ht, hr⟩
  · obtain ⟨l, hl, hgives⟩ := lex_of_first h
    cases hgives
    rw [isBuiltin, hl, leadsTokens]
  · obtain ⟨u, l, hl, -, hgives⟩ := lex_of_second ht hr
    cases hgives
    rw [isBuiltin, hl, leadsTokens]

theorem isBuiltin_of_tooLong {t : Text} {n : Nat} (h : Meets t (.tooLong n)) :
    isBuiltin t = .error (.tooManyDigits n) := by
  rcases h with h | ⟨kind, r, ht, hr⟩
  · obtain ⟨l, hl, hgives⟩ := lex_of_first h
    cases hgives
    rw [isBuiltin, hl, leadsTokens]
    simp
  · obtain ⟨u, l, hl, -, hgives⟩ := lex_of_second ht hr
    cases hgives
    rw [isBuiltin, hl, leadsTokens]
    simp

theorem isBuiltin_of_one {t r : Text} {kind : TokenKind} (ht : Finds t (.token kind r))
    (hr : Finds r .nothing) : isBuiltin t = .ok (leads kind none) := by
  obtain ⟨u, l, hl, rfl, hgives⟩ := lex_of_second ht hr
  cases hgives
  rw [isBuiltin, hl, leadsTokens]

theorem isBuiltin_of_two {t r u : Text} {kind other : TokenKind}
    (ht : Finds t (.token kind r)) (hr : Finds r (.token other u)) :
    isBuiltin t = .ok (leads kind (some other)) := by
  obtain ⟨v, l, hl, rfl, hgives⟩ := lex_of_second ht hr
  cases hgives with
  | token hkind _ => rw [isBuiltin, hl, leadsTokens, hkind]

/-- What is met in a text with two tokens is one of them. -/
theorem token_of_meets {t r u : Text} {kind other : TokenKind} {i : Found}
    (ht : Finds t (.token kind r)) (hr : Finds r (.token other u)) (hi : Meets t i) :
    ∃ k v, i = .token k v := by
  obtain ⟨x, l, hl, -, hgives⟩ := lex_of_second ht hr
  cases hgives with
  | token _ _ =>
    rcases hi with h | ⟨kind', r', ht', hr'⟩
    · obtain ⟨m, hm, hgives⟩ := lex_of_first h
      cases hl.symm.trans hm
      cases hgives
      exact ⟨_, _, rfl⟩
    · obtain ⟨y, m, hm, -, hgives⟩ := lex_of_second ht' hr'
      cases hl.symm.trans hm
      cases hgives
      exact ⟨_, _, rfl⟩

theorem opens_of_leads_none {t r : Text} {kind : TokenKind} (ht : Finds t (.token kind r))
    (h : leads kind none = true) : Opens t := by
  unfold leads at h
  split at h
  · exact .exit ht
  · exact .quit ht
  all_goals simp_all

theorem opens_of_leads_some {t r u : Text} {kind other : TokenKind}
    (ht : Finds t (.token kind r)) (hr : Finds r (.token other u))
    (h : leads kind (some other) = true) : Opens t := by
  unfold leads at h
  split at h
  · exact .exit ht
  · exact .quit ht
  next ho =>
    cases ho
    exact .setProperty ht hr
  next ho =>
    cases ho
    exact .showProperty ht hr
  next ho =>
    cases ho
    exact .showProperties ht hr
  · cases h

theorem isBuiltin_of_opens {t : Text} (h : Opens t) (hillegal : ∀ c, ¬ Meets t (.illegal c))
    (hlong : ∀ n, ¬ Meets t (.tooLong n)) : isBuiltin t = .ok true := by
  have hfirst {kind : TokenKind} {r : Text} (ht : Finds t (.token kind r))
      (hkind : ∀ o, leads kind o = true) : isBuiltin t = .ok true := by
    obtain ⟨i, hi⟩ := exists_finds r
    cases i with
    | nothing => rw [isBuiltin_of_one ht hi, hkind]
    | illegal c => exact absurd (.inr ⟨_, _, ht, hi⟩) (hillegal c)
    | tooLong n => exact absurd (.inr ⟨_, _, ht, hi⟩) (hlong n)
    | token k u => rw [isBuiltin_of_two ht hi, hkind]
  cases h with
  | exit ht => exact hfirst ht (fun _ => rfl)
  | quit ht => exact hfirst ht (fun _ => rfl)
  | setProperty ht hr => exact isBuiltin_of_two ht hr
  | showProperty ht hr => exact isBuiltin_of_two ht hr
  | showProperties ht hr => exact isBuiltin_of_two ht hr

theorem isBuiltin_of_not_opens {t : Text} (h : ¬ Opens t) (hillegal : ∀ c, ¬ Meets t (.illegal c))
    (hlong : ∀ n, ¬ Meets t (.tooLong n)) : isBuiltin t = .ok false := by
  obtain ⟨i, hi⟩ := exists_finds t
  cases i with
  | nothing => exact isBuiltin_of_nothing hi
  | illegal c => exact absurd (.inl hi) (hillegal c)
  | tooLong n => exact absurd (.inl hi) (hlong n)
  | token kind r =>
    obtain ⟨j, hj⟩ := exists_finds r
    cases j with
    | illegal c => exact absurd (.inr ⟨_, _, hi, hj⟩) (hillegal c)
    | tooLong n => exact absurd (.inr ⟨_, _, hi, hj⟩) (hlong n)
    | nothing =>
      rw [isBuiltin_of_one hi hj, Bool.eq_false_iff.2 (mt (opens_of_leads_none hi) h)]
    | token other u =>
      rw [isBuiltin_of_two hi hj, Bool.eq_false_iff.2 (mt (opens_of_leads_some hi hj) h)]

/-! ## The law of leading tokens -/

/-- A text is told to be one of the shell's own commands exactly if it begins as one, where its
first two items can be read. A character that fits nowhere among these two makes it somebody
else's, whatever its first word is, and a number with too many digits is an error. What follows two
tokens does not matter: nothing else is met. -/
theorem commands_are_told_by_two_items (t : Text) :
    ((∀ c, ¬ Meets t (.illegal c)) → (∀ n, ¬ Meets t (.tooLong n)) →
      (isBuiltin t = .ok true ↔ Opens t) ∧ (isBuiltin t = .ok false ↔ ¬ Opens t)) ∧
    (∀ c, Meets t (.illegal c) → isBuiltin t = .ok false) ∧
    (∀ n, Meets t (.tooLong n) → isBuiltin t = .error (.tooManyDigits n)) ∧
    ∀ kind r other u, Finds t (.token kind r) → Finds r (.token other u) →
      (∀ c, ¬ Meets t (.illegal c)) ∧ ∀ n, ¬ Meets t (.tooLong n) := by
  refine ⟨?_, fun c => isBuiltin_of_illegal, fun n => isBuiltin_of_tooLong, ?_⟩
  · intro hillegal hlong
    by_cases h : Opens t
    · simp [isBuiltin_of_opens h hillegal hlong, h]
    · simp [isBuiltin_of_not_opens h hillegal hlong, h]
  · intro kind r other u ht hr
    refine ⟨?_, ?_⟩
    · intro c hc
      obtain ⟨k, v, hi⟩ := token_of_meets ht hr hc
      cases hi
    · intro n hn
      obtain ⟨k, v, hi⟩ := token_of_meets ht hr hn
      cases hi

theorem set_property_before_a_foreign_character :
    isBuiltin "SET PROPERTY #".toList = .ok true := by
  have hset : Finds "SET PROPERTY #".toList (.token .set " PROPERTY #".toList) :=
    .token (s := .name) (p := "SET".toList) rfl .name
  have hproperty : Finds " PROPERTY #".toList (.token .property " #".toList) :=
    .gap (p := [' ']) rfl (.inl rfl) (.token (s := .name) (p := "PROPERTY".toList) rfl .name)
  obtain ⟨hreadable, -, -, htwo⟩ := commands_are_told_by_two_items "SET PROPERTY #".toList
  obtain ⟨hillegal, hlong⟩ := htwo _ _ _ _ hset hproperty
  exact (hreadable hillegal hlong).1.2 (.setProperty hset hproperty)

/-- A text that begins with the word for the end, and is told to be somebody else's for the
character behind it. -/
theorem exit_before_a_foreign_character :
    Opens "EXIT #".toList ∧ isBuiltin "EXIT #".toList = .ok false := by
  have hfirst : Finds "EXIT #".toList (.token .exit " #".toList) :=
    .token (s := .name) (p := "EXIT".toList) rfl .name
  exact ⟨.exit hfirst, rfl⟩

end StatementShell.Command
