-- The grammar of the input. Before the terminator of a statement stand characters outside quotes
-- and whole literals, one after the other. A text is of one of three kinds: nothing but these, or
-- these and a literal that is never closed, or these and a terminator, whatever follows. What the
-- scan finds in a text depends on its kind alone.
import StatementShell.Proofs.QuoteScan

namespace StatementShell

/-! ## The pure model -/

/-- One of the two quotes. -/
def IsQuote (q : Char) : Prop := q = '\'' ∨ q = '"'

namespace Segment

/-- A character that is no quote and no terminator, or a whole literal: a text without a quote in
it, between two of that quote. -/
inductive Stretch : Text → Prop
  | plain {c : Char} : ¬ IsQuote c → c ≠ terminator → Stretch [c]
  | literal {q : Char} {body : Text} : IsQuote q → q ∉ body → Stretch (q :: (body ++ [q]))

/-- Stretches, one after the other. -/
inductive Closed : Text → Prop
  | nil : Closed []
  | cons {s p : Text} : Stretch s → Closed p → Closed (s ++ p)

/-- Stretches, and a literal that is never closed. -/
def Unclosed (t : Text) : Prop :=
  ∃ p q body, Closed p ∧ IsQuote q ∧ q ∉ body ∧ t = p ++ q :: body

/-- A terminator stands at the place, and nothing but stretches before it. -/
def IsEnd (t : Text) (i : Nat) : Prop := t[i]? = some terminator ∧ Closed (t.take i)

/-! ## The kinds of a text -/

theorem Stretch.closed {s : Text} (h : Stretch s) : Closed s := by
  have hs : Closed (s ++ []) := .cons h .nil
  rwa [List.append_nil] at hs

theorem Closed.append {p r : Text} (hp : Closed p) (hr : Closed r) : Closed (p ++ r) := by
  induction hp with
  | nil => exact hr
  | cons hs _ ih =>
    rw [List.append_assoc]
    exact .cons hs ih

theorem Closed.isEnd {p : Text} (hp : Closed p) (r : Text) :
    IsEnd (p ++ terminator :: r) p.length := by
  constructor
  · simp
  · rwa [List.take_left]

theorem IsEnd.exists_closed {t : Text} {i : Nat} (h : IsEnd t i) :
    ∃ p r, Closed p ∧ i = p.length ∧ t = p ++ terminator :: r := by
  obtain ⟨hlt, hc⟩ := List.getElem?_eq_some_iff.1 h.1
  refine ⟨t.take i, t.drop (i + 1), h.2, ?_, ?_⟩
  · rw [List.length_take, Nat.min_eq_left (Nat.le_of_lt hlt)]
  · rw [← hc, List.getElem_cons_drop, List.take_append_drop]

theorem IsEnd.append {t : Text} {i : Nat} (h : IsEnd t i) (u : Text) : IsEnd (t ++ u) i := by
  obtain ⟨p, r, hp, rfl, rfl⟩ := h.exists_closed
  rw [List.append_assoc]
  exact hp.isEnd (r ++ u)

/-- Every text is of one of the three kinds. -/
theorem closed_or_unclosed_or_isEnd (t : Text) : Closed t ∨ Unclosed t ∨ ∃ i, IsEnd t i := by
  -- One more character behind a closed text opens a literal, ends the statement or does neither.
  -- Behind an unclosed text it closes the literal or goes on with it, and an end stays where it is.
  induction t using List.reverseRecOn with
  | nil => exact .inl .nil
  | append_singleton t c ih =>
    rcases ih with ht | ⟨p, q, body, hp, hq, hbody, rfl⟩ | ⟨i, hi⟩
    · by_cases hquote : IsQuote c
      · exact .inr (.inl ⟨t, c, [], ht, hquote, List.not_mem_nil, rfl⟩)
      · by_cases hend : c = terminator
        · exact .inr (.inr ⟨t.length, hend ▸ ht.isEnd []⟩)
        · exact .inl (ht.append (Stretch.plain hquote hend).closed)
    · rw [List.append_assoc, List.cons_append]
      by_cases hc : c = q
      · subst hc
        exact .inl (hp.append (Stretch.literal hq hbody).closed)
      · refine .inr (.inl ⟨p, q, body ++ [c], hp, hq, ?_, rfl⟩)
        simp [hbody, Ne.symm hc]
    · exact .inr (.inr ⟨i, hi.append [c]⟩)

/-! ## Literals -/

theorem quote_opens {q : Char} (hq : IsQuote q) : Quoting.plain.after q ≠ .plain := by
  rcases hq with rfl | rfl <;> decide

/-- Inside quotes nothing but the same quote counts. -/
theorem quoted_terminatorFrom? {q : Char} (hq : IsQuote q) {body : Text} (h : q ∉ body) :
    terminatorFrom? (Quoting.plain.after q) body = none ∧
      body.foldl Quoting.after (Quoting.plain.after q) = Quoting.plain.after q := by
  induction body with
  | nil => exact ⟨rfl, rfl⟩
  | cons d body ih =>
    have hd : d ≠ q := fun he => h (he ▸ List.mem_cons_self)
    have hafter : (Quoting.plain.after q).after d = Quoting.plain.after q := by
      rcases hq with rfl | rfl
      · exact if_neg hd
      · exact if_neg hd
    obtain ⟨h1, h2⟩ := ih (fun hin => h (List.mem_cons_of_mem d hin))
    refine ⟨?_, by rw [List.foldl_cons, hafter, h2]⟩
    rw [terminatorFrom?, if_neg (fun he => quote_opens hq he.1), hafter, h1]
    rfl

/-- Behind a quote that is never closed the scan finds nothing, and stays inside quotes. -/
theorem opened_terminator? {q : Char} (hq : IsQuote q) {body : Text} (h : q ∉ body) :
    terminator? (q :: body) = none ∧
      (q :: body).foldl Quoting.after .plain = Quoting.plain.after q := by
  have hne : q ≠ terminator := by
    rcases hq with rfl | rfl <;> decide
  obtain ⟨h1, h2⟩ := quoted_terminatorFrom? hq h
  refine ⟨?_, h2⟩
  rw [terminator?, terminatorFrom?, if_neg (fun he => hne he.2), h1]
  rfl

theorem neutral_quoted {q : Char} (hq : IsQuote q) {body : Text} (h : q ∉ body) :
    Neutral (q :: (body ++ [q])) := by
  have hclose : terminatorFrom? (Quoting.plain.after q) [q] = none ∧
      (Quoting.plain.after q).after q = .plain := by
    rcases hq with rfl | rfl <;> exact ⟨rfl, rfl⟩
  obtain ⟨h1, h2⟩ := opened_terminator? hq h
  rw [← List.cons_append]
  constructor
  · rw [terminator?, terminatorFrom?_append h1, h2, hclose.1]
    rfl
  · rw [List.foldl_append, h2]
    exact hclose.2

/-! ## What the scan finds -/

theorem Stretch.neutral {s : Text} (h : Stretch s) : Neutral s := by
  cases h with
  | @plain c hquote hend =>
    have hstay : Quoting.plain.after c = .plain := by
      rw [IsQuote, not_or] at hquote
      simp [Quoting.after, hquote]
    exact neutral_of_plain (by simp [hend, hstay])
  | literal hq hbody => exact neutral_quoted hq hbody

theorem Closed.neutral {p : Text} (h : Closed p) : Neutral p := by
  induction h with
  | nil => exact ⟨rfl, rfl⟩
  | cons hs _ ih => exact hs.neutral.append ih

theorem Unclosed.stays_quoted {t : Text} (h : Unclosed t) :
    terminator? t = none ∧ t.foldl Quoting.after .plain ≠ .plain := by
  obtain ⟨p, q, body, hp, hq, hbody, rfl⟩ := h
  obtain ⟨h1, h2⟩ := opened_terminator? hq hbody
  constructor
  · rw [hp.neutral.terminator?_behind, h1]
    rfl
  · rw [List.foldl_append, hp.neutral.2, h2]
    exact quote_opens hq

theorem IsEnd.terminator?_eq {t : Text} {i : Nat} (h : IsEnd t i) : terminator? t = some i := by
  obtain ⟨p, r, hp, rfl, rfl⟩ := h.exists_closed
  have hfirst : terminator? (terminator :: r) = some 0 := rfl
  rw [hp.neutral.terminator?_behind, hfirst, Option.map_some, Nat.zero_add]

theorem terminator?_eq_some_iff {t : Text} {i : Nat} : terminator? t = some i ↔ IsEnd t i := by
  refine ⟨fun hi => ?_, IsEnd.terminator?_eq⟩
  rcases closed_or_unclosed_or_isEnd t with ht | ht | ⟨j, hj⟩
  · cases ht.neutral.1.symm.trans hi
  · cases ht.stays_quoted.1.symm.trans hi
  · obtain rfl : j = i := Option.some.inj (hj.terminator?_eq.symm.trans hi)
    exact hj

/-- A text has no complete statement exactly if it is closed, or its last literal is not. -/
theorem terminator?_eq_none_iff {t : Text} : terminator? t = none ↔ Closed t ∨ Unclosed t := by
  constructor
  · intro hnone
    rcases closed_or_unclosed_or_isEnd t with ht | ht | ⟨i, hi⟩
    · exact .inl ht
    · exact .inr ht
    · cases hnone.symm.trans hi.terminator?_eq
  · rintro (ht | ht)
    · exact ht.neutral.1
    · exact ht.stays_quoted.1

/-- The apostrophe in a name closes a literal, and the next one is never closed. -/
example : terminator? "n = 'O'Brien'; x;".toList = none := by decide

/-- The scan passes the closed texts, and no others, and is outside quotes behind them. -/
theorem closed_iff_neutral {p : Text} : Closed p ↔ Neutral p := by
  refine ⟨Closed.neutral, fun h => ?_⟩
  rcases terminator?_eq_none_iff.1 h.1 with hp | hp
  · exact hp
  · exact absurd h.2 hp.stays_quoted.2

instance (p : Text) : Decidable (Closed p) := decidable_of_iff (Neutral p) closed_iff_neutral.symm

instance (t : Text) (i : Nat) : Decidable (IsEnd t i) := inferInstanceAs (Decidable (_ ∧ _))

/-- The place that the scan finds is the one place with a terminator behind a closed text, and it
finds none exactly where there is none. More text behind it does not move it, and a closed text in
front moves it by its length. -/
theorem terminator_stands_behind_closed_text (t : Text) :
    (∀ i, terminator? t = some i ↔ IsEnd t i) ∧
    (∀ i j, IsEnd t i → IsEnd t j → i = j) ∧
    (terminator? t = none ↔ ∀ i, ¬ IsEnd t i) ∧
    (∀ i more, terminator? t = some i → terminator? (t ++ more) = some i) ∧
    ∀ p, Closed p → terminator? (p ++ t) = (terminator? t).map (· + p.length) := by
  refine ⟨fun i => terminator?_eq_some_iff, ?_, ?_, ?_, ?_⟩
  · intro i j hi hj
    exact Option.some.inj (hi.terminator?_eq.symm.trans hj.terminator?_eq)
  · rw [Option.eq_none_iff_forall_ne_some]
    exact forall_congr' (fun i => not_congr terminator?_eq_some_iff)
  · intro i more hi
    exact terminatorFrom?_append_of_some hi more
  · intro p hp
    exact hp.neutral.terminator?_behind t

theorem end_of_the_sample :
    terminator? "\"it's;\" 'a;''b' c;".toList = some 17 ∧
      terminator? ("\"it's;\" 'a;''b' c;".toList ++ " 'd;".toList) = some 17 ∧
      terminator? ("';' ".toList ++ "\"it's;\" 'a;''b' c;".toList) = some 21 := by
  obtain ⟨hfinds, -, -, hmore, hfront⟩ :=
    terminator_stands_behind_closed_text "\"it's;\" 'a;''b' c;".toList
  have hplace : terminator? "\"it's;\" 'a;''b' c;".toList = some 17 := (hfinds 17).2 (by decide)
  refine ⟨hplace, hmore 17 _ hplace, ?_⟩
  rw [hfront _ (by decide), hplace]
  rfl

end Segment

end StatementShell
