-- The machine that reads commands keeps in step with the sentences from the first token to the
-- last: whatever it has read, it gives every text that goes on from there what its tokens say.
-- One lemma for each state goes from the last states back to the first one.
import StatementShell.Failure
import StatementShell.Proofs.CommandMachine
import StatementShell.Proofs.CommandSentences
import StatementShell.Proofs.LexicalPieces
import StatementShell.Proofs.NumberText

namespace StatementShell.Command

/-! ## Machines in step -/

/-- Items behind some tokens that were read before them. -/
def Lexing.behind (ts : List Token) (l : Lexing) : Lexing := ts.foldr .token l

theorem tokens_behind (ts : List Token) (l : Lexing) :
    (l.behind ts).tokens = ts ++ l.tokens := by
  induction ts with
  | nil => rfl
  | cons t ts ih => exact congrArg (t :: ·) ih

theorem fault?_behind (ts : List Token) (l : Lexing) : (l.behind ts).fault? = l.fault? := by
  induction ts with
  | nil => rfl
  | cons t ts ih => exact ih

theorem behind_token (ts : List Token) (t : Token) (l : Lexing) :
    (Lexing.token t l).behind ts = l.behind (ts ++ [t]) := by
  simp [Lexing.behind]

/-- A machine that has read some tokens gives every text that goes on with them what it has
to give. -/
def InStep (m : Stack) (ts : List Token) : Prop :=
  ∀ l : Lexing, (∀ t ∈ l.tokens, t.Sound) → Outcome (l.behind ts) (m.read l)

/-- What the machine has read is a whole sentence, or the beginning of one, and it says so at
the end of the text. -/
def EndsRight (m : Stack) (ts : List Token) : Prop :=
  (∃ c, m.finish = .ok c ∧ Sentence ts c) ∨
    (m.finish = .error .unexpectedEnd ∧ Begins ts ∧ ∀ c, ¬ Sentence ts c)

/-- The machine keeps in step when it ends right and every next token leads to a machine in
step, or is refused where no sentence goes on with it. -/
theorem inStep_of_next {m : Stack} {ts : List Token} (hend : EndsRight m ts)
    (hnext : ∀ t : Token, t.Sound → (∃ k, m.shift? t = some k ∧ InStep k (ts ++ [t])) ∨
      (m.shift? t = none ∧ ¬ Begins (ts ++ [t]))) : InStep m ts := by
  have hbegins : Begins ts := by
    rcases hend with ⟨c, -, hc⟩ | ⟨-, hb, -⟩
    · exact hc.begins
    · exact hb
  intro l hl
  cases l with
  | finished =>
    have htokens : (Lexing.finished.behind ts).tokens = ts := by
      rw [tokens_behind]
      exact List.append_nil ts
    rw [Stack.read]
    rcases hend with ⟨c, hm, hc⟩ | ⟨hm, -, hn⟩
    · rw [hm]
      exact .command (fault?_behind ts _) (by rwa [htokens])
    · rw [hm]
      exact .unexpectedEnd (fault?_behind ts _) (by rwa [htokens]) (by rwa [htokens])
  | failed e =>
    rw [Stack.read]
    refine .lexical (fault?_behind ts _) ?_
    rw [tokens_behind]
    exact (List.append_nil ts).symm ▸ hbegins
  | token t rest =>
    rw [Stack.read]
    rcases hnext t (hl t List.mem_cons_self) with ⟨k, hk, hstep⟩ | ⟨hnone, hn⟩
    · rw [hk, behind_token]
      exact hstep rest (fun u hu => hl u (List.mem_cons_of_mem t hu))
    · rw [hnone]
      exact .unexpected (tokens_behind ts _) hbegins hn

/-! ## State by state -/

open Stack State

/-- A token of some kind and value, wherever it comes from. -/
def Token.plain (kind : TokenKind) (value : Value) : Token := ⟨kind, value, 1, 0, []⟩

theorem closing_cons {t : Token} {ts : List Token} (h : Closing (t :: ts)) :
    t.kind = .semicolon ∧ ts = [] := by
  cases h with
  | semicolon ht => exact ⟨ht, rfl⟩

theorem names_of_nameRule? {t : Token} {r : Rule} (h : t.Sound) (hr : nameRule? t.kind = some r) :
    ∃ name, t.Names name ∧ r.make [.value t.value] = .value (.text name) := by
  obtain ⟨s, -, hm⟩ := h
  unfold nameRule? at hr
  unfold Token.Names
  generalize t.lexeme = p at hm
  generalize t.kind = kind at *
  generalize t.value = value at *
  cases hm
  all_goals split at hr
  all_goals cases hr
  all_goals simp_all [Rule.make]

theorem nameRule?_of_names {t : Token} {name : Text} (h : t.Names name) :
    nameRule? t.kind ≠ none := by
  rcases h.1 with hk | hk | hk <;> simp [hk, nameRule?]

theorem denotes_of_literalRule? {t : Token} {r : Rule} (hr : literalRule? t.kind = some r) :
    ∃ v, t.Denotes v ∧ r.make [.value t.value] = .value v := by
  unfold literalRule? at hr
  split at hr
  all_goals cases hr
  next h => exact ⟨_, .number h, rfl⟩
  next h => exact ⟨_, .quoted (.inl h), rfl⟩
  next h => exact ⟨_, .quoted (.inr h), rfl⟩
  next h => exact ⟨_, .trueWord h, rfl⟩
  next h => exact ⟨_, .falseWord h, rfl⟩

theorem literalRule?_of_denotes {t : Token} {v : Value} (h : t.Denotes v) :
    literalRule? t.kind ≠ none := by
  cases h with
  | number h => simp [h, literalRule?]
  | quoted h => rcases h with h | h <;> simp [h, literalRule?]
  | trueWord h => simp [h, literalRule?]
  | falseWord h => simp [h, literalRule?]

/-- The command is read, and nothing but a closing may come. -/
def Closes (ts : List Token) (c : Command) : Prop :=
  ∀ us d, Sentence (ts ++ us) d ↔ d = c ∧ Closing us

theorem inStep_sentenceRead {ts : List Token} {c : Command} (hc : Closes ts c) {t : Token}
    (ht : t.kind = .semicolon) : InStep (sentenceRead c) (ts ++ [t]) := by
  refine inStep_of_next ?_ ?_
  · exact .inl ⟨c, finish_sentenceRead c, (hc [t] c).2 ⟨rfl, .semicolon ht⟩⟩
  · intro u _
    refine .inr ⟨shift?_sentenceRead u c, ?_⟩
    rintro ⟨more, d, h⟩
    rw [List.append_assoc, List.append_assoc] at h
    have := closing_cons ((hc _ d).1 h).2
    simp at this

theorem inStep_of_completes {m : Stack} {ts : List Token} {c : Command} (hm : Completes m c)
    (hc : Closes ts c) : InStep m ts := by
  refine inStep_of_next ?_ ?_
  · exact .inl ⟨c, hm.finish, by simpa using (hc [] c).2 ⟨rfl, .nothing⟩⟩
  · intro t _
    rw [hm.shift?]
    by_cases ht : t.kind = .semicolon
    · rw [if_pos ht]
      exact .inl ⟨_, rfl, inStep_sentenceRead hc ht⟩
    · rw [if_neg ht]
      refine .inr ⟨rfl, ?_⟩
      rintro ⟨more, d, h⟩
      rw [List.append_assoc] at h
      exact ht (closing_cons ((hc _ d).1 h).2).1

/-- The last word of a command is read, and makes the last part of it. -/
theorem inStep_of_leaf {r : Rule} {p : Part} {q s : State} {held : Held} {below : Stack}
    {ts : List Token} {c : Command} (h : Leaf r p) (hp : some .semicolon ∈ p.followers)
    (hgoto : q.goto? (.part p) = some s) (hq : state below = q)
    (hm : Completes ((s, r.make [held]) :: below) c) (hc : Closes ts c) :
    InStep ((only r 1, held) :: below) ts := by
  intro l hl
  rw [h.read hgoto hq]
  · exact inStep_of_completes hm hc l hl
  · intro ahead
    rw [hm.settle ahead 0, hm.settle ahead 1]
  · intro t ht
    rw [hm.shift?, if_neg]
    intro hsemicolon
    exact ht (hsemicolon ▸ hp)

/-! ### Showing -/

theorem inStep_shownName {t u n : Token} {name : Text} (ht : t.kind = .showWord)
    (hu : u.kind = .property) (hn : n.Names name) {r : Rule} (hr : nameRule? n.kind = some r)
    (hmake : r.make [.value n.value] = .value (.text name)) (a b : Held) :
    InStep [(only r 1, .value n.value), (only .showProperty 2, b), (afterShow, a)] [t, u, n] := by
  apply inStep_of_leaf (leaf_of_nameRule? hr) (by simp [Part.followers])
    (goto?_named (.inr rfl)) rfl
  · rw [hmake]
    exact completes_of_length .showProperty rfl rfl rfl rfl
  · intro us d
    constructor
    · intro h
      cases h with
      | exit h _ => simp_all
      | setProperty h _ _ _ _ _ => simp_all
      | showProperties _ h _ => simp_all
      | showProperty _ _ hm hc => exact ⟨by rw [hm.unique hn], hc⟩
    · rintro ⟨rfl, hc⟩
      exact .showProperty ht hu hn hc

theorem inStep_showProperty {t u : Token} (ht : t.kind = .showWord) (hu : u.kind = .property)
    (a b : Held) : InStep [(only .showProperty 2, b), (afterShow, a)] [t, u] := by
  refine inStep_of_next ?_ ?_
  · refine .inr ⟨?_, ?_, ?_⟩
    · exact finish_of_asks rfl rfl (by simp)
    · exact ⟨[.plain .name (.text [])], _, .showProperty ht hu ⟨.inl rfl, rfl⟩ .nothing⟩
    · intro c h
      cases h <;> simp_all
  · intro n hn
    rw [shift?_propertyName (.inr rfl) rfl]
    cases hr : nameRule? n.kind with
    | some r =>
      obtain ⟨name, hname, hmake⟩ := names_of_nameRule? hn hr
      exact .inl ⟨_, rfl, inStep_shownName ht hu hname hr hmake a b⟩
    | none =>
      refine .inr ⟨rfl, ?_⟩
      rintro ⟨more, c, h⟩
      cases h with
      | exit h _ => simp_all
      | setProperty h _ _ _ _ _ => simp_all
      | showProperties _ h _ => simp_all
      | showProperty _ _ hname _ => exact nameRule?_of_names hname hr

theorem inStep_showProperties {t u : Token} (ht : t.kind = .showWord) (hu : u.kind = .properties)
    (a b : Held) : InStep [(only .showProperties 2, b), (afterShow, a)] [t, u] := by
  apply inStep_of_completes (completes_of_length .showProperties rfl rfl rfl rfl)
  intro us d
  constructor
  · intro h
    cases h with
    | exit h _ => simp_all
    | setProperty h _ _ _ _ _ => simp_all
    | showProperties _ _ hc => exact ⟨rfl, hc⟩
    | showProperty _ h _ _ => simp_all
  · rintro ⟨rfl, hc⟩
    exact .showProperties ht hu hc

theorem inStep_show {t : Token} (ht : t.kind = .showWord) (a : Held) :
    InStep [(afterShow, a)] [t] := by
  refine inStep_of_next ?_ ?_
  · refine .inr ⟨?_, ?_, ?_⟩
    · exact finish_of_none (reduction?_afterShow none) rfl
    · exact ⟨[.plain .properties .null], _, .showProperties ht rfl .nothing⟩
    · intro c h
      cases h
      simp_all
  · intro u _
    rw [shift?_afterShow]
    split
    next hu => exact .inl ⟨_, rfl, inStep_showProperties ht hu _ _⟩
    next hu => exact .inl ⟨_, rfl, inStep_showProperty ht hu _ _⟩
    next hproperties hproperty =>
      refine .inr ⟨rfl, ?_⟩
      rintro ⟨more, c, h⟩
      cases h <;> simp_all

/-! ### Setting -/

theorem inStep_setLiteral {t u n e d : Token} {name : Text} {v : Value} (ht : t.kind = .set)
    (hu : u.kind = .property) (hn : n.Names name) (he : e.kind = .equals) (hd : d.Denotes v)
    {r : Rule} (hr : literalRule? d.kind = some r)
    (hmake : r.make [.value d.value] = .value v) (a b x : Held) :
    InStep [(only r 1, .value d.value), (only .setProperty 4, x),
      (only .setProperty 3, .value (.text name)), (only .setProperty 2, b),
      (only .setProperty 1, a)] [t, u, n, e, d] := by
  apply inStep_of_leaf (leaf_of_literalRule? hr) (by simp [Part.followers]) goto?_valued rfl
  · rw [hmake]
    exact completes_of_length .setProperty rfl rfl rfl rfl
  · intro us c
    constructor
    · intro h
      cases h with
      | exit h _ => simp_all
      | setProperty _ _ hm _ hw hc => exact ⟨by rw [hm.unique hn, hw.unique hd], hc⟩
      | showProperties h _ _ => simp_all
      | showProperty h _ _ _ => simp_all
    · rintro ⟨rfl, hc⟩
      exact .setProperty ht hu hn he hd hc

theorem inStep_setEquals {t u n e : Token} {name : Text} (ht : t.kind = .set)
    (hu : u.kind = .property) (hn : n.Names name) (he : e.kind = .equals) (a b x : Held) :
    InStep [(only .setProperty 4, x), (only .setProperty 3, .value (.text name)),
      (only .setProperty 2, b), (only .setProperty 1, a)] [t, u, n, e] := by
  refine inStep_of_next ?_ ?_
  · refine .inr ⟨?_, ?_, ?_⟩
    · exact finish_of_asks rfl rfl (by simp)
    · exact ⟨[.plain .trueWord .null], _, .setProperty ht hu hn he (.trueWord rfl) .nothing⟩
    · intro c h
      cases h <;> simp_all
  · intro d hd
    rw [shift?_literal rfl]
    cases hr : literalRule? d.kind with
    | some r =>
      obtain ⟨v, hv, hmake⟩ := denotes_of_literalRule? hr
      exact .inl ⟨_, rfl, inStep_setLiteral ht hu hn he hv hr hmake a b x⟩
    | none =>
      refine .inr ⟨rfl, ?_⟩
      rintro ⟨more, c, h⟩
      cases h with
      | exit h _ => simp_all
      | setProperty _ _ _ _ hv _ => exact literalRule?_of_denotes hv hr
      | showProperties h _ _ => simp_all
      | showProperty h _ _ _ => simp_all

theorem inStep_setName {t u n : Token} {name : Text} (ht : t.kind = .set)
    (hu : u.kind = .property) (hn : n.Names name) (a b : Held) :
    InStep [(only .setProperty 3, .value (.text name)), (only .setProperty 2, b),
      (only .setProperty 1, a)] [t, u, n] := by
  refine inStep_of_next ?_ ?_
  · refine .inr ⟨?_, ?_, ?_⟩
    · exact finish_of_asks rfl rfl (by simp)
    · exact ⟨[.plain .equals .null, .plain .trueWord .null], _,
        .setProperty ht hu hn rfl (.trueWord rfl) .nothing⟩
    · intro c h
      cases h <;> simp_all
  · intro e _
    rw [shift?_of_word rfl rfl rfl]
    by_cases he : e.kind = .equals
    · rw [if_pos he]
      exact .inl ⟨_, rfl, inStep_setEquals ht hu hn he _ _ _⟩
    · rw [if_neg he]
      refine .inr ⟨rfl, ?_⟩
      rintro ⟨more, c, h⟩
      cases h <;> simp_all

theorem inStep_setProperty {t u : Token} (ht : t.kind = .set) (hu : u.kind = .property)
    (a b : Held) : InStep [(only .setProperty 2, b), (only .setProperty 1, a)] [t, u] := by
  refine inStep_of_next ?_ ?_
  · refine .inr ⟨?_, ?_, ?_⟩
    · exact finish_of_asks rfl rfl (by simp)
    · exact ⟨[.plain .name (.text []), .plain .equals .null, .plain .trueWord .null], _,
        .setProperty ht hu ⟨.inl rfl, rfl⟩ rfl (.trueWord rfl) .nothing⟩
    · intro c h
      cases h <;> simp_all
  · intro n hn
    rw [shift?_propertyName (.inl rfl) rfl]
    cases hr : nameRule? n.kind with
    | some r =>
      obtain ⟨name, hname, hmake⟩ := names_of_nameRule? hn hr
      refine .inl ⟨_, rfl, ?_⟩
      -- the machine waits for a look ahead before it uses the rule for the name; whatever
      -- comes, it may as well use it now
      intro l hl
      rw [(leaf_of_nameRule? hr).read (goto?_named (.inl rfl)) rfl, hmake]
      · exact inStep_setName ht hu hname a b l hl
      · intro ahead
        have hwait : (only .setProperty 3).reduction? ahead = none := reduction?_of_asks rfl ahead
        refine (settle_of_none ?_ 2).trans (settle_of_none ?_ 3).symm
        · exact hwait
        · exact hwait
      · intro e he
        rw [shift?_of_word rfl rfl rfl, if_neg]
        intro hequals
        simp [hequals, Part.followers] at he
    | none =>
      refine .inr ⟨rfl, ?_⟩
      rintro ⟨more, c, h⟩
      cases h with
      | exit h _ => simp_all
      | setProperty _ _ hname _ _ _ => exact nameRule?_of_names hname hr
      | showProperties h _ _ => simp_all
      | showProperty h _ _ _ => simp_all

theorem inStep_set {t : Token} (ht : t.kind = .set) (a : Held) :
    InStep [(only .setProperty 1, a)] [t] := by
  refine inStep_of_next ?_ ?_
  · refine .inr ⟨?_, ?_, ?_⟩
    · exact finish_of_asks rfl rfl (by simp)
    · exact ⟨[.plain .property .null, .plain .name (.text []), .plain .equals .null,
        .plain .trueWord .null], _,
        .setProperty ht rfl ⟨.inl rfl, rfl⟩ rfl (.trueWord rfl) .nothing⟩
    · intro c h
      cases h
      simp_all
  · intro u _
    rw [shift?_of_word rfl rfl rfl]
    by_cases hu : u.kind = .property
    · rw [if_pos hu]
      exact .inl ⟨_, rfl, inStep_setProperty ht hu _ _⟩
    · rw [if_neg hu]
      refine .inr ⟨rfl, ?_⟩
      rintro ⟨more, c, h⟩
      cases h <;> simp_all

/-! ### Beginning -/

theorem inStep_exit {t : Token} (ht : t.kind = .exit ∨ t.kind = .quit) {r : Rule}
    (hr : r = .exit ∨ r = .quit) (a : Held) : InStep [(only r 1, a)] [t] := by
  have hm : Completes [(only r 1, a)] .exit := by
    rcases hr with rfl | rfl
    · exact completes_of_length .exit rfl rfl rfl rfl
    · exact completes_of_length .quit rfl rfl rfl rfl
  apply inStep_of_completes hm
  intro us d
  constructor
  · intro h
    cases h <;> simp_all
  · rintro ⟨rfl, hc⟩
    exact .exit ht hc

theorem inStep_start : InStep [] [] := by
  refine inStep_of_next ?_ ?_
  · refine .inr ⟨rfl, ?_, ?_⟩
    · exact ⟨[.plain .exit .null], _, .exit (.inl rfl) .nothing⟩
    · intro c h
      cases h
  · intro t _
    rw [shift?_start]
    split
    next ht => exact .inl ⟨_, rfl, inStep_exit (.inl ht) (.inl rfl) _⟩
    next ht => exact .inl ⟨_, rfl, inStep_exit (.inr ht) (.inr rfl) _⟩
    next ht => exact .inl ⟨_, rfl, inStep_set ht _⟩
    next ht => exact .inl ⟨_, rfl, inStep_show ht _⟩
    next hexit hquit hset hshow =>
      refine .inr ⟨rfl, ?_⟩
      rintro ⟨more, c, h⟩
      cases h <;> simp_all

/-! ## Every text -/

theorem outcome_parse (t : Text) : Outcome (lex t) (parse t) :=
  inStep_start (lex t) (lexes_lex t).sound

theorem sentence_of_parse {t : Text} {c : Command} (h : parse t = .ok c) :
    (lex t).fault? = none ∧ Sentence (lex t).tokens c := by
  have houtcome := outcome_parse t
  rw [h] at houtcome
  cases houtcome with
  | command hf hs => exact ⟨hf, hs⟩

theorem Outcome.of_tokens {l : Lexing} {u : Token} (h : Outcome l (.error (.unexpected u))) :
    ∃ ts more, l.tokens = ts ++ u :: more ∧
      ∀ (k : Lexing) (rest : List Token), k.tokens = ts ++ u :: rest →
        Outcome k (.error (.unexpected u)) := by
  cases h with
  | unexpected hl hb hn => exact ⟨_, _, hl, fun k rest hk => .unexpected hk hb hn⟩

theorem Token.Sound.text? {t : Token} (h : t.Sound) : ∃ shown, t.value.text? = some shown := by
  obtain ⟨s, -, hm⟩ := h
  generalize t.lexeme = p at hm
  generalize t.kind = kind at hm
  generalize t.value = value at hm
  cases hm with
  | number hp =>
    unfold readNumber at hp
    split at hp
    next => exact Integer.write?_of_ofDigits hp
    next => exact Integer.write?_of_ofDigits hp
  | _ => exact ⟨_, rfl⟩

/-- Every text is read as its sequence of tokens says: it is a command exactly when the tokens
are a sentence for that command; otherwise the first item after which no sentence can be reached
decides the fault, and nothing behind that item does. -/
theorem parse_follows_the_sentences (t : Text) :
    (∀ r, parse t = r ↔ Outcome (lex t) r) ∧
    (∀ u, parse t = .error (.unexpected u) →
      (∃ ts more, (lex t).tokens = ts ++ u :: more ∧
        ∀ s rest, (lex s).tokens = ts ++ u :: rest → parse s = parse t) ∧
      ∃ shown, u.value.text? = some shown ∧ (Failure.parse (.unexpected u)).message =
        "Syntax error at token " ++ u.kind.label ++ ": \"" ++ shown ++ "\"") ∧
    (Failure.parse .unexpectedEnd).message = "Syntax error at EOF" := by
  refine ⟨?_, ?_, rfl⟩
  · intro r
    constructor
    · intro h
      rw [← h]
      exact outcome_parse t
    · intro h
      exact (outcome_parse t).unique h
  · intro u hu
    have houtcome := outcome_parse t
    rw [hu] at houtcome ⊢
    obtain ⟨ts, more, hl, hsame⟩ := houtcome.of_tokens
    refine ⟨⟨ts, more, hl, ?_⟩, ?_⟩
    · intro s rest hs
      exact (outcome_parse s).unique (hsame (lex s) rest hs)
    · have hin : u ∈ (lex t).tokens := by
        rw [hl]
        exact List.mem_append_right ts List.mem_cons_self
      obtain ⟨shown, hshown⟩ := ((lexes_lex t).sound u hin).text?
      refine ⟨shown, hshown, ?_⟩
      have hmessage : (Failure.parse (.unexpected u)).message =
        "Syntax error at token " ++ u.kind.label ++ ": \"" ++ (u.value.text?).getD [] ++ "\"" := rfl
      rw [hmessage, hshown, Option.getD_some]

theorem second_word_of_the_sample :
    parse "EXIT NOW; @".toList = .error (.unexpected ⟨.name, .text "NOW".toList, 1, 5, "NOW".toList⟩) ∧
      ∃ ts more, (lex "EXIT NOW; @".toList).tokens =
        ts ++ ⟨.name, .text "NOW".toList, 1, 5, "NOW".toList⟩ :: more := by
  have h : parse "EXIT NOW; @".toList =
    .error (.unexpected ⟨.name, .text "NOW".toList, 1, 5, "NOW".toList⟩) := by rfl
  obtain ⟨⟨ts, more, hl, -⟩, -⟩ := (parse_follows_the_sentences _).2.1 _ h
  exact ⟨h, ts, more, hl⟩

end StatementShell.Command
