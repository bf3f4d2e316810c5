-- Where the tokens of a text stand. Each stands behind a gap, and behind the last one is the end of
-- the text or a fault: `Arranged` says so item by item, and laws about places are inductions over
-- it. No lexeme depends on what follows it, so lexemes with blanks between them are read alike.
import StatementShell.Proofs.Gaps

namespace StatementShell.Command

/-! ## The pure model -/

/-- The lexeme is read as the token wherever nothing follows that goes on with it. -/
def Token.Firm (k : Token) : Prop :=
  ∃ s : Shape, Means s k.lexeme k.kind k.value ∧
    ∀ r, s.EndsBefore r → shape? (k.lexeme ++ r) = some (s, k.lexeme.length)

/-- How the items of a text stand in it, from a place on: each behind a gap, up to the end of the
text or to a fault. -/
inductive Arranged : Nat → Text → Lexing → Prop
  | finished {start : Nat} {g : Text} : LastGap g → Arranged start g .finished
  | illegal {start line : Nat} {c : Char} {g r : Text} : Gap g → shape? (c :: r) = none →
      Arranged start (g ++ c :: r) (.failed (.illegalCharacter c line))
  | tooLong {start n : Nat} {g p r : Text} : Gap g →
      shape? (p ++ r) = some (.number, p.length) → readNumber p = .error (.tooLong n) →
        Arranged start (g ++ (p ++ r)) (.failed (.tooManyDigits n))
  | token {start line : Nat} {g p r : Text} {s : Shape} {kind : TokenKind} {value : Value}
      {l : Lexing} : Gap g → shape? (p ++ r) = some (s, p.length) → Means s p kind value →
        Arranged (start + g.length + p.length) r l →
        Arranged start (g ++ (p ++ r)) (.token ⟨kind, value, line, start + g.length, p⟩ l)

/-! ## The items of a text -/

theorem Arranged.behind {start : Nat} {g t : Text} {l : Lexing} (hg : Gap g)
    (h : Arranged (start + g.length) t l) : Arranged start (g ++ t) l := by
  cases h with
  | finished hw => exact .finished (hw.behind hg)
  | illegal hw hs =>
    rw [← List.append_assoc]
    exact .illegal (hg.append hw) hs
  | tooLong hw hs hread =>
    rw [← List.append_assoc]
    exact .tooLong (hg.append hw) hs hread
  | @token _ _ w _ _ _ _ _ _ hw hs hm hrest =>
    have hplace : start + g.length + w.length = start + (g ++ w).length := by
      rw [List.length_append, Nat.add_assoc]
    rw [hplace] at hrest ⊢
    rw [← List.append_assoc]
    exact .token (hg.append hw) hs hm hrest

theorem arranged_lexFrom (start line : Nat) (t : Text) :
    Arranged start t (lexFrom 0 start line t) := by
  induction h : t.length using Nat.strongRecOn generalizing t start line with
  | _ k ih =>
    subst h
    rcases first_piece t with rfl | ⟨c, r, rfl, hs⟩ | ⟨s, p, r, rfl, hs, hshort⟩
    · exact .finished (.gap .nothing)
    · rw [lexFrom, hs]
      exact .illegal .nothing hs
    · rcases meaning_cases s p with ⟨hgap, -⟩ | ⟨kind, value, hm, -⟩ | ⟨n, rfl, hread, he⟩
      · rcases gap_of_shape? hs hgap with ⟨g, u, hsplit, hne, hg⟩ | hlast
        · rw [hsplit] at ih ⊢
          obtain ⟨lines, hl⟩ := lexFrom_gap hg start line u
          rw [hl]
          have hshort : u.length < (g ++ u).length := by
            have := List.length_pos_iff.2 hne
            rw [List.length_append]
            omega
          exact (ih _ hshort _ _ u rfl).behind hg
        · rw [lexFrom_lastGap hlast]
          exact .finished hlast
      · rw [lexFrom_piece hs hm]
        exact .token .nothing hs hm (ih _ hshort _ _ r rfl)
      · rw [(lexFrom_append hs start line).1 _ he]
        exact .tooLong .nothing hs hread

/-! ## Places -/

/-- The place up to which some tokens reach that stand behind a place. -/
def reached : Nat → List Token → Nat
  | start, [] => start
  | _, k :: ts => reached k.stop ts

/-- Nothing that the lexer knows begins here. -/
def NothingBegins (t : Text) : Prop := ∀ s p, Lexeme s p → ¬ p <+: t

/-- Why no token comes any more where only this is left of a text. -/
inductive Stop : Text → Option LexFault → Prop
  | finished {g : Text} : LastGap g → Stop g none
  | illegal {c : Char} {line : Nat} {g r : Text} : Gap g → NothingBegins (c :: r) →
      Stop (g ++ c :: r) (some (.illegalCharacter c line))
  | tooLong {g ds p r : Text} : Gap g → p = ds ∨ p = '-' :: ds →
      (∀ d ∈ ds, Text.isDigit d = true) → (∀ c ∈ r.head?, Text.isDigit c = false) →
        Integer.digitLimit < ds.length → Stop (g ++ (p ++ r)) (some (.tooManyDigits ds.length))

theorem exists_commentTail? (body r : Text) :
    ∃ n, commentTail? (body ++ '*' :: '/' :: r) = some n := by
  induction body with
  | nil => exact ⟨2, rfl⟩
  | cons c body ih =>
    obtain ⟨n, hn⟩ := ih
    rw [List.cons_append]
    unfold commentTail?
    split
    next he => cases he
    next => exact ⟨2, rfl⟩
    next he =>
      obtain ⟨-, rfl⟩ := List.cons.inj he
      exact ⟨n + 1, by rw [hn]; rfl⟩

theorem shape?_of_lexeme {s : Shape} {p : Text} (h : Lexeme s p) (r : Text) :
    ∃ q, shape? (p ++ r) = some q := by
  cases h with
  | blank hc =>
    rcases hc with rfl | rfl | rfl
    all_goals exact ⟨_, rfl⟩
  | lineComment _ => exact ⟨_, rfl⟩
  | blockComment body =>
    obtain ⟨n, hn⟩ := exists_commentTail? body r
    refine ⟨(.gap, n + 2), ?_⟩
    rw [List.cons_append, List.cons_append, List.append_assoc, shape?]
    exact congrArg _ hn
  | newlines _ => exact ⟨_, shape?_feed _⟩
  | equals => exact ⟨_, rfl⟩
  | semicolon => exact ⟨_, rfl⟩
  | name hc _ => exact ⟨_, shape?_name hc _⟩
  | number hne hds => exact ⟨_, shape?_number (.number hne hds) r⟩
  | negative hne hds => exact ⟨_, shape?_number (.negative hne hds) r⟩
  | singleQuoted hbody =>
    rw [List.cons_append, shape?, quoteTail?_append hbody]
    exact ⟨_, rfl⟩
  | doubleQuoted hbody =>
    rw [List.cons_append, shape?, quoteTail?_append hbody]
    exact ⟨_, rfl⟩

/-- The lexer takes something wherever something that it knows begins. -/
theorem nothingBegins_of_shape? {t : Text} (h : shape? t = none) : NothingBegins t := by
  rintro s p hp ⟨r, rfl⟩
  obtain ⟨q, hq⟩ := shape?_of_lexeme hp r
  rw [h] at hq
  cases hq

variable {start : Nat} {t : Text} {l : Lexing}

theorem Arranged.firm (h : Arranged start t l) : ∀ k ∈ l.tokens, k.Firm := by
  induction h with
  | finished _ => simp [Lexing.tokens]
  | illegal _ _ => simp [Lexing.tokens]
  | tooLong _ _ _ => simp [Lexing.tokens]
  | @token start line g p r s kind value l _ hs hm _ ih =>
    refine List.forall_mem_cons.2 ⟨⟨s, hm, fun u hu => ?_⟩, ih⟩
    exact shape?_of_endsBefore hs hm.not_isGap hu

/-- Every token stands in the text where its place says, behind a gap. -/
theorem Arranged.exists_gap (h : Arranged start t l) {before after : List Token} {k : Token}
    (hk : l.tokens = before ++ k :: after) :
    ∃ u g r, t = u ++ (g ++ (k.lexeme ++ r)) ∧ start + u.length = reached start before ∧ Gap g ∧
      k.start = start + u.length + g.length ∧ k.lexeme ≠ [] := by
  induction h generalizing before with
  | finished _ => simp [Lexing.tokens] at hk
  | illegal _ _ => simp [Lexing.tokens] at hk
  | tooLong _ _ _ => simp [Lexing.tokens] at hk
  | @token start line g p r s kind value l hg hs hm _ ih =>
    cases before with
    | nil =>
      obtain ⟨rfl, -⟩ := List.cons.inj hk
      exact ⟨[], g, r, rfl, rfl, hg, rfl, (lexeme_of_piece hs).ne_nil⟩
    | cons b before =>
      obtain ⟨rfl, hrest⟩ := List.cons.inj hk
      obtain ⟨u, w, v, rfl, hu, hw, hplace, hne⟩ := ih hrest
      refine ⟨g ++ p ++ u, w, v, by simp, ?_, hw, ?_, hne⟩
      · rw [reached, Token.stop, ← hu, List.length_append, List.length_append]
        omega
      · rw [hplace, List.length_append, List.length_append]
        omega

/-- Behind the last token stands what ends the reading. -/
theorem Arranged.exists_stop (h : Arranged start t l) :
    ∃ u r, t = u ++ r ∧ start + u.length = reached start l.tokens ∧ Stop r l.fault? := by
  induction h with
  | finished hg => exact ⟨[], _, rfl, rfl, .finished hg⟩
  | illegal hg hs => exact ⟨[], _, rfl, rfl, .illegal hg (nothingBegins_of_shape? hs)⟩
  | tooLong hg hs hread =>
    obtain ⟨ds, hp, hds, rfl, hlimit⟩ := digits_of_tooLong (lexeme_of_piece hs) hread
    exact ⟨[], _, rfl, rfl, .tooLong hg hp hds (endsBefore_of_number hs) hlimit⟩
  | @token start line g p r s kind value l _ _ _ _ ih =>
    obtain ⟨u, v, rfl, hu, hstop⟩ := ih
    refine ⟨g ++ p ++ u, v, by simp, ?_, hstop⟩
    rw [Lexing.tokens, reached, Token.stop, ← hu, List.length_append, List.length_append]
    omega

/-! ## Lexemes on their own -/

/-- What a token says. -/
def Token.meaning (k : Token) : TokenKind × Value := (k.kind, k.value)

theorem lexFrom_of_firm {k : Token} (hk : k.Firm) {r : Text}
    (hr : ∀ s : Shape, s.EndsBefore r) (start line : Nat) :
    lexFrom 0 start line (k.lexeme ++ r) =
      .token { k with line := line, start := start }
        (lexFrom 0 (start + k.lexeme.length) line r) := by
  obtain ⟨s, hm, hs⟩ := hk
  exact lexFrom_piece (hs r (hr s)) hm

theorem lexFrom_joined {ts : List Token} (h : ∀ k ∈ ts, k.Firm) (start line : Nat) :
    let l := lexFrom 0 start line (Text.joined [' '] (ts.map (·.lexeme)))
    l.fault? = none ∧ l.tokens.map Token.meaning = ts.map Token.meaning := by
  induction ts generalizing start line with
  | nil => exact ⟨rfl, rfl⟩
  | cons k ts ih =>
    obtain ⟨hk, hts⟩ := List.forall_mem_cons.1 h
    cases ts with
    | nil =>
      have hlast := lexFrom_of_firm hk (r := []) (fun s c hc => by cases hc) start line
      rw [List.append_nil] at hlast
      rw [List.map_singleton, Text.joined, hlast]
      exact ⟨rfl, rfl⟩
    | cons k' ts =>
      obtain ⟨n, hn⟩ := lexFrom_layout (c := ' ') (.inl rfl) (start + k.lexeme.length) line
        (Text.joined [' '] ((k' :: ts).map (·.lexeme)))
      have hblank := fun s => endsBefore_of_layout (c := ' ') (.inl rfl) s
        (Text.joined [' '] ((k' :: ts).map (·.lexeme)))
      obtain ⟨hfault, htokens⟩ := ih hts (start + k.lexeme.length + 1) (line + n)
      have hsplit : Text.joined [' '] ((k :: k' :: ts).map (·.lexeme)) =
          k.lexeme ++ ' ' :: Text.joined [' '] ((k' :: ts).map (·.lexeme)) := by
        simp [Text.joined]
      rw [hsplit, lexFrom_of_firm hk hblank, hn]
      exact ⟨hfault, congrArg (k.meaning :: ·) htokens⟩

/-! ## The law of places -/

/-- Tokens follow one another with nothing but gaps between them, up to the end of the text or to
the first place where nothing begins. What a token says depends on its lexeme alone. -/
theorem tokens_stand_between_gaps (t : Text) :
    (lex t).tokens.Pairwise (fun a b => a.start < b.start ∧ a.stop ≤ b.start) ∧
    (∀ before k after, (lex t).tokens = before ++ k :: after →
      ∃ u g r, t = u ++ (g ++ (k.lexeme ++ r)) ∧ u.length = reached 0 before ∧ Gap g ∧
        k.start = u.length + g.length ∧ k.lexeme ≠ []) ∧
    (∃ u r, t = u ++ r ∧ u.length = reached 0 (lex t).tokens ∧ Stop r (lex t).fault?) ∧
    (∀ c line, (lex t).fault? = some (.illegalCharacter c line) →
      let f := Failure.parse (.lexical (.illegalCharacter c line))
      f.kind = "ParsingException" ∧
        f.message = "Illegal character \"" ++ [c] ++ "\" at line " ++ Integer.digits line) ∧
    (∀ n, (lex t).fault? = some (.tooManyDigits n) →
      (Failure.parse (.lexical (.tooManyDigits n))).kind = "ValueError") ∧
    ((lex t).fault? = none →
      let u := Text.joined [' '] ((lex t).tokens.map (·.lexeme))
      (lex u).fault? = none ∧
        (lex u).tokens.map Token.meaning = (lex t).tokens.map Token.meaning) := by
  have h : Arranged 0 t (lex t) := arranged_lexFrom 0 1 t
  refine ⟨(lexes_lex t).pairwise, ?_, ?_, ?_, ?_, ?_⟩
  · intro before k after hk
    simpa using h.exists_gap hk
  · simpa using h.exists_stop
  · intro c line _
    exact ⟨rfl, rfl⟩
  · intro n _
    rfl
  · intro _
    exact lexFrom_joined h.firm 0 1

theorem places_of_the_sample :
    let t := "SET/* ; */limit = -5 -- 'x'".toList
    (lex "SET limit = -5".toList).tokens.map Token.meaning = (lex t).tokens.map Token.meaning ∧
      ∃ u g r, t = u ++ (g ++ ("limit".toList ++ r)) ∧ u.length = 3 ∧ Gap g ∧
        10 = u.length + g.length := by
  intro t
  obtain ⟨-, hgaps, -, -, -, hagain⟩ := tokens_stand_between_gaps t
  obtain ⟨u, g, r, hsplit, hu, hg, hplace, -⟩ :=
    hgaps [⟨.set, .text "SET", 1, 0, "SET"⟩] ⟨.name, .text "limit", 1, 10, "limit"⟩ _ rfl
  exact ⟨(hagain rfl).2, u, g, r, hsplit, hu, hg, hplace⟩

end StatementShell.Command
