-- Where a statement ends, for the scan that cuts the input and for the lexer. The scan knows
-- quotes and nothing else; the lexer passes over comments, whatever they hold. The two agree as
-- long as no comment before the semicolon disturbs the scan.
import StatementShell.Proofs.CommandReading
import StatementShell.Proofs.QuoteGrammar

namespace StatementShell

/-- A neutral stretch moves the end of the statement behind it, wherever the two stand. -/
theorem Segment.Neutral.terminator?_append {p : Text} (h : Neutral p) (start : Nat) (t : Text) :
    (terminator? (p ++ t)).map (start + ·) = (terminator? t).map (start + p.length + ·) := by
  rw [h.terminator?_behind, Option.map_map]
  congr 1
  funext i
  simp only [Function.comp_apply]
  omega

namespace Command

open Segment (Neutral)

/-! ## Pieces and the scan -/

/-- The piece is a comment. -/
def Piece.IsComment (p : Piece) : Prop :=
  ∃ r, p.text = '-' :: '-' :: r ∨ p.text = '/' :: '*' :: r

theorem neutral_of_lexeme {s : Shape} {p : Text} (h : Lexeme s p) (hs : s ≠ .semicolon)
    (hc : ∀ r, p ≠ '-' :: '-' :: r ∧ p ≠ '/' :: '*' :: r) : Neutral p := by
  cases h with
  | blank hblank =>
    rcases hblank with rfl | rfl | rfl
    all_goals decide
  | lineComment _ => exact absurd rfl (hc _).1
  | blockComment _ => exact absurd rfl (hc _).2
  | newlines hr =>
    apply Segment.neutral_of_class (f := fun c => c == '\n') (by decide)
    intro c hin
    rcases List.mem_cons.1 hin with rfl | hin
    · rfl
    · simpa using hr c hin
  | equals => decide
  | semicolon => exact absurd rfl hs
  | name hfirst hrest =>
    apply Segment.neutral_of_class (f := fun c => isNamePart c || c == '.') (by decide)
    intro c hin
    rcases List.mem_cons.1 hin with rfl | hin
    · simp [isNamePart, hfirst]
    · simpa using hrest c hin
  | number _ hds => exact Segment.neutral_of_class (by decide) hds
  | negative _ hds =>
    apply Segment.neutral_of_class (f := fun c => Text.isDigit c || c == '-') (by decide)
    intro c hin
    rcases List.mem_cons.1 hin with rfl | hin
    · rfl
    · simp [hds c hin]
  | singleQuoted hbody => exact Segment.neutral_quoted (.inl rfl) hbody
  | doubleQuoted hbody => exact Segment.neutral_quoted (.inr rfl) hbody

theorem nameKind_ne_semicolon (p : Text) : nameKind p ≠ .semicolon := by
  unfold nameKind
  cases hk : keywords.lookup (p.map Text.keywordCapital) with
  | none => simp
  | some kind =>
    obtain ⟨before, after, hsplit, -⟩ := List.lookup_eq_some_iff.1 hk
    have hall : ∀ e ∈ keywords, e.2 ≠ .semicolon := by decide
    have hin : (p.map Text.keywordCapital, kind) ∈ keywords := by
      rw [hsplit]
      simp
    exact hall _ hin

theorem Means.semicolon_iff {s : Shape} {p : Text} {kind : TokenKind} {value : Value}
    (h : Means s p kind value) : kind = .semicolon ↔ s = .semicolon := by
  cases h with
  | name => simp [nameKind_ne_semicolon p]
  | _ => simp

/-- The token that ends a statement. -/
def Lexing.semicolon? (l : Lexing) : Option Token :=
  l.tokens.find? (fun u => u.kind == .semicolon)

/-- The pieces before the first semicolon. -/
def beforeSemicolon (ps : List Piece) : List Piece :=
  ps.takeWhile (fun p => p.shape != .semicolon)

theorem beforeSemicolon_cons {p : Piece} (h : p.shape ≠ .semicolon) (ps : List Piece) :
    beforeSemicolon (p :: ps) = p :: beforeSemicolon ps :=
  List.takeWhile_cons_of_pos (by simpa using h)

theorem neutral_of_piece {start : Nat} {s : Shape} {p r : Text}
    (hs : shape? (p ++ r) = some (s, p.length)) (hshape : s ≠ .semicolon)
    (hn : Piece.IsComment ⟨s, start, p⟩ → Neutral p) : Neutral p := by
  by_cases hcomment : Piece.IsComment ⟨s, start, p⟩
  · exact hn hcomment
  · apply neutral_of_lexeme (lexeme_of_piece hs) hshape
    intro r
    exact ⟨fun he => hcomment ⟨r, .inl he⟩, fun he => hcomment ⟨r, .inr he⟩⟩

theorem terminator?_of_lexes {start line : Nat} {t : Text} {ps : List Piece} {l : Lexing}
    (h : Lexes start line t ps l) (hf : l.fault? = none)
    (hn : ∀ p ∈ beforeSemicolon ps, p.IsComment → Neutral p.text) :
    (Segment.terminator? t).map (start + ·) = l.semicolon?.map (·.start) := by
  induction h with
  | finished => rfl
  | illegal => cases hf
  | tooLong => cases hf
  | @gap start line s p r ps l hs hgap _ ih =>
    have hshape : s ≠ .semicolon := by
      rintro rfl
      simp [Shape.IsGap] at hgap
    rw [beforeSemicolon_cons hshape] at hn
    have hneutral : Neutral p := neutral_of_piece hs hshape (hn _ List.mem_cons_self)
    rw [hneutral.terminator?_append]
    exact ih hf (fun q hq => hn q (List.mem_cons_of_mem _ hq))
  | @token start line s p r kind value ps l hs hm _ ih =>
    by_cases hshape : s = .semicolon
    · subst hshape
      cases hm
      cases lexeme_of_piece hs
      rfl
    · rw [beforeSemicolon_cons hshape] at hn
      have hneutral : Neutral p := neutral_of_piece hs hshape (hn _ List.mem_cons_self)
      have hkind : ¬ kind = .semicolon := fun he => hshape (hm.semicolon_iff.1 he)
      have hlater : (Lexing.token ⟨kind, value, line, start, p⟩ l).semicolon? = l.semicolon? :=
        List.find?_cons_of_neg (by simpa using hkind)
      rw [hneutral.terminator?_append, hlater]
      exact ih hf (fun q hq => hn q (List.mem_cons_of_mem _ hq))

/-! ## Commands -/

theorem find?_closing (ts : List Token) {us : List Token} (hts : ∀ t ∈ ts, t.kind ≠ .semicolon)
    (hus : Closing us) {u : Token} (hu : u ∈ ts ++ us) (hk : u.kind = .semicolon) :
    (ts ++ us).find? (fun u => u.kind == .semicolon) = some u := by
  have hnone : ts.find? (fun u => u.kind == .semicolon) = none := by
    rw [List.find?_eq_none]
    intro t ht
    simpa using hts t ht
  rw [List.find?_append, hnone, Option.none_or]
  rcases List.mem_append.1 hu with hu | hu
  · exact absurd hk (hts u hu)
  · cases hus with
    | nothing => cases hu
    | semicolon _ =>
      obtain rfl := List.mem_singleton.1 hu
      exact List.find?_cons_of_pos (by simpa using hk)

theorem Token.Names.ne_semicolon {t : Token} {name : Text} (h : t.Names name) :
    t.kind ≠ .semicolon := by
  rcases h.1 with hk | hk | hk <;> simp [hk]

theorem Token.Denotes.ne_semicolon {t : Token} {v : Value} (h : t.Denotes v) :
    t.kind ≠ .semicolon := by
  cases h with
  | quoted hk => rcases hk with hk | hk <;> simp [hk]
  | _ hk => simp [hk]

/-- A sentence has one semicolon at most. -/
theorem sentence_semicolon {ts : List Token} {c : Command} (h : Sentence ts c) {u : Token}
    (hu : u ∈ ts) (hk : u.kind = .semicolon) :
    ts.find? (fun u => u.kind == .semicolon) = some u := by
  cases h with
  | @exit t us ht hus =>
    apply find?_closing [t] _ hus hu hk
    rcases ht with ht | ht <;> simp [ht]
  | @setProperty t u n e d us name v ht hp hn he hd hus =>
    apply find?_closing [t, u, n, e, d] _ hus hu hk
    simp [ht, hp, hn.ne_semicolon, he, hd.ne_semicolon]
  | @showProperties t u us ht hp hus =>
    apply find?_closing [t, u] _ hus hu hk
    simp [ht, hp]
  | @showProperty t u n us name ht hp hn hus =>
    apply find?_closing [t, u, n] _ hus hu hk
    simp [ht, hp, hn.ne_semicolon]

/-- Where the comments before the first semicolon are neutral, the input is cut at the first
semicolon that the lexer sees, and a command at the one that ends it, whatever follows. -/
theorem statement_ends_at_the_semicolon (t : Text)
    (hn : ∀ p ∈ beforeSemicolon (pieces t), p.IsComment → Neutral p.text) :
    ((lex t).fault? = none → Segment.terminator? t = (lex t).semicolon?.map (·.start)) ∧
    ∀ c u, parse t = .ok c → u ∈ (lex t).tokens → u.kind = .semicolon → ∀ more,
      Segment.extract? (t ++ more) =
        some (t.take (u.start + 1), Text.trimFront (t.drop (u.start + 1) ++ more)) := by
  have hends (hf : (lex t).fault? = none) :
      Segment.terminator? t = (lex t).semicolon?.map (·.start) := by
    have h := terminator?_of_lexes (lexes_lex t) hf hn
    simpa using h
  refine ⟨hends, ?_⟩
  intro c u hc hu hk more
  obtain ⟨hf, hs⟩ := sentence_of_parse hc
  have hplace : Segment.terminator? t = some u.start := by
    rw [hends hf, Lexing.semicolon?, sentence_semicolon hs hu hk]
    rfl
  exact Segment.extract?_append hplace more

theorem ends_of_the_sample :
    Segment.terminator? "/* 'a;b' */ SHOW PROPERTIES;".toList = some 27 ∧
      Segment.extract? ("/* 'a;b' */ SHOW PROPERTIES;".toList ++ " EXIT;".toList) =
        some ("/* 'a;b' */ SHOW PROPERTIES;".toList, "EXIT;".toList) := by
  have hneutral : ∀ p ∈ beforeSemicolon (pieces "/* 'a;b' */ SHOW PROPERTIES;".toList),
      p.IsComment → Neutral p.text := by
    have hall : ∀ p ∈ beforeSemicolon (pieces "/* 'a;b' */ SHOW PROPERTIES;".toList),
      Neutral p.text := by decide
    exact fun p hp _ => hall p hp
  obtain ⟨hends, hcut⟩ := statement_ends_at_the_semicolon _ hneutral
  refine ⟨hends rfl, ?_⟩
  exact hcut .showProperties ⟨.semicolon, .text ";".toList, 1, 27, ";".toList⟩ rfl (by decide) rfl _

/-- An apostrophe in a comment opens quotes for the scan, so it never finds the semicolon. -/
theorem apostrophe_in_a_comment_hides_the_semicolon :
    ¬ ∀ t : Text, (lex t).fault? = none →
      Segment.terminator? t = (lex t).semicolon?.map (·.start) := by
  intro h
  have hsame := h "-- it's\nEXIT;".toList rfl
  have hmissed : Segment.terminator? "-- it's\nEXIT;".toList = none := by rfl
  have hseen : (lex "-- it's\nEXIT;".toList).semicolon?.map (·.start) = some 12 := by rfl
  rw [hmissed, hseen] at hsame
  cases hsame

end Command

end StatementShell
