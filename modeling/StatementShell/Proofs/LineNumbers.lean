-- The lines that the lexer counts. A line feed counts if it stands between tokens, as a piece of
-- its own; those inside a comment or a quoted text are passed over with the rest of the piece. So a
-- line is right exactly where no such piece before it has a line feed.
import StatementShell.Proofs.TokenPlaces

namespace StatementShell.Command

/-! ## The pure model -/

/-- The shapes of the pieces that hide line feeds: blanks and comments, and quoted texts. -/
def Shape.hides (s : Shape) : Bool := s == .gap || s == .singleQuoted || s == .doubleQuoted

/-- How many line feeds are hidden in pieces that begin before a place. -/
def hiddenFeeds (ps : List Piece) (place : Nat) : Nat :=
  ((ps.filter (fun p => decide (p.start < place) && p.shape.hides)).flatMap (·.text)).count '\n'

/-- The line that the lexer gives to a place: all line feeds before it are counted, but for the
hidden ones. -/
def LineAt (t : Text) (place line : Nat) : Prop :=
  line + hiddenFeeds (pieces t) place = 1 + (t.take place).count '\n'

/-! ## Piece by piece -/

theorem hiddenFeeds_cons {p : Piece} {place : Nat} (h : p.start < place) (ps : List Piece) :
    hiddenFeeds (p :: ps) place =
      (if p.shape.hides = true then p.text.count '\n' else 0) + hiddenFeeds ps place := by
  unfold hiddenFeeds
  by_cases hp : p.shape.hides = true
  · rw [List.filter_cons_of_pos (by simp [h, hp]), List.flatMap_cons, List.count_append, if_pos hp]
  · rw [List.filter_cons_of_neg (by simp [hp]), if_neg hp, Nat.zero_add]

theorem hiddenFeeds_eq_zero_iff {ps : List Piece} {place : Nat} :
    hiddenFeeds ps place = 0 ↔
      ∀ p ∈ ps, p.start < place → p.shape.hides = true → '\n' ∉ p.text := by
  simp only [hiddenFeeds, List.count_eq_zero, List.mem_flatMap, List.mem_filter,
    Bool.and_eq_true, decide_eq_true_eq, not_exists, not_and, and_imp]

theorem hiddenFeeds_of_le {ps : List Piece} {place : Nat} (h : ∀ p ∈ ps, place ≤ p.start) :
    hiddenFeeds ps place = 0 :=
  hiddenFeeds_eq_zero_iff.2 (fun p hp hbefore => absurd (h p hp) (Nat.not_le.2 hbefore))

/-- The line feeds of a piece are counted by the lexer, or hidden in it. -/
theorem count_feeds {s : Shape} {p : Text} (h : Lexeme s p) :
    lineStep s p + (if s.hides = true then p.count '\n' else 0) = p.count '\n' := by
  have hclass {f : Char → Bool} (hf : f '\n' = false) {q : Text} (hq : ∀ c ∈ q, f c = true) :
      0 = q.count '\n' := by
    refine (List.count_eq_zero_of_not_mem ?_).symm
    intro hin
    exact absurd (hq _ hin) (by simp [hf])
  -- a line feed is in no name and no number, and all other pieces count theirs or hide them
  cases h with
  | blank _ => exact Nat.zero_add _
  | lineComment _ => exact Nat.zero_add _
  | blockComment _ => exact Nat.zero_add _
  | singleQuoted _ => exact Nat.zero_add _
  | doubleQuoted _ => exact Nat.zero_add _
  | newlines hr =>
    have hall : ∀ c ∈ '\n' :: _, '\n' = c :=
      List.forall_mem_cons.2 ⟨rfl, fun c hc => (hr c hc).symm⟩
    exact (List.count_eq_length.2 hall).symm
  | equals => rfl
  | semicolon => rfl
  | name hc hr =>
    refine hclass (f := fun c => isNamePart c || c == '.') (by decide) ?_
    refine List.forall_mem_cons.2 ⟨by simp [isNamePart, hc], fun c hin => ?_⟩
    simpa using hr c hin
  | number _ hds => exact hclass (by decide) hds
  | negative _ hds =>
    refine hclass (f := fun c => Text.isDigit c || c == '-') (by decide) ?_
    exact List.forall_mem_cons.2 ⟨rfl, fun c hin => by simp [hds c hin]⟩

/-- The pieces of a text follow one another. -/
theorem start_piecesFrom (start : Nat) (t : Text) :
    (∀ p ∈ piecesFrom 0 start t, start ≤ p.start) ∧
      (piecesFrom 0 start t).Pairwise (fun a b => a.start + a.text.length ≤ b.start) := by
  induction h : t.length using Nat.strongRecOn generalizing t start with
  | _ k ih =>
    subst h
    rcases first_piece t with rfl | ⟨c, r, rfl, hs⟩ | ⟨s, p, r, rfl, hs, hshort⟩
    · simp [piecesFrom]
    · simp [piecesFrom, hs]
    · obtain ⟨hstart, hpairs⟩ := ih r.length hshort (start + p.length) r rfl
      rw [piecesFrom_append hs]
      refine ⟨List.forall_mem_cons.2 ⟨Nat.le_refl _, fun q hq => ?_⟩,
        List.pairwise_cons.2 ⟨hstart, hpairs⟩⟩
      exact (Nat.le_add_right _ _).trans (hstart q hq)

theorem pieces_pairwise (t : Text) :
    (pieces t).Pairwise (fun a b => a.start + a.text.length ≤ b.start) :=
  (start_piecesFrom 0 t).2

/-! ## Lines -/

/-- A piece adds its line feeds to those before a place behind it, counted or not. -/
theorem feeds_behind {start place : Nat} {s : Shape} {p : Text} (hp : Lexeme s p)
    (hplace : start + p.length ≤ place) (r : Text) (ps : List Piece) :
    lineStep s p + hiddenFeeds (⟨s, start, p⟩ :: ps) place +
        (r.take (place - (start + p.length))).count '\n' =
      hiddenFeeds ps place + ((p ++ r).take (place - start)).count '\n' := by
  have hlength := List.length_pos_iff.2 hp.ne_nil
  have hbefore : start < place := by omega
  have htake : (p ++ r).take (place - start) = p ++ r.take (place - (start + p.length)) := by
    rw [List.take_append, List.take_of_length_le (by omega), Nat.sub_sub]
  have hfeeds := count_feeds hp
  rw [hiddenFeeds_cons (p := ⟨s, start, p⟩) hbefore, htake, List.count_append]
  dsimp only
  omega

theorem Lexes.line_token {start line : Nat} {t : Text} {ps : List Piece} {l : Lexing}
    (h : Lexes start line t ps l)
    (hps : ps.Pairwise (fun a b => a.start + a.text.length ≤ b.start)) :
    ∀ k ∈ l.tokens,
      k.line + hiddenFeeds ps k.start = line + (t.take (k.start - start)).count '\n' := by
  induction h with
  | finished => simp [Lexing.tokens]
  | illegal _ => simp [Lexing.tokens]
  | tooLong _ _ => simp [Lexing.tokens]
  | @gap start line s p r ps l hs _ hrest ih =>
    intro k hk
    have hline := ih (List.pairwise_cons.1 hps).2 k hk
    have hfeeds := feeds_behind (lexeme_of_piece hs) (hrest.le_start k hk) r ps
    omega
  | @token start line s p r kind value ps l hs hm hrest ih =>
    obtain ⟨hstarts, hps⟩ := List.pairwise_cons.1 hps
    refine List.forall_mem_cons.2 ⟨?_, fun k hk => ?_⟩
    · have hnone : hiddenFeeds (⟨s, start, p⟩ :: ps) start = 0 :=
        hiddenFeeds_of_le (List.forall_mem_cons.2
          ⟨Nat.le_refl _, fun q hq => (Nat.le_add_right _ _).trans (hstarts q hq)⟩)
      dsimp only
      rw [hnone, Nat.sub_self]
      rfl
    · have hline := ih hps k hk
      have hfeeds := feeds_behind (lexeme_of_piece hs) (hrest.le_start k hk) r ps
      rw [lineStep_of_means hm] at hfeeds
      omega

theorem feeds_within {s : Shape} {p : Text} (hp : Lexeme s p) (start : Nat) (u : Text)
    (ps : List Piece) :
    lineStep s p + hiddenFeeds (⟨s, start, p⟩ :: ps) (start + (p ++ u).length) + u.count '\n' =
      hiddenFeeds ps (start + p.length + u.length) + (p ++ u).count '\n' := by
  have hplace : start + (p ++ u).length = start + p.length + u.length := by
    rw [List.length_append, Nat.add_assoc]
  have hfeeds := feeds_behind hp (Nat.le_add_right (start + p.length) u.length) u ps
  have hwhole : start + p.length + u.length - start = (p ++ u).length := by
    rw [List.length_append]
    omega
  rw [Nat.add_sub_cancel_left, List.take_length, hwhole, List.take_length] at hfeeds
  rw [hplace]
  exact hfeeds

/-- The pieces end where a character fits nowhere. -/
theorem Lexes.line_illegal {start line : Nat} {t : Text} {ps : List Piece} {l : Lexing}
    (h : Lexes start line t ps l) {c : Char} {n : Nat}
    (hf : l.fault? = some (.illegalCharacter c n)) :
    ∃ u r, t = u ++ c :: r ∧ shape? (c :: r) = none ∧ u = ps.flatMap (·.text) ∧
      n + hiddenFeeds ps (start + u.length) = line + u.count '\n' := by
  induction h with
  | finished => cases hf
  | @illegal start line c r hs =>
    cases hf
    exact ⟨[], r, rfl, hs, rfl, rfl⟩
  | tooLong _ _ => cases hf
  | @gap start line s p r ps l hs _ _ ih =>
    obtain ⟨u, v, rfl, hnone, hu, hline⟩ := ih hf
    refine ⟨p ++ u, v, by simp, hnone, by rw [List.flatMap_cons, hu], ?_⟩
    have hfeeds := feeds_within (lexeme_of_piece hs) start u ps
    omega
  | @token start line s p r kind value ps l hs hm _ ih =>
    obtain ⟨u, v, rfl, hnone, hu, hline⟩ := ih hf
    refine ⟨p ++ u, v, by simp, hnone, by rw [List.flatMap_cons, hu], ?_⟩
    have hfeeds := feeds_within (lexeme_of_piece hs) start u ps
    rw [lineStep_of_means hm] at hfeeds
    omega

/-! ## The law of lines -/

/-- A line is the number of line feeds before its place, and one more, less those that are hidden in
comments and quoted texts. -/
theorem lines_leave_out_hidden_feeds (t : Text) :
    (∀ k ∈ (lex t).tokens, LineAt t k.start k.line) ∧
    (∀ c line, (lex t).fault? = some (.illegalCharacter c line) →
      ∃ u r, t = u ++ c :: r ∧ NothingBegins (c :: r) ∧ u = (pieces t).flatMap (·.text) ∧
        LineAt t u.length line) ∧
    ∀ place line, LineAt t place line →
      (line = 1 + (t.take place).count '\n' ↔
        ∀ p ∈ pieces t, p.start < place → p.shape.hides = true → '\n' ∉ p.text) := by
  refine ⟨?_, ?_, ?_⟩
  · exact (lexes_lex t).line_token (pieces_pairwise t)
  · intro c line hf
    obtain ⟨u, r, rfl, hs, hu, hline⟩ := (lexes_lex t).line_illegal hf
    refine ⟨u, r, rfl, nothingBegins_of_shape? hs, hu, ?_⟩
    rw [Nat.zero_add] at hline
    rw [LineAt, List.take_left]
    exact hline
  · intro place line hline
    rw [← hiddenFeeds_eq_zero_iff]
    unfold LineAt at hline
    omega

theorem lines_of_the_sample :
    let t := "'a\nb' x\n#".toList
    LineAt t 6 1 ∧ ¬ (∀ p ∈ pieces t, p.start < 6 → p.shape.hides = true → '\n' ∉ p.text) ∧
      ∃ u r, t = u ++ '#' :: r ∧ NothingBegins ('#' :: r) ∧ LineAt t u.length 2 := by
  intro t
  obtain ⟨htokens, hillegal, hiff⟩ := lines_leave_out_hidden_feeds t
  have hx : LineAt t 6 1 :=
    htokens ⟨.name, .text "x", 1, 6, "x"⟩ (List.mem_cons_of_mem _ List.mem_cons_self)
  obtain ⟨u, r, hsplit, hnothing, -, hline⟩ := hillegal '#' 2 rfl
  refine ⟨hx, fun hnone => ?_, u, r, hsplit, hnothing, hline⟩
  exact absurd ((hiff 6 1 hx).2 hnone) (by decide)

/-- The line feed in the comment is before the command, which is on the second line. -/
theorem line_feed_in_a_comment_is_not_counted :
    ¬ ∀ t : Text, ∀ k ∈ (lex t).tokens, k.line = 1 + (t.take k.start).count '\n' := by
  intro h
  have hline := h "/*\n*/ EXIT".toList ⟨.exit, .text "EXIT", 1, 6, "EXIT"⟩ List.mem_cons_self
  exact absurd hline (by decide)

end StatementShell.Command
