-- What the lexer makes of a text, piece by piece. A piece is a stretch that the lexer takes at
-- once: a token, a run of line feeds, a blank or a comment. `Lexes` says all that the lexer can
-- do with a text; laws about tokens, gaps and faults are inductions over it.
import Mathlib.Data.List.TakeWhile
import StatementShell.Command.Lexer
import StatementShell.Text.Blank

namespace StatementShell.Command

/-! ## Lexemes -/

/-- The texts that a piece of some shape can have. -/
inductive Lexeme : Shape → Text → Prop
  | blank {c : Char} : c = ' ' ∨ c = '\t' ∨ c = '\r' → Lexeme .gap [c]
  | lineComment {body : Text} : '\n' ∉ body → Lexeme .gap ('-' :: '-' :: body)
  | blockComment (body : Text) : Lexeme .gap ('/' :: '*' :: (body ++ ['*', '/']))
  | newlines {r : Text} : (∀ c ∈ r, c = '\n') → Lexeme .newlines ('\n' :: r)
  | equals : Lexeme .equals ['=']
  | semicolon : Lexeme .semicolon [';']
  | name {c : Char} {r : Text} : isNameStart c = true → (∀ d ∈ r, isNamePart d = true ∨ d = '.') →
      Lexeme .name (c :: r)
  | number {ds : Text} : ds ≠ [] → (∀ d ∈ ds, Text.isDigit d = true) → Lexeme .number ds
  | negative {ds : Text} : ds ≠ [] → (∀ d ∈ ds, Text.isDigit d = true) →
      Lexeme .number ('-' :: ds)
  | singleQuoted {body : Text} : '\'' ∉ body → Lexeme .singleQuoted ('\'' :: (body ++ ['\'']))
  | doubleQuoted {body : Text} : '"' ∉ body → Lexeme .doubleQuoted ('"' :: (body ++ ['"']))

theorem Lexeme.ne_nil {s : Shape} {p : Text} (h : Lexeme s p) : p ≠ [] := by
  cases h with
  | number hds => exact hds
  | _ => simp

theorem range_of_isAlpha {c : Char} (h : c.isAlpha = true) :
    (65 ≤ c.toNat ∧ c.toNat ≤ 90) ∨ (97 ≤ c.toNat ∧ c.toNat ≤ 122) := by
  have hletter : (c.isUpper || c.isLower) = true := h
  rcases Bool.or_eq_true_iff.1 hletter with hcase | hcase
  · have hbounds : decide (c.val ≥ 65 ∧ c.val ≤ 90) = true := hcase
    exact .inl (by simpa [UInt32.le_iff_toNat_le] using hbounds)
  · have hbounds : (decide (c.val ≥ 97) && decide (c.val ≤ 122)) = true := hcase
    exact .inr (by simpa [UInt32.le_iff_toNat_le] using hbounds)

theorem isBlank_of_isAlpha {c : Char} (h : c.isAlpha = true) : Text.isBlank c = false := by
  have hrange := range_of_isAlpha h
  simp only [Text.isBlank, Text.Ranges.has, Text.blankRanges, List.any_cons, List.any_nil,
    Bool.or_false, Bool.or_eq_false_iff, Bool.and_eq_false_iff, decide_eq_false_iff_not]
  omega

theorem solid_of_isNameStart {c : Char} (h : isNameStart c = true) :
    Text.isBlank c = false ∧ c ≠ ';' := by
  constructor
  · simp only [isNameStart, Bool.or_eq_true, beq_iff_eq] at h
    rcases h with ((((h | rfl) | rfl) | rfl) | rfl) | rfl
    · exact isBlank_of_isAlpha h
    all_goals decide
  · rintro rfl
    revert h
    decide

theorem takeWhile_take {α : Type} (f : α → Bool) (l : List α) :
    (l.takeWhile f).length ≤ l.length ∧ l.take (l.takeWhile f).length = l.takeWhile f :=
  ⟨(List.takeWhile_prefix f).length_le,
    (List.prefix_iff_eq_take.1 (List.takeWhile_prefix f)).symm⟩

theorem digitRun_le (r : Text) : digitRun r ≤ r.length := (takeWhile_take Text.isDigit r).1

theorem isDigit_of_mem_digitRun {r : Text} {d : Char} (h : d ∈ r.take (digitRun r)) :
    Text.isDigit d = true := by
  rw [digitRun, (takeWhile_take Text.isDigit r).2] at h
  exact List.mem_takeWhile_imp h

/-- A comment goes on to the first closing mark. -/
theorem commentTail?_eq_some {r : Text} {n : Nat} (h : commentTail? r = some n) :
    ∃ body u, ¬ ['*', '/'] <:+: body ∧ r = body ++ '*' :: '/' :: u ∧ n = body.length + 2 := by
  induction r using commentTail?.induct generalizing n with
  | case1 => simp [commentTail?] at h
  | case2 r =>
    obtain rfl : 2 = n := by simpa [commentTail?] using h
    exact ⟨[], r, by simp, rfl, rfl⟩
  | case3 c r hopen ih =>
    rw [commentTail?.eq_3 c r hopen] at h
    obtain ⟨m, hm, rfl⟩ := Option.map_eq_some_iff.1 h
    obtain ⟨body, u, hbody, rfl, rfl⟩ := ih hm
    refine ⟨c :: body, u, ?_, rfl, rfl⟩
    rw [List.infix_cons_iff, not_or]
    refine ⟨?_, hbody⟩
    rintro ⟨v, hv⟩
    obtain ⟨rfl, rfl⟩ : c = '*' ∧ body = '/' :: v := by simpa [eq_comm] using hv
    exact hopen _ rfl rfl

theorem quoteTail?_eq_some {q : Char} {r : Text} {n : Nat} (h : quoteTail? q r = some n) :
    n ≤ r.length ∧ ∃ body, q ∉ body ∧ r.take n = body ++ [q] := by
  unfold quoteTail? at h
  split at h
  next hq =>
    obtain ⟨body, after, rfl, hbody⟩ := List.eq_append_cons_of_mem (List.contains_iff_mem.1 hq)
    have hwhile : (body ++ q :: after).takeWhile (· != q) = body := by
      rw [List.takeWhile_append_of_pos]
      · simp
      · intro c hc
        have : c ≠ q := fun e => hbody (e ▸ hc)
        simpa using this
    rw [hwhile] at h
    cases h
    refine ⟨by simp, body, hbody, ?_⟩
    rw [List.take_length_add_append]
    simp
  next => simp at h

theorem quoteTail?_append {q : Char} {v : Text} (h : q ∉ v) (r : Text) :
    quoteTail? q (v ++ [q] ++ r) = some (v.length + 1) := by
  have hv : ∀ c ∈ v, (c != q) = true := by
    intro c hc
    have hne : c ≠ q := fun he => h (he ▸ hc)
    simpa using hne
  rw [quoteTail?, if_pos (by simp), List.append_assoc, List.takeWhile_append_of_pos hv]
  simp

theorem nameTail_le (r : Text) : nameTail r ≤ r.length := by
  induction r using nameTail.induct with
  | case1 => simp [nameTail]
  | case2 d r hd ih => rw [nameTail, if_pos hd]; simp; omega
  | case3 d r hd => rw [nameTail, if_neg hd]; simp
  | case4 c r hpoint hc ih =>
    rw [nameTail.eq_3 c r hpoint, if_pos hc]
    simpa using ih
  | case5 c r hpoint hc =>
    rw [nameTail.eq_3 c r hpoint, if_neg hc]
    simp

theorem isNamePart_of_mem_nameTail {r : Text} {d : Char} (h : d ∈ r.take (nameTail r)) :
    isNamePart d = true ∨ d = '.' := by
  induction r using nameTail.induct with
  | case1 => simp at h
  | case2 e r he ih =>
    rw [nameTail, if_pos he] at h
    simp only [List.take_succ_cons, List.mem_cons] at h
    rcases h with rfl | rfl | h
    · exact .inr rfl
    · exact .inl he
    · exact ih h
  | case3 e r he => rw [nameTail, if_neg he] at h; simp at h
  | case4 c r hpoint hc ih =>
    rw [nameTail.eq_3 c r hpoint, if_pos hc, List.take_succ_cons] at h
    rcases List.mem_cons.1 h with rfl | h
    · exact .inl hc
    · exact ih h
  | case5 c r hpoint hc =>
    rw [nameTail.eq_3 c r hpoint, if_neg hc] at h
    simp at h

/-- What the lexer takes next is no longer than the text, and is a lexeme of its shape. -/
theorem lexeme_of_shape? {t : Text} {s : Shape} {n : Nat} (h : shape? t = some (s, n)) :
    n ≤ t.length ∧ Lexeme s (t.take n) := by
  unfold shape? at h
  split at h
  next => cases h
  next r =>
    obtain ⟨m, hm, he⟩ := Option.map_eq_some_iff.1 h
    cases he
    obtain ⟨body, u, -, rfl, rfl⟩ := commentTail?_eq_some hm
    refine ⟨by simp, ?_⟩
    rw [List.take_succ_cons, List.take_succ_cons, List.take_length_add_append]
    exact .blockComment body
  next r =>
    cases h
    obtain ⟨hlen, htake⟩ := takeWhile_take (· != '\n') r
    refine ⟨by simpa using hlen, ?_⟩
    rw [List.take_succ_cons, List.take_succ_cons, htake]
    refine .lineComment ?_
    intro hin
    have := List.mem_takeWhile_imp hin
    simp at this
  next r _ =>
    split at h
    next => cases h
    next hrun =>
      cases h
      refine ⟨by simpa using digitRun_le r, ?_⟩
      rw [List.take_succ_cons]
      refine .negative ?_ (fun d hd => isDigit_of_mem_digitRun hd)
      intro hnil
      rcases List.take_eq_nil_iff.1 hnil with h | rfl
      · exact hrun h
      · exact hrun rfl
  next r =>
    obtain ⟨m, hm, he⟩ := Option.map_eq_some_iff.1 h
    cases he
    obtain ⟨hlen, body, hq, hbody⟩ := quoteTail?_eq_some hm
    refine ⟨by simpa using hlen, ?_⟩
    rw [List.take_succ_cons, hbody]
    exact .singleQuoted hq
  next r =>
    obtain ⟨m, hm, he⟩ := Option.map_eq_some_iff.1 h
    cases he
    obtain ⟨hlen, body, hq, hbody⟩ := quoteTail?_eq_some hm
    refine ⟨by simpa using hlen, ?_⟩
    rw [List.take_succ_cons, hbody]
    exact .doubleQuoted hq
  next c r _ _ _ _ _ =>
    split_ifs at h with hblank hequals hsemicolon hname hdigit hfeed
    · cases h
      exact ⟨by simp, .blank hblank⟩
    · cases h
      subst hequals
      exact ⟨by simp, .equals⟩
    · cases h
      subst hsemicolon
      exact ⟨by simp, .semicolon⟩
    · cases h
      refine ⟨by simpa using nameTail_le r, ?_⟩
      rw [List.take_succ_cons]
      exact .name hname (fun d hd => isNamePart_of_mem_nameTail hd)
    · cases h
      refine ⟨by simpa using digitRun_le r, ?_⟩
      rw [List.take_succ_cons]
      refine .number (by simp) ?_
      intro d hd
      rcases List.mem_cons.1 hd with rfl | hd
      · exact hdigit
      · exact isDigit_of_mem_digitRun hd
    · cases h
      subst hfeed
      obtain ⟨hlen, htake⟩ := takeWhile_take (· == '\n') r
      refine ⟨by simpa using hlen, ?_⟩
      rw [List.take_succ_cons, htake]
      refine .newlines ?_
      intro d hd
      simpa using List.mem_takeWhile_imp hd

theorem lexeme_of_piece {p r : Text} {s : Shape} (h : shape? (p ++ r) = some (s, p.length)) :
    Lexeme s p := by
  simpa using (lexeme_of_shape? h).2

/-! ## Meanings -/

/-- The kinds and values of the tokens that pieces of some shape are. -/
inductive Means : Shape → Text → TokenKind → Value → Prop
  | equals {p : Text} : Means .equals p .equals (.text p)
  | semicolon {p : Text} : Means .semicolon p .semicolon (.text p)
  | name {p : Text} : Means .name p (nameKind p) (.text p)
  | number {p : Text} {i : Int} : readNumber p = .ok i → Means .number p .integer (.integer i)
  | singleQuoted {p : Text} : Means .singleQuoted p .singleQuoted (.text (unquote p))
  | doubleQuoted {p : Text} : Means .doubleQuoted p .doubleQuoted (.text (unquote p))

/-- The shapes of what stands between tokens. -/
def Shape.IsGap (s : Shape) : Prop := s = .gap ∨ s = .newlines

instance (s : Shape) : Decidable s.IsGap := inferInstanceAs (Decidable (_ ∨ _))

theorem meaning_of_isGap {s : Shape} (h : s.IsGap) (p : Text) : meaning s p = .ok none := by
  rcases h with rfl | rfl <;> rfl

theorem Means.not_isGap {s : Shape} {p : Text} {kind : TokenKind} {value : Value}
    (h : Means s p kind value) : ¬ s.IsGap := by
  rintro (rfl | rfl) <;> cases h

theorem ofDigits_ne_malformed (negative : Bool) (ds : Text) :
    Integer.ofDigits negative ds ≠ .error .malformed := by
  unfold Integer.ofDigits
  split <;> simp

theorem readNumber_ne_malformed (p : Text) : readNumber p ≠ .error .malformed := by
  unfold readNumber
  split
  · exact ofDigits_ne_malformed true _
  · exact ofDigits_ne_malformed false _

theorem ofDigits_eq_tooLong {negative : Bool} {ds : Text} {n : Nat}
    (h : Integer.ofDigits negative ds = .error (.tooLong n)) :
    ds.length = n ∧ Integer.digitLimit < n := by
  unfold Integer.ofDigits at h
  split at h
  next hlimit =>
    cases h
    exact ⟨rfl, hlimit⟩
  next => cases h

theorem digits_of_tooLong {p : Text} {n : Nat} (hp : Lexeme .number p)
    (h : readNumber p = .error (.tooLong n)) :
    ∃ ds, (p = ds ∨ p = '-' :: ds) ∧ (∀ d ∈ ds, Text.isDigit d = true) ∧ ds.length = n ∧
      Integer.digitLimit < n := by
  cases hp with
  | number hne hds =>
    have hread : readNumber p = Integer.ofDigits false p := by
      unfold readNumber
      split
      next => exact absurd (hds '-' List.mem_cons_self) (by decide)
      next => rfl
    rw [hread] at h
    exact ⟨p, .inl rfl, hds, ofDigits_eq_tooLong h⟩
  | @negative ds _ hds => exact ⟨ds, .inr rfl, hds, ofDigits_eq_tooLong h⟩

/-- A piece stands between tokens, or is a token, or is a number with too many digits. -/
theorem meaning_cases (s : Shape) (p : Text) :
    (s.IsGap ∧ meaning s p = .ok none) ∨
      (∃ kind value, Means s p kind value ∧ meaning s p = .ok (some (kind, value))) ∨
      ∃ n, s = .number ∧ readNumber p = .error (.tooLong n) ∧
        meaning s p = .error (.tooManyDigits n) := by
  cases s with
  | gap => exact .inl ⟨.inl rfl, rfl⟩
  | newlines => exact .inl ⟨.inr rfl, rfl⟩
  | equals => exact .inr (.inl ⟨_, _, .equals, rfl⟩)
  | semicolon => exact .inr (.inl ⟨_, _, .semicolon, rfl⟩)
  | name => exact .inr (.inl ⟨_, _, .name, rfl⟩)
  | singleQuoted => exact .inr (.inl ⟨_, _, .singleQuoted, rfl⟩)
  | doubleQuoted => exact .inr (.inl ⟨_, _, .doubleQuoted, rfl⟩)
  | number =>
    cases h : readNumber p with
    | ok i => exact .inr (.inl ⟨_, _, .number h, by simp [meaning, h]⟩)
    | error e =>
      cases e with
      | malformed => exact absurd h (readNumber_ne_malformed p)
      | tooLong n => exact .inr (.inr ⟨n, rfl, rfl, by simp [meaning, h]⟩)

/-! ## The lexer, piece by piece -/

/-- A stretch of text that the lexer takes at once. -/
structure Piece where
  shape : Shape
  start : Nat
  text : Text
  deriving DecidableEq, Repr

/-- The pieces of a text that begins at a place, after as many characters as are still to be
skipped. -/
def piecesFrom : Nat → Nat → Text → List Piece
  | _, _, [] => []
  | skip + 1, start, _ :: r => piecesFrom skip (start + 1) r
  | 0, start, c :: r =>
    match shape? (c :: r) with
    | none => []
    | some (shape, n) => ⟨shape, start, (c :: r).take n⟩ :: piecesFrom (n - 1) (start + 1) r

/-- The pieces of a text, up to its end or to the first place where nothing fits. -/
def pieces (t : Text) : List Piece := piecesFrom 0 0 t

/-- All that the lexer can do with a text that begins at a place and a line. -/
inductive Lexes : Nat → Nat → Text → List Piece → Lexing → Prop
  | finished {start line : Nat} : Lexes start line [] [] .finished
  | illegal {start line : Nat} {c : Char} {r : Text} : shape? (c :: r) = none →
      Lexes start line (c :: r) [] (.failed (.illegalCharacter c line))
  | tooLong {start line n : Nat} {p r : Text} {ps : List Piece} :
      shape? (p ++ r) = some (.number, p.length) → readNumber p = .error (.tooLong n) →
        Lexes start line (p ++ r) ps (.failed (.tooManyDigits n))
  | gap {start line : Nat} {s : Shape} {p r : Text} {ps : List Piece} {l : Lexing} :
      shape? (p ++ r) = some (s, p.length) → s.IsGap →
        Lexes (start + p.length) (line + lineStep s p) r ps l →
        Lexes start line (p ++ r) (⟨s, start, p⟩ :: ps) l
  | token {start line : Nat} {s : Shape} {p r : Text} {kind : TokenKind} {value : Value}
      {ps : List Piece} {l : Lexing} :
      shape? (p ++ r) = some (s, p.length) → Means s p kind value →
        Lexes (start + p.length) line r ps l →
        Lexes start line (p ++ r) (⟨s, start, p⟩ :: ps) (.token ⟨kind, value, line, start, p⟩ l)

theorem lexFrom_skip (k start line : Nat) (t : Text) :
    lexFrom k start line t = lexFrom 0 (start + k) line (t.drop k) := by
  induction t generalizing k start with
  | nil => cases k <;> simp [lexFrom]
  | cons c r ih =>
    cases k with
    | zero => rfl
    | succ k =>
      rw [lexFrom, ih, List.drop_succ_cons]
      congr 1
      omega

theorem piecesFrom_skip (k start : Nat) (t : Text) :
    piecesFrom k start t = piecesFrom 0 (start + k) (t.drop k) := by
  induction t generalizing k start with
  | nil => cases k <;> simp [piecesFrom]
  | cons c r ih =>
    cases k with
    | zero => rfl
    | succ k =>
      rw [piecesFrom, ih, List.drop_succ_cons]
      congr 1
      omega

theorem lineStep_of_means {s : Shape} {p : Text} {kind : TokenKind} {value : Value}
    (h : Means s p kind value) : lineStep s p = 0 := by
  cases h <;> rfl

/-- What the lexer does with a piece, whatever follows. -/
theorem lexFrom_append {s : Shape} {p r : Text} (hs : shape? (p ++ r) = some (s, p.length))
    (start line : Nat) :
    let rest := lexFrom 0 (start + p.length) (line + lineStep s p) r
    (∀ e, meaning s p = .error e → lexFrom 0 start line (p ++ r) = .failed e) ∧
    (meaning s p = .ok none → lexFrom 0 start line (p ++ r) = rest) ∧
    ∀ kind value, meaning s p = .ok (some (kind, value)) →
      lexFrom 0 start line (p ++ r) = .token ⟨kind, value, line, start, p⟩ rest := by
  cases p with
  | nil => exact absurd rfl (lexeme_of_piece hs).ne_nil
  | cons c p =>
    have htake : (c :: (p ++ r)).take (c :: p).length = c :: p := List.take_left
    have hstart : start + 1 + p.length = start + (c :: p).length := by
      rw [List.length_cons]
      omega
    rw [List.cons_append] at hs ⊢
    rw [lexFrom, hs]
    dsimp only
    rw [htake, lexFrom_skip, List.length_cons, Nat.add_sub_cancel, List.drop_left, hstart,
      ← List.length_cons]
    refine ⟨?_, ?_, ?_⟩
    · intro e he
      rw [he]
    · intro hm
      rw [hm]
    · intro kind value hm
      rw [hm]

/-- A piece that is a token is read as this token, whatever follows. -/
theorem lexFrom_piece {start line : Nat} {s : Shape} {p r : Text} {kind : TokenKind} {v : Value}
    (hs : shape? (p ++ r) = some (s, p.length)) (hm : Means s p kind v) :
    lexFrom 0 start line (p ++ r) =
      .token ⟨kind, v, line, start, p⟩ (lexFrom 0 (start + p.length) line r) := by
  have hmeaning : meaning s p = .ok (some (kind, v)) := by
    cases hm with
    | number hread => rw [meaning, hread]
    | _ => rfl
  have hread := (lexFrom_append hs start line).2.2 kind v hmeaning
  rwa [lineStep_of_means hm] at hread

/-- The first of the pieces, whatever follows. -/
theorem piecesFrom_append {s : Shape} {p r : Text} (hs : shape? (p ++ r) = some (s, p.length))
    (start : Nat) :
    piecesFrom 0 start (p ++ r) = ⟨s, start, p⟩ :: piecesFrom 0 (start + p.length) r := by
  cases p with
  | nil => exact absurd rfl (lexeme_of_piece hs).ne_nil
  | cons c p =>
    have htake : (c :: (p ++ r)).take (c :: p).length = c :: p := List.take_left
    have hstart : start + 1 + p.length = start + (c :: p).length := by
      rw [List.length_cons]
      omega
    rw [List.cons_append] at hs ⊢
    rw [piecesFrom, hs]
    dsimp only
    rw [htake, piecesFrom_skip, List.length_cons, Nat.add_sub_cancel, List.drop_left, hstart,
      ← List.length_cons]

/-- What the lexer takes first. -/
theorem first_piece (t : Text) :
    t = [] ∨ (∃ c r, t = c :: r ∧ shape? (c :: r) = none) ∨
      ∃ s p r, t = p ++ r ∧ shape? (p ++ r) = some (s, p.length) ∧ r.length < (p ++ r).length := by
  cases t with
  | nil => exact .inl rfl
  | cons c r =>
    cases hs : shape? (c :: r) with
    | none => exact .inr (.inl ⟨c, r, rfl, hs⟩)
    | some q =>
      obtain ⟨s, n⟩ := q
      obtain ⟨hlen, hp⟩ := lexeme_of_shape? hs
      have hpos := List.length_pos_iff.2 hp.ne_nil
      refine .inr (.inr ⟨s, (c :: r).take n, (c :: r).drop n, ?_, ?_, ?_⟩)
      · rw [List.take_append_drop]
      · rw [List.take_append_drop, List.length_take_of_le hlen, hs]
      · rw [List.length_append]
        omega

theorem lexes_lexFrom (start line : Nat) (t : Text) :
    Lexes start line t (piecesFrom 0 start t) (lexFrom 0 start line t) := by
  induction h : t.length using Nat.strongRecOn generalizing t start line with
  | _ k ih =>
    subst h
    rcases first_piece t with rfl | ⟨c, r, rfl, hs⟩ | ⟨s, p, r, rfl, hs, hshort⟩
    · exact .finished
    · rw [lexFrom, piecesFrom, hs]
      exact .illegal hs
    · obtain ⟨hfailed, hgone, htoken⟩ := lexFrom_append hs start line
      have hrest := ih r.length hshort (start + p.length) (line + lineStep s p) r rfl
      rw [piecesFrom_append hs]
      rcases meaning_cases s p with ⟨hgap, hm⟩ | ⟨kind, value, hmeans, hm⟩ | ⟨n, rfl, hread, he⟩
      · rw [hgone hm]
        exact .gap hs hgap hrest
      · rw [htoken kind value hm]
        rw [lineStep_of_means hmeans] at hrest ⊢
        exact .token hs hmeans hrest
      · rw [hfailed _ he]
        exact .tooLong hs hread

theorem lexes_lex (t : Text) : Lexes 0 1 t (pieces t) (lex t) := lexes_lexFrom 0 1 t

/-! ## Tokens -/

/-- What a token says is what its lexeme means. -/
def Token.Sound (t : Token) : Prop :=
  ∃ s, Lexeme s t.lexeme ∧ Means s t.lexeme t.kind t.value

theorem Lexes.sound {start line : Nat} {t : Text} {ps : List Piece} {l : Lexing}
    (h : Lexes start line t ps l) : ∀ u ∈ l.tokens, u.Sound := by
  induction h with
  | finished => simp [Lexing.tokens]
  | illegal => simp [Lexing.tokens]
  | tooLong => simp [Lexing.tokens]
  | gap _ _ _ ih => exact ih
  | token hs hm _ ih =>
    intro u hu
    rcases List.mem_cons.1 hu with rfl | hu
    · exact ⟨_, lexeme_of_piece hs, hm⟩
    · exact ih u hu

theorem Lexes.lexeme_sublist {start line : Nat} {t : Text} {ps : List Piece} {l : Lexing}
    (h : Lexes start line t ps l) : ∀ u ∈ l.tokens, u.lexeme.Sublist t := by
  induction h with
  | finished => simp [Lexing.tokens]
  | illegal => simp [Lexing.tokens]
  | tooLong => simp [Lexing.tokens]
  | gap _ _ _ ih =>
    intro u hu
    exact (ih u hu).trans (List.sublist_append_right _ _)
  | token _ _ _ ih =>
    intro u hu
    rcases List.mem_cons.1 hu with rfl | hu
    · exact List.sublist_append_left _ _
    · exact (ih u hu).trans (List.sublist_append_right _ _)

theorem Lexes.le_start {start line : Nat} {t : Text} {ps : List Piece} {l : Lexing}
    (h : Lexes start line t ps l) : ∀ k ∈ l.tokens, start ≤ k.start := by
  induction h with
  | finished => simp [Lexing.tokens]
  | illegal _ => simp [Lexing.tokens]
  | tooLong _ _ => simp [Lexing.tokens]
  | gap _ _ _ ih => exact fun k hk => (Nat.le_add_right _ _).trans (ih k hk)
  | token _ _ _ ih =>
    exact List.forall_mem_cons.2
      ⟨Nat.le_refl _, fun k hk => (Nat.le_add_right _ _).trans (ih k hk)⟩

/-- The tokens of a text follow one another, and no two overlap. -/
theorem Lexes.pairwise {start line : Nat} {t : Text} {ps : List Piece} {l : Lexing}
    (h : Lexes start line t ps l) :
    l.tokens.Pairwise (fun a b => a.start < b.start ∧ a.stop ≤ b.start) := by
  induction h with
  | finished => exact .nil
  | illegal _ => exact .nil
  | tooLong _ _ => exact .nil
  | gap _ _ _ ih => exact ih
  | token hs _ hrest ih =>
    refine List.pairwise_cons.2 ⟨fun k hk => ?_, ih⟩
    have hstart := hrest.le_start k hk
    have hlength := List.length_pos_iff.2 (lexeme_of_piece hs).ne_nil
    simp only [Token.stop]
    omega

end StatementShell.Command
