-- Gaps. What may stand between two tokens is blanks and whole comments, and the lexer passes over
-- them whatever they hold and whatever follows. A token does not see what follows it either, as
-- long as that does not go on with it.
import StatementShell.Proofs.LeadingBlanks

namespace StatementShell.Command

/-! ## The pure model -/

/-- What may stand before a token: blanks and whole comments, one after the other. -/
inductive Gap : Text → Prop
  | nothing : Gap []
  | blank {c : Char} {g : Text} : IsLayout c → Gap g → Gap (c :: g)
  | lineComment {body g : Text} : '\n' ∉ body → Gap g →
      Gap ('-' :: '-' :: (body ++ '\n' :: g))
  | blockComment {body g : Text} : ¬ ['*', '/'] <:+: body → Gap g →
      Gap ('/' :: '*' :: (body ++ '*' :: '/' :: g))

/-- What may stand behind the last token: the end of the text ends a comment, too. -/
inductive LastGap : Text → Prop
  | gap {g : Text} : Gap g → LastGap g
  | comment {g body : Text} : Gap g → '\n' ∉ body → LastGap (g ++ '-' :: '-' :: body)

/-- What follows does not go on with a token of the shape. -/
def Shape.EndsBefore (s : Shape) (r : Text) : Prop :=
  ∀ c ∈ r.head?, (s = .name → isNamePart c = false ∧ c ≠ '.') ∧
    (s = .number → Text.isDigit c = false)

/-! ## Where a piece begins -/

/-- The characters that the lexer tries before it looks for a name or a number. -/
def marks : Text := ['/', '-', '\'', '"', ' ', '\t', '\r', '=', ';']

theorem notMem_marks {f : Char → Bool} (hf : marks.all (fun d => !f d) = true) {c : Char}
    (hc : f c = true) : c ∉ marks := by
  intro hin
  have hd := List.all_eq_true.1 hf c hin
  rw [hc] at hd
  cases hd

theorem shape?_of_notMem {c : Char} (h : c ∉ marks) (r : Text) :
    shape? (c :: r) =
      if isNameStart c then some (.name, nameTail r + 1)
      else if Text.isDigit c then some (.number, digitRun r + 1)
      else if c = '\n' then some (.newlines, (r.takeWhile (· == '\n')).length + 1)
      else none := by
  have hne {d : Char} (hd : d ∈ marks) : c ≠ d := fun he => h (he ▸ hd)
  have hspace : c ≠ ' ' := hne (by decide)
  have htab : c ≠ '\t' := hne (by decide)
  have hreturn : c ≠ '\r' := hne (by decide)
  rw [shape?.eq_7 c r (fun _ h _ => hne (by decide) h) (fun _ h _ => hne (by decide) h)
    (hne (by decide)) (hne (by decide)) (hne (by decide)),
    if_neg (by simp [hspace, htab, hreturn]), if_neg (hne (by decide)), if_neg (hne (by decide))]

theorem shape?_name {c : Char} (hc : isNameStart c = true) (r : Text) :
    shape? (c :: r) = some (.name, nameTail r + 1) := by
  rw [shape?_of_notMem (notMem_marks (by decide) hc), if_pos hc]

theorem isDigit_of_isNameStart {c : Char} (h : isNameStart c = true) : Text.isDigit c = false := by
  simp only [isNameStart, Bool.or_eq_true, beq_iff_eq] at h
  rcases h with ((((h | rfl) | rfl) | rfl) | rfl) | rfl
  · have hrange := range_of_isAlpha h
    have hdigit : c.isDigit = false := by
      simp only [Char.isDigit, UInt32.le_iff_toNat_le, Bool.and_eq_false_iff,
        decide_eq_false_iff_not, ge_iff_le]
      change ¬ 48 ≤ c.toNat ∨ ¬ c.toNat ≤ 57
      omega
    rw [Text.isDigit, Text.digitValue?, if_pos (by omega), hdigit]
    rfl
  all_goals decide

theorem shape?_digit {c : Char} (hc : Text.isDigit c = true) (r : Text) :
    shape? (c :: r) = some (.number, digitRun r + 1) := by
  have hname : ¬ isNameStart c = true := by
    intro h
    rw [isDigit_of_isNameStart h] at hc
    cases hc
  rw [shape?_of_notMem (notMem_marks (by decide) hc), if_neg hname, if_pos hc]

theorem digitRun_append {ds r : Text} (hds : ∀ d ∈ ds, Text.isDigit d = true) :
    digitRun (ds ++ r) = ds.length + digitRun r := by
  rw [digitRun, List.takeWhile_append_of_pos hds, List.length_append]
  rfl

theorem digitRun_eq_zero_iff {r : Text} :
    digitRun r = 0 ↔ ∀ c ∈ r.head?, Text.isDigit c = false := by
  cases r with
  | nil => simp [digitRun]
  | cons c r => by_cases hc : Text.isDigit c = true <;> simp [digitRun, hc]

theorem shape?_negative {d : Char} (hd : Text.isDigit d = true) (r : Text) :
    shape? ('-' :: d :: r) = some (.number, digitRun (d :: r) + 1) := by
  have hminus : d ≠ '-' := by
    rintro rfl
    exact absurd hd (by decide)
  have hrun : digitRun (d :: r) ≠ 0 := by
    rw [digitRun, List.takeWhile_cons_of_pos hd]
    simp
  rw [shape?.eq_4 (d :: r) (fun _ h => hminus (List.cons.inj h).1), if_neg hrun]

/-- A number goes as far as there are digits. -/
theorem shape?_number {p : Text} (hp : Lexeme .number p) (r : Text) :
    shape? (p ++ r) = some (.number, p.length + digitRun r) := by
  cases hp with
  | number hne hds =>
    obtain ⟨d, ds, rfl⟩ := List.exists_cons_of_ne_nil hne
    obtain ⟨hd, hds⟩ := List.forall_mem_cons.1 hds
    rw [List.cons_append, shape?_digit hd, digitRun_append hds, List.length_cons,
      Nat.add_right_comm]
  | negative hne hds =>
    obtain ⟨d, ds, rfl⟩ := List.exists_cons_of_ne_nil hne
    rw [List.cons_append, List.cons_append, shape?_negative (hds d List.mem_cons_self),
      ← List.cons_append, digitRun_append hds]
    simp only [List.length_cons, Option.some.injEq, Prod.mk.injEq, true_and]
    omega

theorem endsBefore_of_number {p r : Text} (hs : shape? (p ++ r) = some (.number, p.length)) :
    ∀ c ∈ r.head?, Text.isDigit c = false := by
  rw [shape?_number (lexeme_of_piece hs)] at hs
  exact digitRun_eq_zero_iff.1 (by simpa using hs)

/-! ### Names -/

theorem nameTail_of_endsBefore {r : Text} (h : Shape.name.EndsBefore r) : nameTail r = 0 := by
  cases r with
  | nil => rfl
  | cons c r =>
    obtain ⟨hpart, hpoint⟩ := (h c rfl).1 rfl
    rw [nameTail.eq_3 c r (fun _ _ hc _ => hpoint hc), if_neg (by simp [hpart])]

theorem nameTail_cons {c : Char} (hc : isNamePart c = true) (t : Text) :
    nameTail (c :: t) = nameTail t + 1 := by
  rw [nameTail.eq_3 c t, if_pos hc]
  rintro d v rfl -
  exact absurd hc (by decide)

/-- A name goes as far in front of any text that does not go on with it. -/
theorem nameTail_append {q r : Text} (h : nameTail (q ++ r) = q.length) :
    nameTail r = 0 ∧ ∀ u, nameTail u = 0 → nameTail (q ++ u) = q.length := by
  induction q using nameTail.induct with
  | case1 => exact ⟨h, fun u hu => hu⟩
  | case2 d q hd ih =>
    have hgo (t : Text) : nameTail ('.' :: d :: (q ++ t)) = nameTail (q ++ t) + 2 := by
      rw [nameTail, if_pos hd]
    rw [List.cons_append, List.cons_append, hgo] at h
    obtain ⟨hr, hall⟩ := ih (by simpa using h)
    refine ⟨hr, fun u hu => ?_⟩
    rw [List.cons_append, List.cons_append, hgo, hall u hu]
    rfl
  | case3 d q hd =>
    rw [List.cons_append, List.cons_append, nameTail, if_neg hd] at h
    simp at h
  | case4 c q hpoint hc ih =>
    rw [List.cons_append, nameTail_cons hc] at h
    obtain ⟨hr, hall⟩ := ih (by simpa using h)
    refine ⟨hr, fun u hu => ?_⟩
    rw [List.cons_append, nameTail_cons hc, hall u hu]
    rfl
  | case5 c q hpoint hc =>
    -- a point that is the last character of the lexeme would have taken the next one along
    rw [List.cons_append, List.length_cons] at h
    unfold nameTail at h
    split at h
    next he => cases he
    next d v he =>
      obtain ⟨rfl, he⟩ := List.cons.inj he
      cases q with
      | nil => split at h <;> simp at h
      | cons e q => exact absurd rfl (hpoint _ _ rfl)
    next he =>
      obtain ⟨rfl, rfl⟩ := List.cons.inj he
      rw [if_neg hc] at h
      simp at h

/-! ### Tokens -/

theorem endsBefore_of_head {s : Shape} {c : Char} (h : isNamePart c = false ∧ c ≠ '.')
    (hdigit : Text.isDigit c = false) (r : Text) : s.EndsBefore (c :: r) := by
  intro d hd
  obtain rfl : c = d := by simpa using hd
  exact ⟨fun _ => h, fun _ => hdigit⟩

theorem endsBefore_cons {s : Shape} {c : Char} {r : Text} (h : s.EndsBefore (c :: r)) (u : Text) :
    s.EndsBefore (c :: u) :=
  fun d hd => h d (by simpa using hd)

/-- A token is taken alike in front of any text that does not go on with it. -/
theorem shape?_of_endsBefore {s : Shape} {p r u : Text}
    (hs : shape? (p ++ r) = some (s, p.length)) (hgap : ¬ s.IsGap) (hu : s.EndsBefore u) :
    shape? (p ++ u) = some (s, p.length) := by
  have hnumber {p : Text} (hp : Lexeme .number p) (hu : Shape.number.EndsBefore u) :
      shape? (p ++ u) = some (.number, p.length) := by
    rw [shape?_number hp, digitRun_eq_zero_iff.2 (fun c hc => (hu c hc).2 rfl)]
    rfl
  have hp := lexeme_of_piece hs
  cases hp with
  | blank _ => exact absurd (.inl rfl) hgap
  | lineComment _ => exact absurd (.inl rfl) hgap
  | blockComment _ => exact absurd (.inl rfl) hgap
  | newlines _ => exact absurd (.inr rfl) hgap
  | equals => rfl
  | semicolon => rfl
  | @name c q hc _ =>
    rw [List.cons_append, shape?_name hc] at hs ⊢
    have htail : nameTail (q ++ r) = q.length := by simpa using hs
    rw [(nameTail_append htail).2 u (nameTail_of_endsBefore hu)]
    rfl
  | number hne hds => exact hnumber (.number hne hds) hu
  | negative hne hds => exact hnumber (.negative hne hds) hu
  | singleQuoted hbody =>
    rw [List.cons_append, shape?, quoteTail?_append hbody]
    simp
  | doubleQuoted hbody =>
    rw [List.cons_append, shape?, quoteTail?_append hbody]
    simp

/-! ## Gaps -/

theorem Gap.append {g w : Text} (hg : Gap g) (hw : Gap w) : Gap (g ++ w) := by
  induction hg with
  | nothing => exact hw
  | blank hc _ ih => exact .blank hc ih
  | lineComment hbody _ ih =>
    rw [List.cons_append, List.cons_append, List.append_assoc, List.cons_append]
    exact .lineComment hbody ih
  | blockComment hbody _ ih =>
    rw [List.cons_append, List.cons_append, List.append_assoc, List.cons_append, List.cons_append]
    exact .blockComment hbody ih

theorem gap_of_layouts {g : Text} (h : ∀ c ∈ g, IsLayout c) : Gap g := by
  induction g with
  | nil => exact .nothing
  | cons c g ih =>
    obtain ⟨hc, hg⟩ := List.forall_mem_cons.1 h
    exact .blank hc (ih hg)

theorem LastGap.behind {g w : Text} (hg : Gap g) (hw : LastGap w) : LastGap (g ++ w) := by
  cases hw with
  | gap hw => exact .gap (hg.append hw)
  | comment hw hbody =>
    rw [← List.append_assoc]
    exact .comment (hg.append hw) hbody

/-- A comment ends at its first closing mark. -/
theorem commentTail?_append {body : Text} (h : ¬ ['*', '/'] <:+: body) (r : Text) :
    commentTail? (body ++ '*' :: '/' :: r) = some (body.length + 2) := by
  induction body with
  | nil => rfl
  | cons c body ih =>
    rw [List.infix_cons_iff, not_or] at h
    have hopen : ∀ v, c = '*' → body ++ '*' :: '/' :: r = '/' :: v → False := by
      rintro v rfl he
      cases body with
      | nil => simp at he
      | cons d body =>
        obtain ⟨rfl, -⟩ := List.cons.inj he
        exact h.1 ⟨body, rfl⟩
    rw [List.cons_append, commentTail?.eq_3 c _ hopen, ih h.2]
    rfl

theorem shape?_blockComment {body : Text} (h : ¬ ['*', '/'] <:+: body) (r : Text) :
    shape? ('/' :: '*' :: (body ++ ['*', '/']) ++ r) =
      some (.gap, ('/' :: '*' :: (body ++ ['*', '/'])).length) := by
  have hopen : '/' :: '*' :: (body ++ ['*', '/']) ++ r =
      '/' :: '*' :: (body ++ '*' :: '/' :: r) := by simp
  rw [hopen, shape?, commentTail?_append h]
  simp

theorem notFeed {body : Text} (h : '\n' ∉ body) : ∀ c ∈ body, (c != '\n') = true := by
  intro c hc
  have hne : c ≠ '\n' := fun he => h (he ▸ hc)
  simpa using hne

theorem shape?_lineComment {body r : Text} (h : '\n' ∉ body) (hr : ∀ c ∈ r.head?, c = '\n') :
    shape? ('-' :: '-' :: body ++ r) = some (.gap, ('-' :: '-' :: body).length) := by
  have hrest : r.takeWhile (· != '\n') = [] := by
    cases r with
    | nil => rfl
    | cons c r =>
      rw [hr c rfl]
      rfl
  rw [List.cons_append, List.cons_append, shape?, List.takeWhile_append_of_pos (notFeed h), hrest]
  simp

/-- What the lexer passes over at once is the beginning of a gap, or a comment at the end. -/
theorem gap_of_shape? {s : Shape} {p r : Text} (hs : shape? (p ++ r) = some (s, p.length))
    (hgap : s.IsGap) :
    (∃ g u, p ++ r = g ++ u ∧ g ≠ [] ∧ Gap g) ∨ LastGap (p ++ r) := by
  have hp := lexeme_of_piece hs
  rcases hgap with rfl | rfl
  · cases hp with
    | blank hc =>
      have hlayout : IsLayout _ := hc.imp_right (Or.imp_right .inl)
      exact .inl ⟨_, r, rfl, by simp, .blank hlayout .nothing⟩
    | @lineComment body hbody =>
      cases r with
      | nil =>
        rw [List.append_nil]
        exact .inr (.comment .nothing hbody)
      | cons c r =>
        obtain rfl : c = '\n' := by
          by_contra hc
          rw [List.cons_append, List.cons_append, shape?,
            List.takeWhile_append_of_pos (notFeed hbody),
            List.takeWhile_cons_of_pos (by simpa using hc)] at hs
          simp at hs
        refine .inl ⟨'-' :: '-' :: (body ++ ['\n']), r, by simp, by simp, ?_⟩
        exact .lineComment hbody .nothing
    | blockComment body =>
      rw [List.cons_append, List.cons_append, shape?] at hs
      obtain ⟨m, hm, he⟩ := Option.map_eq_some_iff.1 hs
      obtain ⟨b, u, hb, hsplit, rfl⟩ := commentTail?_eq_some hm
      have hlength : b.length = body.length := by simpa using he
      obtain ⟨rfl, -⟩ : b = body ∧ _ := List.append_inj (by simpa using hsplit.symm) hlength
      exact .inl ⟨_, r, rfl, by simp, .blockComment hb .nothing⟩
  · cases hp with
    | newlines hq =>
      refine .inl ⟨_, r, rfl, by simp, gap_of_layouts ?_⟩
      refine List.forall_mem_cons.2 ⟨.inr (.inr (.inr rfl)), ?_⟩
      exact fun c hc => .inr (.inr (.inr (hq c hc)))

theorem endsBefore_of_layout {c : Char} (hc : IsLayout c) (s : Shape) (r : Text) :
    s.EndsBefore (c :: r) := by
  rcases hc with rfl | rfl | rfl | rfl
  all_goals exact endsBefore_of_head (by decide) (by decide) r

/-- No token goes on with a gap. -/
theorem endsBefore_of_gap {g : Text} (hg : Gap g) (hne : g ≠ []) (s : Shape) (r : Text) :
    s.EndsBefore (g ++ r) := by
  cases hg with
  | nothing => exact absurd rfl hne
  | blank hc _ => exact endsBefore_of_layout hc s _
  | lineComment _ _ => exact endsBefore_of_head (by decide) (by decide) _
  | blockComment _ _ => exact endsBefore_of_head (by decide) (by decide) _

theorem lexFrom_of_isGap {s : Shape} {p r : Text} (hs : shape? (p ++ r) = some (s, p.length))
    (hgap : s.IsGap) (start line : Nat) :
    lexFrom 0 start line (p ++ r) = lexFrom 0 (start + p.length) (line + lineStep s p) r :=
  (lexFrom_append hs start line).2.1 (meaning_of_isGap hgap p)

/-- The lexer passes over a gap, whatever follows. -/
theorem lexFrom_gap {g : Text} (hg : Gap g) (start line : Nat) (t : Text) :
    ∃ lines, lexFrom 0 start line (g ++ t) = lexFrom 0 (start + g.length) (line + lines) t := by
  induction hg generalizing start line with
  | nothing => exact ⟨0, rfl⟩
  | @blank c g hc _ ih =>
    obtain ⟨k, hk⟩ := lexFrom_layout hc start line (g ++ t)
    obtain ⟨n, hn⟩ := ih (start + 1) (line + k)
    refine ⟨k + n, ?_⟩
    rw [List.cons_append, hk, hn, List.length_cons]
    congr 1 <;> omega
  | @lineComment body g hbody _ ih =>
    have hs := shape?_lineComment hbody (r := '\n' :: (g ++ t)) (by simp)
    obtain ⟨n, hn⟩ := ih (start + ('-' :: '-' :: body).length + 1) (line + 0 + 1)
    refine ⟨1 + n, ?_⟩
    have hsplit : '-' :: '-' :: (body ++ '\n' :: g) ++ t =
        '-' :: '-' :: body ++ '\n' :: (g ++ t) := by simp
    rw [hsplit, lexFrom_of_isGap hs (.inl rfl), lexFrom_feed, lineStep, if_neg (by simp), hn]
    simp only [List.length_cons, List.length_append]
    congr 1 <;> omega
  | @blockComment body g hbody _ ih =>
    have hs := shape?_blockComment hbody (g ++ t)
    obtain ⟨n, hn⟩ := ih (start + ('/' :: '*' :: (body ++ ['*', '/'])).length) (line + 0)
    refine ⟨n, ?_⟩
    have hsplit : '/' :: '*' :: (body ++ '*' :: '/' :: g) ++ t =
        '/' :: '*' :: (body ++ ['*', '/']) ++ (g ++ t) := by simp
    rw [hsplit, lexFrom_of_isGap hs (.inl rfl), lineStep, if_neg (by simp), hn]
    simp only [List.length_cons, List.length_append, List.length_nil]
    congr 1
    omega

theorem lexFrom_lastGap {g : Text} (hg : LastGap g) (start line : Nat) :
    lexFrom 0 start line g = .finished := by
  cases hg with
  | gap hg =>
    obtain ⟨lines, h⟩ := lexFrom_gap hg start line []
    rw [List.append_nil] at h
    rw [h, lexFrom]
  | @comment g body hg hbody =>
    obtain ⟨lines, h⟩ := lexFrom_gap hg start line ('-' :: '-' :: body)
    have hs := shape?_lineComment hbody (r := []) (by simp)
    have hlast := lexFrom_of_isGap hs (.inl rfl) (start + g.length) (line + lines)
    rw [List.append_nil] at hlast
    rw [h, hlast, lexFrom]

end StatementShell.Command
