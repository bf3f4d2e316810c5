-- Layout and case. A text whose tokens are laid out anew, with more gaps before and behind them and
-- with keywords in other capitals, has the same tokens to a reader of commands: a gap goes on with
-- no token, and a keyword is a name in all its spellings. So it is the same command.
import StatementShell.Proofs.CommandReading
import StatementShell.Proofs.TokenPlaces

namespace StatementShell.Command

/-! ## The pure model -/

/-- The kinds of token that are kept words. -/
def keywordKinds : List TokenKind := keywords.map Prod.snd

/-- The token may be spelled so: a keyword in any capitals and small letters of ASCII. -/
def Token.SpelledAs (k : Token) (q : Text) : Prop :=
  q = k.lexeme ∨ (k.kind ∈ keywordKinds ∧ q.map Char.toUpper = k.lexeme.map Char.toUpper)

/-- A text from a place on, and the same text with more gaps before and behind its tokens and with
other spellings of its keywords. -/
inductive Relaid : Nat → List Token → Text → Text → Prop
  | rest {start : Nat} {t : Text} : Relaid start [] t t
  | token {start : Nat} {k : Token} {ks : List Token} {g w q v r u : Text} :
      k.start = start + g.length → Gap w → k.SpelledAs q → Gap v → Relaid k.stop ks r u →
        Relaid start (k :: ks) (g ++ (k.lexeme ++ r)) (g ++ (w ++ (q ++ (v ++ u))))

/-- The two tokens are the same to a reader of commands, who does not look at the spelling of a
keyword. -/
def Token.Alike (k m : Token) : Prop :=
  k.kind = m.kind ∧ (k.kind ∈ keywordKinds ∨ k.value = m.value)

/-! ## Spellings -/

theorem toUpper_of_not_ascii {c : Char} (h : 128 ≤ c.toNat) : c.toUpper = c := by
  refine dif_neg ?_
  rintro ⟨-, hz⟩
  have hz : c.toNat ≤ 122 := UInt32.le_iff_toNat_le.1 hz
  omega

/-- What holds of the characters of ASCII is seen by trying them. -/
theorem ascii_cases {p : Char → Prop} (hascii : ∀ n < 128, p (Char.ofNat n)) {c : Char}
    (h : c.toNat < 128) : p c := by
  have := hascii c.toNat h
  rwa [Char.ofNat_toNat] at this

theorem keywordCapital_toUpper (c : Char) :
    Text.keywordCapital c.toUpper = Text.keywordCapital c := by
  by_cases h : c.toNat < 128
  · exact ascii_cases (p := fun c => Text.keywordCapital c.toUpper = Text.keywordCapital c)
      (by decide) h
  · rw [toUpper_of_not_ascii (by omega)]

theorem nameKind_of_toUpper {p q : Text} (h : q.map Char.toUpper = p.map Char.toUpper) :
    nameKind q = nameKind p := by
  have hcapitals : q.map Text.keywordCapital = p.map Text.keywordCapital := by
    have hmap (t : Text) : (t.map Char.toUpper).map Text.keywordCapital =
        t.map Text.keywordCapital := by
      rw [List.map_map]
      exact List.map_congr_left (fun c _ => keywordCapital_toUpper c)
    rw [← hmap q, h, hmap p]
  rw [nameKind, hcapitals]
  rfl

/-- A letter of a keyword may stand in a name. -/
theorem isNameStart_of_keywordCapital {c : Char} (h : (Text.keywordCapital c).isUpper = true) :
    isNameStart c = true := by
  by_cases hc : c.toNat < 128
  · exact ascii_cases (p := fun c => (Text.keywordCapital c).isUpper = true → isNameStart c = true)
      (by decide) hc h
  · unfold Text.keywordCapital at h
    split_ifs at h with hi hs
    · rw [hi]
      decide
    · rw [hs]
      decide
    · rw [toUpper_of_not_ascii (by omega)] at h
      have halpha : c.isAlpha = true := by
        change (c.isUpper || c.isLower) = true
        rw [h]
        rfl
      rcases range_of_isAlpha halpha with hrange | hrange <;> omega

theorem isNameStart_of_keyword {p : Text} (h : nameKind p ∈ keywordKinds) :
    p ≠ [] ∧ ∀ c ∈ p, isNameStart c = true := by
  unfold nameKind at h
  cases hk : keywords.lookup (p.map Text.keywordCapital) with
  | none =>
    rw [hk] at h
    exact absurd h (by decide)
  | some kind =>
    obtain ⟨before, after, hsplit, -⟩ := List.lookup_eq_some_iff.1 hk
    have hin : (p.map Text.keywordCapital, kind) ∈ keywords := by
      rw [hsplit]
      simp
    have hall : ∀ e ∈ keywords, e.1 ≠ [] ∧ (e.1.all Char.isUpper) = true := by decide
    obtain ⟨hne, hletters⟩ := hall _ hin
    refine ⟨by simpa using hne, fun c hc => ?_⟩
    exact isNameStart_of_keywordCapital
      (List.all_eq_true.1 hletters _ (List.mem_map_of_mem hc))

theorem nameTail_of_parts {q r : Text} (hq : ∀ c ∈ q, isNamePart c = true)
    (hr : nameTail r = 0) : nameTail (q ++ r) = q.length := by
  induction q with
  | nil => exact hr
  | cons c q ih =>
    obtain ⟨hc, hq⟩ := List.forall_mem_cons.1 hq
    rw [List.cons_append, nameTail_cons hc, ih hq]
    rfl

/-- A keyword is taken alike in all its spellings. -/
theorem shape?_of_spelling {p q r : Text} (hp : nameKind p ∈ keywordKinds)
    (hq : q.map Char.toUpper = p.map Char.toUpper) (hr : Shape.name.EndsBefore r) :
    shape? (q ++ r) = some (.name, q.length) := by
  obtain ⟨hne, hall⟩ := isNameStart_of_keyword (p := q) (by rwa [nameKind_of_toUpper hq])
  cases q with
  | nil => exact absurd rfl hne
  | cons c q =>
    obtain ⟨hc, hstarts⟩ := List.forall_mem_cons.1 hall
    have hparts : ∀ d ∈ q, isNamePart d = true := fun d hd => by
      rw [isNamePart, hstarts d hd]
      rfl
    rw [List.cons_append, shape?_name hc, nameTail_of_parts hparts (nameTail_of_endsBefore hr)]
    rfl

/-! ## Sentences -/

theorem Token.Alike.value_eq {k m : Token} (h : k.Alike m) (hk : k.kind ∉ keywordKinds) :
    k.value = m.value := h.2.resolve_left hk

theorem Token.Alike.names {k m : Token} (h : k.Alike m) {name : Text} (hk : k.Names name) :
    m.Names name := by
  obtain ⟨hkind, hvalue⟩ := hk
  have hplain : k.kind ∉ keywordKinds := by
    rcases hkind with hkind | hkind | hkind <;> rw [hkind] <;> decide
  exact ⟨h.1 ▸ hkind, (h.value_eq hplain).symm.trans hvalue⟩

theorem Token.Alike.denotes {k m : Token} (h : k.Alike m) {v : Value} (hk : k.Denotes v) :
    m.Denotes v := by
  cases hk with
  | number hkind =>
    rw [h.value_eq (by rw [hkind]; decide)]
    exact .number (h.1 ▸ hkind)
  | quoted hkind =>
    rw [h.value_eq (by rcases hkind with hkind | hkind <;> rw [hkind] <;> decide)]
    exact .quoted (h.1 ▸ hkind)
  | trueWord hkind => exact .trueWord (h.1 ▸ hkind)
  | falseWord hkind => exact .falseWord (h.1 ▸ hkind)

theorem closing_of_alike {ts us : List Token} (h : List.Forall₂ Token.Alike ts us)
    (hts : Closing ts) : Closing us := by
  cases hts with
  | nothing =>
    cases h
    exact .nothing
  | semicolon hkind =>
    obtain _ | ⟨hk, _ | _⟩ := h
    exact .semicolon (hk.1 ▸ hkind)

theorem sentence_of_alike {ts us : List Token} {c : Command} (h : List.Forall₂ Token.Alike ts us)
    (hts : Sentence ts c) : Sentence us c := by
  cases hts with
  | exit ht hc =>
    obtain _ | ⟨h1, hrest⟩ := h
    exact .exit (h1.1 ▸ ht) (closing_of_alike hrest hc)
  | setProperty ht hu hn he hd hc =>
    obtain _ | ⟨h1, _ | ⟨h2, _ | ⟨h3, _ | ⟨h4, _ | ⟨h5, hrest⟩⟩⟩⟩⟩ := h
    exact .setProperty (h1.1 ▸ ht) (h2.1 ▸ hu) (h3.names hn) (h4.1 ▸ he) (h5.denotes hd)
      (closing_of_alike hrest hc)
  | showProperties ht hu hc =>
    obtain _ | ⟨h1, _ | ⟨h2, hrest⟩⟩ := h
    exact .showProperties (h1.1 ▸ ht) (h2.1 ▸ hu) (closing_of_alike hrest hc)
  | showProperty ht hu hn hc =>
    obtain _ | ⟨h1, _ | ⟨h2, _ | ⟨h3, hrest⟩⟩⟩ := h
    exact .showProperty (h1.1 ▸ ht) (h2.1 ▸ hu) (h3.names hn) (closing_of_alike hrest hc)

/-! ## What follows a token -/

theorem shape?_of_gap {g : Text} (hg : Gap g) (hne : g ≠ []) (r : Text) :
    ∃ q, shape? (g ++ r) = some q := by
  cases hg with
  | nothing => exact absurd rfl hne
  | blank hc _ =>
    rcases hc with rfl | rfl | rfl | rfl
    · exact ⟨_, rfl⟩
    · exact ⟨_, rfl⟩
    · exact ⟨_, rfl⟩
    · exact ⟨_, shape?_feed _⟩
  | lineComment _ _ => exact ⟨_, rfl⟩
  | @blockComment body g _ _ =>
    have hsplit : '/' :: '*' :: (body ++ '*' :: '/' :: g) ++ r =
        '/' :: '*' :: (body ++ ['*', '/']) ++ (g ++ r) := by simp
    rw [hsplit]
    exact shape?_of_lexeme (.blockComment body) (g ++ r)

theorem Arranged.exists_shape? {start : Nat} {t : Text} {l : Lexing} (h : Arranged start t l)
    (hf : l.fault? = none) (hne : t ≠ []) : ∃ q, shape? t = some q := by
  cases h with
  | finished hg =>
    cases hg with
    | gap hg =>
      rw [← List.append_nil t]
      exact shape?_of_gap hg hne []
    | @comment g body hg hbody =>
      by_cases hgap : g = []
      · rw [hgap]
        exact ⟨_, rfl⟩
      · exact shape?_of_gap hg hgap _
  | illegal _ _ => cases hf
  | tooLong _ _ _ => cases hf
  | @token _ _ g p r _ _ _ _ hg hs _ _ =>
    by_cases hgap : g = []
    · rw [hgap]
      exact ⟨_, hs⟩
    · exact shape?_of_gap hg hgap _

/-- In a text that is read without fault no token could go on with what follows it. -/
theorem endsBefore_of_arranged {start : Nat} {s : Shape} {p r : Text} {l : Lexing}
    (hs : shape? (p ++ r) = some (s, p.length)) (h : Arranged start r l) (hf : l.fault? = none) :
    s.EndsBefore r := by
  intro c hc
  refine ⟨?_, ?_⟩
  · rintro rfl
    have hp := lexeme_of_piece hs
    cases hp with
    | @name d q hd _ =>
      rw [List.cons_append, shape?_name hd] at hs
      have hr : nameTail r = 0 := (nameTail_append (by simpa using hs)).1
      cases r with
      | nil => cases hc
      | cons e r =>
        obtain rfl : e = c := by simpa using hc
        have hpoint : e ≠ '.' := by
          rintro rfl
          obtain ⟨q, hq⟩ := h.exists_shape? hf (by simp)
          have hnone : shape? ('.' :: r) = none := rfl
          rw [hnone] at hq
          cases hq
        rw [nameTail.eq_3 e r (fun _ _ he _ => hpoint he)] at hr
        refine ⟨?_, hpoint⟩
        by_contra hpart
        rw [if_pos (by simpa using hpart)] at hr
        simp at hr
  · rintro rfl
    exact endsBefore_of_number hs c hc

/-! ## Texts that are laid out anew -/

theorem Relaid.exists_token {start : Nat} {k : Token} {ks : List Token} {g r u : Text}
    (h : Relaid start (k :: ks) (g ++ (k.lexeme ++ r)) u) (hplace : k.start = start + g.length) :
    ∃ w q v x, u = g ++ (w ++ (q ++ (v ++ x))) ∧ Gap w ∧ k.SpelledAs q ∧ Gap v ∧
      Relaid k.stop ks r x := by
  generalize ht : g ++ (k.lexeme ++ r) = t at h
  cases h with
  | @token _ _ _ g' w q v r' x hplace' hw hq hv hrest =>
    have hlength : g.length = g'.length := by omega
    obtain ⟨rfl, hsame⟩ := List.append_inj ht hlength
    obtain rfl : r = r' := List.append_cancel_left hsame
    exact ⟨w, q, v, x, rfl, hw, hq, hv, hrest⟩

theorem Means.name_of_keyword {s : Shape} {p : Text} {kind : TokenKind} {value : Value}
    (hm : Means s p kind value) (hkind : kind ∈ keywordKinds) : s = .name ∧ kind = nameKind p := by
  cases hm with
  | name => exact ⟨rfl, rfl⟩
  | equals => exact absurd hkind (by decide)
  | semicolon => exact absurd hkind (by decide)
  | number _ => exact absurd hkind (by decide)
  | singleQuoted => exact absurd hkind (by decide)
  | doubleQuoted => exact absurd hkind (by decide)

/-- A token is read in all its spellings, wherever nothing follows that goes on with it. -/
theorem exists_spelling {s : Shape} {p q r u : Text} {kind : TokenKind} {value : Value}
    {line start : Nat} (hs : shape? (p ++ r) = some (s, p.length)) (hm : Means s p kind value)
    (hq : Token.SpelledAs ⟨kind, value, line, start, p⟩ q) (hu : s.EndsBefore u) :
    ∃ v, shape? (q ++ u) = some (s, q.length) ∧ Means s q kind v ∧
      (kind ∈ keywordKinds ∨ value = v) := by
  rcases hq with rfl | ⟨hkind, hletters⟩
  · exact ⟨value, shape?_of_endsBefore hs hm.not_isGap hu, hm, .inr rfl⟩
  · dsimp only at hkind hletters
    obtain ⟨rfl, rfl⟩ := hm.name_of_keyword hkind
    refine ⟨.text q, shape?_of_spelling hkind hletters hu, ?_, .inl hkind⟩
    rw [← nameKind_of_toUpper hletters]
    exact .name

/-- What does not go on with a token still does not in another spelling. -/
theorem endsBefore_of_spelling {s s' : Shape} {p q r : Text} {kind : TokenKind} {value : Value}
    {line start : Nat} (hp : p ≠ []) (hm : Means s' p kind value)
    (hq : Token.SpelledAs ⟨kind, value, line, start, p⟩ q) (h : s.EndsBefore (p ++ r))
    (u : Text) : s.EndsBefore (q ++ u) := by
  rcases hq with rfl | ⟨hkind, hletters⟩
  · obtain ⟨c, p, rfl⟩ := List.exists_cons_of_ne_nil hp
    exact endsBefore_cons h _
  · dsimp only at hkind hletters
    obtain ⟨-, rfl⟩ := hm.name_of_keyword hkind
    obtain ⟨-, hstarts⟩ := isNameStart_of_keyword hkind
    obtain ⟨hne, hletter⟩ := isNameStart_of_keyword (p := q) (by rwa [nameKind_of_toUpper hletters])
    obtain ⟨c, p, rfl⟩ := List.exists_cons_of_ne_nil hp
    obtain ⟨d, q, rfl⟩ := List.exists_cons_of_ne_nil hne
    have hc := hstarts c List.mem_cons_self
    have hd := hletter d List.mem_cons_self
    -- a name would have gone on with the first letter, and a number goes on with none
    intro e he
    obtain rfl : d = e := by simpa using he
    refine ⟨fun hs => ?_, fun _ => isDigit_of_isNameStart hd⟩
    have hpart := ((h c rfl).1 hs).1
    rw [isNamePart, hc] at hpart
    cases hpart

/-- What does not go on with a token still does not when it is laid out anew. -/
theorem Relaid.endsBefore {start : Nat} {t u : Text} {l : Lexing} (hu : Relaid start l.tokens t u)
    (h : Arranged start t l) {s : Shape} (ht : s.EndsBefore t) : s.EndsBefore u := by
  cases h with
  | finished _ =>
    cases hu
    exact ht
  | illegal _ _ =>
    cases hu
    exact ht
  | tooLong _ _ _ =>
    cases hu
    exact ht
  | @token _ line g p r s' kind value l hg hs hm _ =>
    obtain ⟨w, q, v, x, rfl, hw, hq, -, -⟩ := hu.exists_token rfl
    cases g with
    | cons c g => exact endsBefore_cons ht _
    | nil =>
      by_cases hgap : w = []
      · subst hgap
        exact endsBefore_of_spelling (lexeme_of_piece hs).ne_nil hm hq ht _
      · exact endsBefore_of_gap hw hgap s _

theorem lexFrom_relaid {start : Nat} {t : Text} {l : Lexing} (h : Arranged start t l)
    (hf : l.fault? = none) {u : Text} (hu : Relaid start l.tokens t u) (place line : Nat) :
    (lexFrom 0 place line u).fault? = none ∧
      List.Forall₂ Token.Alike l.tokens (lexFrom 0 place line u).tokens := by
  induction h generalizing u place line with
  | finished hg =>
    cases hu
    rw [lexFrom_lastGap hg]
    exact ⟨rfl, .nil⟩
  | illegal _ _ => cases hf
  | tooLong _ _ _ => cases hf
  | @token start _ g p r s kind value l hg hs hm hrest ih =>
    obtain ⟨w, q, v, x, rfl, hw, hq, hv, hx⟩ := hu.exists_token rfl
    have hends : s.EndsBefore (v ++ x) := by
      by_cases hgap : v = []
      · subst hgap
        exact hx.endsBefore hrest (endsBefore_of_arranged hs hrest hf)
      · exact endsBefore_of_gap hv hgap s x
    obtain ⟨value', hshape, hmeans, hvalue⟩ := exists_spelling hs hm hq hends
    obtain ⟨m, hm'⟩ := lexFrom_gap (hg.append hw) place line (q ++ (v ++ x))
    obtain ⟨n, hn⟩ := lexFrom_gap hv (place + (g ++ w).length + q.length) (line + m) x
    obtain ⟨hfault, htokens⟩ := ih hf hx (place + (g ++ w).length + q.length + v.length)
      (line + m + n)
    rw [← List.append_assoc, hm', lexFrom_piece hshape hmeans, hn]
    exact ⟨hfault, .cons ⟨rfl, hvalue⟩ htokens⟩

/-! ## The law of layout and case -/

/-- A command stays the same command when blanks and comments are put before and behind its tokens,
and when its keywords are spelled with other capitals. -/
theorem layout_and_case_do_not_matter {t u : Text} {c : Command} (ht : parse t = .ok c)
    (hu : Relaid 0 (lex t).tokens t u) : parse u = .ok c := by
  obtain ⟨hf, hs⟩ := sentence_of_parse ht
  obtain ⟨hfault, halike⟩ := lexFrom_relaid (arranged_lexFrom 0 1 t) hf hu 0 1
  exact (outcome_parse u).unique (.command hfault (sentence_of_alike halike hs))

theorem layout_of_the_sample :
    parse "/*;*/SeT property a=-- it's\n-5".toList = .ok (.setProperty "a" (.integer (-5))) := by
  have hread : parse "set property a=-5".toList = .ok (.setProperty "a" (.integer (-5))) := rfl
  have hnumber := @Relaid.token 15 ⟨.integer, .integer (-5), 1, 15, "-5"⟩ [] [] [] "-5" [] [] []
    rfl .nothing (.inl rfl) .nothing .rest
  have hcomment : Gap "-- it's\n" := @Gap.lineComment " it's" [] (by decide) .nothing
  have hequals := @Relaid.token 14 ⟨.equals, .text "=", 1, 14, "="⟩ _ [] [] "=" "-- it's\n" _ _
    rfl .nothing (.inl rfl) hcomment hnumber
  have hname := @Relaid.token 12 ⟨.name, .text "a", 1, 13, "a"⟩ _ " " [] "a" [] _ _
    rfl .nothing (.inl rfl) .nothing hequals
  have hword := @Relaid.token 3 ⟨.property, .text "property", 1, 4, "property"⟩ _ " " [] "property"
    [] _ _ rfl .nothing (.inl rfl) .nothing hname
  have hveil : Gap "/*;*/" := @Gap.blockComment ";" [] (by decide) .nothing
  have hset := @Relaid.token 0 ⟨.set, .text "set", 1, 0, "set"⟩ _ [] "/*;*/" "SeT" [] _ _
    rfl hveil (.inr ⟨by decide, by decide⟩) .nothing hword
  exact layout_and_case_do_not_matter hread hset

end StatementShell.Command
