-- What the machine that reads commands does in each of its states. A state with one item takes
-- the word that its rule asks for and no other one; where a rule is complete, using it before or
-- after a look at the next token makes no difference to what is read in the end.
import Mathlib.Data.List.Basic
import StatementShell.Command.Parser

namespace StatementShell.Command

/-! ## States with one item -/

theorem opened_of_no_part {items : List Item} (h : ∀ i ∈ items, ∀ p, i.next? ≠ some (.part p)) :
    opened items = [] := by
  unfold opened
  rw [List.map_eq_nil_iff, List.filter_eq_nil_iff]
  intro r _
  simp only [List.any_eq_true, beq_iff_eq, not_exists, not_and]
  intro i hi
  exact h i hi r.builds

theorem closure_nil (n : Nat) : closure n [] = [] := by
  induction n with
  | zero => rfl
  | succ n ih =>
    rw [closure, opened_of_no_part (by simp), ih]
    rfl

theorem closure_of_no_part {items : List Item} (h : ∀ i ∈ items, ∀ p, i.next? ≠ some (.part p))
    (n : Nat) : closure n items = items := by
  cases n with
  | zero => rfl
  | succ n => rw [closure, opened_of_no_part h, closure_nil, List.append_nil]

namespace State

theorem goto?_of_word {r : Rule} {n : Nat} {kind : TokenKind} (h : r.asks[n]? = some (.word kind))
    (x : Symbol) : (only r n).goto? x = if x = .word kind then some (only r (n + 1)) else none := by
  have hnext : (⟨r, n⟩ : Item).next? = some (.word kind) := h
  unfold goto? only
  rw [closure_of_no_part (by simp [hnext])]
  by_cases hx : x = .word kind
  · simp [hnext, hx, Item.advance]
  · have hne : Symbol.word kind ≠ x := fun e => hx e.symm
    simp [hnext, hx, hne]

theorem goto?_of_complete {r : Rule} {n : Nat} (h : r.asks[n]? = none) (x : Symbol) :
    (only r n).goto? x = none := by
  have hnext : (⟨r, n⟩ : Item).next? = none := h
  unfold goto? only
  rw [closure_of_no_part (by simp [hnext])]
  simp [hnext]

theorem reduction?_of_asks {r : Rule} {n : Nat} {x : Symbol} (h : r.asks[n]? = some x)
    (ahead : Option TokenKind) : (only r n).reduction? ahead = none := by
  have hnext : (⟨r, n⟩ : Item).next? = some x := h
  simp [reduction?, complete, only, hnext]

theorem reduction?_of_complete {r : Rule} {n : Nat} (h : r.asks[n]? = none) (hr : r ≠ .sentence)
    (ahead : Option TokenKind) :
    (only r n).reduction? ahead = if ahead ∈ r.builds.followers then some r else none := by
  have hnext : (⟨r, n⟩ : Item).next? = none := h
  by_cases ha : ahead ∈ r.builds.followers <;> simp [reduction?, complete, only, hnext, hr, ha]

theorem reduction?_sentence (n : Nat) (ahead : Option TokenKind) :
    (only .sentence n).reduction? ahead = none := by
  simp [reduction?, complete, only]

theorem default?_of_complete {r : Rule} {n : Nat} (h : r.asks[n]? = none) (hr : r ≠ .sentence) :
    (only r n).default? = if r.builds.followers.length = 1 then some r else none := by
  have hnext : (⟨r, n⟩ : Item).next? = none := h
  simp [default?, complete, only, hnext, hr]

theorem accepts_only {r : Rule} {n : Nat} (h : r ≠ .sentence) : (only r n).accepts = false := by
  simp [accepts, only, h]

/-! ## States with more to choose from -/

/-- A command is read; a semicolon or the end of the text may come. -/
def afterCommand : State := ⟨[⟨.closedStatement, 1⟩, ⟨.openStatement, 1⟩]⟩

/-- The word for showing is read; all properties or one may be meant. -/
def afterShow : State := ⟨[⟨.showProperties, 1⟩, ⟨.showProperty, 1⟩]⟩

theorem goto?_start (kind : TokenKind) : start.goto? (.word kind) =
    match kind with
    | .exit => some (only .exit 1)
    | .quit => some (only .quit 1)
    | .set => some (only .setProperty 1)
    | .showWord => some afterShow
    | _ => none := by
  cases kind <;> rfl

theorem goto?_afterShow (kind : TokenKind) : afterShow.goto? (.word kind) =
    match kind with
    | .properties => some (only .showProperties 2)
    | .property => some (only .showProperty 2)
    | _ => none := by
  cases kind <;> rfl

/-- The rule that makes the name of a property from a token. -/
def nameRule? : TokenKind → Option Rule
  | .name => some .plainName
  | .singleQuoted => some .singleQuotedName
  | .doubleQuoted => some .doubleQuotedName
  | _ => none

/-- The rule that makes the value of a property from a token. -/
def literalRule? : TokenKind → Option Rule
  | .integer => some .integerLiteral
  | .singleQuoted => some .singleQuotedLiteral
  | .doubleQuoted => some .doubleQuotedLiteral
  | .trueWord => some .trueLiteral
  | .falseWord => some .falseLiteral
  | _ => none

theorem goto?_propertyName {r : Rule} (hr : r = .setProperty ∨ r = .showProperty)
    (kind : TokenKind) :
    (only r 2).goto? (.word kind) = (nameRule? kind).map (only · 1) := by
  rcases hr with rfl | rfl
  · cases kind <;> rfl
  · cases kind <;> rfl

theorem goto?_named {r : Rule} (hr : r = .setProperty ∨ r = .showProperty) :
    (only r 2).goto? (.part .propertyName) = some (only r 3) := by
  rcases hr with rfl | rfl <;> rfl

theorem goto?_valued :
    (only .setProperty 4).goto? (.part .literal) = some (only .setProperty 5) := rfl

theorem goto?_literal (kind : TokenKind) :
    (only .setProperty 4).goto? (.word kind) = (literalRule? kind).map (only · 1) := by
  cases kind <;> rfl

theorem goto?_afterCommand (kind : TokenKind) : afterCommand.goto? (.word kind) =
    match kind with
    | .semicolon => some (only .closedStatement 2)
    | _ => none := by
  cases kind <;> rfl

theorem reduction?_afterCommand (ahead : Option TokenKind) :
    afterCommand.reduction? ahead = if ahead = none then some .openStatement else none := by
  rcases ahead with _ | kind
  · rfl
  · cases kind <;> rfl

theorem reduction?_afterShow (ahead : Option TokenKind) : afterShow.reduction? ahead = none := by
  rcases ahead with _ | kind
  · rfl
  · cases kind <;> rfl

end State

/-! ## What may follow a part -/

/-- What may stand right after a part, by the rules. -/
inductive MayFollow : Part → Option TokenKind → Prop
  | nothing : MayFollow .sentence none
  | word {r : Rule} {n : Nat} {p : Part} {kind : TokenKind} : r.asks[n]? = some (.part p) →
      r.asks[n + 1]? = some (.word kind) → MayFollow p (some kind)
  | last {r : Rule} {n : Nat} {p : Part} {x : Option TokenKind} : r.asks[n]? = some (.part p) →
      r.asks.length = n + 1 → MayFollow r.builds x → MayFollow p x

theorem mayFollow_command {x : Option TokenKind} (h : x = some .semicolon ∨ x = none) :
    MayFollow .command x := by
  rcases h with rfl | rfl
  · exact .word (r := .closedStatement) (n := 0) rfl rfl
  · have hstatement : MayFollow .statement none := .last (r := .sentence) (n := 0) rfl rfl .nothing
    exact .last (r := .openStatement) (n := 0) rfl rfl hstatement

/-- The kinds that the machine looks for after a part are those that the rules put there. -/
theorem mem_followers_iff (p : Part) (x : Option TokenKind) : x ∈ p.followers ↔ MayFollow p x := by
  constructor
  · intro h
    cases p with
    | sentence =>
      obtain rfl : x = none := by simpa [Part.followers] using h
      exact .nothing
    | statement =>
      obtain rfl : x = none := by simpa [Part.followers] using h
      exact .last (r := .sentence) (n := 0) rfl rfl .nothing
    | command => exact mayFollow_command (by simpa [Part.followers] using h)
    | propertyName =>
      simp only [Part.followers, List.mem_cons, List.not_mem_nil, or_false] at h
      rcases h with rfl | h
      · exact .word (r := .setProperty) (n := 2) rfl rfl
      · exact .last (r := .showProperty) (n := 2) rfl rfl (mayFollow_command h)
    | literal =>
      exact .last (r := .setProperty) (n := 4) rfl rfl
        (mayFollow_command (by simpa [Part.followers] using h))
  · intro h
    induction h with
    | nothing => simp [Part.followers]
    | @word r n p kind hn hw =>
      cases r
      all_goals rcases n with _ | _ | _ | _ | _ | n
      all_goals simp [Rule.asks] at hn hw
      all_goals subst hn hw
      all_goals simp [Part.followers]
    | @last r n p x hn hlen _ ih =>
      cases r
      all_goals rcases n with _ | _ | _ | _ | _ | n
      all_goals simp [Rule.asks] at hn hlen
      all_goals subst hn
      all_goals simp [Rule.builds, Part.followers] at ih ⊢
      all_goals simp [ih]

theorem none_mem_followers (p : Part) : none ∈ p.followers := by
  cases p <;> simp [Part.followers]

/-! ## Steps of the machine -/

namespace Stack

open State

theorem settle_of_none {ahead : Option TokenKind} {m : Stack}
    (h : (state m).reduction? ahead = none) (n : Nat) : settle ahead n m = m := by
  cases n with
  | zero => rfl
  | succ n => rw [settle, h]

theorem settle_of_some {ahead : Option TokenKind} {m : Stack} {r : Rule}
    (h : (state m).reduction? ahead = some r) (n : Nat) :
    settle ahead (n + 1) m = settle ahead n (reduce r m) := by
  rw [settle, h]

theorem shift?_of_settle {t : Token} {m k : Stack} (h : settle (some t.kind) levels m = k) :
    shift? t m =
      ((state k).goto? (.word t.kind)).map (fun s => relax ((s, .value t.value) :: k)) := by
  subst h
  rfl

theorem relax_of_none {m : Stack} (h : (state m).default? = none) : relax m = m := by
  rw [relax, h]

/-- A token that some rule asks for is taken, where no rule can be used before or after it. -/
theorem shift?_of_goto? {t : Token} {m : Stack}
    (h : (state m).reduction? (some t.kind) = none)
    (hd : ∀ s, (state m).goto? (.word t.kind) = some s → s.default? = none) :
    shift? t m = ((state m).goto? (.word t.kind)).map (fun s => (s, .value t.value) :: m) := by
  rw [shift?_of_settle (settle_of_none h levels)]
  cases hs : (state m).goto? (.word t.kind) with
  | none => rfl
  | some s =>
    have hrelax : (state ((s, Held.value t.value) :: m)).default? = none := hd s hs
    rw [Option.map_some, Option.map_some, relax_of_none hrelax]

theorem shift?_of_word {m : Stack} {r : Rule} {n : Nat} {kind : TokenKind}
    (hs : state m = only r n) (h : r.asks[n]? = some (.word kind))
    (hd : (only r (n + 1)).default? = none) (t : Token) : shift? t m =
      if t.kind = kind then some ((only r (n + 1), .value t.value) :: m) else none := by
  have hgoto : (state m).goto? (.word t.kind) =
      if t.kind = kind then some (only r (n + 1)) else none := by
    rw [hs, goto?_of_word h]
    simp
  rw [shift?_of_goto?, hgoto]
  · by_cases ht : t.kind = kind <;> simp [ht]
  · rw [hs]
    exact reduction?_of_asks h _
  · rw [hgoto]
    intro s hsome
    by_cases ht : t.kind = kind
    · rw [if_pos ht] at hsome
      cases hsome
      exact hd
    · simp [ht] at hsome

theorem shift?_start (t : Token) : shift? t [] =
    match t.kind with
    | .exit => some [(only .exit 1, .value t.value)]
    | .quit => some [(only .quit 1, .value t.value)]
    | .set => some [(only .setProperty 1, .value t.value)]
    | .showWord => some [(afterShow, .value t.value)]
    | _ => none := by
  have hgoto : (state []).goto? (.word t.kind) = _ := goto?_start t.kind
  rw [shift?_of_goto?, hgoto]
  · split <;> rfl
  · exact reduction?_of_asks (rfl : Rule.sentence.asks[0]? = some (.part .statement)) _
  · rw [hgoto]
    intro s hs
    split at hs
    all_goals cases hs
    all_goals rfl

theorem shift?_afterShow {a : Held} (t : Token) : shift? t [(afterShow, a)] =
    match t.kind with
    | .properties => some [(only .showProperties 2, .value t.value), (afterShow, a)]
    | .property => some [(only .showProperty 2, .value t.value), (afterShow, a)]
    | _ => none := by
  have hgoto : (state [(afterShow, a)]).goto? (.word t.kind) = _ := goto?_afterShow t.kind
  rw [shift?_of_goto?, hgoto]
  · split <;> rfl
  · exact reduction?_afterShow _
  · rw [hgoto]
    intro s hs
    split at hs
    all_goals cases hs
    all_goals rfl

/-- Where no sentence can end, the end of the text is a fault. -/
theorem finish_of_none {m : Stack} (h : (state m).reduction? none = none)
    (ha : (state m).accepts = false) : finish m = .error .unexpectedEnd := by
  rw [finish, settle_of_none h]
  rcases m with _ | ⟨⟨s, held⟩, m⟩
  · rfl
  · have hs : s.accepts = false := ha
    cases held <;> simp [hs]

theorem finish_of_asks {m : Stack} {r : Rule} {n : Nat} {x : Symbol} (hs : state m = only r n)
    (h : r.asks[n]? = some x) (hr : r ≠ .sentence) : finish m = .error .unexpectedEnd := by
  apply finish_of_none
  · rw [hs]
    exact reduction?_of_asks h none
  · rw [hs]
    exact accepts_only hr

/-- Machines that take the same tokens and come to the same end read the same. -/
theorem read_congr {m k : Stack} (hend : finish m = finish k)
    (hnext : ∀ t, shift? t m = shift? t k) (l : Lexing) : read m l = read k l := by
  cases l with
  | finished => rw [read, read, hend]
  | failed e => rw [read, read]
  | token t rest => rw [read, read, hnext]

/-! ## Complete rules -/

/-- The machine with a whole statement. -/
def sentenceRead (c : Command) : Stack := [(only .sentence 1, .command c)]

/-- The machine with a whole command. -/
def commandRead (c : Command) : Stack := [(afterCommand, .command c)]

theorem settle_sentenceRead (ahead : Option TokenKind) (n : Nat) (c : Command) :
    settle ahead n (sentenceRead c) = sentenceRead c := by
  have h : (state (sentenceRead c)).reduction? ahead = none := reduction?_sentence 1 ahead
  exact settle_of_none h n

theorem reduce_commandRead (c : Command) :
    reduce .openStatement (commandRead c) = sentenceRead c := by
  have h : (state []).goto? (.part .statement) = some (only .sentence 1) := rfl
  unfold reduce commandRead sentenceRead
  simp [Rule.asks, Rule.builds, h, Rule.make]

theorem settle_commandRead (ahead : Option TokenKind) (n : Nat) (c : Command) :
    settle ahead (n + 1) (commandRead c) =
      if ahead = none then sentenceRead c else commandRead c := by
  have h : (state (commandRead c)).reduction? ahead = if ahead = none then some .openStatement
    else none := reduction?_afterCommand ahead
  by_cases ha : ahead = none
  · rw [if_pos ha] at h ⊢
    rw [settle_of_some h, reduce_commandRead, settle_sentenceRead]
  · rw [if_neg ha] at h ⊢
    exact settle_of_none h _

theorem finish_sentenceRead (c : Command) : finish (sentenceRead c) = .ok c := by
  have ha : (only .sentence 1).accepts = true := rfl
  rw [finish, settle_sentenceRead]
  simp [sentenceRead, ha]

theorem shift?_sentenceRead (t : Token) (c : Command) : shift? t (sentenceRead c) = none := by
  have h : (state (sentenceRead c)).goto? (.word t.kind) = none := goto?_of_complete rfl _
  rw [shift?_of_settle (settle_sentenceRead _ _ c), h]
  rfl

/-- After the semicolon the machine builds the statement without a look at what comes next. -/
theorem shift?_commandRead (t : Token) (c : Command) : shift? t (commandRead c) =
    if t.kind = .semicolon then some (sentenceRead c) else none := by
  have hsettle : settle (some t.kind) levels (commandRead c) = commandRead c := by
    rw [levels, settle_commandRead, if_neg (by simp)]
  have h : (state (commandRead c)).goto? (.word t.kind) =
    match t.kind with
    | .semicolon => some (only .closedStatement 2)
    | _ => none := goto?_afterCommand t.kind
  rw [shift?_of_settle hsettle, h]
  split
  next ht =>
    have hrelax : (state ((only .closedStatement 2, Held.value t.value) ::
      commandRead c)).default? = some .closedStatement := rfl
    have hgoto : (state []).goto? (.part .statement) = some (only .sentence 1) := rfl
    rw [if_pos ht, Option.map_some, relax, hrelax]
    simp [reduce, commandRead, sentenceRead, Rule.asks, Rule.builds, hgoto, Rule.make]
  next ht =>
    rw [if_neg ht]
    rfl

/-- A complete rule may be used at once, when all that may stand ahead then leads on from where
the rule leads, and nothing else does. -/
theorem read_of_reduce {m k : Stack} {r : Rule} (hr : r ≠ .sentence)
    (hs : state m = only r r.asks.length) (hk : reduce r m = k)
    (hsettle : ∀ ahead, settle ahead 2 k = settle ahead 3 k)
    (hrefuse : ∀ t : Token, some t.kind ∉ r.builds.followers → shift? t k = none) (l : Lexing) :
    read m l = read k l := by
  have hnone : r.asks[r.asks.length]? = none := List.getElem?_eq_none (Nat.le_refl _)
  have hreduction (ahead : Option TokenKind) : (state m).reduction? ahead =
      if ahead ∈ r.builds.followers then some r else none := by
    rw [hs]
    exact reduction?_of_complete hnone hr ahead
  have hused (ahead : Option TokenKind) (ha : ahead ∈ r.builds.followers) :
      settle ahead levels m = settle ahead levels k := by
    have h : (state m).reduction? ahead = some r := by rw [hreduction, if_pos ha]
    rw [levels, settle_of_some h, hk, hsettle]
  apply read_congr
  · rw [finish, finish, hused none (none_mem_followers _)]
  · intro t
    by_cases ha : some t.kind ∈ r.builds.followers
    · rw [shift?_of_settle (hused _ ha), shift?]
    · have h : (state m).reduction? (some t.kind) = none := by rw [hreduction, if_neg ha]
      rw [hrefuse t ha, shift?_of_settle (settle_of_none h _), hs, goto?_of_complete hnone]
      rfl

/-- A rule that one token completes. -/
structure Leaf (r : Rule) (p : Part) : Prop where
  builds : r.builds = p
  asks : r.asks.length = 1
  ne_sentence : r ≠ .sentence

theorem leaf_of_nameRule? {kind : TokenKind} {r : Rule} (h : nameRule? kind = some r) :
    Leaf r .propertyName := by
  unfold nameRule? at h
  split at h
  all_goals cases h
  all_goals exact ⟨rfl, rfl, by simp⟩

theorem leaf_of_literalRule? {kind : TokenKind} {r : Rule} (h : literalRule? kind = some r) :
    Leaf r .literal := by
  unfold literalRule? at h
  split at h
  all_goals cases h
  all_goals exact ⟨rfl, rfl, by simp⟩

theorem Leaf.default? {r : Rule} {p : Part} (h : Leaf r p) (hp : p.followers.length ≠ 1) :
    (only r 1).default? = none := by
  have hnone : r.asks[1]? = none := List.getElem?_eq_none (Nat.le_of_eq h.asks)
  rw [default?_of_complete hnone h.ne_sentence, h.builds, if_neg hp]

theorem shift?_propertyName {m : Stack} {r : Rule} (hr : r = .setProperty ∨ r = .showProperty)
    (hs : state m = only r 2) (t : Token) :
    shift? t m = (nameRule? t.kind).map (fun r => (only r 1, .value t.value) :: m) := by
  have hgoto := goto?_propertyName hr t.kind
  rw [← hs] at hgoto
  rw [shift?_of_goto?, hgoto, Option.map_map]
  · rfl
  · rw [hs]
    rcases hr with rfl | rfl
    · exact reduction?_of_asks rfl _
    · exact reduction?_of_asks rfl _
  · intro s h
    rw [hgoto] at h
    obtain ⟨leaf, hleaf, rfl⟩ := Option.map_eq_some_iff.1 h
    exact (leaf_of_nameRule? hleaf).default? (by simp [Part.followers])

theorem shift?_literal {m : Stack} (hs : state m = only .setProperty 4) (t : Token) :
    shift? t m = (literalRule? t.kind).map (fun r => (only r 1, .value t.value) :: m) := by
  have hgoto := goto?_literal t.kind
  rw [← hs] at hgoto
  rw [shift?_of_goto?, hgoto, Option.map_map]
  · rfl
  · rw [hs]
    exact reduction?_of_asks rfl _
  · intro s h
    rw [hgoto] at h
    obtain ⟨leaf, hleaf, rfl⟩ := Option.map_eq_some_iff.1 h
    exact (leaf_of_literalRule? hleaf).default? (by simp [Part.followers])

theorem Leaf.read {r : Rule} {p : Part} {q s : State} {held : Held} {below : Stack}
    (h : Leaf r p) (hgoto : q.goto? (.part p) = some s) (hq : state below = q)
    (hsettle : ∀ ahead, settle ahead 2 ((s, r.make [held]) :: below) =
      settle ahead 3 ((s, r.make [held]) :: below))
    (hrefuse : ∀ t : Token, some t.kind ∉ p.followers →
      shift? t ((s, r.make [held]) :: below) = none) (l : Lexing) :
    read ((only r 1, held) :: below) l = read ((s, r.make [held]) :: below) l := by
  have hreduce : reduce r ((only r 1, held) :: below) = (s, r.make [held]) :: below := by
    have hbelow : List.drop 1 ((only r 1, held) :: below) = below := rfl
    rw [reduce, h.asks, hbelow, h.builds, hq, hgoto]
    rfl
  refine read_of_reduce h.ne_sentence ?_ hreduce hsettle ?_ l
  · rw [h.asks]
    rfl
  · rwa [h.builds]

/-- The rule for some command is complete. -/
def Completes (m : Stack) (c : Command) : Prop :=
  ∃ r, r.builds = .command ∧ state m = only r r.asks.length ∧ reduce r m = commandRead c

theorem Completes.settle {m : Stack} {c : Command} (h : Completes m c)
    (ahead : Option TokenKind) (n : Nat) : settle ahead (n + 2) m =
      if ahead = none then sentenceRead c
      else if ahead = some .semicolon then commandRead c else m := by
  obtain ⟨r, hr, hs, hk⟩ := h
  have hnone : r.asks[r.asks.length]? = none := List.getElem?_eq_none (Nat.le_refl _)
  have hne : r ≠ .sentence := by
    rintro rfl
    simp [Rule.builds] at hr
  have hreduction := reduction?_of_complete hnone hne ahead
  rw [← hs, hr] at hreduction
  by_cases ha : ahead = none
  · rw [if_pos (by simp [ha, Part.followers])] at hreduction
    rw [settle_of_some hreduction, hk, settle_commandRead, if_pos ha, if_pos ha]
  · by_cases hb : ahead = some .semicolon
    · rw [if_pos (by simp [hb, Part.followers])] at hreduction
      rw [settle_of_some hreduction, hk, settle_commandRead, if_neg ha, if_neg ha, if_pos hb]
    · rw [if_neg (by simp [ha, hb, Part.followers])] at hreduction
      rw [settle_of_none hreduction, if_neg ha, if_neg hb]

theorem Completes.shift? {m : Stack} {c : Command} (h : Completes m c) (t : Token) :
    shift? t m = if t.kind = .semicolon then some (sentenceRead c) else none := by
  have hsettle := h.settle (some t.kind) 1
  obtain ⟨r, -, hs, -⟩ := h
  rw [if_neg (by simp)] at hsettle
  by_cases ht : t.kind = .semicolon
  · rw [if_pos (by rw [ht])] at hsettle
    rw [shift?_of_settle hsettle, ← shift?_commandRead, shift?_of_settle]
    rw [levels, settle_commandRead, if_neg (by simp)]
  · rw [if_neg (by simp [ht])] at hsettle
    rw [shift?_of_settle hsettle, hs, goto?_of_complete (List.getElem?_eq_none (Nat.le_refl _)),
      if_neg ht]
    rfl

theorem Completes.finish {m : Stack} {c : Command} (h : Completes m c) :
    finish m = .ok c := by
  have ha : (only .sentence 1).accepts = true := rfl
  rw [Stack.finish, levels, h.settle none 1, if_pos rfl]
  simp [sentenceRead, ha]

theorem completes_of_length {m : Stack} {c : Command} (r : Rule) (hr : r.builds = .command)
    (hs : state m = only r r.asks.length) (hlen : m.length = r.asks.length)
    (hmake : r.make (m.map Prod.snd).reverse = .command c) : Completes m c := by
  refine ⟨r, hr, hs, ?_⟩
  have hgoto : (state []).goto? (.part .command) = some afterCommand := rfl
  rw [reduce, ← hlen, List.drop_length, List.take_length, hr, hgoto, hmake]
  rfl

end Stack

end StatementShell.Command
