-- What a command is, said without a machine: a sequence of tokens is a sentence or not, and the
-- first item after which no sentence can be reached any more decides why a text is no command.
import StatementShell.Command.Parser

namespace StatementShell.Command

/-! ## Sentences -/

/-- The token gives the name of a property. -/
def Token.Names (t : Token) (name : Text) : Prop :=
  (t.kind = .name ∨ t.kind = .singleQuoted ∨ t.kind = .doubleQuoted) ∧ t.value = .text name

/-- The token gives the value of a property. -/
inductive Token.Denotes : Token → Value → Prop
  | number {t : Token} : t.kind = .integer → Denotes t t.value
  | quoted {t : Token} : t.kind = .singleQuoted ∨ t.kind = .doubleQuoted → Denotes t t.value
  | trueWord {t : Token} : t.kind = .trueWord → Denotes t (.boolean true)
  | falseWord {t : Token} : t.kind = .falseWord → Denotes t (.boolean false)

/-- At most one semicolon. -/
inductive Closing : List Token → Prop
  | nothing : Closing []
  | semicolon {t : Token} : t.kind = .semicolon → Closing [t]

/-- The sequences of tokens that are commands. -/
inductive Sentence : List Token → Command → Prop
  | exit {t : Token} {ts : List Token} : t.kind = .exit ∨ t.kind = .quit → Closing ts →
      Sentence (t :: ts) .exit
  | setProperty {t u n e d : Token} {ts : List Token} {name : Text} {v : Value} :
      t.kind = .set → u.kind = .property → n.Names name → e.kind = .equals → d.Denotes v →
        Closing ts → Sentence (t :: u :: n :: e :: d :: ts) (.setProperty name v)
  | showProperties {t u : Token} {ts : List Token} :
      t.kind = .showWord → u.kind = .properties → Closing ts →
        Sentence (t :: u :: ts) .showProperties
  | showProperty {t u n : Token} {ts : List Token} {name : Text} :
      t.kind = .showWord → u.kind = .property → n.Names name → Closing ts →
        Sentence (t :: u :: n :: ts) (.showProperty name)

/-- Some sentence begins with these tokens. -/
def Begins (ts : List Token) : Prop := ∃ more c, Sentence (ts ++ more) c

/-- What a text with these items has to give. -/
inductive Outcome (l : Lexing) : Except ParseFault Command → Prop
  | command {c : Command} : l.fault? = none → Sentence l.tokens c → Outcome l (.ok c)
  | unexpected {ts more : List Token} {u : Token} : l.tokens = ts ++ u :: more → Begins ts →
      ¬ Begins (ts ++ [u]) → Outcome l (.error (.unexpected u))
  | lexical {e : LexFault} : l.fault? = some e → Begins l.tokens → Outcome l (.error (.lexical e))
  | unexpectedEnd : l.fault? = none → Begins l.tokens → (∀ c, ¬ Sentence l.tokens c) →
      Outcome l (.error .unexpectedEnd)

theorem begins_of_append {ts : List Token} (us : List Token) (h : Begins (ts ++ us)) :
    Begins ts := by
  obtain ⟨more, c, hc⟩ := h
  exact ⟨us ++ more, c, by rwa [← List.append_assoc]⟩

theorem Sentence.begins {ts : List Token} {c : Command} (h : Sentence ts c) : Begins ts :=
  ⟨[], c, by rwa [List.append_nil]⟩

theorem Token.Names.unique {t : Token} {n m : Text} (hn : t.Names n) (hm : t.Names m) : n = m := by
  have := hn.2.symm.trans hm.2
  simpa using this

theorem Token.Denotes.unique {t : Token} {v w : Value} (hv : t.Denotes v) (hw : t.Denotes w) :
    v = w := by
  cases hv <;> cases hw <;> simp_all

theorem Sentence.unique {ts : List Token} {c d : Command} (hc : Sentence ts c)
    (hd : Sentence ts d) : c = d := by
  cases hc with
  | exit ht _ => cases hd <;> simp_all
  | setProperty ht _ hn _ hv _ =>
    cases hd with
    | exit h _ => simp_all
    | setProperty _ _ hm _ hw _ => rw [hn.unique hm, hv.unique hw]
    | showProperties h _ _ => simp_all
    | showProperty h _ _ _ => simp_all
  | showProperties ht hu _ => cases hd <;> simp_all
  | showProperty ht hu hn _ =>
    cases hd with
    | exit h _ => simp_all
    | setProperty h _ _ _ _ _ => simp_all
    | showProperties _ h _ => simp_all
    | showProperty _ _ hm _ => rw [hn.unique hm]

/-- Where two sequences of tokens leave the sentences inside one text, they leave them at the
same place. -/
theorem first_unexpected_unique {ts us more rest : List Token} {t u : Token}
    (he : ts ++ t :: more = us ++ u :: rest) (ht : Begins ts) (hnt : ¬ Begins (ts ++ [t]))
    (hu : Begins us) (hnu : ¬ Begins (us ++ [u])) : t = u := by
  rcases List.append_eq_append_iff.1 he with ⟨vs, rfl, hvs⟩ | ⟨vs, rfl, hvs⟩
  · cases vs with
    | nil => simpa using (List.cons.inj hvs).1
    | cons v vs =>
      obtain ⟨rfl, -⟩ := List.cons.inj hvs
      exact absurd (begins_of_append vs (by simpa using hu)) hnt
  · cases vs with
    | nil => simpa using (List.cons.inj hvs).1.symm
    | cons v vs =>
      obtain ⟨rfl, -⟩ := List.cons.inj hvs
      exact absurd (begins_of_append vs (by simpa using ht)) hnu

theorem not_begins_of_unexpected {l : Lexing} {ts more : List Token} {u : Token}
    (hl : l.tokens = ts ++ u :: more) (hn : ¬ Begins (ts ++ [u])) : ¬ Begins l.tokens := by
  intro h
  rw [hl] at h
  exact hn (begins_of_append more (by simpa using h))

/-- One text has one outcome. -/
theorem Outcome.unique {l : Lexing} {r q : Except ParseFault Command} (hr : Outcome l r)
    (hq : Outcome l q) : r = q := by
  cases hr with
  | command hf hs =>
    cases hq with
    | command _ hs' => rw [hs.unique hs']
    | unexpected hl _ hn => exact absurd hs.begins (not_begins_of_unexpected hl hn)
    | lexical hf' _ => simp_all
    | unexpectedEnd _ _ hn => exact absurd hs (hn _)
  | unexpected hl ht hn =>
    cases hq with
    | command _ hs => exact absurd hs.begins (not_begins_of_unexpected hl hn)
    | unexpected hl' ht' hn' =>
      rw [first_unexpected_unique (hl.symm.trans hl') ht hn ht' hn']
    | lexical _ hb => exact absurd hb (not_begins_of_unexpected hl hn)
    | unexpectedEnd _ hb _ => exact absurd hb (not_begins_of_unexpected hl hn)
  | lexical hf hb =>
    cases hq with
    | command hf' _ => simp_all
    | unexpected hl _ hn => exact absurd hb (not_begins_of_unexpected hl hn)
    | lexical hf' _ => simp_all
    | unexpectedEnd hf' _ _ => simp_all
  | unexpectedEnd hf hb hn =>
    cases hq with
    | command _ hs => exact absurd hs (hn _)
    | unexpected hl _ hn' => exact absurd hb (not_begins_of_unexpected hl hn')
    | lexical hf' _ => simp_all
    | unexpectedEnd _ _ _ => rfl

end StatementShell.Command
