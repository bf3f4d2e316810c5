-- The values of a document. A reader trims every line, passes over comments and drops the blank
-- lines at the end of a value, so whatever it reads is settled: there is nothing left to trim or
-- to drop. A value that is settled comes back from a reader as it is.
import Mathlib.Data.List.Basic
import Mathlib.Data.List.Induction
import StatementShell.Ini.Reader

namespace StatementShell.Ini

/-! ## The pure model -/

/-- A value in which a reader finds nothing to change. -/
structure Settled (v : Text) : Prop where
  noReturn : '\r' ∉ v
  trimmed : ∀ l ∈ Text.pieces '\n' v, Text.trim l = l
  noComment : ∀ l ∈ (Text.pieces '\n' v).tail, isComment l = false
  closed : v.getLast? ≠ some '\n'

instance (v : Text) : Decidable (Settled v) :=
  decidable_of_iff ('\r' ∉ v ∧ (∀ l ∈ Text.pieces '\n' v, Text.trim l = l) ∧
      (∀ l ∈ (Text.pieces '\n' v).tail, isComment l = false) ∧ v.getLast? ≠ some '\n')
    ⟨fun ⟨a, b, c, d⟩ => ⟨a, b, c, d⟩, fun ⟨a, b, c, d⟩ => ⟨a, b, c, d⟩⟩

/-- The lines of a value that a reader keeps. What stands on the line of the name is never a
comment. -/
def keptLines (v : Text) : List Text :=
  match Text.pieces '\n' v with
  | [] => []
  | l :: ls => Text.trim l :: (ls.map Text.trim).filter (!isComment ·)

/-- What a reader makes of a value without carriage returns. -/
def reread (v : Text) : Text := Text.trimBack (Text.joined ['\n'] (keptLines v))

/-! ## What one line does -/

namespace State

/-- A line may begin a section or an option or go on with a value; each leaves what was read
before. -/
theorem drafts_line {s t : State} {source : Text} {number : Nat} {l : Text}
    (h : s.line source number l = .ok t) :
    (t.drafts = s.drafts ∨
      (isComment (Text.trim l) = false ∧ t.drafts = (s.extend (Text.trim l)).drafts) ∨
      ∃ heading i, item? (Text.trim l) = some i ∧
        t.drafts = ⟨heading, i.name, [i.value]⟩ :: s.drafts) ∧
    ∀ name ∈ s.headings, name ∈ t.headings := by
  have hext (x : Text) : (s.extend x).headings = s.headings := by
    unfold extend
    split <;> rfl
  simp only [line] at h
  split at h
  next =>
    cases h
    exact ⟨.inl rfl, fun _ => id⟩
  next hcomment =>
    rw [Bool.not_eq_true] at hcomment
    split at h
    next hempty =>
      split at h
      next =>
        cases h
        rw [List.isEmpty_iff.1 hempty] at hcomment ⊢
        exact ⟨.inr (.inl ⟨hcomment, rfl⟩), by simp [hext]⟩
      next =>
        cases h
        exact ⟨.inl rfl, fun _ => id⟩
    next =>
      simp only [element] at h
      split at h
      next =>
        cases h
        exact ⟨.inr (.inl ⟨hcomment, rfl⟩), by simp [hext]⟩
      next =>
        split at h
        next =>
          unfold enter at h
          split at h
          next => cases h
          next =>
            cases h
            exact ⟨.inl rfl, fun _ => List.mem_cons_of_mem _⟩
        next => cases h
        next heading _ _ =>
          split at h
          next i hi =>
            unfold add at h
            split at h
            next => cases h
            next =>
              cases h
              exact ⟨.inr (.inr ⟨heading, i, hi, rfl⟩), fun _ => id⟩
          next =>
            cases h
            exact ⟨.inl rfl, fun _ => id⟩

theorem mem_headings_run {s t : State} {source : Text} {number : Nat} {ls : List Text}
    (h : s.run source number ls = .ok t) : ∀ name ∈ s.headings, name ∈ t.headings := by
  induction ls generalizing s number with
  | nil =>
    cases h
    exact fun _ => id
  | cons l ls ih =>
    rw [run] at h
    split at h
    next => cases h
    next u hu => exact fun name hname => ih h name ((drafts_line hu).2 name hname)

/-- An option that was begun stays. -/
theorem hasItem_run {s t : State} {source : Text} {number : Nat} {ls : List Text}
    (h : s.run source number ls = .ok t) (heading n : Text) (hs : s.hasItem heading n = true) :
    t.hasItem heading n = true := by
  induction ls generalizing s number with
  | nil =>
    cases h
    exact hs
  | cons l ls ih =>
    rw [run] at h
    split at h
    next => cases h
    next u hu =>
      refine ih h ?_
      unfold hasItem at hs ⊢
      rcases (drafts_line hu).1 with heq | ⟨-, heq⟩ | ⟨_, _, -, heq⟩
      · rw [heq, hs]
      · rw [heq, extend]
        split
        next => exact hs
        next d r hd =>
          rw [hd] at hs
          simpa using hs
      · rw [heq, List.any_cons, hs, Bool.or_true]

/-- What holds of every option that a line begins, and stays when a line goes on with the value,
holds of all options. -/
theorem forall_drafts_line {P : Draft → Prop} {s t : State} {source : Text} {number : Nat}
    {l : Text} (hnew : ∀ heading i, item? (Text.trim l) = some i → P ⟨heading, i.name, [i.value]⟩)
    (hmore : ∀ d, P d → isComment (Text.trim l) = false →
      P { d with lines := Text.trim l :: d.lines })
    (hs : ∀ d ∈ s.drafts, P d) (h : s.line source number l = .ok t) : ∀ d ∈ t.drafts, P d := by
  rcases (drafts_line h).1 with heq | ⟨hcomment, heq⟩ | ⟨heading, i, hi, heq⟩
  · rwa [heq]
  · rw [heq, extend]
    split
    next => exact hs
    next d r hd =>
      rw [hd] at hs
      exact List.forall_mem_cons.2 ⟨hmore d (hs d List.mem_cons_self) hcomment,
        fun e he => hs e (List.mem_cons_of_mem d he)⟩
  · rw [heq]
    exact List.forall_mem_cons.2 ⟨hnew heading i hi, hs⟩

theorem forall_drafts_run {P : Draft → Prop} {ls : List Text}
    (hnew : ∀ l ∈ ls, ∀ heading i, item? (Text.trim l) = some i → P ⟨heading, i.name, [i.value]⟩)
    (hmore : ∀ l ∈ ls, ∀ d, P d → isComment (Text.trim l) = false →
      P { d with lines := Text.trim l :: d.lines })
    {s t : State} {source : Text} {number : Nat} (hs : ∀ d ∈ s.drafts, P d)
    (h : s.run source number ls = .ok t) : ∀ d ∈ t.drafts, P d := by
  induction ls generalizing s number with
  | nil =>
    cases h
    exact hs
  | cons l ls ih =>
    rw [run] at h
    split at h
    next => cases h
    next u hu =>
      exact ih (fun x hx => hnew x (List.mem_cons_of_mem l hx))
        (fun x hx => hmore x (List.mem_cons_of_mem l hx))
        (forall_drafts_line (hnew l List.mem_cons_self) (hmore l List.mem_cons_self) hs hu) h

end State

/-! ## What is read is settled -/

/-- A line of a value: trimmed, and without the ends of lines. -/
structure Bare (l : Text) : Prop where
  trimmed : Text.trim l = l
  noFeed : '\n' ∉ l
  noReturn : '\r' ∉ l

theorem Bare.getLast {l : Text} (h : Bare l) :
    ∀ c, l.getLast? = some c → Text.isBlank c = false := by
  intro c hc
  rw [← h.trimmed] at hc
  exact Text.isBlank_of_getLast?_trimBack hc

theorem settled_joined {l : Text} {ls : List Text} (h : ∀ x ∈ l :: ls, Bare x)
    (hcomment : ∀ x ∈ ls, isComment x = false)
    (hlast : ∀ c, (Text.joined ['\n'] (l :: ls)).getLast? = some c → Text.isBlank c = false) :
    Settled (Text.joined ['\n'] (l :: ls)) := by
  have hpieces := Text.pieces_joined (List.cons_ne_nil l ls) (fun x hx => (h x hx).noFeed)
  refine ⟨?_, ?_, ?_, ?_⟩
  · have hnoReturn (xs : List Text) (hxs : ∀ x ∈ xs, Bare x) : '\r' ∉ Text.joined ['\n'] xs := by
      fun_induction Text.joined ['\n'] xs with
      | case1 => simp
      | case2 t => exact (hxs t List.mem_cons_self).noReturn
      | case3 t ts _ ih =>
        have ht := (hxs t List.mem_cons_self).noReturn
        have hts := ih (fun x hx => hxs x (List.mem_cons_of_mem t hx))
        simpa using ⟨ht, hts⟩
    exact hnoReturn (l :: ls) h
  · rw [hpieces]
    exact fun x hx => (h x hx).trimmed
  · rw [hpieces]
    exact hcomment
  · intro hc
    exact absurd (hlast _ hc) (by decide)

theorem settled_trimBack_joined {l : Text} {ls : List Text} (h : ∀ x ∈ l :: ls, Bare x)
    (hcomment : ∀ x ∈ ls, isComment x = false) :
    Settled (Text.trimBack (Text.joined ['\n'] (l :: ls))) := by
  induction ls using List.reverseRecOn with
  | nil =>
    have hl := (h l List.mem_cons_self).getLast
    have htrim : Text.trimBack (Text.joined ['\n'] [l]) = Text.joined ['\n'] [l] :=
      Text.trimBack_eq_self hl
    rw [htrim]
    exact settled_joined h hcomment hl
  | append_singleton ls x ih =>
    have hjoined := Text.joined_concat ['\n'] (List.cons_ne_nil l ls) x
    rw [List.cons_append] at hjoined
    by_cases hx : x = []
    · -- a blank line at the end is trimmed away with the line feed before it
      rw [hjoined, hx, List.append_nil, Text.trimBack_concat_blank _ (by decide)]
      exact ih (fun y hy => h y (by simp at hy ⊢; tauto))
        (fun y hy => hcomment y (List.mem_append_left _ hy))
    · have hlast : ∀ c, (Text.joined ['\n'] (l :: (ls ++ [x]))).getLast? = some c →
          Text.isBlank c = false := by
        intro c hc
        rw [hjoined, List.getLast?_append_of_ne_nil _ hx] at hc
        exact (h x (by simp)).getLast c hc
      rw [Text.trimBack_eq_self hlast]
      exact settled_joined h hcomment hlast

/-- An option whose lines make a settled value. -/
def Draft.Sound (d : Draft) : Prop :=
  ∃ l ls, d.lines.reverse = l :: ls ∧ (∀ x ∈ l :: ls, Bare x) ∧ ∀ x ∈ ls, isComment x = false

theorem Draft.Sound.settled {d : Draft} (h : d.Sound) : Settled d.finish.2.value := by
  obtain ⟨l, ls, hlines, hbare, hcomment⟩ := h
  simp only [Draft.finish, hlines]
  exact settled_trimBack_joined hbare hcomment

theorem bare_trim {t l : Text} (ht : '\r' ∉ t) (hl : l ∈ Text.lines t) : Bare (Text.trim l) := by
  obtain ⟨b, hb, hlb⟩ := Text.body_of_mem_lines hl
  have htrim : Text.trim l = Text.trim b := by
    rcases hlb with rfl | rfl
    · rfl
    · exact Text.trim_concat_blank b (by decide)
  refine ⟨Text.trim_trim l, ?_, ?_⟩
  · rw [htrim]
    exact fun hc => hb ((Text.trim_sublist b).subset hc)
  · exact fun hc => ht (Text.mem_of_mem_lines hl ((Text.trim_sublist l).subset hc))

/-- The value that a line gives is trimmed, and a part of the line. -/
theorem value_of_item? {b : Text} {i : Item} (h : item? b = some i) :
    Text.trim i.value = i.value ∧ i.value.Sublist b := by
  unfold item? at h
  split at h
  next => cases h
  next r hr =>
    cases h
    exact ⟨Text.trim_trim r, (Text.trim_sublist r).trans ((List.sublist_cons_self _ r).trans
      (hr ▸ List.dropWhile_sublist _))⟩

theorem Bare.item {b : Text} (hb : Bare b) {i : Item} (hi : item? b = some i) : Bare i.value := by
  obtain ⟨htrim, hsub⟩ := value_of_item? hi
  exact ⟨htrim, fun hc => hb.noFeed (hsub.subset hc), fun hc => hb.noReturn (hsub.subset hc)⟩

theorem Draft.Sound.more {d : Draft} (hd : d.Sound) {l : Text} (hl : Bare l)
    (hcomment : isComment l = false) : Draft.Sound { d with lines := l :: d.lines } := by
  obtain ⟨x, xs, hlines, hbare, hnone⟩ := hd
  refine ⟨x, xs ++ [l], by simp [hlines], ?_, ?_⟩
  · rw [← List.cons_append]
    exact List.forall_mem_append.2 ⟨hbare, by simpa using hl⟩
  · exact List.forall_mem_append.2 ⟨hnone, by simpa using hcomment⟩

theorem sound_run {s t : State} {source : Text} {number : Nat} {ls : List Text}
    (hs : ∀ d ∈ s.drafts, d.Sound) (hls : ∀ l ∈ ls, Bare (Text.trim l))
    (h : s.run source number ls = .ok t) : ∀ d ∈ t.drafts, d.Sound := by
  refine State.forall_drafts_run ?_ ?_ hs h
  · exact fun l hl _ i hi => ⟨i.value, [], rfl, by simpa using (hls l hl).item hi, by simp⟩
  · exact fun l hl _ hd hcomment => hd.more (hls l hl) hcomment

/-- Whatever document is read, its values are settled. -/
theorem settled_of_read {source t : Text} {doc : Document} (ht : '\r' ∉ t)
    (h : read source t = .ok doc) : ∀ i ∈ doc.items, Settled i.2.value := by
  unfold read at h
  split at h
  next => cases h
  next s hs =>
    split at h
    next =>
      cases h
      intro i hi
      obtain ⟨d, hd, rfl⟩ := List.mem_map.1 hi
      have hsound := sound_run (by simp [State.start]) (fun l hl => bare_trim ht hl) hs
      exact (hsound d (List.mem_reverse.1 hd)).settled
    next => cases h

/-- A value holds no character but line feeds that the document does not hold. -/
theorem mem_of_read {source t : Text} {doc : Document} (h : read source t = .ok doc) {c : Char}
    (hc : c ≠ '\n') : ∀ i ∈ doc.items, c ∈ i.2.value → c ∈ t := by
  have hline {l : Text} (hl : l ∈ Text.lines t) (hcl : c ∈ Text.trim l) : c ∈ t :=
    Text.mem_of_mem_lines hl ((Text.trim_sublist l).subset hcl)
  unfold read at h
  split at h
  next => cases h
  next s hs =>
    have hdrafts : ∀ d ∈ s.drafts, ∀ l ∈ d.lines, c ∈ l → c ∈ t := by
      refine State.forall_drafts_run ?_ ?_ (by simp [State.start]) hs
      · intro l hl _ i hi v hv hcv
        rw [List.mem_singleton.1 hv] at hcv
        exact hline hl ((value_of_item? hi).2.subset hcv)
      · intro l hl d hd _
        exact List.forall_mem_cons.2 ⟨hline hl, hd⟩
    split at h
    next =>
      cases h
      intro i hi hci
      obtain ⟨d, hd, rfl⟩ := List.mem_map.1 hi
      rcases Text.mem_joined ((Text.trimBack_sublist _).subset hci) with hfeed | ⟨l, hl, hcl⟩
      · exact absurd (List.mem_singleton.1 hfeed) hc
      · exact hdrafts d (List.mem_reverse.1 hd) l (List.mem_reverse.1 hl) hcl
    next => cases h

/-! ## Settled values come back -/

theorem Settled.getLast {v : Text} (h : Settled v) :
    ∀ c, v.getLast? = some c → Text.isBlank c = false := by
  intro c hc
  rcases List.eq_nil_or_concat' (Text.pieces '\n' v) with hnil | ⟨init, x, hpieces⟩
  · exact absurd hnil (Text.pieces_ne_nil _ _)
  · have htrim := h.trimmed x (by simp [hpieces])
    have hlast : x.getLast? = some c → Text.isBlank c = false := by
      intro hx
      rw [← htrim] at hx
      exact Text.isBlank_of_getLast?_trimBack hx
    have hv := Text.joined_pieces '\n' v
    rw [hpieces] at hv
    by_cases hinit : init = []
    · rw [hinit] at hv
      have hx : x = v := hv
      exact hlast (hx ▸ hc)
    · rw [Text.joined_concat _ hinit] at hv
      by_cases hx : x = []
      · exact absurd (by rw [← hv, hx]; simp) h.closed
      · rw [← hv, List.getLast?_append_of_ne_nil _ hx] at hc
        exact hlast hc

theorem reread_of_settled {v : Text} (h : Settled v) : reread v = v := by
  have hkept : keptLines v = Text.pieces '\n' v := by
    unfold keptLines
    split
    next hnil => exact hnil.symm
    next l ls hls =>
      have htrim := h.trimmed
      have hnone := h.noComment
      rw [hls] at htrim hnone
      have hmap : ls.map Text.trim = ls :=
        (List.map_congr_left (fun x hx => htrim x (List.mem_cons_of_mem l hx))).trans
          (List.map_id ls)
      rw [hls, hmap, htrim l List.mem_cons_self, List.filter_eq_self.2]
      intro x hx
      rw [hnone x hx]
      rfl
  rw [reread, hkept, Text.joined_pieces, Text.trimBack_eq_self h.getLast]

theorem settled_of_solid {v : Text} (h : ∀ c ∈ v, Text.isBlank c = false) : Settled v := by
  have hfree {c : Char} (hc : Text.isBlank c = true) : c ∉ v := by
    intro hm
    rw [h c hm] at hc
    cases hc
  have hpieces := Text.pieces_of_notMem (hfree (c := '\n') (by decide))
  refine ⟨hfree (by decide), ?_, by simp [hpieces], ?_⟩
  · rw [hpieces]
    intro l hl
    rw [List.mem_singleton.1 hl]
    exact Text.trim_eq_self (fun c hc => h c (List.mem_of_mem_head? hc))
      (fun c hc => h c (List.mem_of_getLast? hc))
  · exact fun hc => hfree (c := '\n') (by decide) (List.mem_of_getLast? hc)

theorem keptLines_ne_nil (v : Text) : keptLines v ≠ [] := by
  unfold keptLines
  split
  next h => exact absurd h (Text.pieces_ne_nil _ _)
  next => simp

theorem joined_append_feed {ts : List Text} (hne : ts ≠ []) :
    Text.joined ['\n'] ts ++ ['\n'] = (ts.map (· ++ ['\n'])).flatten := by
  fun_induction Text.joined ['\n'] ts with
  | case1 => exact absurd rfl hne
  | case2 t => simp
  | case3 t ts hts ih =>
    have hrest := ih (by simpa using hts)
    simp [hrest]

/-- A reader leaves characters out, and adds none. -/
theorem reread_sublist (v : Text) : (reread v).Sublist v := by
  have hlines (ls : List Text) :
      ((((ls.map Text.trim).filter (!isComment ·)).map (· ++ ['\n'])).flatten).Sublist
        (ls.map (· ++ ['\n'])).flatten := by
    induction ls with
    | nil => simp
    | cons l ls ih =>
      rw [List.map_cons, List.filter_cons]
      split
      · exact ((Text.trim_sublist l).append (List.Sublist.refl ['\n'])).append ih
      · exact ih.trans (List.sublist_append_right _ _)
  have hv : v ++ ['\n'] = ((Text.pieces '\n' v).map (· ++ ['\n'])).flatten := by
    rw [← joined_append_feed (Text.pieces_ne_nil '\n' v), Text.joined_pieces]
  have hkept : (Text.joined ['\n'] (keptLines v) ++ ['\n']).Sublist (v ++ ['\n']) := by
    rw [joined_append_feed (keptLines_ne_nil v), hv]
    unfold keptLines
    split
    next h => exact absurd h (Text.pieces_ne_nil _ _)
    next l ls h =>
      rw [h]
      exact ((Text.trim_sublist l).append (List.Sublist.refl ['\n'])).append (hlines ls)
  exact (Text.trimBack_sublist _).trans ((List.append_sublist_append_right _).1 hkept)

example : reread "a \n\n# b\n  c = d\n\n" = "a\n\nc = d".toList := rfl

end StatementShell.Ini
