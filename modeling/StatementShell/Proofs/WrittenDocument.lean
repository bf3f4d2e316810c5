-- Documents that were written and are read back. The writer only indents the lines of a value
-- after the first, so a value without carriage returns never leaves its option: a section of
-- plain names is read with the same options, whatever their values hold.
import Mathlib.Data.List.Basic
import StatementShell.Proofs.NumberText
import StatementShell.Proofs.SettledText

namespace StatementShell.Ini

/-! ## The pure model -/

/-- Whether a character may stand in a plain name. -/
def isNameChar (c : Char) : Bool := c.isLower || c.isDigit || c == '_' || c == '.'

/-- A name that no reader takes for anything else. -/
def PlainName (n : Text) : Prop := n ≠ [] ∧ ∀ c ∈ n, isNameChar c = true

instance : DecidablePred PlainName := fun n =>
  decidable_of_iff (n ≠ [] ∧ n.all isNameChar = true) (by simp [PlainName])

/-! ## Names -/

theorem toNat_of_isNameChar {c : Char} (h : isNameChar c = true) :
    c.toNat = 46 ∨ (48 ≤ c.toNat ∧ c.toNat ≤ 57) ∨ c.toNat = 95 ∨
      (97 ≤ c.toNat ∧ c.toNat ≤ 122) := by
  simp only [isNameChar, Bool.or_eq_true, beq_iff_eq] at h
  rcases h with ((h | h) | rfl) | rfl
  · change (decide (97 ≤ c.toNat) && decide (c.toNat ≤ 122)) = true at h
    exact .inr (.inr (.inr (by simpa using h)))
  · exact .inr (.inl (Text.toNat_of_isDigit h))
  · exact .inr (.inr (.inl rfl))
  · exact .inl rfl

theorem ne_of_isNameChar {c d : Char} (h : isNameChar c = true) (hd : isNameChar d = false) :
    c ≠ d := by
  rintro rfl
  rw [h] at hd
  cases hd

theorem isBlank_of_isNameChar {c : Char} (h : isNameChar c = true) : Text.isBlank c = false := by
  have := toNat_of_isNameChar h
  simp only [Text.isBlank, Text.Ranges.has, Text.blankRanges, List.any_cons, List.any_nil,
    Bool.or_false, Bool.or_eq_false_iff, Bool.and_eq_false_iff, decide_eq_false_iff_not]
  omega

theorem smallLetter_of_isNameChar {c : Char} (h : isNameChar c = true) :
    Text.smallLetter c = c := by
  have hn := toNat_of_isNameChar h
  rw [Text.smallLetter, if_pos (by omega)]
  delta Char.toLower
  refine dif_neg ?_
  rintro ⟨h1, h2⟩
  have hupper : 65 ≤ c.toNat ∧ c.toNat ≤ 90 := ⟨h1, h2⟩
  omega

theorem foldAfter_name {n : Text} (h : ∀ c ∈ n, isNameChar c = true) (before : Text) :
    Text.foldAfter before n = n := by
  induction n generalizing before with
  | nil => rfl
  | cons c r ih =>
    have hc := h c List.mem_cons_self
    rw [Text.foldAfter, ih (fun d hd => h d (List.mem_cons_of_mem c hd)),
      if_neg (ne_of_isNameChar hc (by decide)), if_neg (ne_of_isNameChar hc (by decide)),
      smallLetter_of_isNameChar hc]
    rfl

namespace PlainName

theorem fold_eq {n : Text} (h : PlainName n) : Text.fold n = n := foldAfter_name h.2 []

theorem notMem {n : Text} (h : PlainName n) {c : Char} (hc : isNameChar c = false) : c ∉ n :=
  fun hm => ne_of_isNameChar (h.2 c hm) hc rfl

theorem trimBack_eq {n : Text} (h : PlainName n) : Text.trimBack n = n :=
  Text.trimBack_eq_self (fun c hc => isBlank_of_isNameChar (h.2 c (List.mem_of_getLast? hc)))

end PlainName

/-! ## The line of a name -/

section

variable {n : Text} (hn : PlainName n)

include hn

theorem trim_namedLine (x : Text) :
    Text.trim (n ++ ' ' :: '=' :: x) = n ++ ' ' :: '=' :: Text.trimBack x := by
  have hfront : Text.trimFront (n ++ ' ' :: '=' :: x) = n ++ ' ' :: '=' :: x := by
    refine Text.trimFront_eq_self ?_
    intro c hc
    rw [List.head?_append_of_ne_nil _ hn.1] at hc
    exact isBlank_of_isNameChar (hn.2 c (List.mem_of_mem_head? hc))
  have hback := Text.trimBack_append_solid (n ++ [' ']) (c := '=') (by decide) x
  simpa [Text.trim, hfront] using hback

theorem item?_namedLine (x : Text) :
    item? (Text.trim (n ++ ' ' :: '=' :: x)) = some ⟨n, Text.trim x⟩ := by
  have hplain : ∀ c ∈ n ++ [' '], (!isDelimiter c) = true := by
    intro c hc
    rcases List.mem_append.1 hc with hc | hc
    · have h1 := ne_of_isNameChar (hn.2 c hc) (d := '=') (by decide)
      have h2 := ne_of_isNameChar (hn.2 c hc) (d := ':') (by decide)
      simp [isDelimiter, h1, h2]
    · rw [List.mem_singleton.1 hc]
      decide
  have hsplit : n ++ ' ' :: '=' :: Text.trimBack x = (n ++ [' ']) ++ '=' :: Text.trimBack x := by
    simp
  rw [trim_namedLine hn, hsplit, item?, List.dropWhile_append_of_pos hplain,
    List.takeWhile_append_of_pos hplain]
  simp [isDelimiter, Text.trimBack_concat_blank n (c := ' ') (by decide), hn.trimBack_eq,
    hn.fold_eq, Text.trim_trimBack]

theorem head?_trim_namedLine (x : Text) :
    ∃ c r, Text.trim (n ++ ' ' :: '=' :: x) = c :: r ∧ isNameChar c = true := by
  rw [trim_namedLine hn]
  obtain ⟨hne, hchars⟩ := hn
  cases n with
  | nil => exact absurd rfl hne
  | cons c r => exact ⟨c, _, rfl, hchars c List.mem_cons_self⟩

theorem indentOf_namedLine (x : Text) : indentOf (n ++ ' ' :: '=' :: x) = 0 := by
  obtain ⟨hne, hchars⟩ := hn
  cases n with
  | nil => exact absurd rfl hne
  | cons c r =>
    simp [indentOf, isBlank_of_isNameChar (hchars c List.mem_cons_self)]

/-- The line of a plain name begins an option, whatever was read before it. -/
theorem line_namedLine {s : State} {heading : Text} (hs : s.current = some heading)
    (source : Text) (number : Nat) (x : Text) :
    s.line source number (n ++ ' ' :: '=' :: x) =
      { s with indent := 0 }.add source number (n ++ ' ' :: '=' :: x) heading
        ⟨n, Text.trim x⟩ := by
  obtain ⟨c, r, hbody, hc⟩ := head?_trim_namedLine hn x
  have hcomment : isComment (c :: r) = false := by
    have h1 := ne_of_isNameChar hc (d := '#') (by decide)
    have h2 := ne_of_isNameChar hc (d := ';') (by decide)
    unfold isComment
    split <;> simp_all
  have hheading : heading? (c :: r) = none := by
    have h1 := ne_of_isNameChar hc (d := '[') (by decide)
    unfold heading?
    split <;> simp_all
  have hitem := item?_namedLine hn x
  rw [hbody] at hitem
  simp only [State.line, State.element, hbody, hcomment, indentOf_namedLine hn, hheading, hs,
    hitem, List.isEmpty_cons, Bool.false_eq_true, if_false, Nat.not_lt_zero, and_false]

end

/-! ## The lines that are written -/

/-- The lines of an option, without the line feeds that end them. -/
def itemBodies (i : Item) : List Text :=
  match Text.pieces '\n' i.value with
  | [] => []
  | l :: ls => (i.name ++ ' ' :: '=' :: ' ' :: l) :: ls.map ('\t' :: ·)

theorem writeValue_of_notMem {v : Text} (h : '\n' ∉ v) : writeValue v = v := by
  induction v with
  | nil => rfl
  | cons c r ih =>
    have hc : c ≠ '\n' := fun e => h (by simp [e])
    have hr := ih (fun hr => h (List.mem_cons_of_mem c hr))
    rw [writeValue, List.flatMap_cons, if_neg hc, List.singleton_append]
    exact congrArg (c :: ·) hr

theorem writeValue_joined {l : Text} {ls : List Text} (h : ∀ x ∈ l :: ls, '\n' ∉ x) :
    writeValue (Text.joined ['\n'] (l :: ls)) ++ ['\n'] =
      l ++ '\n' :: (ls.map (fun x => '\t' :: x ++ ['\n'])).flatten := by
  induction ls generalizing l with
  | nil => simp [Text.joined, writeValue_of_notMem (h l List.mem_cons_self)]
  | cons m ms ih =>
    have hl := writeValue_of_notMem (h l List.mem_cons_self)
    have hms := ih (fun x hx => h x (List.mem_cons_of_mem l hx))
    have hcut : writeValue (Text.joined ['\n'] (l :: m :: ms)) =
        l ++ '\n' :: '\t' :: writeValue (Text.joined ['\n'] (m :: ms)) := by
      rw [Text.joined, writeValue, List.flatMap_append, List.flatMap_append]
      · change writeValue l ++ _ ++ _ = _
        rw [hl]
        simp [writeValue]
      · simp
    rw [hcut, List.append_assoc, List.cons_append, List.cons_append, hms]
    simp

theorem writeItem_eq (i : Item) :
    writeItem i = ((itemBodies i).map (· ++ ['\n'])).flatten := by
  have hv := Text.joined_pieces '\n' i.value
  have hfree : ∀ l ∈ Text.pieces '\n' i.value, '\n' ∉ l := fun _ => Text.notMem_of_mem_pieces
  unfold itemBodies
  split
  next h => exact absurd h (Text.pieces_ne_nil _ _)
  next l ls h =>
    rw [h] at hv hfree
    have hlines := writeValue_joined hfree
    rw [hv] at hlines
    have hitem : writeItem i = i.name ++ ' ' :: '=' :: ' ' :: (writeValue i.value ++ ['\n']) := by
      simp [writeItem]
    rw [hitem, hlines]
    simp [Function.comp_def]

theorem notMem_itemBodies {i : Item} (hn : PlainName i.name) : ∀ b ∈ itemBodies i, '\n' ∉ b := by
  have hfree : ∀ l ∈ Text.pieces '\n' i.value, '\n' ∉ l := fun _ => Text.notMem_of_mem_pieces
  unfold itemBodies
  split
  next => simp
  next l ls h =>
    rw [h] at hfree
    intro b hb
    rcases List.mem_cons.1 hb with rfl | hb
    · simpa using ⟨hn.notMem (by decide), hfree l List.mem_cons_self⟩
    · obtain ⟨x, hx, rfl⟩ := List.mem_map.1 hb
      simpa using hfree x (List.mem_cons_of_mem l hx)

/-! ## Runs over several lines -/

namespace State

theorem run_append {s t : State} {source : Text} {number : Nat} {ls : List Text}
    (h : s.run source number ls = .ok t) (ms : List Text) :
    s.run source number (ls ++ ms) = t.run source (number + ls.length) ms := by
  induction ls generalizing s number with
  | nil =>
    cases h
    rfl
  | cons l ls ih =>
    rw [run] at h
    rw [List.cons_append, run]
    split at h
    next => cases h
    next u hu =>
      rw [ih h, List.length_cons]
      congr 1
      omega

/-- A line that is indented goes on with an open value that began without an indent. -/
theorem line_indented {s : State} (hopen : s.isOpen = true) (hindent : s.indent = 0)
    (source : Text) (number : Nat) (l : Text) :
    s.line source number ('\t' :: l ++ ['\n']) =
      .ok (if isComment (Text.trim l) then s else s.extend (Text.trim l)) := by
  have hbody : Text.trim ('\t' :: l ++ ['\n']) = Text.trim l := by
    rw [Text.trim_concat_blank _ (by decide), Text.trim_cons_blank (by decide)]
  have hpos : 0 < indentOf ('\t' :: l ++ ['\n']) := by
    rw [indentOf, List.cons_append, List.takeWhile_cons_of_pos (by decide)]
    simp
  unfold line
  simp only [hbody]
  split
  next => rfl
  next =>
    split
    next hempty =>
      rw [List.isEmpty_iff.1 hempty]
    next => simp only [element, hbody, hopen, hindent, hpos, and_self, if_true]

theorem run_indented {s : State} {d : Draft} {r : List Draft} (hs : s.drafts = d :: r)
    (hopen : s.isOpen = true) (hindent : s.indent = 0) (source : Text) (number : Nat)
    (ls : List Text) :
    s.run source number (ls.map (fun l => '\t' :: l ++ ['\n'])) =
      .ok { s with
        drafts := { d with
          lines := ((ls.map Text.trim).filter (!isComment ·)).reverse ++ d.lines } :: r } := by
  induction ls generalizing s d number with
  | nil =>
    obtain ⟨_, _, _, _, _, _⟩ := s
    cases hs
    rfl
  | cons l ls ih =>
    rw [List.map_cons, run, line_indented hopen hindent]
    by_cases hc : isComment (Text.trim l) = true
    · simp only [hc, if_true]
      rw [ih hs hopen hindent]
      simp [hc]
    · have hext : s.extend (Text.trim l) =
          { s with drafts := { d with lines := Text.trim l :: d.lines } :: r } := by
        rw [extend, hs]
      simp only [hc, if_false, hext, Bool.false_eq_true]
      rw [ih (s := { s with drafts := { d with lines := Text.trim l :: d.lines } :: r }) rfl hopen
        hindent]
      simp [hc]

end State

/-! ## Reading what was written -/

/-- An option whose value has been read. -/
def draftOf (heading : Text) (i : Item) : Draft := ⟨heading, i.name, (keptLines i.value).reverse⟩

/-- The state after some options of a section that was written. -/
def stateAfter (heading : Text) (done : List Item) : State where
  headings := [heading]
  drafts := (done.map (draftOf heading)).reverse
  current := some heading
  isOpen := !done.isEmpty
  indent := 0
  broken := []

theorem hasItem_stateAfter {heading : Text} {done : List Item} {n : Text}
    (h : n ∉ done.map (·.name)) : (stateAfter heading done).hasItem heading n = false := by
  simp only [State.hasItem, stateAfter, List.any_reverse, List.any_map, List.any_eq_false]
  intro i hi
  simpa [draftOf] using fun e => h (List.mem_map.2 ⟨i, hi, e⟩)

/-- The line of a name, in a section that was written so far. -/
theorem line_stateAfter (heading : Text) {n : Text} {done : List Item} (hn : PlainName n)
    (hnew : n ∉ done.map (·.name)) (source : Text) (number : Nat) (x : Text) :
    (stateAfter heading done).line source number (n ++ ' ' :: '=' :: x) =
      .ok { stateAfter heading done with
        drafts := ⟨heading, n, [Text.trim x]⟩ :: (stateAfter heading done).drafts
        isOpen := true } := by
  have hempty : n.isEmpty = false := by simpa using hn.1
  have hitem : ({ stateAfter heading done with indent := 0 } : State).hasItem heading n = false :=
    hasItem_stateAfter hnew
  rw [line_namedLine hn rfl, State.add, hitem]
  simp [hempty, stateAfter]

theorem run_item (heading : Text) {done : List Item} {i : Item} (hn : PlainName i.name)
    (hnew : i.name ∉ done.map (·.name)) (source : Text) (number : Nat) :
    (stateAfter heading done).run source number ((itemBodies i).map (· ++ ['\n'])) =
      .ok (stateAfter heading (done ++ [i])) := by
  unfold itemBodies
  split
  next h => exact absurd h (Text.pieces_ne_nil _ _)
  next l ls h =>
    have hfirst := line_stateAfter heading hn hnew source number (' ' :: l ++ ['\n'])
    have htrim : Text.trim (' ' :: l ++ ['\n']) = Text.trim l := by
      rw [Text.trim_concat_blank _ (by decide), Text.trim_cons_blank (by decide)]
    rw [htrim] at hfirst
    have hline : i.name ++ ' ' :: '=' :: ' ' :: l ++ ['\n'] =
        i.name ++ ' ' :: '=' :: (' ' :: l ++ ['\n']) := by simp
    rw [List.map_cons, hline, State.run, hfirst, List.map_map]
    refine (State.run_indented rfl rfl rfl source (number + 1) ls).trans ?_
    simp [stateAfter, draftOf, keptLines, h]

theorem run_items (heading : Text) {done items : List Item}
    (hnames : ∀ i ∈ items, PlainName i.name) (hnew : ((done ++ items).map (·.name)).Nodup)
    (source : Text) (number : Nat) :
    (stateAfter heading done).run source number
        ((items.flatMap itemBodies).map (· ++ ['\n'])) =
      .ok (stateAfter heading (done ++ items)) := by
  -- each option moves from those to come to those that are done
  induction items generalizing done number with
  | nil => simp [State.run]
  | cons i is ih =>
    have hi : i.name ∉ done.map (·.name) := by
      intro hmem
      rw [List.map_append, List.map_cons, List.nodup_append] at hnew
      exact hnew.2.2 i.name hmem i.name List.mem_cons_self rfl
    have hrun := run_item heading (hnames i List.mem_cons_self) hi source number
    rw [List.flatMap_cons, List.map_append, State.run_append hrun,
      ih (fun j hj => hnames j (List.mem_cons_of_mem i hj)) (by simpa using hnew)]
    simp

/-- The line of a heading begins its section. -/
theorem run_heading {heading : Text} (hne : heading ≠ []) (source : Text) (number : Nat) :
    State.start.run source number ['[' :: heading ++ [']', '\n']] =
      .ok (stateAfter heading []) := by
  have hbody : Text.trim ('[' :: heading ++ [']', '\n']) = '[' :: heading ++ [']'] := by
    have hline : '[' :: heading ++ [']', '\n'] = ('[' :: heading ++ [']']) ++ ['\n'] := by simp
    rw [hline, Text.trim_concat_blank _ (by decide)]
    refine Text.trim_eq_self ?_ ?_
    · rintro c hc
      cases hc
      decide
    · intro c hc
      rw [List.getLast?_append_of_ne_nil _ (by simp)] at hc
      cases hc
      decide
  have hheading : heading? ('[' :: heading ++ [']']) = some heading := by
    simp [heading?, hne]
  have hindent : indentOf ('[' :: heading ++ [']', '\n']) = 0 := by
    rw [indentOf, List.cons_append, List.takeWhile_cons_of_neg (by decide)]
    rfl
  rw [List.cons_append] at hbody hheading hindent ⊢
  simp only [State.run, State.line, State.element, hbody, hheading, hindent, List.cons_append,
    isComment, List.isEmpty_cons, State.enter, State.start, Bool.false_eq_true, if_false,
    false_and, List.contains_nil, Bool.false_and]
  rfl

/-- A document of one section up to the end of its last option. -/
def front (heading : Text) (items : List Item) : Text :=
  '[' :: heading ++ [']', '\n'] ++ items.flatMap writeItem

theorem write_eq (heading : Text) (items : List Item) :
    write heading items = front heading items ++ ['\n'] := by
  simp [write, writeSection, front]

theorem lines_front_append {heading : Text} (hh : '\n' ∉ heading) {items : List Item}
    (hnames : ∀ i ∈ items, PlainName i.name) (t : Text) :
    Text.lines (front heading items ++ t) =
      ['[' :: heading ++ [']', '\n']] ++ (items.flatMap itemBodies).map (· ++ ['\n']) ++
        Text.lines t := by
  have hbodies : ∀ b ∈ ('[' :: heading ++ [']']) :: items.flatMap itemBodies, '\n' ∉ b := by
    intro b hb
    rcases List.mem_cons.1 hb with rfl | hb
    · simpa using hh
    · obtain ⟨i, hi, hb⟩ := List.mem_flatMap.1 hb
      exact notMem_itemBodies (hnames i hi) b hb
  have hitems :
      items.flatMap writeItem = ((items.flatMap itemBodies).map (· ++ ['\n'])).flatten := by
    induction items with
    | nil => rfl
    | cons i is ih =>
      rw [List.flatMap_cons, List.flatMap_cons, List.map_append, List.flatten_append, writeItem_eq,
        ih (fun j hj => hnames j (List.mem_cons_of_mem i hj))
          (fun b hb => hbodies b (by simp at hb ⊢; tauto))]
  have hlines := Text.lines_flatten_append hbodies t
  rw [List.map_cons, List.flatten_cons, ← hitems] at hlines
  simpa [front] using hlines

/-- What stands behind some options is read from the state after them. -/
theorem run_front {heading : Text} (hne : heading ≠ []) (hh : '\n' ∉ heading) {items : List Item}
    (hnames : ∀ i ∈ items, PlainName i.name) (hnodup : (items.map (·.name)).Nodup)
    (source t : Text) :
    ∃ number, State.start.run source 1 (Text.lines (front heading items ++ t)) =
      (stateAfter heading items).run source number (Text.lines t) := by
  rw [lines_front_append hh hnames, List.append_assoc, State.run_append (run_heading hne source 1),
    State.run_append (run_items heading hnames (by simpa using hnodup) source _)]
  exact ⟨_, rfl⟩

theorem finish_draftOf (heading : Text) (i : Item) :
    (draftOf heading i).finish = (heading, ⟨i.name, reread i.value⟩) := by
  simp [Draft.finish, draftOf, reread]

/-- The blank line that ends a section is no part of the last value. -/
theorem finish_extended_draftOf (heading : Text) (i : Item) :
    Draft.finish { draftOf heading i with lines := [] :: (draftOf heading i).lines } =
      (draftOf heading i).finish := by
  have hjoined := Text.joined_concat ['\n'] (keptLines_ne_nil i.value) []
  rw [List.append_nil] at hjoined
  have htrim := Text.trimBack_concat_blank (Text.joined ['\n'] (keptLines i.value)) (c := '\n')
    (by decide)
  simp [Draft.finish, draftOf, hjoined, htrim]

/-- A section of plain names is read with the same options. Each value is what a reader makes
of the one that was written. -/
theorem read_write {heading : Text} (hne : heading ≠ []) (hh : '\n' ∉ heading)
    {items : List Item} (hnames : ∀ i ∈ items, PlainName i.name)
    (hnodup : (items.map (·.name)).Nodup) (source : Text) :
    read source (write heading items) =
      .ok ⟨[heading], items.map (fun i => (heading, ⟨i.name, reread i.value⟩))⟩ := by
  obtain ⟨number, hrun⟩ := run_front hne hh hnames hnodup source ['\n']
  rw [← write_eq] at hrun
  have hfinish : (items.map (draftOf heading)).map Draft.finish =
      items.map (fun i => (heading, ⟨i.name, reread i.value⟩)) := by
    simp [finish_draftOf]
  have hlast : (stateAfter heading items).run source number (Text.lines ['\n']) =
      .ok (if (stateAfter heading items).isOpen then (stateAfter heading items).extend []
        else stateAfter heading items) := rfl
  rw [read, hrun, hlast, ← hfinish]
  rcases List.eq_nil_or_concat' items with rfl | ⟨init, last, rfl⟩
  · rfl
  · have hext := finish_extended_draftOf heading last
    simp [stateAfter, State.extend, hext]

/-- A plain name that stands behind the options of a section is read as an option of that
section, whatever follows it. -/
theorem named_of_read {heading : Text} (hne : heading ≠ []) (hh : '\n' ∉ heading)
    {done : List Item} (hnames : ∀ i ∈ done, PlainName i.name)
    (hnodup : (done.map (·.name)).Nodup) {n : Text} (hn : PlainName n)
    (hnew : n ∉ done.map (·.name)) {source x : Text} (hx : x ≠ []) {doc : Document}
    (h : read source (front heading done ++ (n ++ ' ' :: '=' :: x)) = .ok doc) :
    heading ∈ doc.headings ∧ ∃ v, (heading, ⟨n, v⟩) ∈ doc.items := by
  obtain ⟨number, hrun⟩ := run_front hne hh hnames hnodup source (n ++ ' ' :: '=' :: x)
  obtain ⟨l, ls, hl⟩ : ∃ l ls, Text.lines x = l :: ls := by
    cases hlines : Text.lines x with
    | nil => exact absurd (by rw [← Text.flatten_lines x, hlines]; rfl) hx
    | cons l ls => exact ⟨l, ls, rfl⟩
  have hname : '\n' ∉ n ++ [' ', '='] := by simpa using hn.notMem (by decide)
  have hline := Text.lines_append_of_notMem hname hl
  simp only [List.append_assoc, List.cons_append, List.nil_append] at hline
  have hfirst := line_stateAfter heading hn hnew source number l
  rw [hline, State.run, hfirst] at hrun
  unfold read at h
  split at h
  next => cases h
  next s hs =>
    split at h
    next =>
      cases h
      rw [hs] at hrun
      have hheadings := State.mem_headings_run hrun.symm heading (by simp [stateAfter])
      have hitem := State.hasItem_run hrun.symm heading n (by simp [State.hasItem])
      refine ⟨List.mem_reverse.2 hheadings, ?_⟩
      obtain ⟨d, hd, hdn⟩ := List.any_eq_true.1 hitem
      simp only [Bool.and_eq_true, beq_iff_eq] at hdn
      obtain ⟨rfl, rfl⟩ := hdn
      exact ⟨_, List.mem_map.2 ⟨d, List.mem_reverse.2 hd, rfl⟩⟩
    next => cases h

/-! ## Carriage returns -/

theorem return_notMem_front {heading : Text} (hh : '\r' ∉ heading) {items : List Item}
    (hitems : ∀ i ∈ items, PlainName i.name ∧ '\r' ∉ i.value) : '\r' ∉ front heading items := by
  have hvalue (v : Text) (hv : '\r' ∉ v) : '\r' ∉ writeValue v := by
    intro hc
    obtain ⟨c, hcv, hc⟩ := List.mem_flatMap.1 hc
    split at hc
    · simp at hc
    · rw [← List.mem_singleton.1 hc] at hcv
      exact hv hcv
  have hall : '\r' ∉ items.flatMap writeItem := by
    intro hc
    obtain ⟨i, hi, hc⟩ := List.mem_flatMap.1 hc
    obtain ⟨hname, hv⟩ := hitems i hi
    have hn := hname.notMem (c := '\r') (by decide)
    simp [writeItem, hn, hvalue _ hv] at hc
  simp [front, hh, hall]

/-- Up to the name of an option a document is read as it was written, as far as no value before
it holds a carriage return. -/
theorem named_of_read_write {heading : Text} (hne : heading ≠ []) (hh : '\n' ∉ heading)
    (hr : '\r' ∉ heading) {done rest : List Item} {i : Item}
    (hnames : ∀ j ∈ done ++ i :: rest, PlainName j.name)
    (hnodup : ((done ++ i :: rest).map (·.name)).Nodup) (hdone : ∀ j ∈ done, '\r' ∉ j.value)
    {source : Text} {doc : Document}
    (h : read source (Text.unifyLineEnds (write heading (done ++ i :: rest))) = .ok doc) :
    heading ∈ doc.headings ∧ ∃ v, (heading, ⟨i.name, v⟩) ∈ doc.items := by
  have hbefore : ∀ j ∈ done, PlainName j.name := fun j hj => hnames j (List.mem_append_left _ hj)
  have hi : PlainName i.name := hnames i (by simp)
  have hsplit : write heading (done ++ i :: rest) =
      (front heading done ++ (i.name ++ [' ', '=', ' '])) ++
        (writeValue i.value ++ ['\n'] ++ rest.flatMap writeItem ++ ['\n']) := by
    simp [write, writeSection, front, writeItem]
  have hplain : '\r' ∉ front heading done ++ (i.name ++ [' ', '=', ' ']) := by
    have hfront := return_notMem_front hr (fun j hj => ⟨hbefore j hj, hdone j hj⟩)
    simpa using ⟨hfront, hi.notMem (by decide)⟩
  rw [hsplit, Text.unifyLineEnds_append hplain, List.append_assoc, List.append_assoc] at h
  rw [List.map_append, List.map_cons, List.nodup_append] at hnodup
  exact named_of_read hne hh hbefore hnodup.1 hi
    (fun hmem => hnodup.2.2 i.name hmem i.name List.mem_cons_self rfl) (List.cons_ne_nil _ _) h

/-! ## Sections -/

theorem section?_own {heading : Text} (hcommon : heading ≠ commonSection) (items : List Item) :
    (Document.mk [heading] (items.map (fun i => (heading, i)))).section? heading =
      some items := by
  have hother : (heading == commonSection) = false := by simpa using hcommon
  simp [Document.section?, Document.under, List.filter_map, Function.comp_def, hother]

/-- The options of a section are options of its document, and no name of the section is left
out. -/
theorem section?_of_mem {doc : Document} {heading : Text} (h : heading ∈ doc.headings) :
    ∃ items, doc.section? heading = some items ∧
      (∀ i ∈ items, ∃ name, (name, i) ∈ doc.items) ∧
      ∀ i, (heading, i) ∈ doc.items → ∃ j ∈ items, j.name = i.name := by
  have hunder {name : Text} {i : Item} : i ∈ doc.under name ↔ (name, i) ∈ doc.items := by
    simp [Document.under]
  rw [Document.section?, if_pos (by simpa using h)]
  refine ⟨_, rfl, ?_, ?_⟩
  · intro i hi
    rcases List.mem_append.1 hi with hi | hi
    · obtain ⟨c, hc, rfl⟩ := List.mem_map.1 hi
      cases hfind : (doc.under heading).find? (fun o => o.name == c.name) with
      | none => exact ⟨commonSection, hunder.1 hc⟩
      | some o => exact ⟨heading, hunder.1 (List.mem_of_find?_eq_some hfind)⟩
    · exact ⟨heading, hunder.1 (List.mem_of_mem_filter hi)⟩
  · intro i hi
    by_cases hc : (doc.under commonSection).any (fun c => c.name == i.name) = true
    · obtain ⟨c, hc, hname⟩ := List.any_eq_true.1 hc
      refine ⟨_, List.mem_append_left _ (List.mem_map.2 ⟨c, hc, rfl⟩), ?_⟩
      cases hfind : (doc.under heading).find? (fun o => o.name == c.name) with
      | none => simpa using hname
      | some o =>
        have ho := List.find?_some hfind
        simp only [beq_iff_eq] at ho hname
        exact ho.trans hname
    · refine ⟨i, List.mem_append_right _ (List.mem_filter.2 ⟨hunder.2 hi, ?_⟩), rfl⟩
      simpa using hc

end StatementShell.Ini
