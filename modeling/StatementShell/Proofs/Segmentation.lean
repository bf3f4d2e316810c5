-- The laws of the input buffer. A text that arrives in chunks gives one statement for each of
-- its cuts, however it was chunked: the trims between extractions, and the fresh scan that
-- each extraction begins, change the blanks at the front of a statement at most.
import StatementShell.InputBuffer
import StatementShell.Proofs.QuoteScan

namespace StatementShell

/-- A text that does not begin with a blank. -/
def Text.Flush (t : Text) : Prop := ∀ c, t.head? = some c → Text.isBlank c = false

theorem Text.flush_trimFront (t : Text) : Text.Flush (Text.trimFront t) :=
  fun _ h => Text.isBlank_of_head?_trimFront h

namespace Segment

/-! ## The layout of a text -/

/-- A text is its statements, each with the blanks behind it, and what is left. -/
theorem extractAll_layout (t : Text) :
    ∃ gaps : List Text, gaps.length = (extractAll t).1.length ∧ (∀ g ∈ gaps, Text.Blank g) ∧
      t = (List.zipWith (· ++ ·) (extractAll t).1 gaps).flatten ++ (extractAll t).2 := by
  induction h : t.length using Nat.strongRecOn generalizing t with
  | _ n ih =>
    cases ht : extract? t with
    | none => exact ⟨[], by rw [extractAll_of_none ht]; simp⟩
    | some p =>
      obtain ⟨s, r⟩ := p
      obtain ⟨gaps, hlen, hblank, hr⟩ := ih _ (h ▸ length_lt_of_extract? ht) r rfl
      obtain ⟨i, -, rfl, hri⟩ := extract?_eq_some ht
      have hgap : t.drop (i + 1) = (t.drop (i + 1)).takeWhile Text.isBlank ++ r := by
        rw [hri, Text.takeWhile_append_trimFront]
      rw [extractAll_of_some ht]
      refine ⟨(t.drop (i + 1)).takeWhile Text.isBlank :: gaps, by simp [hlen], ?_, ?_⟩
      · intro g hg
        rcases List.mem_cons.1 hg with rfl | hg
        · exact Text.blank_takeWhile _
        · exact hblank g hg
      · rw [List.zipWith_cons_cons, List.flatten_cons, List.append_assoc, ← hr,
          List.append_assoc, ← hgap, List.take_append_drop]

/-- From a text that does not begin with a blank, nothing is extracted that does. -/
theorem extractAll_flush {t : Text} (ht : Text.Flush t) :
    (∀ s ∈ (extractAll t).1, Text.Flush s) ∧ Text.Flush (extractAll t).2 := by
  induction h : t.length using Nat.strongRecOn generalizing t with
  | _ n ih =>
    cases he : extract? t with
    | none => rw [extractAll_of_none he]; exact ⟨by simp, ht⟩
    | some p =>
      obtain ⟨s, r⟩ := p
      have hlt := h ▸ length_lt_of_extract? he
      obtain ⟨i, -, rfl, rfl⟩ := extract?_eq_some he
      obtain ⟨h1, h2⟩ := ih _ hlt (Text.flush_trimFront _) rfl
      rw [extractAll_of_some he]
      refine ⟨?_, h2⟩
      intro s hs
      rcases List.mem_cons.1 hs with rfl | hs
      · intro c hc
        exact ht c (by simpa [List.head?_take] using hc)
      · exact h1 s hs

/-- Only the first statement of a text may begin with a blank, and what is left may only
where there was no statement. -/
theorem extractAll_tail_flush (t : Text) :
    (∀ s ∈ (extractAll t).1.tail, Text.Flush s) ∧
      ((extractAll t).1 ≠ [] → Text.Flush (extractAll t).2) := by
  cases he : extract? t with
  | none => rw [extractAll_of_none he]; simp
  | some p =>
    obtain ⟨s, r⟩ := p
    obtain ⟨i, -, -, hr⟩ := extract?_eq_some he
    have hflush := extractAll_flush (hr ▸ Text.flush_trimFront (t.drop (i + 1)))
    rw [extractAll_of_some he]
    exact ⟨hflush.1, fun _ => hflush.2⟩

end Segment

namespace InputBuffer

/-! ## Chunks -/

/-- All complete statements of a buffer, extracted one after the other, and the buffer without
them. -/
def extractAll (b : InputBuffer) : List Text × InputBuffer :=
  match _h : b.extract? with
  | none => ([], b)
  | some (s, rest) =>
    let (more, last) := extractAll rest
    (s :: more, last)
termination_by b.text.length
decreasing_by exact length_lt_of_extract? _h

/-- Chunks of text that come one after the other. After each, all complete statements are
extracted. -/
def feed (b : InputBuffer) : List Text → List Text × InputBuffer
  | [] => ([], b)
  | x :: xs =>
    let (statements, rest) := (b.append x).extractAll
    let (more, last) := rest.feed xs
    (statements ++ more, last)

/-- A buffer is emptied of statements as its text is. -/
theorem extractAll_eq (b : InputBuffer) :
    b.extractAll = ((Segment.extractAll b.text).1, ⟨(Segment.extractAll b.text).2⟩) := by
  induction h : b.text.length using Nat.strongRecOn generalizing b with
  | _ n ih =>
    rw [extractAll]
    split
    next hb =>
      rw [extract?, Option.map_eq_none_iff] at hb
      rw [Segment.extractAll_of_none hb]
    next s rest hb =>
      have hlt := h ▸ length_lt_of_extract? hb
      obtain ⟨⟨s', r⟩, ht, he⟩ := Option.map_eq_some_iff.1 hb
      obtain ⟨rfl, rfl⟩ := Prod.mk.inj he
      rw [ih _ hlt _ rfl, Segment.extractAll_of_some ht]

theorem feed_cons (b : InputBuffer) (x : Text) (xs : List Text) :
    b.feed (x :: xs) =
      ((Segment.extractAll (b.text ++ x)).1 ++
          (feed ⟨(Segment.extractAll (b.text ++ x)).2⟩ xs).1,
        (feed ⟨(Segment.extractAll (b.text ++ x)).2⟩ xs).2) := by
  rw [feed, extractAll_eq]
  rfl

/-- Behind a text whose rest waits in the buffer, trimmed or not, chunks give the pieces that
the scan of the whole cuts in them. -/
theorem feed_trims {b : InputBuffer} {t : Text} (hb : Text.Trims b.text (Segment.scan t).rest)
    (xs : List Text) :
    ∃ ps, (Segment.scan (t ++ xs.flatten)).pieces = (Segment.scan t).pieces ++ ps ∧
      List.Forall₂ Text.Trims (b.feed xs).1 ps ∧
      Text.Trims (b.feed xs).2.text (Segment.scan (t ++ xs.flatten)).rest := by
  induction xs generalizing b t with
  | nil => exact ⟨[], by simp, .nil, by simpa [feed] using hb⟩
  | cons x xs ih =>
    obtain ⟨w, hw, hrest⟩ := hb
    have hnow := Segment.extractAll_trims (b.text ++ x) hw
    rw [← List.append_assoc, ← hrest] at hnow
    have hscan := Segment.scan_append t x
    have hlater : Text.Trims (Segment.extractAll (b.text ++ x)).2 (Segment.scan (t ++ x)).rest := by
      rw [hscan]
      exact hnow.2
    obtain ⟨ps, hps, hmore, hlast⟩ := ih (b := ⟨_⟩) hlater
    rw [List.append_assoc, ← List.flatten_cons] at hps hlast
    rw [feed_cons]
    refine ⟨(Segment.scan ((Segment.scan t).rest ++ x)).pieces ++ ps, ?_, ?_, hlast⟩
    · rw [hps, hscan, Segment.Scan.behind, List.append_assoc]
    · exact List.rel_append hnow.1 hmore

/-- Chunks give the pieces of one scan of the whole text, some blanks apart. -/
theorem feed_empty_trims (xs : List Text) :
    List.Forall₂ Text.Trims (empty.feed xs).1 (Segment.scan xs.flatten).pieces ∧
      Text.Trims (empty.feed xs).2.text (Segment.scan xs.flatten).rest := by
  obtain ⟨ps, hps, h1, h2⟩ := feed_trims (b := empty) (t := []) (Text.Trims.refl []) xs
  rw [List.nil_append] at hps h2
  have hps : (Segment.scan xs.flatten).pieces = ps := hps
  exact ⟨hps ▸ h1, h2⟩

end InputBuffer

/-! ## The law of chunks -/

theorem map_trimFront_of_trims {ss ps : List Text} (h : List.Forall₂ Text.Trims ss ps) :
    ss.map Text.trimFront = ps.map Text.trimFront := by
  induction h with
  | nil => rfl
  | cons h _ ih => rw [List.map_cons, List.map_cons, h.trimFront_eq, ih]

/-- Stretches that end at some cuts do so without the blanks at their fronts as well. -/
theorem endsAt_of_trims {t : Text} {ss ps : List Text} {places : List Nat}
    (h : List.Forall₂ Text.Trims ss ps) (hp : List.Forall₂ (Segment.EndsAt t) ps places) :
    List.Forall₂ (Segment.EndsAt t) ss places := by
  induction h generalizing places with
  | nil =>
    cases hp
    exact .nil
  | cons h _ ih =>
    obtain _ | ⟨he, hes⟩ := hp
    exact .cons (he.trims h) (ih hes)

namespace InputBuffer

/-- However a text is cut into chunks, it gives one statement for each of its cuts: the
statement ends there and holds no other cut. The statements, and what is left in the buffer,
are those of the text in one chunk, but for blanks at the front. In one chunk, nothing is lost
but the blanks behind a statement. -/
theorem chunks_give_one_statement_for_each_cut (chunks : List Text) :
    let whole := chunks.flatten
    let fed := empty.feed chunks
    let once := empty.feed [whole]
    fed.1.length = (Segment.cuts whole).length ∧
    List.Forall₂ (Segment.EndsAt whole) fed.1 (Segment.cuts whole) ∧
    fed.1.map Text.trimFront = once.1.map Text.trimFront ∧
    Text.trimFront fed.2.text = Text.trimFront once.2.text ∧
    ∃ gaps : List Text, gaps.length = once.1.length ∧ (∀ g ∈ gaps, Text.Blank g) ∧
      whole = (List.zipWith (· ++ ·) once.1 gaps).flatten ++ once.2.text ∧
      (∀ s ∈ once.1.tail, Text.Flush s) ∧ (once.1 ≠ [] → Text.Flush once.2.text) ∧
      Segment.terminator? once.2.text = none := by
  intro whole fed once
  have hfed := feed_empty_trims chunks
  have honce := feed_empty_trims [whole]
  have hwhole : [whole].flatten = whole := by simp
  rw [hwhole] at honce
  have hends := endsAt_of_trims hfed.1 (Segment.pieces_end_at_cuts whole)
  have hone : once = ((Segment.extractAll whole).1, ⟨(Segment.extractAll whole).2⟩) := by
    show empty.feed [whole] = _
    rw [feed_cons]
    simp [feed, empty]
  obtain ⟨gaps, hlen, hblank, hlay⟩ := Segment.extractAll_layout whole
  obtain ⟨htail, hrest⟩ := Segment.extractAll_tail_flush whole
  refine ⟨hends.length_eq, hends, ?_, ?_, gaps, ?_⟩
  · rw [map_trimFront_of_trims hfed.1, map_trimFront_of_trims honce.1]
  · rw [hfed.2.trimFront_eq, honce.2.trimFront_eq]
  · rw [hone]
    exact ⟨hlen, hblank, hlay, htail, hrest, Segment.terminator?_extractAll whole⟩

end InputBuffer

end StatementShell
