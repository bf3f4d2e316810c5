-- One scan of a text, from its first character to its last. It keeps whether it stands inside
-- quotes, what it has cut at terminators outside quotes, and what is left since the last cut.
-- Statements are extracted differently: each extraction scans anew, from the front of a text
-- that was trimmed. Up to the blanks at their fronts, they are the pieces of this one scan.
import Mathlib.Data.List.Forall2
import Mathlib.Data.List.Induction
import Mathlib.Data.List.TakeWhile
import StatementShell.Segment

namespace StatementShell

/-! ## Blanks at the front -/

namespace Text

/-- A text of nothing but blanks. -/
def Blank (w : Text) : Prop := ∀ c ∈ w, isBlank c = true

/-- A text without some of the blanks at the front of another one. -/
def Trims (t whole : Text) : Prop := ∃ w, Blank w ∧ whole = w ++ t

theorem blank_nil : Blank [] := by simp [Blank]

theorem blank_takeWhile (t : Text) : Blank (t.takeWhile isBlank) := by
  intro c hc
  exact List.mem_takeWhile_imp hc

theorem trimFront_append {w : Text} (hw : Blank w) (t : Text) :
    trimFront (w ++ t) = trimFront t := by
  exact List.dropWhile_append_of_pos hw

theorem isBlank_of_head?_trimFront {t : Text} {c : Char} (h : (trimFront t).head? = some c) :
    isBlank c = false := by
  have := List.head?_dropWhile_not isBlank t
  rw [trimFront] at h
  rw [h] at this
  simpa using this

theorem Trims.refl (t : Text) : Trims t t := ⟨[], blank_nil, rfl⟩

theorem Trims.trimFront_eq {t whole : Text} (h : Trims t whole) :
    trimFront t = trimFront whole := by
  obtain ⟨w, hw, rfl⟩ := h
  exact (trimFront_append hw t).symm

end Text

namespace Segment

/-! ## The pure model -/

/-- A scan that has come to some place of a text. -/
structure Scan where
  quoting : Quoting
  /-- What was cut so far. Each piece has its terminator at its end. -/
  pieces : List Text
  /-- The text since the last cut. -/
  rest : Text
  deriving DecidableEq, Repr

namespace Scan

def start : Scan := ⟨.plain, [], []⟩

/-- The scan after one more character. -/
def read (s : Scan) (c : Char) : Scan :=
  if s.quoting = .plain ∧ c = terminator then ⟨.plain, s.pieces ++ [s.rest ++ [c]], []⟩
  else ⟨s.quoting.after c, s.pieces, s.rest ++ [c]⟩

def readAll (s : Scan) (t : Text) : Scan := t.foldl read s

/-- The scan with pieces that were cut before all others. -/
def behind (ps : List Text) (s : Scan) : Scan := { s with pieces := ps ++ s.pieces }

end Scan

def scan (t : Text) : Scan := Scan.start.readAll t

/-- A place where the text has a terminator, and where a scan of all that stands before it
is outside quotes. -/
def IsCut (t : Text) (i : Nat) : Prop :=
  t[i]? = some terminator ∧ (t.take i).foldl Quoting.after .plain = .plain

instance (t : Text) (i : Nat) : Decidable (IsCut t i) :=
  inferInstanceAs (Decidable (_ ∧ _))

def cuts (t : Text) : List Nat := (List.range t.length).filter (fun i => decide (IsCut t i))

/-- A stretch that a scan outside quotes goes through without an end of a statement, and leaves
outside quotes again. -/
def Neutral (p : Text) : Prop := terminator? p = none ∧ p.foldl Quoting.after .plain = .plain

instance (p : Text) : Decidable (Neutral p) := inferInstanceAs (Decidable (_ ∧ _))

/-- A stretch of the text that ends at a cut and holds no other one. -/
structure EndsAt (t s : Text) (i : Nat) : Prop where
  isCut : IsCut t i
  alone : ∃ before, t.take (i + 1) = before ++ s ∧ s ≠ [] ∧
    ∀ j, before.length ≤ j → j < i → ¬ IsCut t j

/-! ## The scan -/

namespace Scan

@[simp] theorem readAll_nil (s : Scan) : s.readAll [] = s := rfl

@[simp] theorem readAll_cons (s : Scan) (c : Char) (t : Text) :
    s.readAll (c :: t) = (s.read c).readAll t := rfl

theorem readAll_append (s : Scan) (t u : Text) :
    s.readAll (t ++ u) = (s.readAll t).readAll u := by
  simp [readAll, List.foldl_append]

theorem read_behind (ps : List Text) (s : Scan) (c : Char) :
    (s.behind ps).read c = (s.read c).behind ps := by
  unfold read behind
  split <;> simp_all

theorem readAll_behind (ps : List Text) (s : Scan) (t : Text) :
    (s.behind ps).readAll t = (s.readAll t).behind ps := by
  induction t generalizing s with
  | nil => rfl
  | cons c r ih => rw [readAll_cons, readAll_cons, read_behind, ih]

theorem readAll_of_none {q : Quoting} {t : Text} (h : terminatorFrom? q t = none)
    (ps : List Text) (o : Text) :
    readAll ⟨q, ps, o⟩ t = ⟨t.foldl Quoting.after q, ps, o ++ t⟩ := by
  induction t generalizing q o with
  | nil => simp
  | cons c r ih =>
    simp only [terminatorFrom?] at h
    split at h
    · simp at h
    next hc =>
      rw [readAll_cons, read, if_neg hc, ih (Option.map_eq_none_iff.1 h)]
      simp

/-- The first terminator ahead ends the open piece, and the scan goes on behind it. -/
theorem readAll_of_some {q : Quoting} {t : Text} {i : Nat} (h : terminatorFrom? q t = some i)
    (ps : List Text) (o : Text) :
    readAll ⟨q, ps, o⟩ t =
      readAll ⟨.plain, ps ++ [o ++ t.take (i + 1)], []⟩ (t.drop (i + 1)) := by
  induction t generalizing q o i with
  | nil => simp [terminatorFrom?] at h
  | cons c r ih =>
    simp only [terminatorFrom?] at h
    split at h
    next hc =>
      obtain rfl : 0 = i := by simpa using h
      rw [readAll_cons, read, if_pos hc]
      simp
    next hc =>
      obtain ⟨j, hj, rfl⟩ := Option.map_eq_some_iff.1 h
      rw [readAll_cons, read, if_neg hc, ih hj]
      simp

end Scan

theorem scan_append_readAll (t u : Text) : scan (t ++ u) = (scan t).readAll u :=
  Scan.readAll_append _ t u

theorem scan_snoc (t : Text) (c : Char) : scan (t ++ [c]) = (scan t).read c :=
  scan_append_readAll t [c]

theorem scan_of_none {t : Text} (h : terminator? t = none) :
    scan t = ⟨t.foldl Quoting.after .plain, [], t⟩ := by
  rw [scan, Scan.start, Scan.readAll_of_none h]
  rfl

theorem scan_of_some {t : Text} {i : Nat} (h : terminator? t = some i) :
    scan t = (scan (t.drop (i + 1))).behind [t.take (i + 1)] := by
  rw [scan, Scan.start, Scan.readAll_of_some h]
  exact Scan.readAll_behind [t.take (i + 1)] .start _

/-- The scan stands inside quotes as if nothing had been cut: a terminator outside quotes
leaves it outside. -/
theorem quoting_scan (t : Text) : (scan t).quoting = t.foldl Quoting.after .plain := by
  induction t using List.reverseRecOn with
  | nil => rfl
  | append_singleton t c ih =>
    rw [scan_snoc, List.foldl_append, ← ih, Scan.read]
    split
    next h =>
      obtain ⟨hq, rfl⟩ := h
      rw [hq]
      rfl
    · rfl

/-- Nothing of the text is lost between the pieces. -/
theorem flatten_scan (t : Text) : (scan t).pieces.flatten ++ (scan t).rest = t := by
  induction t using List.reverseRecOn with
  | nil => rfl
  | append_singleton t c ih =>
    rw [scan_snoc, Scan.read]
    split
    · simp [← List.append_assoc, ih]
    · simp [← List.append_assoc, ih]

/-- What is left since the last cut holds no cut when it is scanned alone. -/
theorem scan_rest (t : Text) : scan (scan t).rest = ⟨(scan t).quoting, [], (scan t).rest⟩ := by
  induction t using List.reverseRecOn with
  | nil => rfl
  | append_singleton t c ih =>
    rw [scan_snoc, Scan.read]
    split
    · rfl
    next h =>
      show scan ((scan t).rest ++ [c]) = _
      rw [scan_snoc, ih, Scan.read, if_neg h]

/-- More text is scanned as if it came right after what is left since the last cut. -/
theorem scan_append (t u : Text) :
    scan (t ++ u) = (scan ((scan t).rest ++ u)).behind (scan t).pieces := by
  rw [scan_append_readAll, scan_append_readAll, scan_rest, ← Scan.readAll_behind]
  simp [Scan.behind]

/-! ## More text behind a text -/

theorem terminatorFrom?_append {q : Quoting} {t : Text} (h : terminatorFrom? q t = none)
    (u : Text) :
    terminatorFrom? q (t ++ u) =
      (terminatorFrom? (t.foldl Quoting.after q) u).map (· + t.length) := by
  induction t generalizing q with
  | nil => simp
  | cons c r ih =>
    simp only [terminatorFrom?] at h
    split at h
    · simp at h
    next hc =>
      rw [List.cons_append, terminatorFrom?, if_neg hc, ih (Option.map_eq_none_iff.1 h),
        Option.map_map, List.foldl_cons]
      congr 1

/-- More text behind its first terminator does not move it. -/
theorem terminatorFrom?_append_of_some {q : Quoting} {t : Text} {i : Nat}
    (h : terminatorFrom? q t = some i) (u : Text) : terminatorFrom? q (t ++ u) = some i := by
  induction t generalizing q i with
  | nil => simp [terminatorFrom?] at h
  | cons c r ih =>
    simp only [terminatorFrom?] at h
    rw [List.cons_append, terminatorFrom?]
    split at h
    next hc => rw [if_pos hc, h]
    next hc =>
      obtain ⟨j, hj, rfl⟩ := Option.map_eq_some_iff.1 h
      rw [if_neg hc, ih hj]
      rfl

/-- A text without a terminator begins with none that has one. -/
theorem terminator?_of_append {t u : Text} (h : terminator? (t ++ u) = none) :
    terminator? t = none := by
  cases ht : terminator? t with
  | none => rfl
  | some i => cases h.symm.trans (terminatorFrom?_append_of_some ht u)

theorem extract?_append {t : Text} {i : Nat} (h : terminator? t = some i) (u : Text) :
    extract? (t ++ u) = some (t.take (i + 1), Text.trimFront (t.drop (i + 1) ++ u)) := by
  have hlt : i + 1 ≤ t.length := terminatorFrom?_lt h
  have hplace : terminator? (t ++ u) = some i := terminatorFrom?_append_of_some h u
  rw [extract?, hplace, Option.map_some, List.take_append_of_le_length hlt,
    List.drop_append_of_le_length hlt]

/-! ## Neutral stretches -/

/-- A neutral stretch only moves the first terminator behind it. -/
theorem Neutral.terminator?_behind {p : Text} (h : Neutral p) (t : Text) :
    terminator? (p ++ t) = (terminator? t).map (· + p.length) := by
  rw [terminator?, terminatorFrom?_append h.1, h.2]
  rfl

theorem Neutral.append {p r : Text} (hp : Neutral p) (hr : Neutral r) : Neutral (p ++ r) := by
  constructor
  · rw [hp.terminator?_behind, hr.1]
    rfl
  · rw [List.foldl_append, hp.2, hr.2]

/-- Characters that end no statement and open no quotes. -/
theorem neutral_of_plain {w : Text}
    (hw : ∀ c ∈ w, c ≠ terminator ∧ Quoting.plain.after c = .plain) : Neutral w := by
  induction w with
  | nil => exact ⟨rfl, rfl⟩
  | cons c r ih =>
    obtain ⟨hc, hq⟩ := hw c (by simp)
    have hfirst : Neutral [c] := by
      refine ⟨?_, hq⟩
      rw [terminator?, terminatorFrom?, if_neg (by simp [hc])]
      rfl
    exact hfirst.append (ih (fun d hd => hw d (List.mem_cons_of_mem _ hd)))

theorem plain_of_class {f : Char → Bool}
    (hf : f terminator = false ∧ f '\'' = false ∧ f '"' = false) {c : Char} (h : f c = true) :
    c ≠ terminator ∧ Quoting.plain.after c = .plain := by
  have hne {d : Char} (hd : f d = false) : c ≠ d := by
    rintro rfl
    simp [h] at hd
  exact ⟨hne hf.1, by simp [Quoting.after, hne hf.2.1, hne hf.2.2]⟩

theorem neutral_of_class {f : Char → Bool}
    (hf : f terminator = false ∧ f '\'' = false ∧ f '"' = false) {p : Text}
    (h : ∀ c ∈ p, f c = true) : Neutral p :=
  neutral_of_plain (fun c hc => plain_of_class hf (h c hc))

/-- A blank ends no statement and opens no quotes. -/
theorem blank_is_plain {c : Char} (h : Text.isBlank c = true) :
    c ≠ terminator ∧ Quoting.plain.after c = .plain :=
  plain_of_class (by decide) h

/-- Blanks in front of a text move its first terminator and change nothing else. -/
theorem terminator?_blank_append {w : Text} (hw : Text.Blank w) (t : Text) :
    terminator? (w ++ t) = (terminator? t).map (· + w.length) := by
  have hneutral : Neutral w := neutral_of_plain (fun c hc => blank_is_plain (hw c hc))
  exact hneutral.terminator?_behind t

/-! ## Extraction and the scan -/

theorem extract?_eq_none_iff {t : Text} : extract? t = none ↔ terminator? t = none := by
  rw [extract?, Option.map_eq_none_iff]

theorem extract?_eq_some {t s r : Text} (h : extract? t = some (s, r)) :
    ∃ i, terminator? t = some i ∧ s = t.take (i + 1) ∧ r = Text.trimFront (t.drop (i + 1)) := by
  obtain ⟨i, hi, he⟩ := Option.map_eq_some_iff.1 h
  exact ⟨i, hi, (Prod.mk.inj he).1.symm, (Prod.mk.inj he).2.symm⟩

/-- The statements of a text, and what is left of it, are the pieces of one scan and its
rest, some blanks apart. The scan may begin with blanks that were trimmed from the text. -/
theorem extractAll_trims (t : Text) {w : Text} (hw : Text.Blank w) :
    List.Forall₂ Text.Trims (extractAll t).1 (scan (w ++ t)).pieces ∧
      Text.Trims (extractAll t).2 (scan (w ++ t)).rest := by
  -- `w` stands for the blanks that were trimmed: the extraction goes on without them, the scan
  -- has them still ahead.
  induction h : t.length using Nat.strongRecOn generalizing t w with
  | _ n ih =>
    cases ht : extract? t with
    | none =>
      rw [extractAll_of_none ht, scan_of_none (by
        rw [terminator?_blank_append hw, extract?_eq_none_iff.1 ht]; rfl)]
      exact ⟨.nil, w, hw, rfl⟩
    | some p =>
      obtain ⟨s, r⟩ := p
      obtain ⟨i, hi, rfl, rfl⟩ := extract?_eq_some ht
      have hwi : terminator? (w ++ t) = some (i + w.length) := by
        rw [terminator?_blank_append hw, hi]; rfl
      have hcut : scan (w ++ t) = (scan (t.drop (i + 1))).behind [w ++ t.take (i + 1)] := by
        rw [scan_of_some hwi, show i + w.length + 1 = w.length + (i + 1) by omega,
          List.take_length_add_append, List.drop_length_add_append]
      have hnext := ih _ (h ▸ length_lt_of_extract? ht) (Text.trimFront (t.drop (i + 1)))
        (Text.blank_takeWhile (t.drop (i + 1))) rfl
      rw [Text.takeWhile_append_trimFront] at hnext
      rw [extractAll_of_some ht, hcut]
      exact ⟨.cons ⟨w, hw, rfl⟩ hnext.1, hnext.2⟩

/-- When nothing more is extracted, no terminator is left. -/
theorem terminator?_extractAll (t : Text) : terminator? (extractAll t).2 = none := by
  induction h : t.length using Nat.strongRecOn generalizing t with
  | _ n ih =>
    cases ht : extract? t with
    | none => rw [extractAll_of_none ht]; exact extract?_eq_none_iff.1 ht
    | some p =>
      rw [extractAll_of_some ht]
      exact ih _ (h ▸ length_lt_of_extract? ht) _ rfl

/-! ## Places of cuts -/

theorem isCut_append_iff {t : Text} {i : Nat} (h : i < t.length) (u : Text) :
    IsCut (t ++ u) i ↔ IsCut t i := by
  unfold IsCut
  rw [List.getElem?_append_left h, List.take_append_of_le_length (Nat.le_of_lt h)]

theorem isCut_snoc_iff (t : Text) (c : Char) :
    IsCut (t ++ [c]) t.length ↔ (scan t).quoting = .plain ∧ c = terminator := by
  unfold IsCut
  rw [quoting_scan]
  simp [and_comm]

theorem IsCut.lt {t : Text} {i : Nat} (h : IsCut t i) : i < t.length :=
  (List.getElem?_eq_some_iff.1 h.1).1

theorem cuts_snoc (t : Text) (c : Char) :
    cuts (t ++ [c]) =
      cuts t ++ if (scan t).quoting = .plain ∧ c = terminator then [t.length] else [] := by
  have hsame : (List.range t.length).filter (fun i => decide (IsCut (t ++ [c]) i)) = cuts t := by
    apply List.filter_congr
    intro i hi
    exact decide_eq_decide.2 (isCut_append_iff (List.mem_range.1 hi) [c])
  unfold cuts at hsame ⊢
  rw [List.length_append, List.length_singleton, List.range_succ, List.filter_append, hsame]
  congr 1
  split
  next h => exact List.filter_cons_of_pos (decide_eq_true ((isCut_snoc_iff t c).2 h))
  next h =>
    exact List.filter_cons_of_neg (by simpa using mt (isCut_snoc_iff t c).1 h)

theorem not_isCut_of_le (t : Text) {j : Nat} (h : (scan t).pieces.flatten.length ≤ j) :
    ¬ IsCut t j := by
  induction t using List.reverseRecOn generalizing j with
  | nil => simp [IsCut]
  | append_singleton t c ih =>
    intro hj
    have hlt := hj.lt
    rw [List.length_append, List.length_singleton] at hlt
    rw [scan_snoc, Scan.read] at h
    split at h
    next hc =>
      have hlen := congrArg List.length (flatten_scan t)
      simp only [List.flatten_append, List.length_append, List.flatten_cons, List.flatten_nil,
        List.length_nil, List.length_singleton] at h hlen
      omega
    next hc =>
      rcases Nat.lt_succ_iff_lt_or_eq.1 hlt with hlt | rfl
      · exact ih h ((isCut_append_iff hlt [c]).1 hj)
      · exact hc ((isCut_snoc_iff t c).1 hj)

theorem EndsAt.append {t s : Text} {i : Nat} (h : EndsAt t s i) (u : Text) :
    EndsAt (t ++ u) s i := by
  obtain ⟨hi, before, hb, hs, hnot⟩ := h
  refine ⟨(isCut_append_iff hi.lt u).2 hi, before, ?_, hs, ?_⟩
  · rw [List.take_append_of_le_length hi.lt, hb]
  · intro j hj hji hcut
    exact hnot j hj hji ((isCut_append_iff (hji.trans hi.lt) u).1 hcut)

/-- A stretch that loses blanks at its front still ends at the same place: it cannot lose
its terminator. -/
theorem EndsAt.trims {t s whole : Text} {i : Nat} (h : EndsAt t whole i)
    (hs : Text.Trims s whole) : EndsAt t s i := by
  obtain ⟨hi, before, hb, hne, hnot⟩ := h
  obtain ⟨w, hw, rfl⟩ := hs
  refine ⟨hi, before ++ w, by rw [hb, List.append_assoc], ?_, ?_⟩
  · -- If nothing were left of it, its terminator would be one of the blanks.
    rintro rfl
    have hlast : w.getLast? = some terminator := by
      have := congrArg List.getLast? hb
      rw [List.take_add_one, hi.1, List.append_nil] at this
      rw [List.append_nil] at hne
      simpa [List.getLast?_append_of_ne_nil _ hne] using this.symm
    have hblank := hw terminator (List.mem_of_getLast? hlast)
    exact (blank_is_plain hblank).1 rfl
  · intro j hj hji
    rw [List.length_append] at hj
    exact hnot j (by omega) hji

/-- The pieces of the scan end at the cuts of the text, one at each. -/
theorem pieces_end_at_cuts (t : Text) :
    List.Forall₂ (EndsAt t) (scan t).pieces (cuts t) := by
  induction t using List.reverseRecOn with
  | nil => exact .nil
  | append_singleton t c ih =>
    have hold : List.Forall₂ (EndsAt (t ++ [c])) (scan t).pieces (cuts t) :=
      ih.imp (fun _ _ h => h.append [c])
    rw [scan_snoc, Scan.read, cuts_snoc]
    split
    next hc =>
      refine List.rel_append hold (.cons ⟨(isCut_snoc_iff t c).2 hc, ?_⟩ .nil)
      refine ⟨(scan t).pieces.flatten, ?_, by simp, ?_⟩
      · rw [← List.append_assoc, flatten_scan, List.take_of_length_le (by simp)]
      · intro j hj hjt hcut
        exact not_isCut_of_le t hj ((isCut_append_iff hjt [c]).1 hcut)
    next hc => simpa using hold

end Segment

end StatementShell
