-- What an addition leaves. It writes at two places: it enters what is known of the property, and
-- it stores the text of the value that the property begins with. A value that the check refuses
-- stops it before both. A whole number with too many digits for a text passes the check and stops
-- it between the two: the property is entered by then, over one that had the name before.
import StatementShell.Proofs.DigitLimits

namespace StatementShell.Property.Registry

/-! ## The pure model -/

/-- The second registry knows the property that was to be added, and is the first one in all
else, what is stored under the name of the property apart. -/
structure Entered (g : Registry) (a : Addition) (w : Value) (h : Registry) : Prop where
  property : h.descriptor? a.name = some (a.descriptor w)
  others : ∀ key, key ≠ Text.fold a.name → SameAt key g h
  inSetup : h.inSetup = g.inSetup

/-- How an addition can end, and the registry that it leaves. -/
inductive Adds (g : Registry) (a : Addition) : Registry → Except Failure Unit → Prop
  | whole {w : Value} {t : Stored} : a.validator.Takes a.initial w → textOf w = .ok t →
      Adds g a ((g.enter a w).store (Text.fold a.name) t) (.ok ())
  | refused {e : Failure} : a.validator.validate (Text.fold a.name) a.initial = .error e →
      Adds g a g (.error e)
  | halfway {i : Int} : a.validator.Takes a.initial (.integer i) → Integer.write? i = none →
      Adds g a (g.enter a (.integer i)) (.error .numberTooLong)

/-! ## Values without a text -/

/-- Only whole numbers have no text. -/
theorem textOf_eq_error_iff {w : Value} {e : Failure} :
    textOf w = .error e ↔ e = .numberTooLong ∧ ∃ i, w = .integer i ∧ Integer.write? i = none := by
  cases w with
  | integer i =>
    cases h : Integer.write? i with
    | none => simp [textOf, Stored.ofValue?, Value.text?, h, eq_comm]
    | some t => simp [textOf, Stored.ofValue?, Value.text?, h]
  | boolean b => cases b <;> simp [textOf, Stored.ofValue?]
  | null => simp [textOf, Stored.ofValue?, Value.text?]
  | real => simp [textOf, Stored.ofValue?, Value.text?]
  | text => simp [textOf, Stored.ofValue?, Value.text?]
  | ragged => simp [textOf, Stored.ofValue?]

/-! ## What an addition leaves -/

theorem adding_of_refused {g : Registry} {a : Addition} {e : Failure}
    (he : a.validator.validate (Text.fold a.name) a.initial = .error e) :
    g.adding a = (g, .error e) := by
  rw [adding, add]
  dsimp only
  rw [he]

/-- A value without a text is noticed when the property is entered. -/
theorem adding_of_textless {g : Registry} {a : Addition} {w : Value} {e : Failure}
    (hw : a.validator.Takes a.initial w) (he : textOf w = .error e) :
    g.adding a = (g.enter a w, .error e) := by
  rw [adding, add]
  dsimp only
  rw [Validator.validate_eq_ok_iff.2 hw]
  dsimp only
  rw [he]
  rfl

theorem adds_adding (g : Registry) (a : Addition) : Adds g a (g.adding a).1 (g.adding a).2 := by
  cases hw : a.validator.validate (Text.fold a.name) a.initial with
  | error e =>
    rw [adding_of_refused hw]
    exact .refused hw
  | ok w =>
    have htakes := Validator.validate_eq_ok_iff.1 hw
    cases ht : textOf w with
    | error e =>
      rw [adding_of_textless htakes ht]
      obtain ⟨rfl, i, rfl, hi⟩ := textOf_eq_error_iff.1 ht
      exact .halfway htakes hi
    | ok t =>
      have hadd : g.adding a = ((g.enter a w).store (Text.fold a.name) t, .ok ()) :=
        adding_eq_ok_iff.2 ⟨w, t, htakes, ht, rfl⟩
      rw [hadd]
      exact .whole htakes ht

variable {g : Registry} {a : Addition} {w : Value}

theorem entered_enter (g : Registry) (a : Addition) (w : Value) : Entered g a w (g.enter a w) where
  property := find?_place_self (a.descriptor w) g.descriptors
  others _ hkey := ⟨find?_place_of_ne hkey _, rfl⟩
  inSetup := rfl

theorem Entered.store {h : Registry} (he : Entered g a w h) (t : Stored) :
    Entered g a w (h.store (Text.fold a.name) t) where
  property := he.property
  others key hkey := (he.others key hkey).trans (sameAt_store hkey h t)
  inSetup := he.inSetup

theorem Entered.default {h : Registry} (he : Entered g a w h) : h.default a.name = .ok w := by
  rw [Registry.default, descriptor_eq_ok_iff.2 he.property]
  rfl

theorem Entered.get {h : Registry} (he : Entered g a w h) :
    h.get a.name = h.valueOf (a.descriptor w) := by
  rw [Registry.get, descriptor_eq_ok_iff.2 he.property]

/-- A property without a text for its default has no value, whatever is stored for it. -/
theorem Entered.get_eq_error {h : Registry} (he : Entered g a w h) {e : Failure}
    (hw : textOf w = .error e) : h.get a.name = .error e := by
  rw [he.get, valueOf, show (a.descriptor w).default = w from rfl, hw]

/-- The text with which a property begins is read back as a value. -/
theorem Entered.get_eq_ok {h : Registry} (he : Entered g a w h) {t : Stored}
    (hw : a.validator.Takes a.initial w) (ht : textOf w = .ok t)
    (htext : h.text? (Text.fold a.name) = some t) :
    ∃ x, h.get a.name = .ok x ∧ textOf x = .ok t ∧ (a.validator ≠ .any → x = w) := by
  have hget (x : Value) (hx : a.validator.Takes t.value x) : h.get a.name = .ok x := by
    rw [he.get, valueOf]
    dsimp only [Addition.descriptor]
    rw [ht, htext]
    exact Validator.validate_eq_ok_iff.2 hx
  by_cases hv : a.validator = .any
  · exact ⟨t.value, hget _ (hv ▸ .any _), textOf_value t, fun hne => absurd hv hne⟩
  · exact ⟨w, hget w (takes_stored hw ht hv), ht, fun _ => rfl⟩

/-- An addition is done as a whole or not at all, long numbers apart. Either it succeeds, and then
the property is entered, begins with what the check makes of the initial value, and has a value
that is read from its text, which is the one it begins with if the type checks anything; or the
check refuses the initial value, and nothing changes; or the property begins with a whole number
of more digits than a text may have. Then the addition fails and the property is entered all the
same, in the place of one that had its name: what was stored is still stored, the default can be
asked for, and the value cannot. -/
theorem additions_are_whole_but_for_long_numbers (g : Registry) (a : Addition) :
    let key := Text.fold a.name
    let h := (g.adding a).1
    let answer := (g.adding a).2
    (∃ w x, a.validator.Takes a.initial w ∧ answer = .ok () ∧ Entered g a w h ∧
      h.default a.name = .ok w ∧ h.get a.name = .ok x ∧ textOf x = textOf w ∧
      (a.validator ≠ .any → x = w)) ∨
    (∃ e, a.validator.validate key a.initial = .error e ∧ answer = .error e ∧ h = g) ∨
    ∃ i, a.validator.Takes a.initial (.integer i) ∧
      Integer.digitLimit < (Integer.digits i.natAbs).length ∧ answer = .error .numberTooLong ∧
      Entered g a (.integer i) h ∧ h.text? key = g.text? key ∧
      h.default a.name = .ok (.integer i) ∧ h.get a.name = .error .numberTooLong := by
  intro key h answer
  have hadds : Adds g a h answer := adds_adding g a
  generalize h = k at hadds
  generalize answer = r at hadds
  cases hadds with
  | @whole w t htakes ht =>
    have hentered := (entered_enter g a w).store t
    obtain ⟨x, hget, hx, hsame⟩ := hentered.get_eq_ok htakes ht (text?_store_self _ _ _)
    exact .inl ⟨w, x, htakes, rfl, hentered, hentered.default, hget, hx.trans ht.symm, hsame⟩
  | @refused e he => exact .inr (.inl ⟨e, he, rfl, rfl⟩)
  | @halfway i htakes hi =>
    have hentered := entered_enter g a (.integer i)
    exact .inr (.inr ⟨i, htakes, Integer.write?_eq_none_iff.1 hi, rfl, hentered, rfl,
      hentered.default, hentered.get_eq_error (textOf_eq_error_iff.2 ⟨rfl, i, rfl, hi⟩)⟩)

/-- The least number with too many digits. -/
def long : Int := Int.ofNat (Nat.pow 10 Integer.digitLimit)

def size : Addition := ⟨"size", .integer 0 500, .integer 80, false⟩

def longSize : Addition := ⟨"SIZE", .integer 0 long, .integer long, true⟩

theorem textOf_long : textOf (.integer long) = .error .numberTooLong := by
  refine textOf_eq_error_iff.2 ⟨rfl, long, rfl, Integer.write?_eq_none_iff.2 ?_⟩
  rw [long, Int.natAbs_ofNat']
  exact Integer.lt_length_digits_pow (by decide)

/-- A size is added once more, as a property that may only be read and begins with a number that
is too long. The addition fails, and the size that was there is one that may only be read and has
no value any more, while its text is still stored. -/
theorem long_size_replaces_the_size :
    let g := fresh [size]
    let h := (g.adding longSize).1
    (g.adding longSize).2 = .error .numberTooLong ∧ h ≠ g ∧
      g.get "size" = .ok (.integer 80) ∧ h.get "size" = .error .numberTooLong ∧
      g.isReadonly "size" = .ok false ∧ h.isReadonly "size" = .ok true ∧
      h.text? "size" = some (.text "80") := by
  intro g h
  have htakes : longSize.validator.Takes longSize.initial (.integer long) :=
    .integer rfl (Int.natCast_nonneg _) (le_refl long)
  have hadd : g.adding longSize = (g.enter longSize (.integer long), .error .numberTooLong) :=
    adding_of_textless htakes textOf_long
  have hh : h = g.enter longSize (.integer long) := congrArg Prod.fst hadd
  have hfind : h.descriptor? "size" = some (longSize.descriptor (.integer long)) := by
    rw [hh]
    rfl
  have hreadonly : h.isReadonly "size" = .ok true := by
    rw [isReadonly, descriptor_eq_ok_iff.2 hfind]
    rfl
  have hwritable : g.isReadonly "size" = .ok false := rfl
  have hget : h.get "size" = .error .numberTooLong := by
    have hdefault : textOf (longSize.descriptor (.integer long)).default = .error .numberTooLong :=
      textOf_long
    rw [get, descriptor_eq_ok_iff.2 hfind]
    dsimp only
    rw [valueOf, hdefault]
  have htext : h.text? "size" = some (.text "80") := by
    rw [hh]
    rfl
  refine ⟨by rw [hadd], ?_, rfl, hget, hwritable, hreadonly, htext⟩
  intro hsame
  rw [hsame, hwritable] at hreadonly
  cases hreadonly

end StatementShell.Property.Registry
