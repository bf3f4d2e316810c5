-- Writing properties. A value comes into a registry by a single write, with others in a file
-- or by a command; on each way it passes the same check. All checks of a file come before the
-- first value is stored, and nothing that passed its check fails to be stored.
import Mathlib.Data.List.Forall2
import StatementShell.Handler.Builtin
import StatementShell.Proofs.NumberText
import StatementShell.Property.ConfigFile

namespace StatementShell

theorem map_eq_ok_iff {ε α β : Type} {x : Except ε α} {f : α → β} {b : β} :
    x.map f = .ok b ↔ ∃ a, x = .ok a ∧ f a = b := by
  cases x with
  | error e => simp [Except.map]
  | ok a => simp [Except.map]

theorem bind_eq_ok_iff {ε α β : Type} {x : Except ε α} {f : α → Except ε β} {b : β} :
    x.bind f = .ok b ↔ ∃ a, x = .ok a ∧ f a = .ok b := by
  cases x with
  | error e => simp [Except.bind]
  | ok a => simp [Except.bind]

theorem map_eq_error {ε α β : Type} {x : Except ε α} {f : α → β} {e : ε}
    (h : x.map f = .error e) : x = .error e := by
  cases x with
  | error e =>
    cases h
    rfl
  | ok => cases h

theorem exists_mem_of_forall₂ {α β : Type} {r : α → β → Prop} {xs : List α} {ys : List β}
    (h : List.Forall₂ r xs ys) {y : β} (hy : y ∈ ys) : ∃ x ∈ xs, r x y := by
  induction h with
  | nil => cases hy
  | @cons x z xs zs hxz _ ih =>
    rcases List.mem_cons.1 hy with rfl | hy
    · exact ⟨x, List.mem_cons_self, hxz⟩
    · obtain ⟨w, hw, hwy⟩ := ih hy
      exact ⟨w, List.mem_cons_of_mem x hw, hwy⟩

namespace Property

/-! ## Checks -/

/-- Which value a check makes of the one that it is given, where it passes it. -/
inductive Validator.Takes : Validator → Value → Value → Prop
  | any (x : Value) : Takes .any x x
  | integer {low high i : Int} {x : Value} :
      Validator.wholeNumber? x = some i → low ≤ i → i ≤ high →
        Takes (.integer low high) x (.integer i)
  | boolean {b : Bool} {x : Value} :
      Validator.truthValue? x = some b → Takes .boolean x (.boolean b)
  | string {allowed : Option (List Text)} {limit : Int} {t : Text} :
      (∀ ts, allowed = some ts → t ∈ ts) → t.length ≤ limit →
        Takes (.string allowed limit) (.text t) (.text t)
  | ragged {limit : Int} {r : Ragged} :
      r.length ≤ limit → Takes (.string none limit) (.ragged r) (.ragged r)

theorem Validator.checkLength_eq_ok_iff {name : Text} {limit : Int} {n : Nat} {v w : Value} :
    Validator.checkLength name limit n v = .ok w ↔ n ≤ limit ∧ w = v := by
  unfold Validator.checkLength
  split
  next h => simp [Validator.refuse, Int.not_le.2 h]
  next h => simp [Int.not_lt.1 h, eq_comm]

theorem Validator.checkText_eq_ok_iff {name t : Text} {allowed : Option (List Text)} {limit : Int}
    {w : Value} : Validator.checkText name allowed limit t = .ok w ↔
      (∀ ts, allowed = some ts → t ∈ ts) ∧ t.length ≤ limit ∧ w = .text t := by
  unfold Validator.checkText
  split
  next ts =>
    split
    next h =>
      have hmem : t ∈ ts := by simpa using h
      simp [Validator.checkLength_eq_ok_iff, hmem]
    next h =>
      have hmem : t ∉ ts := by simpa using h
      simp [Validator.refuse, hmem]
  next => simp [Validator.checkLength_eq_ok_iff]

theorem Validator.checkRagged_eq_ok_iff {name : Text} {allowed : Option (List Text)}
    {limit : Int} {r : Ragged} {w : Value} : Validator.checkRagged name allowed limit r = .ok w ↔
      allowed = none ∧ r.length ≤ limit ∧ w = .ragged r := by
  unfold Validator.checkRagged
  split
  next => simp [Validator.refuse]
  next => simp [Validator.checkLength_eq_ok_iff]

theorem Validator.validate_eq_ok_iff {v : Validator} {name : Text} {x w : Value} :
    v.validate name x = .ok w ↔ v.Takes x w := by
  constructor
  · intro h
    unfold Validator.validate at h
    split at h
    next =>
      cases h
      exact .any x
    next low high =>
      split at h
      next i hi =>
        unfold Validator.checkRange at h
        split at h
        next hrange =>
          cases h
          exact .integer hi hrange.1 hrange.2
        next => cases h
      next => cases h
    next =>
      split at h
      next b hb =>
        cases h
        exact .boolean hb
      next => cases h
    next allowed limit =>
      split at h
      next t =>
        obtain ⟨hallowed, hlimit, rfl⟩ := Validator.checkText_eq_ok_iff.1 h
        exact .string hallowed hlimit
      next r =>
        obtain ⟨rfl, hlimit, rfl⟩ := Validator.checkRagged_eq_ok_iff.1 h
        exact .ragged hlimit
      next => cases h
  · rintro (_ | ⟨hi, hlow, hhigh⟩ | hb | ⟨hallowed, hlimit⟩ | hlimit)
    · rfl
    · simp [Validator.validate, hi, Validator.checkRange, hlow, hhigh]
    · simp [Validator.validate, hb]
    · exact Validator.checkText_eq_ok_iff.2 ⟨hallowed, hlimit, rfl⟩
    · exact Validator.checkRagged_eq_ok_iff.2 ⟨rfl, hlimit, rfl⟩

namespace Registry

theorem textOf_integer {i : Int} {s : Stored} :
    textOf (.integer i) = .ok s ↔ ∃ t, Integer.write? i = some t ∧ s = .text t := by
  cases h : Integer.write? i with
  | none => simp [textOf, Stored.ofValue?, Value.text?, h]
  | some u => simp [textOf, Stored.ofValue?, Value.text?, h, eq_comm]

/-- What is stored is stored again as it is. -/
@[simp] theorem textOf_value (s : Stored) : textOf s.value = .ok s := by
  cases s <;> rfl

/-- What a stored text is checked to has a text itself. -/
theorem textOf_of_takes_stored {v : Validator} {s : Stored} {w : Value}
    (h : v.Takes s.value w) : ∃ u, textOf w = .ok u := by
  generalize hx : s.value = x at h
  cases h with
  | any =>
    rw [← hx]
    exact ⟨s, textOf_value s⟩
  | @integer _ _ i _ hi _ _ =>
    cases s with
    | ragged r =>
      cases hx
      cases hi
    | text t =>
      rw [← hx, Stored.value_text, Validator.wholeNumber?] at hi
      split at hi
      next j hj =>
        cases hi
        obtain ⟨u, hu⟩ := Integer.write?_of_read hj
        exact ⟨u, textOf_integer.2 ⟨u, hu, rfl⟩⟩
      next => cases hi
  | @boolean b =>
    cases b
    · exact ⟨_, rfl⟩
    · exact ⟨_, rfl⟩
  | @string _ _ t => exact ⟨t, rfl⟩
  | @ragged _ r => exact ⟨.ragged r, rfl⟩

theorem mem_of_descriptor? {g : Registry} {name : Text} {d : Descriptor}
    (h : g.descriptor? name = some d) : d ∈ g.descriptors ∧ d.name = Text.fold name :=
  ⟨List.mem_of_find?_eq_some h, by simpa using List.find?_some h⟩

theorem descriptor_eq_ok_iff {g : Registry} {name : Text} {d : Descriptor} :
    g.descriptor name = .ok d ↔ g.descriptor? name = some d := by
  unfold descriptor
  split
  next e he => simp [he]
  next hnone => simp [hnone]

theorem checkWritable_eq_ok_iff {g : Registry} {d : Descriptor} :
    g.checkWritable d = .ok () ↔ (d.readonly = true → g.inSetup = true) := by
  cases hd : d.readonly <;> cases hg : g.inSetup <;> simp [checkWritable, hd, hg]

/-- A value is accepted for a property that is there and may be written now, as far as its
check passes. -/
theorem accept_eq_ok_iff {g : Registry} {name : Text} {v w : Value} {d : Descriptor} :
    g.accept name v = .ok (d, w) ↔
      g.descriptor? name = some d ∧ (d.readonly = true → g.inSetup = true) ∧
        d.validator.Takes v w := by
  constructor
  · intro h
    unfold accept at h
    split at h
    next => cases h
    next e hd =>
      split at h
      next => cases h
      next hw =>
        obtain ⟨x, hx, hp⟩ := map_eq_ok_iff.1 h
        obtain ⟨rfl, rfl⟩ := Prod.mk.inj hp
        exact ⟨descriptor_eq_ok_iff.1 hd, checkWritable_eq_ok_iff.1 hw,
          Validator.validate_eq_ok_iff.1 hx⟩
  · rintro ⟨hd, hw, hx⟩
    rw [accept, descriptor_eq_ok_iff.2 hd]
    dsimp only
    rw [checkWritable_eq_ok_iff.2 hw, Validator.validate_eq_ok_iff.2 hx]
    rfl

theorem set_eq_ok_iff {g h : Registry} {name : Text} {v w : Value} :
    g.set name v = .ok (h, w) ↔
      ∃ d t, g.accept name v = .ok (d, w) ∧ textOf w = .ok t ∧ h = g.store d.name t := by
  constructor
  · intro hset
    unfold set at hset
    split at hset
    next => cases hset
    next d x ha =>
      obtain ⟨t, ht, hp⟩ := map_eq_ok_iff.1 hset
      obtain ⟨rfl, rfl⟩ := Prod.mk.inj hp
      exact ⟨d, t, ha, ht, rfl⟩
  · rintro ⟨d, t, ha, ht, rfl⟩
    rw [set, ha]
    dsimp only
    rw [ht]
    rfl

/-! ## Files -/

theorem acceptAll_eq_ok_iff {g : Registry} {items : List Ini.Item}
    {ps : List (Descriptor × Value)} :
    g.acceptAll items = .ok ps ↔
      List.Forall₂ (fun i p => g.accept i.name (.text i.value) = .ok p) items ps := by
  induction items generalizing ps with
  | nil => simp [acceptAll, eq_comm]
  | cons i is ih =>
    rw [List.forall₂_cons_left_iff, acceptAll]
    constructor
    · intro h
      split at h
      next => cases h
      next p hp =>
        obtain ⟨qs, hqs, rfl⟩ := map_eq_ok_iff.1 h
        exact ⟨p, qs, hp, ih.1 hqs, rfl⟩
    · rintro ⟨p, qs, hp, hqs, rfl⟩
      rw [hp]
      dsimp only
      rw [ih.2 hqs]
      rfl

theorem exists_accept_of_mem {g : Registry} {items : List Ini.Item}
    {ps : List (Descriptor × Value)} (ha : g.acceptAll items = .ok ps) {p : Descriptor × Value}
    (hp : p ∈ ps) : ∃ i ∈ items, g.accept i.name (.text i.value) = .ok p :=
  exists_mem_of_forall₂ (acceptAll_eq_ok_iff.1 ha) hp

theorem exists_mem_of_accept {g : Registry} {items : List Ini.Item}
    {ps : List (Descriptor × Value)} (ha : g.acceptAll items = .ok ps) {i : Ini.Item}
    (hi : i ∈ items) : ∃ p ∈ ps, g.accept i.name (.text i.value) = .ok p :=
  exists_mem_of_forall₂ (acceptAll_eq_ok_iff.1 ha).flip hi

theorem storeAll_frame {g h : Registry} {ps : List (Descriptor × Value)}
    (hs : g.storeAll ps = .ok h) : h.descriptors = g.descriptors ∧ h.inSetup = g.inSetup ∧
      ∀ name, (∀ p ∈ ps, p.1.name ≠ name) → h.text? name = g.text? name := by
  induction ps generalizing g with
  | nil =>
    cases hs
    exact ⟨rfl, rfl, fun _ _ => rfl⟩
  | cons p ps ih =>
    obtain ⟨d, v⟩ := p
    rw [storeAll] at hs
    split at hs
    next => cases hs
    next t ht =>
      obtain ⟨hd, hi, hother⟩ := ih hs
      refine ⟨hd, hi, ?_⟩
      intro name hname
      have hne : name ≠ d.name := (hname (d, v) List.mem_cons_self).symm
      rw [hother name (fun p hp => hname p (List.mem_cons_of_mem _ hp)), text?_store_of_ne hne]

/-- Where values are stored under a name, the text found there is the text of one of them. -/
theorem text?_storeAll {g h : Registry} {ps : List (Descriptor × Value)}
    (hs : g.storeAll ps = .ok h) {name : Text} (hname : ∃ p ∈ ps, p.1.name = name) :
    ∃ p ∈ ps, p.1.name = name ∧ ∃ t, textOf p.2 = .ok t ∧ h.text? name = some t := by
  induction ps generalizing g with
  | nil => simp at hname
  | cons p ps ih =>
    obtain ⟨d, v⟩ := p
    rw [storeAll] at hs
    split at hs
    next => cases hs
    next t ht =>
      by_cases hlater : ∃ p ∈ ps, p.1.name = name
      · obtain ⟨q, hq, hrest⟩ := ih hs hlater
        exact ⟨q, List.mem_cons_of_mem _ hq, hrest⟩
      · -- the first value is the last one under this name
        have hfirst : d.name = name := by
          obtain ⟨q, hq, hqn⟩ := hname
          rcases List.mem_cons.1 hq with rfl | hq
          · exact hqn
          · exact absurd ⟨q, hq, hqn⟩ hlater
        have hkept := (storeAll_frame hs).2.2 name (fun q hq hqn => hlater ⟨q, hq, hqn⟩)
        refine ⟨(d, v), List.mem_cons_self, hfirst, t, ht, ?_⟩
        rw [hkept, ← hfirst, text?_store_self]

/-- Nothing that a file gives fails after it was accepted. -/
theorem storeAll_of_acceptAll {g : Registry} {items : List Ini.Item}
    {ps : List (Descriptor × Value)} (ha : g.acceptAll items = .ok ps) (k : Registry) :
    ∃ h, k.storeAll ps = .ok h := by
  have hall := acceptAll_eq_ok_iff.1 ha
  clear ha
  induction hall generalizing k with
  | nil => exact ⟨k, rfl⟩
  | @cons i p _ _ hp _ ih =>
    obtain ⟨d, w⟩ := p
    obtain ⟨u, hu⟩ := textOf_of_takes_stored (s := .text _) (accept_eq_ok_iff.1 hp).2.2
    rw [storeAll, hu]
    exact ih _

/-- The options that the file at a path has for properties. -/
def fileItems (fs : Files) (path : Text) : List Ini.Item :=
  match fs.read path with
  | .error _ => []
  | .ok b =>
    match Ini.read path b.readLenient with
    | .error _ => []
    | .ok d => (d.section? sectionName).getD []

/-- What a file changes is what its options are accepted as. -/
theorem load_items {g h : Registry} {fs : Files} {path : Text} (hl : g.load fs path = .ok h) :
    ∃ ps, g.acceptAll (fileItems fs path) = .ok ps ∧ g.storeAll ps = .ok h := by
  unfold load at hl
  unfold fileItems
  cases hb : fs.read path with
  | error => simp [hb] at hl
  | ok b =>
    simp only [hb] at hl ⊢
    cases hdoc : Ini.read path b.readLenient with
    | error => simp [hdoc] at hl
    | ok doc =>
      simp only [hdoc] at hl ⊢
      unfold loadDocument at hl
      cases hitems : doc.section? sectionName with
      | none =>
        simp only [hitems] at hl
        cases hl
        exact ⟨[], rfl, rfl⟩
      | some items =>
        simp only [hitems] at hl
        cases hps : g.acceptAll items with
        | error => simp [hps] at hl
        | ok ps => exact ⟨ps, hps, by simpa only [hps] using hl⟩

end Registry

end Property

/-! ## Commands -/

namespace Builtin

open Property (Registry)

/-- Of all commands, only one that sets a property changes what the handler keeps of them. -/
theorem registry_runCommand (b : Builtin) (c : Command) :
    (b.runCommand c).1.registry = b.registry ∨
      ∃ g h name v w, c = .setProperty name v ∧ b.registry = some g ∧
        g.set name v = .ok (h, w) ∧ (b.runCommand c).1.registry = some h := by
  have hneed {part : Text} {g : Registry} (h : b.needRegistry part = .ok g) :
      b.registry = some g := by
    unfold needRegistry at h
    split at h
    next k hk =>
      cases h
      exact hk
    next => cases h
  cases c with
  | exit => exact .inl rfl
  | setProperty name v =>
    simp only [runCommand]
    split
    next => exact .inl rfl
    next g hg =>
      split
      next => exact .inl rfl
      next h r hset =>
        unfold setProperty at hset
        split at hset
        next => cases hset
        next k w hk =>
          split at hset
          next => cases hset
          next =>
            cases hset
            exact .inr ⟨g, h, name, v, w, rfl, hneed hg, hk, rfl⟩
  | showProperties =>
    simp only [runCommand]
    split <;> exact .inl rfl
  | showProperty name =>
    simp only [runCommand]
    split <;> exact .inl rfl

theorem registry_execute (b : Builtin) (s : Text) :
    (b.execute s).state.registry = b.registry ∨
      ∃ g h name v w, Command.parse s = .ok (.setProperty name v) ∧ b.registry = some g ∧
        g.set name v = .ok (h, w) ∧ (b.execute s).state.registry = some h := by
  unfold execute
  split
  next => exact .inl rfl
  next =>
    split
    next => exact .inl rfl
    next =>
      unfold delegate
      split <;> exact .inl rfl
    next =>
      split
      next => exact .inl rfl
      next c hparse =>
        refine (registry_runCommand b c).imp_right ?_
        rintro ⟨g, h, name, v, w, rfl, hrest⟩
        exact ⟨g, h, name, v, w, hparse, hrest⟩

/-- The handler that has looked at its clock. -/
def ticked (b : Builtin) : Builtin := { b with clock := b.clock.read.2 }

theorem registry_handle_eq (b : Builtin) (s : Text) :
    (b.handle s).state.registry = (b.ticked.execute s).state.registry := by
  simp only [handle, ticked]
  split
  next =>
    split
    next => rfl
    next => split <;> rfl
  next => split <;> rfl

theorem registry_handle (b : Builtin) (s : Text) :
    (b.handle s).state.registry = b.registry ∨
      ∃ g h name v w, Command.parse s = .ok (.setProperty name v) ∧ b.registry = some g ∧
        g.set name v = .ok (h, w) ∧ (b.handle s).state.registry = some h := by
  rw [registry_handle_eq]
  exact registry_execute b.ticked s

end Builtin

end StatementShell
