-- The values of a registry between one write and the next. Values live as texts only, and are
-- checked anew each time they are read. For each type, the text of an accepted value is read as
-- that value again, so nothing that is stored is ever refused or changed by a later check.
import Mathlib.Logic.Relation
import StatementShell.Proofs.SavedRegistry

namespace StatementShell.Property

/-! ## The pure model -/

namespace Registry

/-- What can be done to a registry, the names of the properties that it writes, and the registry
after it. What fails writes nothing. -/
inductive Operation (g : Registry) : List Text → Registry → Prop
  | adds {a : Addition} {h : Registry} : g.adding a = (h, .ok ()) →
      Operation g [Text.fold a.name] h
  | sets {name : Text} {v w : Value} {h : Registry} : g.set name v = .ok (h, w) →
      Operation g [Text.fold name] h
  | refuses {name : Text} {v : Value} {e : Failure} : g.set name v = .error e → Operation g [] g
  | loads {fs : Files} {path : Text} {h : Registry} : g.load fs path = .ok h →
      Operation g ((fileItems fs path).map (fun i => Text.fold i.name)) h
  | rejects {fs : Files} {path : Text} {e : Failure} : g.load fs path = .error e →
      Operation g [] g
  | completes : Operation g [] g.completeSetup

/-- The second registry comes from the first one by operations that do not write a property. -/
def Unwritten (key : Text) : Registry → Registry → Prop :=
  Relation.ReflTransGen (fun g h => ∃ names, Operation g names h ∧ key ∉ names)

/-- A registry that was built by additions that succeeded, and on which all else may have been
done, before and between them. -/
def Lived (g : Registry) : Prop :=
  Relation.ReflTransGen (fun g h => ∃ names, Operation g names h) empty g

/-- Two registries know the same of one property. -/
structure SameAt (key : Text) (g h : Registry) : Prop where
  property : h.descriptors.find? (·.name == key) = g.descriptors.find? (·.name == key)
  text : h.text? key = g.text? key

end Registry

/-! ## Checks -/

/-- What a check gives, it accepts unchanged. -/
theorem Validator.Takes.again {v : Validator} {x w : Value} (h : v.Takes x w) : v.Takes w w := by
  cases h with
  | any => exact .any _
  | integer _ hlow hhigh => exact .integer rfl hlow hhigh
  | boolean => exact .boolean rfl
  | string hallowed hlimit => exact .string hallowed hlimit
  | ragged hlimit => exact .ragged hlimit

namespace Registry

/-! ## What one operation keeps -/

theorem sound_load {g h : Registry} (hg : g.Sound) {fs : Files} {path : Text}
    (hl : g.load fs path = .ok h) : h.Sound := by
  obtain ⟨ps, haccept, hstore⟩ := load_items hl
  obtain ⟨hdescriptors, -, hother⟩ := storeAll_frame hstore
  refine ⟨hdescriptors ▸ hg.ordered, hdescriptors ▸ hg.default, ?_⟩
  rw [hdescriptors]
  intro d hd
  by_cases hname : ∃ p ∈ ps, p.1.name = d.name
  · obtain ⟨⟨e, w⟩, hp, hen, t, ht, htext⟩ := text?_storeAll hstore hname
    obtain ⟨i, -, hi⟩ := exists_accept_of_mem haccept hp
    obtain ⟨he, -, htakes⟩ := accept_eq_ok_iff.1 hi
    obtain rfl := hg.ordered.eq_of_name (mem_of_descriptor? he).1 hd hen
    exact ⟨t, htext, holds_of_takes htakes ht⟩
  · rw [hother d.name (fun p hp hpn => hname ⟨p, hp, hpn⟩)]
    exact hg.stored d hd

theorem Operation.sound {g h : Registry} {names : List Text} (ho : Operation g names h)
    (hg : g.Sound) : h.Sound := by
  cases ho with
  | adds hadd => exact sound_adding hg hadd
  | sets hset => exact sound_set hg hset
  | refuses => exact hg
  | loads hl => exact sound_load hg hl
  | rejects => exact hg
  | completes => exact ⟨hg.ordered, hg.default, hg.stored⟩

theorem Lived.sound {g : Registry} (h : Lived g) : g.Sound := by
  induction h with
  | refl => exact sound_empty
  | tail _ hstep ih =>
    obtain ⟨names, ho⟩ := hstep
    exact ho.sound ih

theorem Built.lived {as : List Addition} {g : Registry} (h : Built as g) : Lived g := by
  induction h with
  | empty => exact .refl
  | add _ hadd ih => exact ih.tail ⟨_, .adds hadd⟩
  | set _ hset ih => exact ih.tail ⟨_, .sets hset⟩
  | completeSetup _ ih => exact ih.tail ⟨_, .completes⟩

theorem find?_place_of_ne {d : Descriptor} {key : Text} (h : key ≠ d.name)
    (ds : List Descriptor) :
    (place d ds).find? (·.name == key) = ds.find? (·.name == key) := by
  have hd : (d.name == key) = false := by simpa using h.symm
  fun_induction place d ds with
  | case1 => simp [hd]
  | case2 e r he =>
    have he : (e.name == key) = false := by rw [he, hd]
    simp [hd, he]
  | case3 => simp [hd]
  | case4 e r _ _ ih => rw [List.find?_cons, List.find?_cons, ih]

theorem SameAt.refl (key : Text) (g : Registry) : SameAt key g g := ⟨rfl, rfl⟩

theorem SameAt.trans {key : Text} {g h k : Registry} (hgh : SameAt key g h) (hhk : SameAt key h k) :
    SameAt key g k :=
  ⟨hhk.property.trans hgh.property, hhk.text.trans hgh.text⟩

theorem sameAt_store {key name : Text} (h : key ≠ name) (g : Registry) (t : Stored) :
    SameAt key g (g.store name t) := ⟨rfl, text?_store_of_ne h g t⟩

/-- An operation leaves alone what it does not write. -/
theorem Operation.sameAt {g h : Registry} {names : List Text} (ho : Operation g names h)
    {key : Text} (hkey : key ∉ names) : SameAt key g h := by
  cases ho with
  | @adds a _ hadd =>
    have hne : key ≠ Text.fold a.name := by simpa using hkey
    obtain ⟨w, t, -, -, rfl⟩ := adding_eq_ok_iff.1 hadd
    refine SameAt.trans ?_ (sameAt_store hne _ t)
    exact ⟨find?_place_of_ne hne _, rfl⟩
  | @sets name _ _ _ hset =>
    have hne : key ≠ Text.fold name := by simpa using hkey
    obtain ⟨d, t, ha, -, rfl⟩ := set_eq_ok_iff.1 hset
    rw [← (mem_of_descriptor? (accept_eq_ok_iff.1 ha).1).2] at hne
    exact sameAt_store hne g t
  | refuses => exact .refl key g
  | loads hl =>
    obtain ⟨ps, haccept, hstore⟩ := load_items hl
    obtain ⟨hdescriptors, -, hother⟩ := storeAll_frame hstore
    refine ⟨by rw [hdescriptors], hother key ?_⟩
    rintro p hp rfl
    obtain ⟨i, hi, hip⟩ := exists_accept_of_mem haccept hp
    rw [(mem_of_descriptor? (accept_eq_ok_iff.1 hip).1).2] at hkey
    exact hkey (List.mem_map_of_mem hi)
  | rejects => exact .refl key g
  | completes => exact ⟨rfl, rfl⟩

theorem Unwritten.sameAt {key : Text} {g h : Registry} (hu : Unwritten key g h) :
    SameAt key g h := by
  induction hu with
  | refl => exact .refl key g
  | tail _ hstep ih =>
    obtain ⟨names, ho, hkey⟩ := hstep
    exact ih.trans (ho.sameAt hkey)

/-! ## What is read -/

theorem SameAt.get_eq {g h : Registry} {name : Text} (hs : SameAt (Text.fold name) g h) :
    h.get name = g.get name := by
  have hfind : h.descriptor? name = g.descriptor? name := hs.property
  rw [get, get, descriptor, descriptor, hfind]
  cases hd : g.descriptor? name with
  | none => rfl
  | some d =>
    have hname := (mem_of_descriptor? hd).2
    simp only [valueOf, hname, hs.text]

theorem store_store (g : Registry) (name : Text) (t : Stored) :
    (g.store name t).store name t = g.store name t := by
  simp [store]

/-- A write stores a text that is read as the value that the write gave. -/
theorem exists_store_of_set {g h : Registry} {name : Text} {v w : Value}
    (hset : g.set name v = .ok (h, w))
    (hany : (g.descriptor name).map (·.validator) ≠ .ok .any) :
    ∃ d t, g.descriptor? name = some d ∧ (d.readonly = true → g.inSetup = true) ∧
      textOf w = .ok t ∧ d.validator.Takes t.value w ∧ h = g.store d.name t := by
  obtain ⟨d, t, haccept, ht, rfl⟩ := set_eq_ok_iff.1 hset
  obtain ⟨hd, hwritable, htakes⟩ := accept_eq_ok_iff.1 haccept
  have hv : d.validator ≠ .any := by
    rw [descriptor_eq_ok_iff.2 hd] at hany
    exact fun he => hany (congrArg Except.ok he)
  exact ⟨d, t, hd, hwritable, ht, takes_stored htakes ht hv, rfl⟩

/-- What a write gave is read until the property is written again. -/
theorem Sound.get_of_set {g h k : Registry} (hg : g.Sound) {name other : Text} {v w : Value}
    (hset : g.set name v = .ok (h, w)) (hany : (g.descriptor name).map (·.validator) ≠ .ok .any)
    (hother : Text.fold other = Text.fold name) (hk : Unwritten (Text.fold name) h k) :
    k.get other = .ok w := by
  have hh : h.Sound := sound_set hg hset
  obtain ⟨d, t, hd, -, -, hstored, rfl⟩ := exists_store_of_set hset hany
  obtain ⟨hmem, hname⟩ := mem_of_descriptor? hd
  have hsame : SameAt (Text.fold other) (g.store d.name t) k := hother ▸ hk.sameAt
  have hat : (g.store d.name t).storedAt d = t := by rw [storedAt, text?_store_self]; rfl
  rw [hsame.get_eq, hh.get_eq_ok_iff]
  exact ⟨d, hmem, hname.trans hother.symm, hat.symm ▸ hstored⟩

/-- A registry that was built by additions, and on which anything else was done, has a value for
every property, and its check takes that value as it is. What a write gives is the value of the
property, under every spelling of its name, until the property is written again; and to write
the text of that value changes nothing and gives it once more. This holds of properties of all
types, the type without a check apart. -/
theorem values_are_kept {g : Registry} (hg : Lived g) :
    (∀ name d, g.descriptor name = .ok d →
      ∃ w, g.get name = .ok w ∧ d.validator.validate d.name w = .ok w) ∧
    ∀ name v h w, g.set name v = .ok (h, w) →
      (g.descriptor name).map (·.validator) ≠ .ok .any →
      ∀ other, Text.fold other = Text.fold name →
        (∀ k, Unwritten (Text.fold name) h k → k.get other = .ok w) ∧
        ∃ t, textOf w = .ok t ∧ h.set other t.value = .ok (h, w) := by
  have hsound := hg.sound
  refine ⟨?_, ?_⟩
  · intro name d hd
    obtain ⟨hmem, hname⟩ := mem_of_descriptor? (descriptor_eq_ok_iff.1 hd)
    obtain ⟨w, hw, -⟩ := hsound.holds_storedAt hmem
    exact ⟨w, hsound.get_eq_ok_iff.2 ⟨d, hmem, hname, hw⟩,
      Validator.validate_eq_ok_iff.2 hw.again⟩
  · intro name v h w hset hany other hother
    refine ⟨fun k hk => hsound.get_of_set hset hany hother hk, ?_⟩
    obtain ⟨d, t, hd, hwritable, ht, hstored, rfl⟩ := exists_store_of_set hset hany
    have hfind : (g.store d.name t).descriptor? other = some d := by
      rw [descriptor?, hother]
      exact hd
    exact ⟨t, ht, set_eq_ok_iff.2 ⟨d, t, accept_eq_ok_iff.2 ⟨hfind, hwritable, hstored⟩, ht,
      (store_store g d.name t).symm⟩⟩

def keptSample : List Addition := [
  ⟨"Size", .integer 0 500, .integer 80, false⟩,
  ⟨"note", .string none 8, .text [], false⟩]

/-- A size is written with blanks and an underscore. Then a note is written, a size that is too
large is refused, the set-up is completed, and the note becomes a property of another type. -/
theorem size_of_the_sample_is_kept :
    let h := (fresh keptSample).store "size" "100"
    ∃ k, Lived (fresh keptSample) ∧
      (fresh keptSample).set "SIZE" (.text " 1_00\n") = .ok (h, .integer 100) ∧
      Unwritten (Text.fold "SIZE") h k ∧ k.get "Size" = .ok (.integer 100) ∧
      ∃ t, textOf (.integer 100) = .ok t ∧ h.set "Size" t.value = .ok (h, .integer 100) := by
  intro h
  have hbuilt : Built keptSample (fresh keptSample) := .add (.add .empty rfl) rfl
  have hset : (fresh keptSample).set "SIZE" (.text " 1_00\n") = .ok (h, .integer 100) := rfl
  have hnote : h.set "NOTE" (.text "kept") = .ok (h.store "note" "kept", .text "kept") := rfl
  have hlarge : (h.store "note" "kept").set "size" (.integer 501) =
    .error (.property (.outOfRange "size" 0 500)) := rfl
  let note : Addition := ⟨"Note", .boolean, .boolean true, true⟩
  have hadd : (h.store "note" "kept").completeSetup.adding note = (_, .ok ()) := rfl
  have hunwritten : Unwritten (Text.fold "SIZE") h _ :=
    (((Relation.ReflTransGen.refl.tail ⟨_, .sets hnote, by decide⟩).tail
      ⟨_, .refuses hlarge, by decide⟩).tail ⟨_, .completes, by decide⟩).tail
      ⟨_, .adds hadd, by decide⟩
  obtain ⟨hget, hagain⟩ :=
    (values_are_kept hbuilt.lived).2 _ _ _ _ hset (by decide) "Size" (by decide)
  exact ⟨_, hbuilt.lived, hset, hunwritten, hget _ hunwritten, hagain⟩

end Registry

end StatementShell.Property
