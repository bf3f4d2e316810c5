-- What a statement does to the properties. At most one of them is written, by a command that sets
-- it, and only after everything that could refuse the value; whatever else comes of a statement,
-- and whatever its executor does, the registry stays as it was.
import StatementShell.Proofs.StatementReports

namespace StatementShell

open Property (Registry Descriptor)

/-! ## The pure model -/

/-- The statement is read as a command that sets a property, by any letter case of its name. The
property may be written now, and its check takes the value, as some value of its own type. -/
inductive Writes (g : Registry) (s : Text) : Descriptor → Value → Prop
  | command {name : Text} {v w : Value} {d : Descriptor} :
      Command.parse s = .ok (.setProperty name v) → g.descriptor? name = some d →
        (d.readonly = true → g.inSetup = true) → d.validator.Takes v w → Writes g s d w

/-- The registry is the same, but that the property has another text. -/
structure Rewritten (g h : Registry) (d : Descriptor) (t : Property.Stored) : Prop where
  descriptors : h.descriptors = g.descriptors
  inSetup : h.inSetup = g.inSetup
  text : h.text? d.name = some t
  others : ∀ name, name ≠ d.name → h.text? name = g.text? name
  values : ∀ name, Text.fold name ≠ d.name → h.get name = g.get name

theorem rewritten_store (g : Registry) (d : Descriptor) (t : Property.Stored) :
    Rewritten g (g.store d.name t) d t where
  descriptors := rfl
  inSetup := rfl
  text := Registry.text?_store_self g d.name t
  others _ hname := Registry.text?_store_of_ne hname g t
  values _ hname := (Registry.sameAt_store hname g t).get_eq

/-- A statement that writes sets the property to what its check made of the value. -/
theorem Writes.exists_set {g : Registry} {s : Text} {d : Descriptor} {w : Value}
    (h : Writes g s d w) : ∃ name v t, Command.parse s = .ok (.setProperty name v) ∧
      Registry.textOf w = .ok t ∧ g.set name v = .ok (g.store d.name t, w) := by
  cases h with
  | @command name v _ _ hparse hthere hwritable htakes =>
    obtain ⟨t, ht⟩ := Registry.hasText_iff.1
      (Registry.hasText_of_takes (Command.hasText_of_setProperty hparse) htakes)
    exact ⟨name, v, t, hparse, ht, Registry.set_eq_ok_iff.2
      ⟨d, t, Registry.accept_eq_ok_iff.2 ⟨hthere, hwritable, htakes⟩, ht, rfl⟩⟩

theorem writes_of_set {g h : Registry} {s name : Text} {v w : Value}
    (hparse : Command.parse s = .ok (.setProperty name v)) (hset : g.set name v = .ok (h, w)) :
    ∃ d, Writes g s d w := by
  obtain ⟨d, -, haccept, -⟩ := Registry.set_eq_ok_iff.1 hset
  obtain ⟨hthere, hwritable, htakes⟩ := Registry.accept_eq_ok_iff.1 haccept
  exact ⟨d, .command hparse hthere hwritable htakes⟩

namespace Builtin

/-! ## The handler -/

theorem execute_of_set {b : Builtin} {g h : Registry} {s name : Text} {v w : Value}
    (hb : b.registry = some g) (hparse : Command.parse s = .ok (.setProperty name v))
    (hset : g.set name v = .ok (h, w)) :
    ∃ r : Result, r.Presentable ∧ r.terminate = false ∧
      b.execute s = ⟨[], { b with registry := some h }, .ok (.result r)⟩ := by
  obtain ⟨r, hr, hpresentable, hterminate⟩ := setProperty_of_set hset
  refine ⟨r, hpresentable, hterminate, ?_⟩
  rw [execute_of_parse hparse, runCommand, needRegistry, hb]
  dsimp only
  rw [hr]
  rfl

/-! ## The law of writing -/

/-- A statement that writes changes the text of its property, and no other, to that of the value
that its check made, and succeeds without ending the session. Any other statement leaves the
registry as it was, whatever is wrong with it, whatever its executor gives or raises, and also where
nothing can be shown for it. -/
theorem statements_write_one_property (b : Builtin) (s : Text) :
    let after := (b.handle s).state.registry
    (∀ g d w, b.registry = some g → Writes g s d w → ∃ h t, after = some h ∧
      Registry.textOf w = .ok t ∧ Rewritten g h d t ∧
      (b.clock.Measures →
        ∃ r, (b.handle s).outcome = .ok r ∧ r.success = true ∧ r.terminate = false)) ∧
    ((∀ g, b.registry = some g → ∀ d w, ¬ Writes g s d w) → after = b.registry) := by
  intro after
  refine ⟨?_, ?_⟩
  · intro g d w hb hw
    obtain ⟨name, v, t, hparse, ht, hset⟩ := hw.exists_set
    obtain ⟨r, hr, hterminate, hexecute⟩ := execute_of_set (b := b.ticked) hb hparse hset
    refine ⟨g.store d.name t, t, ?_, ht, rewritten_store g d t, ?_⟩
    · rw [show after = _ from registry_handle_eq b s, hexecute]
    · intro hclock
      obtain ⟨e, _, -, hhandle⟩ := shown_of_answer hclock hexecute rfl rfl hr hterminate
      exact ⟨{ r with elapsed := e }, by rw [hhandle], hr.1, hterminate⟩
  · intro hnone
    rcases registry_handle b s with hsame | ⟨g, h, name, v, w, hparse, hb, hset, -⟩
    · exact hsame
    · obtain ⟨d, hw⟩ := writes_of_set hparse hset
      exact absurd hw (hnone g hb d w)

/-- A size that is written by another letter case of its name, and one that is too large. -/
theorem sizes_of_the_sample :
    let g := Registry.fresh Registry.keptSample
    let b : Builtin := ⟨some g, none, .stopped⟩
    (∃ h, (b.handle "SET PROPERTY SIZE = 007;".toList).state.registry = some h ∧
      h.text? "size" = some (.text "7") ∧ h.text? "note" = g.text? "note") ∧
    (b.handle "SET PROPERTY SIZE = 501;".toList).state.registry = some g := by
  intro g b
  refine ⟨?_, ?_⟩
  · have hparse : Command.parse "SET PROPERTY SIZE = 007;".toList =
        .ok (.setProperty "SIZE" (.integer 7)) := by rfl
    have hwrites : Writes g "SET PROPERTY SIZE = 007;".toList
        ⟨"size", .integer 0 500, .integer 80, false⟩ (.integer 7) :=
      .command hparse rfl (by decide) (.integer rfl (by decide) (by decide))
    obtain ⟨h, t, hafter, ht, hrewritten, -⟩ :=
      (statements_write_one_property b _).1 g _ _ rfl hwrites
    cases ht
    exact ⟨h, hafter, hrewritten.text, hrewritten.others "note" (by decide)⟩
  · have hparse : Command.parse "SET PROPERTY SIZE = 501;".toList =
        .ok (.setProperty "SIZE" (.integer 501)) := by rfl
    refine (statements_write_one_property b _).2 ?_
    rintro _ hb d w ⟨hp, hd, -, htakes⟩
    cases hb
    cases hparse.symm.trans hp
    cases hd
    cases htakes with
    | integer hi _ hhigh =>
      cases hi
      exact absurd hhigh (by decide)

end Builtin

end StatementShell
