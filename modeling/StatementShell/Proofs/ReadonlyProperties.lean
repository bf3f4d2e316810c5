-- The lock on read-only properties. After the set-up nothing ends it: the properties that are
-- read-only keep their texts, whatever is written, loaded or commanded, under whatever names.
import StatementShell.Program.Startup
import StatementShell.Proofs.PropertyWrites

namespace StatementShell

namespace Property

/-! ## The pure model -/

/-- What may happen to the properties of a shell that runs. -/
inductive Change
  | set (name : Text) (v : Value)
  | load (fs : Files) (path : Text)
  | statement (clock : Clock) (s : Text)

namespace Registry

/-- The registry after a change. One that fails leaves the registry as it is; for a file this
rests on `storeAll_of_acceptAll`, since its values are stored one after the other. -/
def after (g : Registry) : Change → Registry
  | .set name v =>
    match g.set name v with
    | .ok (h, _) => h
    | .error _ => g
  | .load fs path =>
    match g.load fs path with
    | .ok h => h
    | .error _ => g
  | .statement clock s =>
    ((Builtin.mk (some g) none clock).handle s).state.registry.getD g

def afterAll (g : Registry) (cs : List Change) : Registry := cs.foldl after g

/-- A registry whose set-up is over, and that is another one but for properties that may be
written. -/
structure Locked (g h : Registry) : Prop where
  inSetup : h.inSetup = false
  descriptors : h.descriptors = g.descriptors
  texts : ∀ name d, g.descriptor? name = some d → d.readonly = true →
    h.text? d.name = g.text? d.name

namespace Locked

theorem refl {g : Registry} (hg : g.inSetup = false) : Locked g g := ⟨hg, rfl, fun _ _ _ _ => rfl⟩

theorem descriptor? {g h : Registry} (hl : Locked g h) (name : Text) :
    h.descriptor? name = g.descriptor? name := by
  rw [Registry.descriptor?, hl.descriptors, Registry.descriptor?]

theorem trans {g h k : Registry} (hgh : Locked g h) (hhk : Locked h k) : Locked g k := by
  refine ⟨hhk.inSetup, hhk.descriptors.trans hgh.descriptors, ?_⟩
  intro name d hd hro
  rw [hhk.texts name d (by rw [hgh.descriptor?, hd]) hro, hgh.texts name d hd hro]

theorem get_eq {g h : Registry} (hl : Locked g h) {name : Text}
    (hro : g.isReadonly name = .ok true) : h.get name = g.get name := by
  obtain ⟨d, hd, hdro⟩ := map_eq_ok_iff.1 hro
  have hdh : h.descriptor name = .ok d := by
    rw [descriptor_eq_ok_iff, hl.descriptor?, ← descriptor_eq_ok_iff, hd]
  rw [get, hdh, get, hd]
  dsimp only
  rw [valueOf, hl.texts name d (descriptor_eq_ok_iff.1 hd) hdro, valueOf]

theorem isReadonly_eq {g h : Registry} (hl : Locked g h) (name : Text) :
    h.isReadonly name = g.isReadonly name := by
  rw [isReadonly, descriptor, hl.descriptor?, isReadonly, descriptor]

end Locked

/-! ## What one change keeps -/

/-- What is accepted after the set-up is never stored under the name of a read-only property:
two spellings of one name find the same descriptor. -/
theorem ne_of_accept {g : Registry} (hg : g.inSetup = false) {name other : Text} {v w : Value}
    {d e : Descriptor} (ha : g.accept name v = .ok (d, w)) (he : g.descriptor? other = some e)
    (hro : e.readonly = true) : e.name ≠ d.name := by
  obtain ⟨hd, hwritable, -⟩ := accept_eq_ok_iff.1 ha
  intro hname
  have hfold : Text.fold other = Text.fold name := by
    rw [← (mem_of_descriptor? he).2, ← (mem_of_descriptor? hd).2, hname]
  have hsame : e = d := by
    rw [descriptor?, hfold, ← descriptor?, hd] at he
    exact (Option.some.inj he).symm
  rw [hsame] at hro
  exact absurd (hwritable hro) (by simp [hg])

theorem locked_set {g h : Registry} (hg : g.inSetup = false) {name : Text} {v w : Value}
    (hset : g.set name v = .ok (h, w)) : Locked g h := by
  obtain ⟨d, t, ha, -, rfl⟩ := set_eq_ok_iff.1 hset
  refine ⟨hg, rfl, ?_⟩
  intro other e he hro
  exact text?_store_of_ne (ne_of_accept hg ha he hro) g t

theorem locked_load {g h : Registry} (hg : g.inSetup = false) {fs : Files} {path : Text}
    (hl : g.load fs path = .ok h) : Locked g h := by
  obtain ⟨ps, hitems, hs⟩ := load_items hl
  obtain ⟨hd, hi, hother⟩ := storeAll_frame hs
  refine ⟨hi.trans hg, hd, ?_⟩
  intro other e he hro
  refine hother e.name ?_
  intro p hp hname
  obtain ⟨i, -, ha⟩ := exists_accept_of_mem hitems hp
  exact ne_of_accept hg ha he hro hname.symm

theorem locked_after {g : Registry} (hg : g.inSetup = false) (c : Change) :
    Locked g (g.after c) := by
  cases c with
  | set name v =>
    rw [after]
    split
    next h w hset => exact locked_set hg hset
    next => exact Locked.refl hg
  | load fs path =>
    rw [after]
    split
    next h hl => exact locked_load hg hl
    next => exact Locked.refl hg
  | statement clock s =>
    rw [after]
    rcases Builtin.registry_handle ⟨some g, none, clock⟩ s with
      hsame | ⟨k, h, name, v, w, -, hk, hset, hnew⟩
    · rw [hsame]
      exact Locked.refl hg
    · rw [hnew]
      cases hk
      exact locked_set hg hset

theorem locked_afterAll {g : Registry} (hg : g.inSetup = false) (cs : List Change) :
    Locked g (g.afterAll cs) := by
  induction cs generalizing g with
  | nil => exact Locked.refl hg
  | cons c cs ih =>
    have hstep := locked_after hg c
    exact hstep.trans (ih hstep.inSetup)

/-! ## The law of the lock -/

/-- Once its set-up is complete, a registry never goes back to it, and every property that is
read-only stays so and keeps its value, in whatever order values are set, files are loaded and
commands are run, and whichever of them fail. -/
theorem readonly_properties_keep_their_values (g : Registry) (cs : List Change) :
    let ready := g.completeSetup
    (ready.afterAll cs).inSetup = false ∧
      ∀ name, g.isReadonly name = .ok true →
        (ready.afterAll cs).isReadonly name = .ok true ∧
          (ready.afterAll cs).get name = ready.get name := by
  intro ready
  have hlocked := locked_afterAll (g := ready) rfl cs
  refine ⟨hlocked.inSetup, ?_⟩
  intro name hro
  exact ⟨(hlocked.isReadonly_eq name).trans hro, hlocked.get_eq hro⟩

/-- Three ways to the log level, and one to the prompt. -/
def sampleChanges : List Change := [
  .set "Log.Level" (.text "DEBUG"),
  .load ⟨[(["shell.ini".toList],
    .file (.text "[DEFAULT]\nLOG.LEVEL = DEBUG\n[qshell]\nshell.prompt = >\n"))]⟩ "shell.ini",
  .statement .stopped "SET PROPERTY 'LOG.LEVEL' = 'DEBUG';",
  .statement .stopped "set property shell.prompt = '$ ';"]

theorem log_level_of_the_sample :
    let ready := Environment.defaultRegistry.completeSetup
    Environment.defaultRegistry.isReadonly "LOG.LEVEL" = .ok true ∧
      (ready.afterAll sampleChanges).inSetup = false ∧
      (ready.afterAll sampleChanges).get "LOG.LEVEL" = .ok (.text "WARNING") ∧
      (ready.afterAll sampleChanges).get "shell.prompt" = .ok (.text "$ ") := by
  intro ready
  obtain ⟨hsetup, hkept⟩ :=
    readonly_properties_keep_their_values Environment.defaultRegistry sampleChanges
  have hro : Environment.defaultRegistry.isReadonly "LOG.LEVEL" = .ok true := rfl
  have hlevel : ready.get "LOG.LEVEL" = .ok (.text "WARNING") := rfl
  exact ⟨hro, hsetup, (hkept "LOG.LEVEL" hro).2.trans hlevel, rfl⟩

end Registry

end Property

end StatementShell
