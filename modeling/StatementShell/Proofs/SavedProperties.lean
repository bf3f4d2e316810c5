-- Properties that are saved and loaded again. The values come back exactly if UTF-8 can write all
-- of them and every text among them is settled, and without carriage returns no value reaches
-- another one. Neither holds of all texts, since values are written as they are: the defaults of
-- the program lose a blank already, a carriage return lets one property write lines of its own, and
-- a surrogate in one property keeps all of them from being saved.
import StatementShell.Proofs.ReadonlyProperties
import StatementShell.Proofs.SavedRegistry

namespace StatementShell

namespace Property.Registry

/-! ## Registries that were built -/

namespace Built

variable {as : List Addition} {g : Registry} (hg : Built as g)

include hg

theorem receives {k : Registry} (hk : Built as k) (hsetup : k.inSetup = true)
    (hnames : ∀ n ∈ g.names, Ini.PlainName n) : k.Receives g :=
  ⟨hg.sound, hk.sound, hsetup, hk.descriptors_eq.trans hg.descriptors_eq.symm, hnames⟩

/-- Values may be set in any number; those that fail change nothing. -/
theorem afterAll_sets (sets : List (Text × Value)) :
    Built as (g.afterAll (sets.map fun s => Change.set s.1 s.2)) := by
  induction sets generalizing g with
  | nil => exact hg
  | cons s sets ih =>
    refine ih ?_
    rw [after]
    split
    next h w hset => exact hg.set hset
    next => exact hg

end Built

/-! ## A sample -/

def sampleAdditions : List Addition := [
  ⟨"Note", .string none 64, .text [], false⟩,
  ⟨"mode", .string (some ["dark".toList, "light".toList]) 16, .text "dark", false⟩,
  ⟨"size", .integer 0 500, .integer 80, true⟩]

/-- The sample with a note in it. -/
def sample (note : Stored) : Registry :=
  (fresh sampleAdditions).afterAll ([("NOTE".toList, note.value), ("size".toList, .integer 7)].map
    fun s => Change.set s.1 s.2)

theorem built_sample (note : Stored) : Built sampleAdditions (sample note) :=
  Built.afterAll_sets
    (.add (.add (.add .empty rfl) rfl) rfl : Built sampleAdditions (fresh sampleAdditions)) _

theorem get_sample {note other : Stored} {n : Text} (hn : Text.fold n ≠ Text.fold "note")
    (hstored : ∀ d ∈ (sample note).descriptors, d.name ≠ Text.fold "note" →
      (sample other).storedAt d = (sample note).storedAt d) :
    (sample other).get n = (sample note).get n := by
  have hnote := built_sample note
  have hother := built_sample other
  have hsame := hother.descriptors_eq.trans hnote.descriptors_eq.symm
  refine get_congr hsame ?_
  intro d hd hname
  exact (hnote.sound.storedAt_eq_iff hother.sound hd (hsame ▸ hd)).1 (hstored d hd (hname ▸ hn))

/-! ## What comes back -/

namespace Receives

variable {g k : Registry} (hk : k.Receives g) {fs : Files} {path : Text}
  (hroom : fs.Admits path)

include hk hroom

theorem save_load_iff :
    ∃ vs, g.values = .ok vs ∧
      ((∃ after, g.save fs path = (after, .ok ())) ↔ g.WellFormed) ∧
      ((∃ after h, g.save fs path = (after, .ok ()) ∧ k.load after path = .ok h ∧
          h.values = .ok vs) ↔
        g.WellFormed ∧ ∀ name v, g.get name = .ok (.text v) → Ini.Settled v) := by
  obtain ⟨vs, hvs, -⟩ := hk.saved.values_ok
  refine ⟨vs, hvs, ?_⟩
  rw [← hk.saved.holdsTexts_iff hk.plain,
    ← hk.saved.forall_textAt_iff hk.plain (fun t => Ini.settled_of_solid)]
  by_cases he : g.HoldsTexts
  · obtain ⟨after, hsave, hread⟩ := hk.saved.save_of_holdsTexts he hroom
    refine ⟨iff_of_true ⟨after, hsave⟩ he, ?_⟩
    rw [← hk.load_values_iff he hread hvs]
    constructor
    · rintro ⟨other, h, hother, hload, hback⟩
      cases hsave.symm.trans hother
      exact ⟨he, h, hload, hback⟩
    · rintro ⟨-, h, hload, hback⟩
      exact ⟨after, h, hsave, hload, hback⟩
  · obtain ⟨failed, e, hfailed⟩ := hk.saved.save_of_not_holdsTexts he fs path
    have hnot (after : Files) : g.save fs path ≠ (after, .ok ()) := by
      rw [hfailed]
      nofun
    exact ⟨iff_of_false (fun ⟨after, hsave⟩ => hnot after hsave) he,
      iff_of_false (fun ⟨after, _, hsave, _⟩ => hnot after hsave) (fun h => he h.1)⟩

/-- Without carriage returns a file is taken over, and every value in it hangs on the text of
its own property alone. -/
theorem load_saved (he : g.HoldsTexts)
    (hreturn : ∀ name v, g.get name = .ok (.text v) → '\r' ∉ v)
    (hallowed : ∀ d ∈ g.descriptors, ∀ ts limit, d.validator = .string (some ts) limit →
      Ini.reread (g.textAt d) ∈ ts) :
    ∃ after h, g.save fs path = (after, .ok ()) ∧ k.load after path = .ok h ∧ h.Sound ∧
      h.descriptors = g.descriptors ∧
      ∀ d ∈ g.descriptors, h.storedAt d = .text (Ini.reread (g.textAt d)) := by
  obtain ⟨after, hsave, hread⟩ := hk.saved.save_of_holdsTexts he hroom
  have hsolid (t : Text) (ht : ∀ c ∈ t, Text.isBlank c = false) : '\r' ∉ t := by
    intro hc
    exact absurd (ht _ hc) (by decide)
  have htexts := (hk.saved.forall_textAt_iff hk.plain hsolid).2 hreturn
  obtain ⟨h, hload, hrest⟩ := hk.load_of_holds hread htexts (by
    intro d hd
    have hholds := hk.saved.holds_storedAt hd
    rw [he d hd] at hholds
    exact hholds.reread (hallowed d hd))
  exact ⟨after, h, hsave, hload, hrest⟩

end Receives

/-- A registry with plain names is saved where a file can be replaced, exactly if no value has
surrogates in it. A fresh one with the same properties gets the same values from the file exactly
if, besides, every text among them is settled. -/
theorem file_restores_values_iff_settled {as : List Addition} {g : Registry} (hg : Built as g)
    (hnames : ∀ n ∈ g.names, Ini.PlainName n) {fs : Files} {path : Text}
    (hroom : fs.Admits path) :
    ∃ vs, g.values = .ok vs ∧
      ((∃ after, g.save fs path = (after, .ok ())) ↔ g.WellFormed) ∧
      ((∃ after h, g.save fs path = (after, .ok ()) ∧ (fresh as).load after path = .ok h ∧
          h.values = .ok vs) ↔
        g.WellFormed ∧ ∀ name v, g.get name = .ok (.text v) → Ini.Settled v) :=
  (hg.receives hg.fresh (inSetup_fresh as) hnames).save_load_iff hroom

/-- A note over several lines comes back, though some of them look like a section and an
option. -/
theorem note_of_the_sample_comes_back :
    Files.empty.Admits "shell.ini" ∧
      (sample "a\n\n[x]\n= y").get "note" = .ok (.text "a\n\n[x]\n= y") ∧
      ∃ after vs h, (sample "a\n\n[x]\n= y").save Files.empty "shell.ini" = (after, .ok ()) ∧
        (sample "a\n\n[x]\n= y").values = .ok vs ∧
        (fresh sampleAdditions).load after "shell.ini" = .ok h ∧ h.values = .ok vs := by
  have hbuilt := built_sample "a\n\n[x]\n= y"
  have hwell : (sample "a\n\n[x]\n= y").WellFormed :=
    (hbuilt.sound.holdsTexts_iff (by decide)).1 (by unfold HoldsTexts; decide)
  have hnames : ∀ n ∈ (sample "a\n\n[x]\n= y").names, Ini.PlainName n := by decide
  have hroom : Files.empty.Admits "shell.ini" := ⟨⟨_, _, rfl⟩, _, rfl⟩
  have hsettled : ∀ name v, (sample "a\n\n[x]\n= y").get name = .ok (.text v) → Ini.Settled v :=
    (hbuilt.sound.forall_textAt_iff hnames (fun t => Ini.settled_of_solid)).1 (by decide)
  obtain ⟨vs, hvs, -, hiff⟩ := file_restores_values_iff_settled hbuilt hnames hroom
  obtain ⟨after, h, hsave, hload, hback⟩ := hiff.2 ⟨hwell, hsettled⟩
  exact ⟨hroom, rfl, after, vs, h, hsave, hvs, hload, hback⟩

/-- A note that is half of a character is not saved, nor is anything else, though no text among the
values has anything in it that a reader would change. -/
theorem surrogate_in_the_note_is_not_saved :
    let g := sample (.ragged ⟨[], 0, []⟩)
    Built sampleAdditions g ∧ (∀ n ∈ g.names, Ini.PlainName n) ∧
      Files.empty.Admits "shell.ini" ∧ g.get "note" = .ok (.ragged ⟨[], 0, []⟩) ∧
      (∀ name v t, g.get name = .ok v → v.wording? = some t → Ini.Settled t) ∧
      (g.save Files.empty "shell.ini").2 = .error (.unencodable ⟨7, 1, 0⟩) := by
  intro g
  have hbuilt : Built sampleAdditions g := built_sample _
  have hshown : ∀ d ∈ g.descriptors, Ini.Settled ((g.storedAt d).value.wording?.getD []) := by
    decide
  refine ⟨hbuilt, by decide, ⟨⟨_, _, rfl⟩, _, rfl⟩, rfl, ?_, rfl⟩
  intro name v t hget ht
  obtain ⟨d, hd, -, htakes⟩ := hbuilt.sound.get_eq_ok_iff.1 hget
  obtain ⟨s, rfl⟩ : ∃ s : Stored, s.value = v := by
    cases v with
    | text u => exact ⟨.text u, rfl⟩
    | ragged r => exact ⟨.ragged r, rfl⟩
    | _ => cases ht
  have hd := hshown d hd
  rwa [htakes.eq_of_stored, ht] at hd

/-! ## One value and the others -/

/-- Two registries that differ in one text only, without carriage returns and surrogates: both files
are taken over, and for all other properties they give the same values. What is enumerated must
still be allowed after it was read again. -/
theorem other_values_load_alike {as : List Addition} {g h : Registry} (hg : Built as g)
    (hh : Built as h) (hnames : ∀ n ∈ g.names, Ini.PlainName n) {p : Text} {most : Int}
    (hp : (g.descriptor p).map (·.validator) = .ok (.string none most))
    (hsame : ∀ n, Text.fold n ≠ Text.fold p → h.get n = g.get n)
    (hwell : g.WellFormed) (hwell' : h.WellFormed)
    (hreturn : ∀ n v, g.get n = .ok (.text v) ∨ h.get n = .ok (.text v) → '\r' ∉ v)
    (hallowed : ∀ d ∈ g.descriptors, ∀ ts limit, d.validator = .string (some ts) limit →
      ∀ v, g.get d.name = .ok (.text v) → Ini.reread v ∈ ts)
    {fs gs : Files} {path other : Text} (hroom : fs.Admits path) (hroom' : gs.Admits other) :
    ∃ after after' k l, g.save fs path = (after, .ok ()) ∧ h.save gs other = (after', .ok ()) ∧
      (fresh as).load after path = .ok k ∧ (fresh as).load after' other = .ok l ∧
      ∀ n, Text.fold n ≠ Text.fold p → l.get n = k.get n := by
  have hds : h.descriptors = g.descriptors := hh.descriptors_eq.trans hg.descriptors_eq.symm
  have hnames' : ∀ n ∈ h.names, Ini.PlainName n := by rwa [names, hds]
  have hk := hg.receives hg.fresh (inSetup_fresh as) hnames
  have hl := hh.receives hg.fresh (inSetup_fresh as) hnames'
  have he := (hg.sound.holdsTexts_iff hnames).2 hwell
  have he' := (hh.sound.holdsTexts_iff hnames').2 hwell'
  -- all other properties hold the same texts
  have htext : ∀ d ∈ g.descriptors, d.name ≠ Text.fold p → h.textAt d = g.textAt d := by
    intro d hd hne
    have hstored : h.storedAt d = g.storedAt d := by
      rw [hg.sound.storedAt_eq_iff hh.sound hd (hds ▸ hd), ← hh.sound.get_name hnames' (hds ▸ hd),
        ← hg.sound.get_name hnames hd]
      exact hsame d.name (by rwa [(hnames d.name (List.mem_map_of_mem hd)).fold_eq])
    rw [textAt, hstored, textAt]
  have henum : ∀ d ∈ g.descriptors, ∀ ts limit, d.validator = .string (some ts) limit →
      Ini.reread (g.textAt d) ∈ ts ∧ d.name ≠ Text.fold p := by
    intro d hd ts limit hv
    have hget := (hg.sound.get_name hnames hd).trans (hg.sound.valueOf_string hd hv)
    rw [he d hd] at hget
    refine ⟨hallowed d hd ts limit hv _ hget, ?_⟩
    intro hname
    rw [descriptor_eq_ok_iff.2 (hg.sound.descriptor?_of_mem hd hname)] at hp
    exact absurd (hv.symm.trans (Except.ok.inj hp)) (by simp)
  obtain ⟨after, k, hsave, hload, hksound, hkd, hktext⟩ := hk.load_saved hroom he
    (fun n v hv => hreturn n v (.inl hv)) (fun d hd ts limit hv => (henum d hd ts limit hv).1)
  obtain ⟨after', l, hsave', hload', hlsound, hld, hltext⟩ := hl.load_saved hroom' he'
    (fun n v hv => hreturn n v (.inr hv)) (by
      rw [hds]
      intro d hd ts limit hv
      rw [htext d hd (henum d hd ts limit hv).2]
      exact (henum d hd ts limit hv).1)
  rw [hds] at hld hltext
  refine ⟨after, after', k, l, hsave, hsave', hload, hload', ?_⟩
  intro n hn
  refine get_congr (hld.trans hkd.symm) ?_
  intro d hd hname
  rw [hkd] at hd
  rw [← hksound.storedAt_eq_iff hlsound (hkd ▸ hd) (hld ▸ hd), hktext d hd, hltext d hd,
    htext d hd (hname ▸ hn)]

theorem rest_of_the_sample_loads_alike :
    ∃ after after' k l, (sample "x").save Files.empty "one.ini" = (after, .ok ()) ∧
      (sample "y\n[other]\nsize = 9").save Files.empty "two.ini" = (after', .ok ()) ∧
      (fresh sampleAdditions).load after "one.ini" = .ok k ∧
      (fresh sampleAdditions).load after' "two.ini" = .ok l ∧
      ∀ n, Text.fold n ≠ Text.fold "note" → l.get n = k.get n := by
  have hbuilt := built_sample "x"
  have hbuilt' := built_sample "y\n[other]\nsize = 9"
  have hnames : ∀ n ∈ (sample "x").names, Ini.PlainName n := by decide
  have hnames' : ∀ n ∈ (sample "y\n[other]\nsize = 9").names, Ini.PlainName n := by decide
  have hsettled : ∀ d ∈ (sample "x").descriptors, Ini.Settled ((sample "x").textAt d) := by decide
  have hsettled' : ∀ d ∈ (sample "y\n[other]\nsize = 9").descriptors,
      Ini.Settled ((sample "y\n[other]\nsize = 9").textAt d) := by decide
  have hsolid := fun t => Ini.settled_of_solid (v := t)
  have hvalues := (hbuilt.sound.forall_textAt_iff hnames hsolid).1 hsettled
  have hvalues' := (hbuilt'.sound.forall_textAt_iff hnames' hsolid).1 hsettled'
  have hreturn : ∀ n v, (sample "x").get n = .ok (.text v) ∨
      (sample "y\n[other]\nsize = 9").get n = .ok (.text v) → '\r' ∉ v := by
    rintro n v (hv | hv)
    · exact (hvalues n v hv).noReturn
    · exact (hvalues' n v hv).noReturn
  have hwell : (sample "x").WellFormed :=
    (hbuilt.sound.holdsTexts_iff hnames).1 (by unfold HoldsTexts; decide)
  have hwell' : (sample "y\n[other]\nsize = 9").WellFormed :=
    (hbuilt'.sound.holdsTexts_iff hnames').1 (by unfold HoldsTexts; decide)
  have hallowed : ∀ d ∈ (sample "x").descriptors, ∀ ts limit,
      d.validator = .string (some ts) limit → ∀ v, (sample "x").get d.name = .ok (.text v) →
        Ini.reread v ∈ ts := by
    intro d hd ts limit hv v hget
    rw [Ini.reread_of_settled (hvalues d.name v hget)]
    rw [hbuilt.sound.get_name hnames hd, hbuilt.sound.valueOf_eq_ok_iff hd, hv] at hget
    generalize ((sample "x").storedAt d).value = u at hget
    cases hget with
    | string hallowed _ => exact hallowed ts rfl
  have hroom : Files.empty.Admits "one.ini" := ⟨⟨_, _, rfl⟩, _, rfl⟩
  have hroom' : Files.empty.Admits "two.ini" := ⟨⟨_, _, rfl⟩, _, rfl⟩
  obtain ⟨after, after', k, l, hsave, hsave', hload, hload', hall⟩ :=
    other_values_load_alike hbuilt hbuilt' hnames (p := "note") (by rfl)
      (fun n hn => get_sample hn (by decide)) hwell hwell' hreturn hallowed hroom hroom'
  exact ⟨after, after', k, l, hsave, hsave', hload, hload', hall⟩

/-- A carriage return in the note begins a line of its own. The size stands in another section
then, and falls back to its default. -/
theorem return_in_the_note_reaches_the_size :
    (∀ n, Text.fold n ≠ Text.fold "note" →
      (sample "x\r[other]").get n = (sample "x").get n) ∧
    (sample "x\r[other]").get "note" = .ok (.text "x\r[other]") ∧
    ∃ after after' k l, (sample "x").save Files.empty "one.ini" = (after, .ok ()) ∧
      (sample "x\r[other]").save Files.empty "two.ini" = (after', .ok ()) ∧
      (fresh sampleAdditions).load after "one.ini" = .ok k ∧
      (fresh sampleAdditions).load after' "two.ini" = .ok l ∧
      k.get "size" = .ok (.integer 7) ∧ l.get "size" = .ok (.integer 80) :=
  ⟨fun _ hn => get_sample hn (by decide), rfl, _, _, _, _, rfl, rfl, rfl, rfl, rfl, rfl⟩

end Property.Registry

namespace Environment

open Property Property.Registry

/-! ## The settings of the program -/

def defaultAdditions : List Addition :=
  defaultProperties.map fun (name, validator, initial, readonly) =>
    ⟨name, validator, initial, readonly⟩

theorem built_defaultRegistry : Built defaultAdditions defaultRegistry :=
  .add (.add (.add (.add (.add .empty rfl) rfl) rfl) rfl) rfl

theorem initProperties_eq_ok_iff {env : Environment} {path : Text} {h : Registry} :
    (env.initProperties (some path)).2 = .ok h ↔ defaultRegistry.load env.files path = .ok h := by
  simp only [initProperties, loadConfig]
  cases defaultRegistry.load env.files path with
  | error e => simp
  | ok g => simp

/-- Whatever values were set at start-up, the settings are saved exactly if no value has surrogates
in it, and the file gives them back exactly if, besides, every text among them is settled. -/
theorem settings_come_back_iff_settled (env : Environment) {start : Registry}
    (hstart : (env.initProperties none).2 = .ok start) (sets : List (Text × Value)) {path : Text}
    (hroom : env.files.Admits path) :
    let g := start.afterAll (sets.map fun s => Change.set s.1 s.2)
    ∃ vs, g.values = .ok vs ∧
      ((∃ after, g.save env.files path = (after, .ok ())) ↔ g.WellFormed) ∧
      ((∃ after h, g.save env.files path = (after, .ok ()) ∧
          ({ env with files := after }.initProperties (some path)).2 = .ok h ∧
          h.values = .ok vs) ↔
        g.WellFormed ∧ ∀ name v, g.get name = .ok (.text v) → Ini.Settled v) := by
  intro g
  obtain rfl : defaultRegistry = start := Except.ok.inj hstart
  have hbuilt : Built defaultAdditions g := built_defaultRegistry.afterAll_sets sets
  have hplain : ∀ n ∈ g.names, Ini.PlainName n := by
    rw [names, hbuilt.descriptors_eq, ← built_defaultRegistry.descriptors_eq]
    decide
  have hreceives := hbuilt.receives built_defaultRegistry rfl hplain
  simp only [initProperties_eq_ok_iff]
  exact hreceives.save_load_iff hroom

/-- Prompts that do not end with a blank. -/
def sampleSets : List (Text × Value) :=
  [("Shell.Prompt".toList, .text "$"), ("shell.continuation_prompt".toList, .text "and\n\n>"),
    ("log.level".toList, .text "DEBUG")]

def sampleSettings : Registry :=
  defaultRegistry.afterAll (sampleSets.map fun s => Change.set s.1 s.2)

theorem settings_of_the_sample_come_back :
    ((initial Files.empty).initProperties none).2 = .ok defaultRegistry ∧
      Files.empty.Admits "shell.ini" ∧
      sampleSettings.get "shell.continuation_prompt" = .ok (.text "and\n\n>") ∧
      ∃ after vs h, sampleSettings.save Files.empty "shell.ini" = (after, .ok ()) ∧
        sampleSettings.values = .ok vs ∧
        ((initial after).initProperties (some "shell.ini")).2 = .ok h ∧ h.values = .ok vs := by
  have hroom : Files.empty.Admits "shell.ini" := ⟨⟨_, _, rfl⟩, _, rfl⟩
  have hbuilt : Built defaultAdditions sampleSettings :=
    built_defaultRegistry.afterAll_sets sampleSets
  have hsettled : ∀ name v, sampleSettings.get name = .ok (.text v) → Ini.Settled v :=
    (hbuilt.sound.forall_textAt_iff (by decide) (fun t => Ini.settled_of_solid)).1 (by decide)
  have hwell : sampleSettings.WellFormed :=
    (hbuilt.sound.holdsTexts_iff (by decide)).1 (by unfold HoldsTexts; decide)
  obtain ⟨vs, hvs, -, hiff⟩ :=
    settings_come_back_iff_settled (initial Files.empty) rfl sampleSets hroom
  obtain ⟨after, h, hsave, hload, hback⟩ := hiff.2 ⟨hwell, hsettled⟩
  exact ⟨rfl, hroom, rfl, after, vs, h, hsave, hvs, hload, hback⟩

/-- The prompt that the program begins with ends with a blank, and a reader trims it away. -/
theorem first_prompt_comes_back_without_its_blank :
    ∃ after h vs ws, defaultRegistry.save Files.empty "shell.ini" = (after, .ok ()) ∧
      ((initial after).initProperties (some "shell.ini")).2 = .ok h ∧
      defaultRegistry.get "shell.prompt" = .ok (.text "CMD> ") ∧
      h.get "shell.prompt" = .ok (.text "CMD>") ∧
      defaultRegistry.values = .ok vs ∧ h.values = .ok ws ∧ vs ≠ ws :=
  ⟨_, _, _, _, rfl, rfl, rfl, rfl, rfl, rfl, by decide⟩

end Environment

end StatementShell
