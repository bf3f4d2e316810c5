-- Start-up, stage by stage: the properties are loaded, the log is opened, the set-up is completed.
-- Every stage succeeds or fails as a whole, and what stops it is fatal. The properties are those of
-- the program from the first stage on, so it is the second one alone that leaves something behind
-- when it fails: the properties that were loaded, still in their set-up.
import StatementShell.Proofs.DigitLimits
import StatementShell.Proofs.FileFaults
import StatementShell.Proofs.LoadedFiles
import StatementShell.Proofs.SavedProperties

namespace StatementShell

namespace Property.Registry

/-! ## What a file gives -/

/-- The options that a file has for properties hold no character but line feeds that the file
does not hold. -/
theorem mem_of_fileItems {fs : Files} {path : Text} {b : Body} (hb : fs.read path = .ok b)
    {c : Char} (hc : c ≠ '\n') : ∀ i ∈ fileItems fs path, c ∈ i.value → c ∈ b.readLenient := by
  intro i hi hci
  rw [fileItems, hb] at hi
  dsimp only at hi
  cases hread : Ini.read path b.readLenient with
  | error e => simp [hread] at hi
  | ok doc =>
    rw [hread] at hi
    dsimp only at hi
    by_cases hheading : sectionName ∈ doc.headings
    · obtain ⟨items, hitems, hmem, -⟩ := Ini.section?_of_mem hheading
      rw [hitems, Option.getD_some] at hi
      obtain ⟨name, hin⟩ := hmem i hi
      exact Ini.mem_of_read hread hc (name, i) hin hci
    · simp [Ini.Document.section?, hheading] at hi

variable {g h : Registry} {fs : Files} {path : Text}

/-- A file leaves a property as it was, or gives it what the check makes of an option. -/
theorem Sound.storedAt_of_load (hg : g.Sound) (hl : g.load fs path = .ok h) {d : Descriptor}
    (hd : d ∈ g.descriptors) :
    h.storedAt d = g.storedAt d ∨ ∃ i ∈ fileItems fs path, ∃ w,
      d.validator.Takes (.text i.value) w ∧ textOf w = .ok (h.storedAt d) := by
  obtain ⟨ps, haccept, hstore⟩ := load_items hl
  by_cases hname : ∃ p ∈ ps, p.1.name = d.name
  · obtain ⟨⟨e, w⟩, hp, hen, t, ht, htext⟩ := text?_storeAll hstore hname
    obtain ⟨i, hi, hip⟩ := exists_accept_of_mem haccept hp
    obtain ⟨he, -, htakes⟩ := Registry.accept_eq_ok_iff.1 hip
    obtain rfl := hg.ordered.eq_of_name (mem_of_descriptor? he).1 hd hen
    refine .inr ⟨i, hi, w, htakes, ?_⟩
    rw [storedAt, htext]
    exact ht
  · have hkept := (storeAll_frame hstore).2.2 d.name (fun p hp hpn => hname ⟨p, hp, hpn⟩)
    exact .inl (by rw [storedAt, hkept, storedAt])

/-- A text property that is loaded has the value of an option as it stands. -/
theorem Sound.textAt_of_load (hg : g.Sound) (hl : g.load fs path = .ok h) {d : Descriptor}
    (hd : d ∈ g.descriptors) {allowed : Option (List Text)} {limit : Int}
    (hv : d.validator = .string allowed limit) :
    h.textAt d = g.textAt d ∨ ∃ i ∈ fileItems fs path, h.textAt d = i.value := by
  rcases hg.storedAt_of_load hl hd with hsame | ⟨i, hi, w, htakes, ht⟩
  · exact .inl (by rw [textAt, hsame, textAt])
  · rw [hv] at htakes
    cases htakes with
    | string => exact .inr ⟨i, hi, by rw [textAt, ← Except.ok.inj ht]⟩

/-- What is loaded has no surrogates in it. -/
theorem Sound.holdsTexts_of_load (hg : g.Sound) (hl : g.load fs path = .ok h) (he : g.HoldsTexts) :
    h.HoldsTexts := by
  intro d hd
  rw [descriptors_of_load hl] at hd
  have htext : ∃ t, h.storedAt d = .text t := by
    rcases hg.storedAt_of_load hl hd with hsame | ⟨i, -, w, htakes, ht⟩
    · exact ⟨_, hsame.trans (he d hd)⟩
    · exact htakes.exists_text ht
  obtain ⟨t, ht⟩ := htext
  rw [textAt, ht]

/-- What stops a load: the file is not opened or not read, or one of its options is refused. -/
theorem load_eq_error {e : Failure} (hl : g.load fs path = .error e) :
    (∃ f, e = .file f ∧ fs.read path = .error f) ∨ (∃ f, e = .ini f) ∨ g.Refusal e := by
  unfold load at hl
  cases hb : fs.read path with
  | error f =>
    rw [hb] at hl
    cases hl
    exact .inl ⟨f, rfl, rfl⟩
  | ok b =>
    rw [hb] at hl
    dsimp only at hl
    cases hdoc : Ini.read path b.readLenient with
    | error f =>
      rw [hdoc] at hl
      cases hl
      exact .inr (.inl ⟨f, rfl⟩)
    | ok doc =>
      rw [hdoc] at hl
      dsimp only [loadDocument] at hl
      cases hitems : doc.section? sectionName with
      | none => simp [hitems] at hl
      | some items =>
        rw [hitems] at hl
        dsimp only at hl
        cases hps : g.acceptAll items with
        | error f =>
          rw [hps] at hl
          cases hl
          obtain ⟨_, i, _, -, -, hi⟩ := exists_refused hps
          exact .inr (.inr (refusal_of_accept hi))
        | ok ps =>
          obtain ⟨k, hk⟩ := storeAll_of_acceptAll hps g
          rw [hps] at hl
          exact absurd (hk.symm.trans hl) (by simp)

theorem Sound.get_of_string (hg : g.Sound) {d : Descriptor} (hd : d ∈ g.descriptors)
    {allowed : Option (List Text)} {limit : Int} (hv : d.validator = .string allowed limit)
    {name : Text} (hname : d.name = Text.fold name) (he : g.HoldsTexts) :
    g.get name = .ok (.text (g.textAt d)) := by
  rw [get, descriptor_eq_ok_iff.2 (hg.descriptor?_of_mem hd hname), ← Stored.value_text,
    ← he d hd]
  exact hg.valueOf_string hd hv

theorem Sound.textAt_mem (hg : g.Sound) {d : Descriptor} (hd : d ∈ g.descriptors)
    {ts : List Text} {limit : Int} (hv : d.validator = .string (some ts) limit)
    (he : g.HoldsTexts) : g.textAt d ∈ ts := by
  obtain ⟨w, hw, -⟩ := hg.holds_storedAt hd
  rw [hv, he d hd] at hw
  cases hw with
  | string hallowed _ => exact hallowed ts rfl

end Property.Registry

namespace Environment

open Property Property.Registry

/-! ## The pure model -/

def fileProperty : Descriptor :=
  ⟨"log.file", .string none Validator.defaultLimit, .text [], true⟩

def levelProperty : Descriptor :=
  ⟨"log.level", .string (some (LogLevel.all.map LogLevel.name)) Validator.defaultLimit,
    .text LogLevel.warning.name, true⟩

/-- The configuration file, if there is one, is named and written without null characters. -/
def Plain (fs : Files) (config : Option Text) : Prop :=
  ∀ path, config = some path →
    Files.hasNull path = false ∧ ∀ b, fs.read path = .ok b → '\x00' ∉ b.readLenient

/-- What a registry says of the log. -/
structure Asks (g : Registry) (name : Text) (level : LogLevel) : Prop where
  file : g.get "log.file" = .ok (.text name)
  level : g.get "log.level" = .ok (.text level.name)

/-- Where the log goes for the name of a log file. -/
def targetOf (name : Text) : LogTarget :=
  if name.isEmpty then .stderr else .file (normalPath name)

/-- The properties of the program while it is set up. -/
structure Configured (g : Registry) : Prop where
  sound : g.Sound
  properties : g.descriptors = defaultRegistry.descriptors
  holdsTexts : g.HoldsTexts
  inSetup : g.inSetup = true

/-- How a start-up can end, and what it leaves. -/
inductive Starts (env : Environment) (config : Option Text) :
    Environment → Except Failure Registry → Prop
  | started {g : Registry} {name : Text} {level : LogLevel} {files : Files} :
      loadConfig env.files config = .ok g → Asks g name level →
      openTarget env.files name = .ok (files, targetOf name) →
      Starts env config ⟨files, some g.completeSetup, [targetOf name], level⟩
        (.ok g.completeSetup)
  | unloaded {e : Failure} : loadConfig env.files config = .error e →
      Starts env config env (.error e)
  | unlogged {g : Registry} {name : Text} {level : LogLevel} {e : Failure} :
      loadConfig env.files config = .ok g → Asks g name level →
      openTarget env.files name = .error e →
      Starts env config { env with registry := some g } (.error e)

/-! ## The properties -/

theorem plain_of_read {fs : Files} {path : Text} {b : Body} (hpath : Files.hasNull path = false)
    (hread : fs.read path = .ok b) (hb : '\x00' ∉ b.readLenient) : Plain fs (some path) := by
  intro p hp
  cases hp
  refine ⟨hpath, ?_⟩
  intro c hc
  cases hread.symm.trans hc
  exact hb

/-- The properties of the program are the default ones, and what a file makes of them. -/
theorem loadConfig_eq_ok {fs : Files} {config : Option Text} {g : Registry}
    (h : loadConfig fs config = .ok g) :
    g = defaultRegistry ∨ ∃ path, config = some path ∧ defaultRegistry.load fs path = .ok g := by
  unfold loadConfig at h
  cases config with
  | none =>
    cases h
    exact .inl rfl
  | some path =>
    dsimp only at h
    cases hl : defaultRegistry.load fs path with
    | error e => simp [hl] at h
    | ok k =>
      rw [hl] at h
      cases h
      exact .inr ⟨path, rfl, hl⟩

theorem loadConfig_eq_error {fs : Files} {config : Option Text} {e : Failure}
    (h : loadConfig fs config = .error e) :
    ∃ path f, config = some path ∧ defaultRegistry.load fs path = .error f ∧
      e = if blamesFile f then .loading path f else f := by
  unfold loadConfig at h
  cases config with
  | none => cases h
  | some path =>
    dsimp only at h
    cases hl : defaultRegistry.load fs path with
    | error f =>
      rw [hl] at h
      cases h
      exact ⟨path, f, rfl, hl, rfl⟩
    | ok k => simp [hl] at h

theorem configured_of_loadConfig {fs : Files} {config : Option Text} {g : Registry}
    (h : loadConfig fs config = .ok g) : Configured g := by
  have hdefault : Configured defaultRegistry :=
    ⟨built_defaultRegistry.sound, rfl, by unfold HoldsTexts; decide, rfl⟩
  rcases loadConfig_eq_ok h with rfl | ⟨path, -, hl⟩
  · exact hdefault
  · obtain ⟨ps, -, hstore⟩ := load_items hl
    obtain ⟨hproperties, hsetup, -⟩ := storeAll_frame hstore
    exact ⟨sound_load hdefault.sound hl, hproperties,
      hdefault.sound.holdsTexts_of_load hl hdefault.holdsTexts, hsetup.trans hdefault.inSetup⟩

namespace Configured

variable {g : Registry} (hg : Configured g)

include hg

theorem fileProperty_mem : fileProperty ∈ g.descriptors := by
  rw [hg.properties]
  decide

theorem asks : ∃ level, Asks g (g.textAt fileProperty) level := by
  have hlevel : levelProperty ∈ g.descriptors := by
    rw [hg.properties]
    decide
  obtain ⟨level, -, hname⟩ := List.mem_map.1 (hg.sound.textAt_mem hlevel rfl hg.holdsTexts)
  refine ⟨level, hg.sound.get_of_string hg.fileProperty_mem rfl (by decide) hg.holdsTexts, ?_⟩
  rw [hname]
  exact hg.sound.get_of_string hlevel rfl (by decide) hg.holdsTexts

end Configured

/-- Every failure to load a file with a proper path blames the file: the properties of the program
are no numbers, and their checks find words for what they refuse. -/
theorem blamesFile_of_load {fs : Files} {path : Text} {e : Failure}
    (hpath : Files.hasNull path = false) (hl : defaultRegistry.load fs path = .error e) :
    blamesFile e = true := by
  rcases load_eq_error hl with ⟨f, rfl, hf⟩ | ⟨f, rfl⟩ | ⟨f, rfl⟩ | ⟨-, d, hd, hv⟩
  · exact Files.isSystem_of_read hpath hf
  · rfl
  · rfl
  · have hwritable : ∀ d ∈ defaultRegistry.descriptors, d.validator.isWritable = true := by decide
    rw [hwritable d hd] at hv
    cases hv

theorem isFatal_of_loadConfig {fs : Files} {config : Option Text} {e : Failure}
    (hplain : Plain fs config) (h : loadConfig fs config = .error e) : e.isFatal = true := by
  obtain ⟨path, f, hpath, hl, rfl⟩ := loadConfig_eq_error h
  rw [blamesFile_of_load (hplain path hpath).1 hl, if_pos rfl]
  rfl

/-- The name of the log file comes from the configuration file, so it holds no character that the
file does not hold. -/
theorem hasNull_fileProperty {fs : Files} {config : Option Text} {g : Registry}
    (hplain : Plain fs config) (h : loadConfig fs config = .ok g) :
    Files.hasNull (g.textAt fileProperty) = false := by
  have hmem : fileProperty ∈ defaultRegistry.descriptors := by decide
  have hdefault : Files.hasNull (defaultRegistry.textAt fileProperty) = false := by decide
  rcases loadConfig_eq_ok h with rfl | ⟨path, hpath, hl⟩
  · exact hdefault
  · rcases built_defaultRegistry.sound.textAt_of_load hl hmem rfl with hsame | ⟨i, hi, hv⟩
    · rw [hsame]
      exact hdefault
    · rw [hv, Files.hasNull_eq_false_iff]
      intro hnull
      cases hb : fs.read path with
      | error f => simp [fileItems, hb] at hi
      | ok b => exact (hplain path hpath).2 b hb (mem_of_fileItems hb (by decide) i hi hnull)

/-! ## The log -/

theorem openTarget_cases (fs : Files) (name : Text) :
    (∃ files, openTarget fs name = .ok (files, targetOf name)) ∨
      ∃ f, fs.append (normalPath name) [] = .error f ∧
        openTarget fs name = .error (if f.isSystem then .logging name (.file f) else .file f) := by
  unfold openTarget targetOf
  cases name.isEmpty with
  | true => exact .inl ⟨fs, rfl⟩
  | false =>
    cases ha : fs.append (normalPath name) [] with
    | error f => exact .inr ⟨f, rfl, by simp⟩
    | ok files => exact .inl ⟨files, by simp⟩

/-- A log file with a proper name can be opened, or the files are to blame. -/
theorem exists_fault_of_openTarget {fs : Files} {name : Text} {e : Failure}
    (hname : Files.hasNull name = false) (h : openTarget fs name = .error e) :
    ∃ f, fs.append (normalPath name) [] = .error f ∧ e = .logging name (.file f) := by
  rcases openTarget_cases fs name with ⟨files, hopen⟩ | ⟨f, hf, hopen⟩
  · rw [hopen] at h
    cases h
  · have hsystem : f.isSystem = true :=
      Files.isSystem_of_writable (Files.hasNull_pathTo_named hname) (map_eq_error hf)
    rw [hopen, hsystem, if_pos rfl] at h
    cases h
    exact ⟨f, hf, rfl⟩

variable {g : Registry} {name : Text} {level : LogLevel}

theorem Asks.textOf (ha : Asks g name level) :
    textOf g "log.file" = .ok name ∧ textOf g "log.level" = .ok level.name := by
  constructor
  · rw [Environment.textOf, ha.file]
    rfl
  · rw [Environment.textOf, ha.level]
    rfl

theorem initLog_of_opened {env : Environment} {files : Files} {target : LogTarget}
    (ha : Asks g name level) (h : openTarget env.files name = .ok (files, target)) :
    env.initLog g = (⟨files, env.registry, [target], level⟩, .ok ()) := by
  obtain ⟨hfile, hlevel⟩ := ha.textOf
  rw [initLog, hfile]
  dsimp only
  rw [h]
  dsimp only
  rw [hlevel]
  dsimp only
  rw [LogLevel.ofName?_name, Option.getD_some]

theorem initLog_of_refused {env : Environment} {e : Failure} (ha : Asks g name level)
    (h : openTarget env.files name = .error e) : env.initLog g = (env, .error e) := by
  rw [initLog, ha.textOf.1]
  dsimp only
  rw [h]

/-! ## All stages -/

theorem starts_initAll (env : Environment) (config : Option Text) :
    Starts env config (env.initAll config).1 (env.initAll config).2 := by
  cases hl : loadConfig env.files config with
  | error e =>
    have hall : env.initAll config = (env, .error e) := by
      rw [initAll, initProperties, hl]
    rw [hall]
    exact .unloaded hl
  | ok g =>
    have hproperties : env.initProperties config = ({ env with registry := some g }, .ok g) := by
      rw [initProperties, hl]
    obtain ⟨level, ha⟩ := (configured_of_loadConfig hl).asks
    cases hopen : openTarget env.files (g.textAt fileProperty) with
    | error e =>
      have hall : env.initAll config = ({ env with registry := some g }, .error e) := by
        have hlog : ({ env with registry := some g } : Environment).initLog g = (_, .error e) :=
          initLog_of_refused ha hopen
        rw [initAll, hproperties]
        dsimp only
        rw [hlog]
      rw [hall]
      exact .unlogged hl ha hopen
    | ok opened =>
      obtain ⟨files, target⟩ := opened
      have htarget : target = targetOf (g.textAt fileProperty) := by
        rcases openTarget_cases env.files (g.textAt fileProperty) with ⟨_, h⟩ | ⟨_, -, h⟩
        · rw [hopen] at h
          cases h
          rfl
        · rw [hopen] at h
          cases h
      have hall : env.initAll config =
          (⟨files, some g.completeSetup, [target], level⟩, .ok g.completeSetup) := by
        have hlog : ({ env with registry := some g } : Environment).initLog g = (_, .ok ()) :=
          initLog_of_opened ha hopen
        rw [initAll, hproperties]
        dsimp only
        rw [hlog]
      rw [hall]
      subst htarget
      exact .started hl ha hopen

/-- A start-up without null characters in its configuration comes to all that it is there for, or to
a fatal failure. In the first case the registry that it gives is that of the program and is out of
its set-up, and the log goes where the registry says, nowhere else, from the level on that it says.
In the second case the log goes where it went and the files are as they were. So are the properties
of the program if the configuration could not be loaded; if it was, and the log file that it names
cannot be opened, they are those that were loaded, still in their set-up. -/
theorem startup_is_whole_but_for_the_log_file (env : Environment) (config : Option Text)
    (hplain : Plain env.files config) :
    let after := (env.initAll config).1
    let answer := (env.initAll config).2
    (∃ g k name level, loadConfig env.files config = .ok k ∧ g = k.completeSetup ∧
      answer = .ok g ∧ after.registry = some g ∧ g.inSetup = false ∧ Asks g name level ∧
      openTarget env.files name = .ok (after.files, targetOf name) ∧
      after.logTargets = [targetOf name] ∧ after.logLevel = level) ∨
    ∃ e, answer = .error e ∧ e.isFatal = true ∧ after.files = env.files ∧
      after.logTargets = env.logTargets ∧ after.logLevel = env.logLevel ∧
      ((loadConfig env.files config = .error e ∧ after.registry = env.registry) ∨
        ∃ g name f, loadConfig env.files config = .ok g ∧ g.inSetup = true ∧
          g.get "log.file" = .ok (.text name) ∧
          env.files.append (normalPath name) [] = .error f ∧ e = .logging name (.file f) ∧
          after.registry = some g) := by
  intro after answer
  have hstarts : Starts env config after answer := starts_initAll env config
  generalize after = h at hstarts
  generalize answer = r at hstarts
  cases hstarts with
  | @started g name level _ hload ha hopen =>
    exact .inl ⟨g.completeSetup, g, name, level, hload, rfl, rfl, rfl, rfl, ⟨ha.file, ha.level⟩,
      hopen, rfl, rfl⟩
  | @unloaded e hload =>
    have hfatal := isFatal_of_loadConfig hplain hload
    exact .inr ⟨e, rfl, hfatal, rfl, rfl, rfl, .inl ⟨hload, rfl⟩⟩
  | @unlogged g name level e hload ha hopen =>
    have hg := configured_of_loadConfig hload
    obtain ⟨level', ha'⟩ := hg.asks
    have hname : name = g.textAt fileProperty := by
      have hsame := ha.file.symm.trans ha'.file
      simpa using hsame
    have hnull := hname ▸ hasNull_fileProperty hplain hload
    obtain ⟨f, hf, rfl⟩ := exists_fault_of_openTarget hnull hopen
    exact .inr ⟨_, rfl, rfl, rfl, rfl, rfl,
      .inr ⟨g, name, f, hload, hg.inSetup, ha.file, hf, rfl, rfl⟩⟩

/-- A program that runs already, with its log at the standard error stream. Beside it lie a file
with a log file and a level, one with a level that there is not, and one with a log file in a
directory that is not there. -/
def running : Environment :=
  let files : Files := ⟨[
    (["good.ini".toList],
      .file (.text "[qshell]\nlog.level = DEBUG\nlog.file = logs/../shell.log\n")),
    (["loud.ini".toList], .file (.text "[qshell]\nlog.level = LOUD\n")),
    (["lost.ini".toList], .file (.text "[qshell]\nlog.level = DEBUG\nlog.file = lost/a.log\n"))]⟩
  ⟨files, some defaultRegistry.completeSetup, [.stderr], .warning⟩

theorem running_starts_again_or_stays :
    (∃ h g, running.initAll (some "good.ini") = (h, .ok g) ∧ h.registry = some g ∧
      g.inSetup = false ∧ h.logTargets = [.file "shell.log"] ∧ h.logLevel = .debug) ∧
    ∃ h e, running.initAll (some "loud.ini") = (h, .error e) ∧ e.isFatal = true ∧
      h.registry = running.registry ∧ h.logTargets = [.stderr] ∧ h.logLevel = .warning := by
  constructor
  · have hplain : Plain running.files (some "good.ini") :=
      plain_of_read (by decide) rfl (by decide)
    have hstarts : (running.initAll (some "good.ini")).2.isOk = true := rfl
    have hfile : (running.initAll (some "good.ini")).1.logTargets = [.file "shell.log"] := rfl
    have hlevel : (running.initAll (some "good.ini")).1.logLevel = .debug := rfl
    rcases startup_is_whole_but_for_the_log_file running (some "good.ini") hplain with
      ⟨g, _, _, _, -, -, hok, hregistry, hsetup, -⟩ | ⟨e, he, -⟩
    · exact ⟨_, g, Prod.ext rfl hok, hregistry, hsetup, hfile, hlevel⟩
    · rw [he] at hstarts
      cases hstarts
  · have hplain : Plain running.files (some "loud.ini") :=
      plain_of_read (by decide) rfl (by decide)
    have hload : (loadConfig running.files (some "loud.ini")).isOk = false := rfl
    rcases startup_is_whole_but_for_the_log_file running (some "loud.ini") hplain with
      ⟨_, _, _, _, hok, -⟩ | ⟨e, he, hfatal, -, htargets, hlevel, hkept⟩
    · rw [hok] at hload
      cases hload
    · rcases hkept with ⟨-, hregistry⟩ | ⟨_, _, _, hok, -⟩
      · exact ⟨_, e, Prod.ext rfl he, hfatal, hregistry, htargets, hlevel⟩
      · rw [hok] at hload
        cases hload

/-- When the log file cannot be opened, the start-up fails, and the log stays as it was. But the
program has other properties by then, and these can still be set as during a set-up. -/
theorem lost_log_file_replaces_the_properties :
    let h := (running.initAll (some "lost.ini")).1
    ∃ e g k, (running.initAll (some "lost.ini")).2 = .error e ∧ e.isFatal = true ∧
      h.logTargets = running.logTargets ∧ h.logLevel = running.logLevel ∧
      running.registry = some g ∧ h.registry = some k ∧ k ≠ g ∧
      g.get "log.level" = .ok (.text "WARNING") ∧ k.get "log.level" = .ok (.text "DEBUG") ∧
      g.inSetup = false ∧ k.inSetup = true :=
  ⟨_, _, _, rfl, rfl, rfl, rfl, rfl, rfl, by decide, rfl, rfl, rfl, rfl⟩

end Environment

end StatementShell
