-- A file of properties against single writes. A load makes all its checks before its first write, a
-- row of single writes checks before each one. It comes to the same, since no check looks at what
-- is stored, and to less than the same where a value is refused: nothing is written then.
import StatementShell.Proofs.RegistryHistory

namespace StatementShell.Property.Registry

/-! ## The pure model -/

/-- The options are set one after the other, up to the first that fails. What was set before it
stays set. -/
def setEach (g : Registry) : List Ini.Item → Registry × Except Failure Unit
  | [] => (g, .ok ())
  | i :: is =>
    match g.set i.name (.text i.value) with
    | .error e => (g, .error e)
    | .ok (h, _) => h.setEach is

/-- The checked values are stored one after the other, up to the first that has no text. What was
stored before it stays stored. -/
def storeEach (g : Registry) : List (Descriptor × Value) → Registry × Except Failure Unit
  | [] => (g, .ok ())
  | (d, v) :: r =>
    match textOf v with
    | .error e => (g, .error e)
    | .ok t => (g.store d.name t).storeEach r

/-- A load step by step: the registry as every step leaves it, also the one that fails. -/
def loading (g : Registry) (fs : Files) (path : Text) : Registry × Except Failure Unit :=
  match fs.read path with
  | .error e => (g, .error (.file e))
  | .ok b =>
    match Ini.read path b.readLenient with
    | .error e => (g, .error (.ini e))
    | .ok d =>
      match d.section? sectionName with
      | none => (g, .ok ())
      | some items =>
        match g.acceptAll items with
        | .error e => (g, .error e)
        | .ok ps => g.storeEach ps

/-- The file at a path is read, and has a section with these options for properties. -/
def Gives (fs : Files) (path : Text) (items : List Ini.Item) : Prop :=
  ∃ b d, fs.read path = .ok b ∧ Ini.read path b.readLenient = .ok d ∧
    d.section? sectionName = some items

/-! ## Checks and writes -/

/-- A check looks at the property alone, and not at what is stored. -/
theorem accept_store (g : Registry) (key : Text) (t : Stored) (name : Text) (v : Value) :
    (g.store key t).accept name v = g.accept name v := rfl

/-- A text that is accepted is stored. -/
theorem set_of_accept {g : Registry} {name t : Text} {d : Descriptor} {w : Value}
    (ha : g.accept name (.text t) = .ok (d, w)) :
    ∃ u, textOf w = .ok u ∧ g.set name (.text t) = .ok (g.store d.name u, w) := by
  obtain ⟨u, hu⟩ := textOf_of_takes_stored (s := .text t) (accept_eq_ok_iff.1 ha).2.2
  exact ⟨u, hu, set_eq_ok_iff.2 ⟨d, u, ha, hu, rfl⟩⟩

theorem exists_set_iff {g : Registry} {name t : Text} :
    (∃ r, g.set name (.text t) = .ok r) ↔ ∃ p, g.accept name (.text t) = .ok p := by
  constructor
  · rintro ⟨⟨h, w⟩, hset⟩
    obtain ⟨d, _, ha, -⟩ := set_eq_ok_iff.1 hset
    exact ⟨(d, w), ha⟩
  · rintro ⟨⟨d, w⟩, ha⟩
    obtain ⟨u, -, hset⟩ := set_of_accept ha
    exact ⟨_, hset⟩

/-- A text is refused by its check or not at all. -/
theorem set_eq_error_iff {g : Registry} {name t : Text} {e : Failure} :
    g.set name (.text t) = .error e ↔ g.accept name (.text t) = .error e := by
  cases ha : g.accept name (.text t) with
  | error f => simp [set, ha]
  | ok p =>
    obtain ⟨u, -, hset⟩ := set_of_accept ha
    simp [hset]

/-! ## Many options -/

theorem exists_acceptAll {g : Registry} {items : List Ini.Item}
    (h : ∀ i ∈ items, ∃ p, g.accept i.name (.text i.value) = .ok p) :
    ∃ ps, g.acceptAll items = .ok ps := by
  induction items with
  | nil => exact ⟨[], rfl⟩
  | cons i is ih =>
    obtain ⟨p, hp⟩ := h i List.mem_cons_self
    obtain ⟨ps, hps⟩ := ih (fun j hj => h j (List.mem_cons_of_mem i hj))
    refine ⟨p :: ps, ?_⟩
    rw [acceptAll, hp]
    dsimp only
    rw [hps]
    rfl

/-- Of several options the first one that is refused says why. -/
theorem acceptAll_of_refused {g : Registry} {before after : List Ini.Item} {i : Ini.Item}
    {e : Failure} (hbefore : ∀ j ∈ before, ∃ p, g.accept j.name (.text j.value) = .ok p)
    (hi : g.accept i.name (.text i.value) = .error e) :
    g.acceptAll (before ++ i :: after) = .error e := by
  induction before with
  | nil => rw [List.nil_append, acceptAll, hi]
  | cons j js ih =>
    obtain ⟨p, hp⟩ := hbefore j List.mem_cons_self
    rw [List.cons_append, acceptAll, hp]
    dsimp only
    rw [ih (fun k hk => hbefore k (List.mem_cons_of_mem j hk))]
    rfl

theorem exists_refused {g : Registry} {items : List Ini.Item} {e : Failure}
    (h : g.acceptAll items = .error e) :
    ∃ before i after, items = before ++ i :: after ∧
      (∀ j ∈ before, ∃ p, g.accept j.name (.text j.value) = .ok p) ∧
        g.accept i.name (.text i.value) = .error e := by
  induction items with
  | nil => cases h
  | cons i is ih =>
    rw [acceptAll] at h
    cases hi : g.accept i.name (.text i.value) with
    | error f =>
      rw [hi] at h
      cases h
      exact ⟨[], i, is, rfl, by simp, hi⟩
    | ok p =>
      rw [hi] at h
      obtain ⟨before, j, after, rfl, hbefore, hj⟩ := ih (map_eq_error h)
      exact ⟨i :: before, j, after, rfl, List.forall_mem_cons.2 ⟨⟨p, hi⟩, hbefore⟩, hj⟩

/-- Options that are all accepted are set in a row as their values are stored in a row. What was
stored on the way, `k` in place of `g`, plays no part in the checks. -/
theorem setEach_of_acceptAll {g : Registry} {items : List Ini.Item}
    {ps : List (Descriptor × Value)} (ha : g.acceptAll items = .ok ps) {k : Registry}
    (hk : ∀ name v, k.accept name v = g.accept name v) : k.setEach items = k.storeEach ps := by
  have hall := acceptAll_eq_ok_iff.1 ha
  clear ha
  induction hall generalizing k with
  | nil => rfl
  | @cons i p _ _ hp _ ih =>
    obtain ⟨d, w⟩ := p
    obtain ⟨u, hu, hset⟩ := set_of_accept ((hk _ _).trans hp)
    rw [setEach, hset, storeEach, hu]
    exact ih (fun name v => (accept_store k d.name u name v).trans (hk name v))

theorem storeEach_of_storeAll {g h : Registry} {ps : List (Descriptor × Value)}
    (hs : g.storeAll ps = .ok h) : g.storeEach ps = (h, .ok ()) := by
  induction ps generalizing g with
  | nil =>
    cases hs
    rfl
  | cons p ps ih =>
    obtain ⟨d, v⟩ := p
    rw [storeAll] at hs
    rw [storeEach]
    cases ht : textOf v with
    | error e => simp [ht] at hs
    | ok t =>
      rw [ht] at hs
      exact ih hs

/-! ## The load -/

theorem load_of_gives {g : Registry} {fs : Files} {path : Text} {items : List Ini.Item}
    (hf : Gives fs path items) :
    (∀ e, g.acceptAll items = .error e → g.load fs path = .error e) ∧
      ∀ ps, g.acceptAll items = .ok ps → g.load fs path = g.storeAll ps := by
  obtain ⟨b, d, hb, hd, hitems⟩ := hf
  have hload : g.load fs path = g.loadDocument d := by
    rw [load, hb]
    dsimp only
    rw [hd]
  constructor
  · intro e he
    rw [hload, loadDocument, hitems]
    dsimp only
    rw [he]
  · intro ps hps
    rw [hload, loadDocument, hitems]
    dsimp only
    rw [hps]

/-- Step by step a load does what it does at once: no step fails after the first write. -/
theorem loading_eq (g : Registry) (fs : Files) (path : Text) :
    g.loading fs path = ((g.load fs path).toOption.getD g, (g.load fs path).map (fun _ => ())) := by
  unfold loading load
  cases fs.read path with
  | error e => rfl
  | ok b =>
    dsimp only
    cases Ini.read path b.readLenient with
    | error e => rfl
    | ok d =>
      dsimp only
      unfold loadDocument
      cases d.section? sectionName with
      | none => rfl
      | some items =>
        dsimp only
        cases ha : g.acceptAll items with
        | error e => rfl
        | ok ps =>
          obtain ⟨h, hs⟩ := storeAll_of_acceptAll ha g
          dsimp only
          rw [hs, storeEach_of_storeAll hs]
          rfl

theorem exists_load {g : Registry} {fs : Files} {path : Text} {items : List Ini.Item}
    (hf : Gives fs path items) (hall : ∀ i ∈ items, ∃ r, g.set i.name (.text i.value) = .ok r) :
    ∃ h, g.setEach items = (h, .ok ()) ∧ g.load fs path = .ok h := by
  obtain ⟨ps, hps⟩ := exists_acceptAll (fun i hi => exists_set_iff.1 (hall i hi))
  obtain ⟨h, hs⟩ := storeAll_of_acceptAll hps g
  refine ⟨h, ?_, ((load_of_gives hf).2 ps hps).trans hs⟩
  rw [setEach_of_acceptAll hps (fun _ _ => rfl), storeEach_of_storeAll hs]

theorem load_eq_error_iff {g : Registry} {fs : Files} {path : Text} {items : List Ini.Item}
    (hf : Gives fs path items) {e : Failure} :
    g.load fs path = .error e ↔ ∃ before i after, items = before ++ i :: after ∧
      (∀ j ∈ before, ∃ r, g.set j.name (.text j.value) = .ok r) ∧
        g.set i.name (.text i.value) = .error e := by
  obtain ⟨hrefused, haccepted⟩ := load_of_gives (g := g) hf
  simp only [exists_set_iff, set_eq_error_iff]
  constructor
  · intro he
    cases ha : g.acceptAll items with
    | error f =>
      rw [hrefused f ha] at he
      cases he
      exact exists_refused ha
    | ok ps =>
      obtain ⟨h, hs⟩ := storeAll_of_acceptAll ha g
      rw [haccepted ps ha, hs] at he
      cases he
  · rintro ⟨before, i, after, rfl, hbefore, hi⟩
    exact hrefused e (acceptAll_of_refused hbefore hi)

/-- A file is set as a whole. If each of its options could be set now, the registry is the one that
setting them in order leaves; otherwise the load fails as the first one that cannot be set fails. A
file that is not read fails as well, and no load that fails has changed anything, whatever it had
done until then. -/
theorem loads_set_all_options_or_none (g : Registry) (fs : Files) (path : Text) :
    (∀ items, Gives fs path items →
      ((∀ i ∈ items, ∃ r, g.set i.name (.text i.value) = .ok r) →
        ∃ h, g.setEach items = (h, .ok ()) ∧ g.load fs path = .ok h) ∧
      ∀ e, g.load fs path = .error e ↔ ∃ before i after, items = before ++ i :: after ∧
        (∀ j ∈ before, ∃ r, g.set j.name (.text j.value) = .ok r) ∧
          g.set i.name (.text i.value) = .error e) ∧
    (∀ e, fs.read path = .error e → g.load fs path = .error (.file e)) ∧
    (∀ b e, fs.read path = .ok b → Ini.read path b.readLenient = .error e →
      g.load fs path = .error (.ini e)) ∧
    (∀ h, g.load fs path = .ok h → g.loading fs path = (h, .ok ())) ∧
    ∀ e, g.load fs path = .error e → g.loading fs path = (g, .error e) := by
  refine ⟨?_, ?_, ?_, ?_, ?_⟩
  · exact fun items hf => ⟨exists_load hf, fun e => load_eq_error_iff hf⟩
  · intro e he
    rw [load, he]
  · intro b e hb he
    rw [load, hb]
    dsimp only
    rw [he]
  · intro h hload
    rw [loading_eq, hload]
    rfl
  · intro e hload
    rw [loading_eq, hload]
    rfl

def sizes : Registry := fresh [
  ⟨"Size", .integer 0 500, .integer 80, false⟩,
  ⟨"depth", .integer 0 9, .integer 3, false⟩]

/-- A file that is taken over, and one whose second option is out of bounds. -/
def sizeFiles : Files := ⟨[
  (["good.ini".toList], .file (.text "[DEFAULT]\nDEPTH = 7\n[qshell]\nSize: 1_00\n")),
  (["bad.ini".toList], .file (.text "[qshell]\nsize = 100\ndepth = 10\nname = x\n"))]⟩

theorem sizes_are_set_or_stay :
    (∃ h, sizes.setEach [⟨"depth", "7"⟩, ⟨"size", "1_00"⟩] = (h, .ok ()) ∧
      sizes.load sizeFiles "good.ini" = .ok h ∧ sizes.loading sizeFiles "good.ini" = (h, .ok ()) ∧
      h.get "SIZE" = .ok (.integer 100) ∧ h.get "depth" = .ok (.integer 7)) ∧
    sizes.loading sizeFiles "bad.ini" = (sizes, .error (.property (.outOfRange "depth" 0 9))) ∧
    sizes.loading sizeFiles "none.ini" =
      (sizes, .error (.file (.refused .missing "none.ini" none))) := by
  have hgood : Gives sizeFiles "good.ini" [⟨"depth", "7"⟩, ⟨"size", "1_00"⟩] :=
    ⟨_, _, rfl, rfl, rfl⟩
  have hbad : Gives sizeFiles "bad.ini" [⟨"size", "100"⟩, ⟨"depth", "10"⟩, ⟨"name", "x"⟩] :=
    ⟨_, _, rfl, rfl, rfl⟩
  obtain ⟨hitems, -, -, hloaded, -⟩ := loads_set_all_options_or_none sizes sizeFiles "good.ini"
  obtain ⟨hitems', -, -, -, hkept⟩ := loads_set_all_options_or_none sizes sizeFiles "bad.ini"
  obtain ⟨-, hmissing, -, -, hkept'⟩ := loads_set_all_options_or_none sizes sizeFiles "none.ini"
  refine ⟨?_, hkept _ (((hitems' _ hbad).2 _).2 ?_), hkept' _ (hmissing _ rfl)⟩
  · obtain ⟨h, hset, hload⟩ := (hitems _ hgood).1 (by
      intro i hi
      rcases List.mem_pair.1 hi with rfl | rfl
      · exact ⟨_, rfl⟩
      · exact ⟨_, rfl⟩)
    refine ⟨h, hset, hload, hloaded h hload, ?_⟩
    cases hset
    exact ⟨rfl, rfl⟩
  · refine ⟨[⟨"size", "100"⟩], ⟨"depth", "10"⟩, [⟨"name", "x"⟩], rfl, ?_, rfl⟩
    intro j hj
    rw [List.mem_singleton.1 hj]
    exact ⟨_, rfl⟩

end StatementShell.Property.Registry
