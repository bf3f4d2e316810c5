-- What a registry saves, and what another one makes of it. The texts that a registry holds are
-- the values of the document, one option for each property; a surrogate in one of them stops the
-- writing. Without carriage returns every option is read as itself and every value as `Ini.reread`
-- makes it. And whatever was read in place of a value is settled, so a value that is not settled
-- cannot come back.
import StatementShell.Proofs.FileReplacement
import StatementShell.Proofs.RegistryHistory
import StatementShell.Proofs.WrittenDocument

namespace StatementShell

/-! ## Traversals -/

section

variable {ε α β γ : Type}

theorem mapM_eq_ok_iff {f : α → Except ε β} {xs : List α} {ys : List β} :
    xs.mapM f = .ok ys ↔ List.Forall₂ (fun x y => f x = .ok y) xs ys := by
  induction xs generalizing ys with
  | nil => simp [pure, Except.pure, eq_comm]
  | cons x xs ih =>
    rw [List.mapM_cons, List.forall₂_cons_left_iff]
    cases hx : f x with
    | error e => simp [bind, Except.bind]
    | ok y =>
      cases hxs : xs.mapM f with
      | error e => simp [bind, Except.bind, ← ih, hxs]
      | ok zs => simp [bind, Except.bind, pure, Except.pure, ← ih, hxs, eq_comm]

theorem mapM_bind_eq_ok_iff {f : α → Except ε β} {k : β → Except ε γ} {xs : List α}
    {zs : List γ} : xs.mapM (fun x => (f x).bind k) = .ok zs ↔
      ∃ ys, xs.mapM f = .ok ys ∧ ys.mapM k = .ok zs := by
  simp only [mapM_eq_ok_iff]
  constructor
  · intro h
    induction h with
    | nil => exact ⟨[], .nil, .nil⟩
    | cons h _ ih =>
      obtain ⟨y, hy, hz⟩ := bind_eq_ok_iff.1 h
      obtain ⟨ys, hys, hzs⟩ := ih
      exact ⟨y :: ys, .cons hy hys, .cons hz hzs⟩
  · rintro ⟨ys, hys, hzs⟩
    induction hys generalizing zs with
    | nil =>
      cases hzs
      exact .nil
    | cons hy _ ih =>
      cases hzs with
      | cons hz hzs => exact .cons (bind_eq_ok_iff.2 ⟨_, hy, hz⟩) (ih hzs)

theorem mapM_congr {f k : α → Except ε β} {xs : List α} (h : ∀ x ∈ xs, f x = k x) :
    xs.mapM f = xs.mapM k := by
  induction xs with
  | nil => rfl
  | cons x xs ih =>
    rw [List.mapM_cons, List.mapM_cons, h x List.mem_cons_self,
      ih (fun y hy => h y (List.mem_cons_of_mem x hy))]

theorem mapM_of_forall {f : α → Except ε β} {r : α → β} {xs : List α}
    (h : ∀ x ∈ xs, f x = .ok (r x)) : xs.mapM f = .ok (xs.map r) :=
  mapM_eq_ok_iff.2 (List.forall₂_map_right_iff.2 (List.forall₂_same.2 h))

end

namespace Property

/-! ## Checks of texts -/

theorem Validator.Takes.unique {v : Validator} {x w u : Value} (hw : v.Takes x w)
    (hu : v.Takes x u) : w = u := by
  have hcheck : v.validate [] x = .ok w := Validator.validate_eq_ok_iff.2 hw
  rw [Validator.validate_eq_ok_iff.2 hu] at hcheck
  exact (Except.ok.inj hcheck).symm

theorem Validator.Takes.text_of_text {v : Validator} {s t : Text} {w : Value}
    (hs : v.Takes (.text s) (.text s)) (ht : v.Takes (.text t) w) : w = .text t := by
  cases hs
  all_goals
    cases ht
    rfl

/-- A value that is a text was stored as it is. -/
theorem Validator.Takes.eq_of_stored {v : Validator} {s t : Stored}
    (h : v.Takes s.value t.value) : s = t := by
  cases s <;> cases t <;> cases h <;> rfl

/-- What a check makes of a text is stored as a text. -/
theorem Validator.Takes.exists_text {v : Validator} {t : Text} {w : Value} {s : Stored}
    (h : v.Takes (.text t) w) (hs : Registry.textOf w = .ok s) : ∃ u, s = .text u := by
  cases h with
  | any => exact ⟨t, (Except.ok.inj hs).symm⟩
  | integer =>
    obtain ⟨u, -, hu⟩ := Registry.textOf_integer.1 hs
    exact ⟨u, hu⟩
  | @boolean b =>
    cases b
    all_goals exact ⟨_, (Except.ok.inj hs).symm⟩
  | string => exact ⟨t, (Except.ok.inj hs).symm⟩

/-- A text that is held is a value itself, or there is no blank in it. -/
theorem Descriptor.Holds.text_or_solid {d : Descriptor} {t : Text} (h : d.Holds t) :
    d.validator.Takes (.text t) (.text t) ∨ ∀ c ∈ t, Text.isBlank c = false := by
  obtain ⟨w, hw, ht⟩ := h
  generalize d.validator = v at hw ⊢
  cases hw with
  | any => exact .inl (.any _)
  | @integer _ _ i _ _ _ _ =>
    refine .inr ?_
    obtain ⟨u, hwrite, hu⟩ := Registry.textOf_integer.1 ht
    cases hu
    unfold Integer.write? at hwrite
    split at hwrite
    next =>
      cases hwrite
      exact Integer.write_solid i
    next => cases hwrite
  | @boolean b =>
    have hword : t.all (!Text.isBlank ·) = true := by
      cases b
      all_goals
        cases ht
        decide
    exact .inr (by simpa using hword)
  | string hallowed hlimit => exact .inl (.string hallowed hlimit)

/-- What a reader makes of a text is held as well, unless only some texts are allowed. -/
theorem Descriptor.Holds.reread {d : Descriptor} {t : Text} (h : d.Holds t)
    (hallowed : ∀ ts limit, d.validator = .string (some ts) limit → Ini.reread t ∈ ts) :
    d.Holds (Ini.reread t) := by
  rcases h.text_or_solid with htext | hsolid
  · unfold Descriptor.Holds
    generalize d.validator = v at hallowed htext ⊢
    cases htext with
    | any => exact ⟨_, .any _, rfl⟩
    | @string allowed limit _ _ hlimit =>
      have hlength := (Ini.reread_sublist t).length_le
      refine ⟨.text (Ini.reread t), .string ?_ (by omega), rfl⟩
      rintro ts rfl
      exact hallowed ts limit rfl
  · rwa [Ini.reread_of_settled (Ini.settled_of_solid hsolid)]

namespace Registry

/-! ## Values -/

/-- What is held for a property. -/
def storedAt (g : Registry) (d : Descriptor) : Stored := (g.text? d.name).getD (.text [])

/-- The text that is held for a property, if there are no surrogates in it. -/
def textAt (g : Registry) (d : Descriptor) : Text :=
  match g.storedAt d with
  | .text t => t
  | .ragged _ => []

/-- No value has surrogates in it. -/
def WellFormed (g : Registry) : Prop := ∀ name r, g.get name ≠ .ok (.ragged r)

/-- All that is held is text, which UTF-8 can write. -/
def HoldsTexts (g : Registry) : Prop := ∀ d ∈ g.descriptors, g.storedAt d = .text (g.textAt d)

def items (g : Registry) : List Ini.Item := g.descriptors.map (fun d => ⟨d.name, g.textAt d⟩)

namespace Sound

variable {g : Registry} (hg : g.Sound)

include hg

theorem holds_storedAt {d : Descriptor} (hd : d ∈ g.descriptors) : d.Holds (g.storedAt d) := by
  obtain ⟨t, ht, hholds⟩ := hg.stored d hd
  rwa [storedAt, ht]

theorem valueOf_eq_ok_iff {d : Descriptor} (hd : d ∈ g.descriptors) {w : Value} :
    g.valueOf d = .ok w ↔ d.validator.Takes (g.storedAt d).value w := by
  obtain ⟨u, hu⟩ := hg.default d hd
  obtain ⟨t, ht, -⟩ := hg.stored d hd
  rw [valueOf, hu, storedAt, ht]
  exact Validator.validate_eq_ok_iff

theorem get_eq_ok_iff {name : Text} {w : Value} :
    g.get name = .ok w ↔
      ∃ d ∈ g.descriptors, d.name = Text.fold name ∧
        d.validator.Takes (g.storedAt d).value w := by
  unfold get
  constructor
  · intro h
    split at h
    next => cases h
    next d hd =>
      obtain ⟨hmem, hname⟩ := mem_of_descriptor? (descriptor_eq_ok_iff.1 hd)
      exact ⟨d, hmem, hname, (hg.valueOf_eq_ok_iff hmem).1 h⟩
  · rintro ⟨d, hd, hname, hw⟩
    rw [descriptor_eq_ok_iff.2 (hg.descriptor?_of_mem hd hname)]
    exact (hg.valueOf_eq_ok_iff hd).2 hw

theorem get_name (hnames : ∀ n ∈ g.names, Ini.PlainName n) {d : Descriptor}
    (hd : d ∈ g.descriptors) : g.get d.name = g.valueOf d := by
  have hfold := (hnames d.name (List.mem_map_of_mem hd)).fold_eq
  rw [get, descriptor_eq_ok_iff.2 (hg.descriptor?_of_mem hd hfold.symm)]

theorem valueOf_string {d : Descriptor} (hd : d ∈ g.descriptors) {allowed : Option (List Text)}
    {limit : Int} (hv : d.validator = .string allowed limit) :
    g.valueOf d = .ok (g.storedAt d).value := by
  obtain ⟨w, hw, -⟩ := hg.holds_storedAt hd
  rw [hg.valueOf_eq_ok_iff hd]
  rw [hv] at hw ⊢
  generalize (g.storedAt d).value = x at hw ⊢
  cases hw with
  | string hallowed hlimit => exact .string hallowed hlimit
  | ragged hlimit => exact .ragged hlimit

/-- A value with surrogates in it is held as it is. -/
theorem valueOf_of_ragged {d : Descriptor} (hd : d ∈ g.descriptors) {r : Ragged}
    (hr : g.storedAt d = .ragged r) : g.valueOf d = .ok (.ragged r) := by
  obtain ⟨w, hw, -⟩ := hg.holds_storedAt hd
  rw [hg.valueOf_eq_ok_iff hd]
  rw [hr, Stored.value_ragged] at hw ⊢
  generalize d.validator = v at hw ⊢
  cases hw with
  | any => exact .any _
  | integer hi => cases hi
  | boolean hb => cases hb
  | ragged hlimit => exact .ragged hlimit

/-- All that is held is text exactly if no value has surrogates in it. -/
theorem holdsTexts_iff (hnames : ∀ n ∈ g.names, Ini.PlainName n) :
    g.HoldsTexts ↔ g.WellFormed := by
  constructor
  · intro he name r hget
    obtain ⟨d, hd, -, htakes⟩ := hg.get_eq_ok_iff.1 hget
    cases (he d hd).symm.trans (htakes.eq_of_stored (t := .ragged r))
  · intro hall d hd
    cases hs : g.storedAt d with
    | text t => rw [textAt, hs]
    | ragged r =>
      exact absurd ((hg.get_name hnames hd).trans (hg.valueOf_of_ragged hd hs)) (hall _ r)

/-- For what holds of all texts without blanks, the texts that are held and the values that are
texts come to the same. -/
theorem forall_textAt_iff {P : Text → Prop} (hnames : ∀ n ∈ g.names, Ini.PlainName n)
    (hsolid : ∀ t, (∀ c ∈ t, Text.isBlank c = false) → P t) :
    (∀ d ∈ g.descriptors, P (g.textAt d)) ↔ ∀ name v, g.get name = .ok (.text v) → P v := by
  constructor
  · intro h name v hv
    obtain ⟨d, hd, -, htakes⟩ := hg.get_eq_ok_iff.1 hv
    have hstored := htakes.eq_of_stored (t := .text v)
    have hd := h d hd
    rwa [textAt, hstored] at hd
  · intro h d hd
    cases hs : g.storedAt d with
    | ragged r =>
      rw [textAt, hs]
      exact hsolid [] (by simp)
    | text t =>
      have hholds := hg.holds_storedAt hd
      rw [hs] at hholds
      rw [textAt, hs]
      rcases hholds.text_or_solid with htext | ht
      · refine h d.name t ((hg.get_name hnames hd).trans ((hg.valueOf_eq_ok_iff hd).2 ?_))
        rwa [hs]
      · exact hsolid _ ht

theorem storedAt_eq_iff {h : Registry} (hh : h.Sound) {d : Descriptor} (hd : d ∈ g.descriptors)
    (hd' : d ∈ h.descriptors) : h.storedAt d = g.storedAt d ↔ h.valueOf d = g.valueOf d := by
  obtain ⟨w, hw, ht⟩ := hg.holds_storedAt hd
  obtain ⟨x, hx, hu⟩ := hh.holds_storedAt hd'
  rw [(hg.valueOf_eq_ok_iff hd).2 hw, (hh.valueOf_eq_ok_iff hd').2 hx]
  constructor
  · intro htext
    rw [htext] at hx
    rw [hx.unique hw]
  · intro hvalue
    rw [Except.ok.inj hvalue, ht] at hu
    exact (Except.ok.inj hu).symm

/-- Every property has a value, and an option with what is held for it. -/
theorem values_ok :
    ∃ vs, g.values = .ok vs ∧
      g.options = .ok (g.descriptors.map fun d => (d.name, g.storedAt d)) := by
  have hvalue : ∀ d ∈ g.descriptors,
      ∃ w, g.valueOf d = .ok w ∧ textOf w = .ok (g.storedAt d) := by
    intro d hd
    obtain ⟨w, hw, ht⟩ := hg.holds_storedAt hd
    exact ⟨w, (hg.valueOf_eq_ok_iff hd).2 hw, ht⟩
  have : Nonempty Value := ⟨.null⟩
  choose! value hvalueOf htextOf using hvalue
  have hvs : g.values = .ok (g.descriptors.map fun d => (d.name, value d)) :=
    mapM_of_forall (fun d hd => map_eq_ok_iff.2 ⟨_, hvalueOf d hd, rfl⟩)
  refine ⟨_, hvs, ?_⟩
  rw [options, hvs]
  dsimp only
  rw [List.mapM_map]
  exact mapM_of_forall (fun d hd => map_eq_ok_iff.2 ⟨_, htextOf d hd, rfl⟩)

end Sound

/-! ## Writing -/

/-- Options that UTF-8 can write make a whole document. -/
theorem draft_of_encode {os : List (Text × Stored)} {items : List Ini.Item}
    (h : os.mapM encode = .ok items) : draft os = ⟨.text (Ini.write sectionName items), none⟩ := by
  have hwritten : writeOptions os = (items.flatMap Ini.writeItem ++ "\n", none) := by
    rw [mapM_eq_ok_iff] at h
    induction h with
    | nil => rfl
    | cons hi _ ih =>
      rw [writeOptions, hi]
      dsimp only
      rw [ih, List.flatMap_cons, List.append_assoc]
  rw [draft, hwritten, Ini.write, List.append_assoc]

/-- The writing stops at the first option that UTF-8 cannot write. -/
theorem fault_draft_of_encode {os : List (Text × Stored)} {e : Failure}
    (h : os.mapM encode = .error e) : (draft os).fault = some e := by
  have hwritten : (writeOptions os).2 = some e := by
    induction os with
    | nil => cases h
    | cons o os ih =>
      rw [List.mapM_cons] at h
      rw [writeOptions]
      cases ho : encode o with
      | error f =>
        rw [ho] at h
        cases h
        rfl
      | ok i =>
        rw [ho] at h
        cases hos : os.mapM encode with
        | error f =>
          rw [hos] at h
          cases h
          exact ih hos
        | ok items =>
          rw [hos] at h
          cases h
  exact hwritten

theorem valueOf_eq_of_values {g h : Registry} (hsame : h.descriptors = g.descriptors)
    (hvalues : h.values = g.values) {vs : List (Text × Value)} (hg : g.values = .ok vs) :
    ∀ d ∈ g.descriptors, h.valueOf d = g.valueOf d := by
  rw [hg, values, mapM_eq_ok_iff, hsame] at hvalues
  rw [values, mapM_eq_ok_iff] at hg
  generalize g.descriptors = ds at hvalues hg
  clear hsame
  induction hg with
  | nil => simp
  | @cons d p ds ps hp _ ih =>
    rw [List.forall₂_cons] at hvalues
    intro e he
    rcases List.mem_cons.1 he with rfl | he
    · obtain ⟨v, hv, hvp⟩ := map_eq_ok_iff.1 hp
      obtain ⟨w, hw, hwp⟩ := map_eq_ok_iff.1 hvalues.1
      rw [hv, hw, (Prod.mk.inj (hwp.trans hvp.symm)).2]
    · exact ih hvalues.2 e he

theorem values_congr {g h : Registry} (hsame : h.descriptors = g.descriptors)
    (hvalue : ∀ d ∈ g.descriptors, h.valueOf d = g.valueOf d) : h.values = g.values := by
  rw [values, values, hsame]
  exact mapM_congr (fun d hd => by rw [hvalue d hd])

theorem get_congr {g h : Registry} (hsame : h.descriptors = g.descriptors) {name : Text}
    (hvalue : ∀ d ∈ g.descriptors, d.name = Text.fold name → h.valueOf d = g.valueOf d) :
    h.get name = g.get name := by
  have hfind : h.descriptor? name = g.descriptor? name := by rw [descriptor?, hsame, descriptor?]
  rw [get, descriptor, hfind, get, descriptor]
  cases hd : g.descriptor? name with
  | none => rfl
  | some d =>
    obtain ⟨hmem, hname⟩ := mem_of_descriptor? hd
    exact hvalue d hmem hname

/-! ## Saving -/

namespace Sound

variable {g : Registry} (hg : g.Sound)

include hg

/-- Texts are saved wherever a file can be replaced. -/
theorem save_of_holdsTexts (he : g.HoldsTexts) {fs : Files} {path : Text} (h : fs.Admits path) :
    ∃ after, g.save fs path = (after, .ok ()) ∧
      after.read path = .ok (.text (Ini.write sectionName g.items)) := by
  obtain ⟨written, after, hwrite, hrename, hread⟩ :=
    h.rename (.text (Ini.write sectionName g.items))
  obtain ⟨vs, -, hoptions⟩ := hg.values_ok
  have hitems : (g.descriptors.map fun d => (d.name, g.storedAt d)).mapM encode = .ok g.items := by
    rw [List.mapM_map]
    refine mapM_of_forall (fun d hd => ?_)
    rw [Function.comp_apply, he d hd]
    rfl
  refine ⟨after, ?_, hread⟩
  rw [save, saveWith, hoptions]
  dsimp only
  rw [draft_of_encode hitems, replace, hwrite]
  dsimp only
  rw [hrename]

/-- A registry with surrogates in one of its values is not saved. -/
theorem save_of_not_holdsTexts (he : ¬ g.HoldsTexts) (fs : Files) (path : Text) :
    ∃ after e, g.save fs path = (after, .error e) := by
  obtain ⟨vs, -, hoptions⟩ := hg.values_ok
  have hitems : ∃ e,
      (g.descriptors.map fun d => (d.name, g.storedAt d)).mapM encode = .error e := by
    cases hm : (g.descriptors.map fun d => (d.name, g.storedAt d)).mapM encode with
    | error e => exact ⟨e, rfl⟩
    | ok items =>
      refine absurd ?_ he
      intro d hd
      rw [mapM_eq_ok_iff, List.forall₂_map_left_iff] at hm
      obtain ⟨i, -, hi⟩ := exists_mem_of_forall₂ hm.flip hd
      cases hs : g.storedAt d with
      | text t => rw [textAt, hs]
      | ragged r => simp [encode, hs] at hi
  obtain ⟨e, he⟩ := hitems
  rw [save, saveWith, hoptions]
  dsimp only
  rw [replace, fault_draft_of_encode he]
  split
  next f _ => exact ⟨_, _, rfl⟩
  next written _ => exact ⟨_, _, rfl⟩

end Sound

/-! ## Loading -/

/-- A registry in its set-up, with the properties of the one whose file it is to load. -/
structure Receives (k g : Registry) : Prop where
  saved : g.Sound
  sound : k.Sound
  inSetup : k.inSetup = true
  same : k.descriptors = g.descriptors
  plain : ∀ n ∈ g.names, Ini.PlainName n

theorem load_eq_ok_iff {k h : Registry} {fs : Files} {path t : Text}
    (hread : fs.read path = .ok (.text t)) :
    k.load fs path = .ok h ↔
      ∃ doc, Ini.read path (Text.unifyLineEnds t) = .ok doc ∧ k.loadDocument doc = .ok h := by
  rw [load, hread]
  dsimp only [Body.readLenient]
  cases Ini.read path (Text.unifyLineEnds t) with
  | error e => simp
  | ok doc => simp

theorem loadDocument_eq_ok_iff {k h : Registry} {doc : Ini.Document} {items : List Ini.Item}
    (hsection : doc.section? sectionName = some items) :
    k.loadDocument doc = .ok h ↔ ∃ ps, k.acceptAll items = .ok ps ∧ k.storeAll ps = .ok h := by
  rw [loadDocument, hsection]
  dsimp only
  cases k.acceptAll items with
  | error e => simp
  | ok ps => simp

theorem descriptors_of_load {k h : Registry} {fs : Files} {path : Text}
    (hload : k.load fs path = .ok h) : h.descriptors = k.descriptors := by
  obtain ⟨ps, -, hstore⟩ := load_items hload
  exact (storeAll_frame hstore).1

namespace Receives

variable {g k : Registry} (hk : k.Receives g)

include hk

theorem plain_items : ∀ i ∈ g.items, Ini.PlainName i.name := by
  intro i hi
  obtain ⟨d, hd, rfl⟩ := List.mem_map.1 hi
  exact hk.plain d.name (List.mem_map_of_mem hd)

theorem nodup_items : (g.items.map (·.name)).Nodup := by
  have hmap : g.items.map (·.name) = g.descriptors.map (·.name) := by simp [items]
  rw [hmap]
  exact hk.saved.ordered.nodup

theorem accept_eq_ok_iff {d : Descriptor} (hd : d ∈ g.descriptors) {x w : Value}
    {e : Descriptor} : k.accept d.name x = .ok (e, w) ↔ e = d ∧ d.validator.Takes x w := by
  have hfold := (hk.plain d.name (List.mem_map_of_mem hd)).fold_eq
  rw [Registry.accept_eq_ok_iff, hk.sound.descriptor?_of_mem (hk.same ▸ hd) hfold.symm]
  simp only [Option.some.injEq, hk.inSetup, implies_true, true_and]
  constructor
  · rintro ⟨rfl, h⟩
    exact ⟨rfl, h⟩
  · rintro ⟨rfl, h⟩
    exact ⟨rfl, h⟩

/-- Without carriage returns, and where every text is still held after it was read again, the
whole file is taken over. -/
theorem load_of_holds {fs : Files} {path : Text}
    (hread : fs.read path = .ok (.text (Ini.write sectionName g.items)))
    (hreturn : ∀ d ∈ g.descriptors, '\r' ∉ g.textAt d)
    (hholds : ∀ d ∈ g.descriptors, d.Holds (Ini.reread (g.textAt d))) :
    ∃ h, k.load fs path = .ok h ∧ h.Sound ∧ h.descriptors = g.descriptors ∧
      ∀ d ∈ g.descriptors, h.storedAt d = .text (Ini.reread (g.textAt d)) := by
  have hfront : '\r' ∉ Ini.front sectionName g.items := by
    refine Ini.return_notMem_front (by decide) ?_
    intro i hi
    refine ⟨hk.plain_items i hi, ?_⟩
    obtain ⟨d, hd, rfl⟩ := List.mem_map.1 hi
    exact hreturn d hd
  have hlines : Text.unifyLineEnds (Ini.write sectionName g.items) =
      Ini.write sectionName g.items := by
    refine Text.unifyLineEnds_of_notMem ?_
    rw [Ini.write_eq]
    simpa using hfront
  have hdoc : Ini.read path (Ini.write sectionName g.items) = _ :=
    Ini.read_write (by decide) (by decide) hk.plain_items hk.nodup_items path
  have hsection : (Ini.Document.mk [sectionName] (g.items.map fun i =>
      (sectionName, ⟨i.name, Ini.reread i.value⟩))).section? sectionName =
        some (g.descriptors.map fun d => ⟨d.name, Ini.reread (g.textAt d)⟩) := by
    simpa [items, Function.comp_def] using
      Ini.section?_own (by decide : sectionName ≠ Ini.commonSection)
        (g.descriptors.map fun d => ⟨d.name, Ini.reread (g.textAt d)⟩)
  -- every option is accepted, and what is stored for it is the text that was read
  have : Nonempty Value := ⟨.null⟩
  have hchoice := hholds
  choose! value htakes htextOf using hchoice
  have haccept : k.acceptAll (g.descriptors.map fun d => ⟨d.name, Ini.reread (g.textAt d)⟩) =
      .ok (g.descriptors.map fun d => (d, value d)) :=
    acceptAll_eq_ok_iff.2 (List.forall₂_map_left_iff.2 (List.forall₂_map_right_iff.2
      (List.forall₂_same.2 fun d hd => (hk.accept_eq_ok_iff hd).2 ⟨rfl, htakes d hd⟩)))
  obtain ⟨h, hstore⟩ := storeAll_of_acceptAll haccept k
  have hsame : h.descriptors = g.descriptors := (storeAll_frame hstore).1.trans hk.same
  have htext : ∀ d ∈ g.descriptors,
      h.text? d.name = some (.text (Ini.reread (g.textAt d))) := by
    intro d hd
    obtain ⟨p, hp, hname, t, ht, hstored⟩ :=
      text?_storeAll hstore ⟨(d, value d), List.mem_map_of_mem hd, rfl⟩
    obtain ⟨e, he, rfl⟩ := List.mem_map.1 hp
    obtain rfl := hk.saved.ordered.eq_of_name he hd hname
    rw [htextOf e he] at ht
    cases ht
    exact hstored
  refine ⟨h, (load_eq_ok_iff hread).2 ⟨_, by rw [hlines, hdoc], ?_⟩, ⟨?_, ?_, ?_⟩, hsame, ?_⟩
  · exact (loadDocument_eq_ok_iff hsection).2 ⟨_, haccept, hstore⟩
  · exact hsame ▸ hk.saved.ordered
  · exact hsame ▸ hk.saved.default
  · rw [hsame]
    exact fun d hd => ⟨_, htext d hd, hholds d hd⟩
  · intro d hd
    rw [storedAt, htext d hd]
    rfl

/-- What is read as the value of a property in place of one that is a text is settled. -/
theorem settled_of_load {fs : Files} {path : Text} {h : Registry} {done rest : List Descriptor}
    {d : Descriptor} (hread : fs.read path = .ok (.text (Ini.write sectionName g.items)))
    (hload : k.load fs path = .ok h) (hcut : g.descriptors = done ++ d :: rest)
    (hdone : ∀ e ∈ done, Ini.Settled (g.textAt e))
    (htext : d.validator.Takes (.text (g.textAt d)) (.text (g.textAt d))) :
    ∃ t, h.valueOf d = .ok (.text t) ∧ Ini.Settled t := by
  obtain ⟨doc, hdoc, hloaded⟩ := (load_eq_ok_iff hread).1 hload
  have hd : d ∈ g.descriptors := by simp [hcut]
  have hitems : g.items = done.map (fun e => ⟨e.name, g.textAt e⟩) ++ ⟨d.name, g.textAt d⟩ ::
      rest.map (fun e => ⟨e.name, g.textAt e⟩) := by simp [items, hcut]
  have hplain := hk.plain_items
  have hnodup := hk.nodup_items
  have hsettled := Ini.settled_of_read (Text.carriage_notMem_unifyLineEnds _) hdoc
  rw [hitems] at hdoc hplain hnodup
  -- the name stands in the section, with this value or another one
  obtain ⟨hheading, v, hv⟩ := Ini.named_of_read_write (by decide) (by decide) (by decide) hplain
    hnodup (by simpa using fun e he => (hdone e he).noReturn) hdoc
  obtain ⟨own, hsection, hown, hnamed⟩ := Ini.section?_of_mem hheading
  obtain ⟨ps, haccept, hstore⟩ := (loadDocument_eq_ok_iff hsection).1 hloaded
  have hstored : ∃ p ∈ ps, p.1.name = d.name := by
    obtain ⟨j, hj, hname⟩ := hnamed _ hv
    obtain ⟨⟨e, w⟩, hp, hej⟩ := exists_mem_of_accept haccept hj
    rw [hname] at hej
    exact ⟨(e, w), hp, by rw [((hk.accept_eq_ok_iff hd).1 hej).1]⟩
  -- so what is held under it now comes from the document, where all values are settled
  obtain ⟨⟨e, w⟩, hp, hname, t, ht, hheld⟩ := text?_storeAll hstore hstored
  obtain ⟨i, hi, hei⟩ := exists_accept_of_mem haccept hp
  obtain ⟨he, -, htakes⟩ := Registry.accept_eq_ok_iff.1 hei
  have hmem := (mem_of_descriptor? he).1
  rw [hk.same] at hmem
  obtain rfl := hk.saved.ordered.eq_of_name hmem hd hname
  obtain rfl := htext.text_of_text htakes
  cases ht
  obtain ⟨name, hdocitem⟩ := hown i hi
  refine ⟨i.value, ?_, hsettled _ hdocitem⟩
  obtain ⟨u, hu⟩ := hk.saved.default e hd
  rw [valueOf, hu, hheld]
  exact Validator.validate_eq_ok_iff.2 htakes

/-- A file gives back the values that were saved exactly if there is nothing in any of them that
a reader changes. -/
theorem load_values_iff (he : g.HoldsTexts) {fs : Files} {path : Text} {vs : List (Text × Value)}
    (hread : fs.read path = .ok (.text (Ini.write sectionName g.items)))
    (hvalues : g.values = .ok vs) :
    (∃ h, k.load fs path = .ok h ∧ h.values = .ok vs) ↔
      ∀ d ∈ g.descriptors, Ini.Settled (g.textAt d) := by
  constructor
  · rintro ⟨h, hload, hback⟩
    have hsame : h.descriptors = g.descriptors := (descriptors_of_load hload).trans hk.same
    have hvalue := valueOf_eq_of_values hsame (hback.trans hvalues.symm) hvalues
    -- from the first property on: what stands before a property is settled already
    have hall (done rest : List Descriptor) (hcut : g.descriptors = done ++ rest)
        (hdone : ∀ e ∈ done, Ini.Settled (g.textAt e)) :
        ∀ e ∈ rest, Ini.Settled (g.textAt e) := by
      induction rest generalizing done with
      | nil => simp
      | cons d rest ih =>
        have hd : d ∈ g.descriptors := by simp [hcut]
        have hsettled : Ini.Settled (g.textAt d) := by
          have hstored := he d hd
          have hholds := hk.saved.holds_storedAt hd
          rw [hstored] at hholds
          rcases hholds.text_or_solid with htext | hsolid
          · obtain ⟨t, ht, hsettled⟩ := hk.settled_of_load hread hload hcut hdone htext
            rw [← Stored.value_text, ← hstored, ← hk.saved.valueOf_eq_ok_iff hd] at htext
            rw [hvalue d hd, htext, hstored] at ht
            cases ht
            exact hsettled
          · exact Ini.settled_of_solid hsolid
        intro e hmem
        rcases List.mem_cons.1 hmem with rfl | hmem
        · exact hsettled
        · refine ih (done ++ [d]) (by simp [hcut]) ?_ e hmem
          simpa [or_imp, forall_and] using ⟨hdone, hsettled⟩
    exact hall [] g.descriptors rfl (by simp)
  · intro hsettled
    have hreread : ∀ d ∈ g.descriptors, Ini.reread (g.textAt d) = g.textAt d :=
      fun d hd => Ini.reread_of_settled (hsettled d hd)
    obtain ⟨h, hload, hsound, hsame, htext⟩ := hk.load_of_holds hread
      (fun d hd => (hsettled d hd).noReturn)
      (fun d hd => by
        rw [hreread d hd, ← he d hd]
        exact hk.saved.holds_storedAt hd)
    refine ⟨h, hload, ?_⟩
    rw [values_congr hsame, hvalues]
    intro d hd
    refine (hk.saved.storedAt_eq_iff hsound hd (hsame ▸ hd)).1 ?_
    rw [htext d hd, hreread d hd, ← he d hd]

end Receives

end Registry

end Property

end StatementShell
