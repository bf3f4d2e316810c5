-- Registries as programs make them: properties are added, then set. Such a registry holds a
-- text for every property, and the text passes the check of the property and is the text of
-- the value that the check gives. What the registry knows of its properties besides comes from
-- the additions alone.
import Mathlib.Data.List.Nodup
import Mathlib.Data.String.Basic
import StatementShell.Proofs.PropertyWrites
import StatementShell.Proofs.SettledText

namespace StatementShell.Property

/-! ## The pure model -/

/-- A property as it is added. -/
structure Addition where
  name : Text
  validator : Validator
  initial : Value
  readonly : Bool

/-- The property that an addition enters, with the value that it begins with. -/
def Addition.descriptor (a : Addition) (w : Value) : Descriptor :=
  ⟨Text.fold a.name, a.validator, w, a.readonly⟩

/-- A text that passes the check of a property, and that is the text of what the check gives.
It may have surrogates in it. -/
def Descriptor.Holds (d : Descriptor) (t : Stored) : Prop :=
  ∃ w, d.validator.Takes t.value w ∧ Registry.textOf w = .ok t

namespace Registry

def adding (g : Registry) (a : Addition) : Registry × Except Failure Unit :=
  g.add a.name a.validator a.initial a.readonly

/-- The registry with the property of an addition, without a text for it. -/
def enter (g : Registry) (a : Addition) (w : Value) : Registry :=
  { g with descriptors := place (a.descriptor w) g.descriptors }

/-- A registry to which some properties were added and nothing else was done. -/
def fresh (as : List Addition) : Registry := as.foldl (fun g a => (g.adding a).1) empty

/-- A registry to which some properties were added, each of them with success, and in which
values were set, before or after its set-up was complete. -/
inductive Built : List Addition → Registry → Prop
  | empty : Built [] Registry.empty
  | add {as : List Addition} {g h : Registry} {a : Addition} :
      Built as g → g.adding a = (h, .ok ()) → Built (as ++ [a]) h
  | set {as : List Addition} {g h : Registry} {name : Text} {v w : Value} :
      Built as g → g.set name v = .ok (h, w) → Built as h
  | completeSetup {as : List Addition} {g : Registry} : Built as g → Built as g.completeSetup

def Ordered (ds : List Descriptor) : Prop := ds.Pairwise (fun d e => before d.name e.name = true)

/-- What holds of every registry that was built. -/
structure Sound (g : Registry) : Prop where
  ordered : Ordered g.descriptors
  default : ∀ d ∈ g.descriptors, ∃ t, textOf d.default = .ok t
  stored : ∀ d ∈ g.descriptors, ∃ t, g.text? d.name = some t ∧ d.Holds t

/-! ## The order of names -/

theorem before_iff_lt (s t : Text) : before s t = true ↔ s < t := by
  induction s generalizing t with
  | nil => cases t <;> simp [before]
  | cons c r ih =>
    cases t with
    | nil => simp [before]
    | cons d u =>
      rw [List.cons_lt_cons_iff, before]
      by_cases h : c = d
      · subst h
        simp [ih]
      · simp [h, Char.lt_def, UInt32.lt_iff_toNat_lt]

theorem self_mem_place (d : Descriptor) (ds : List Descriptor) : d ∈ place d ds := by
  fun_induction place d ds with
  | case1 => simp
  | case2 => simp
  | case3 => simp
  | case4 x r _ _ ih => exact List.mem_cons_of_mem x ih

theorem mem_place {d e : Descriptor} {ds : List Descriptor} (h : e ∈ place d ds) :
    e = d ∨ e ∈ ds := by
  fun_induction place d ds with
  | case1 => exact .inl (List.mem_singleton.1 h)
  | case2 x r _ => exact (List.mem_cons.1 h).imp_right (List.mem_cons_of_mem x)
  | case3 x r _ _ => exact List.mem_cons.1 h
  | case4 x r _ _ ih =>
    rcases List.mem_cons.1 h with rfl | h
    · exact .inr List.mem_cons_self
    · exact (ih h).imp_right (List.mem_cons_of_mem x)

theorem ordered_place (d : Descriptor) {ds : List Descriptor} (h : Ordered ds) :
    Ordered (place d ds) := by
  unfold Ordered at h ⊢
  fun_induction place d ds with
  | case1 => simp
  | case2 x r hname =>
    rw [List.pairwise_cons] at h ⊢
    exact ⟨fun e he => hname ▸ h.1 e he, h.2⟩
  | case3 x r _ hbefore =>
    refine List.pairwise_cons.2 ⟨?_, h⟩
    intro e he
    rcases List.mem_cons.1 he with rfl | he
    · exact hbefore
    · have hx := (List.pairwise_cons.1 h).1 e he
      rw [before_iff_lt] at hbefore hx ⊢
      exact lt_trans hbefore hx
  | case4 x r hname hnot ih =>
    obtain ⟨hx, hr⟩ := List.pairwise_cons.1 h
    refine List.pairwise_cons.2 ⟨?_, ih hr⟩
    intro e he
    rcases mem_place he with rfl | he
    · rw [before_iff_lt] at hnot ⊢
      exact lt_of_le_of_ne (not_lt.1 hnot) hname
    · exact hx e he

theorem Ordered.nodup {ds : List Descriptor} (h : Ordered ds) : (ds.map (·.name)).Nodup := by
  refine List.Pairwise.map _ ?_ h
  intro d e hde hname
  rw [hname, before_iff_lt] at hde
  exact lt_irrefl _ hde

theorem Ordered.eq_of_name {ds : List Descriptor} (h : Ordered ds) {d e : Descriptor}
    (hd : d ∈ ds) (he : e ∈ ds) (hname : d.name = e.name) : d = e :=
  List.inj_on_of_nodup_map h.nodup hd he hname

theorem Sound.descriptor?_of_mem {g : Registry} (hg : g.Sound) {d : Descriptor}
    (hd : d ∈ g.descriptors) {name : Text} (hname : d.name = Text.fold name) :
    g.descriptor? name = some d := by
  cases hfind : g.descriptor? name with
  | none =>
    have := List.find?_eq_none.1 hfind d hd
    simp [hname] at this
  | some e =>
    obtain ⟨he, hen⟩ := mem_of_descriptor? hfind
    rw [hg.ordered.eq_of_name hd he (hname.trans hen.symm)]

/-! ## What is stored -/

/-- The text of a value leads back to the value, unless all values are taken as they are. -/
theorem takes_stored {v : Validator} {x w : Value} {t : Stored} (h : v.Takes x w)
    (ht : textOf w = .ok t) (hv : v ≠ .any) : v.Takes t.value w := by
  cases h with
  | any => exact absurd rfl hv
  | integer _ hlow hhigh =>
    obtain ⟨u, hu, rfl⟩ := textOf_integer.1 ht
    have hread := Integer.read_of_write? hu
    exact .integer (by rw [Stored.value_text, Validator.wholeNumber?, hread]) hlow hhigh
  | @boolean b =>
    refine .boolean ?_
    cases b <;> cases ht <;> rfl
  | string hallowed hlimit =>
    cases ht
    exact .string hallowed hlimit
  | ragged hlimit =>
    cases ht
    exact .ragged hlimit

/-- The text of a value that passed a check passes it as well. -/
theorem holds_of_takes {d : Descriptor} {x w : Value} {t : Stored}
    (hx : d.validator.Takes x w) (ht : textOf w = .ok t) : d.Holds t := by
  by_cases hv : d.validator = .any
  · exact ⟨t.value, hv ▸ .any t.value, textOf_value t⟩
  · exact ⟨w, takes_stored hx ht hv, ht⟩

@[simp] theorem descriptors_enter (g : Registry) (a : Addition) (w : Value) :
    (g.enter a w).descriptors = place (a.descriptor w) g.descriptors := rfl

theorem adding_eq_ok_iff {g h : Registry} {a : Addition} :
    g.adding a = (h, .ok ()) ↔
      ∃ w t, a.validator.Takes a.initial w ∧ textOf w = .ok t ∧
        h = (g.enter a w).store (Text.fold a.name) t := by
  unfold adding add
  constructor
  · intro hadd
    dsimp only at hadd
    split at hadd
    next => cases hadd
    next w hw =>
      split at hadd
      next => cases hadd
      next t ht =>
        cases hadd
        exact ⟨w, t, Validator.validate_eq_ok_iff.1 hw, ht, rfl⟩
  · rintro ⟨w, t, hw, ht, rfl⟩
    dsimp only
    rw [Validator.validate_eq_ok_iff.2 hw]
    dsimp only
    rw [ht]
    rfl

theorem sound_empty : Sound empty :=
  ⟨List.Pairwise.nil, fun _ h => absurd h List.not_mem_nil, fun _ h => absurd h List.not_mem_nil⟩

theorem sound_adding {g h : Registry} (hg : g.Sound) {a : Addition}
    (hadd : g.adding a = (h, .ok ())) : h.Sound := by
  obtain ⟨w, t, hw, ht, rfl⟩ := adding_eq_ok_iff.1 hadd
  have hordered := ordered_place (a.descriptor w) hg.ordered
  refine ⟨hordered, ?_, ?_⟩
  · intro e he
    rcases mem_place he with rfl | he
    · exact ⟨t, ht⟩
    · exact hg.default e he
  · intro e he
    -- a property that had the name before is the new one now
    by_cases hname : e.name = Text.fold a.name
    · have hsame := hordered.eq_of_name he (self_mem_place _ _) hname
      rw [hsame]
      exact ⟨t, text?_store_self _ _ _, holds_of_takes hw ht⟩
    · rcases mem_place he with rfl | he
      · exact absurd rfl hname
      · rw [text?_store_of_ne hname]
        exact hg.stored e he

theorem sound_set {g h : Registry} (hg : g.Sound) {name : Text} {v w : Value}
    (hset : g.set name v = .ok (h, w)) : h.Sound := by
  obtain ⟨d, t, ha, ht, rfl⟩ := set_eq_ok_iff.1 hset
  obtain ⟨hd, -, hw⟩ := accept_eq_ok_iff.1 ha
  refine ⟨hg.ordered, hg.default, ?_⟩
  intro e he
  by_cases hname : e.name = d.name
  · rw [hg.ordered.eq_of_name he (mem_of_descriptor? hd).1 hname]
    exact ⟨t, text?_store_self _ _ _, holds_of_takes hw ht⟩
  · rw [text?_store_of_ne hname]
    exact hg.stored e he

/-! ## Registries that were built -/

theorem inSetup_fresh (as : List Addition) : (fresh as).inSetup = true := by
  have hstep (g : Registry) (a : Addition) : (g.adding a).1.inSetup = g.inSetup := by
    unfold adding add
    dsimp only
    split
    · rfl
    · split <;> rfl
  unfold fresh
  have hall (g : Registry) :
      (as.foldl (fun g a => (g.adding a).1) g).inSetup = g.inSetup := by
    induction as generalizing g with
    | nil => rfl
    | cons a as ih => rw [List.foldl_cons, ih, hstep]
  exact hall empty

theorem fresh_concat (as : List Addition) (a : Addition) :
    fresh (as ++ [a]) = ((fresh as).adding a).1 := by simp [fresh]

namespace Built

variable {as : List Addition} {g : Registry}

theorem sound (h : Built as g) : g.Sound := by
  induction h with
  | empty => exact sound_empty
  | add _ hadd ih => exact sound_adding ih hadd
  | set _ hset ih => exact sound_set ih hset
  | completeSetup _ ih => exact ⟨ih.ordered, ih.default, ih.stored⟩

/-- The properties of a registry are those of a fresh one with the same additions. -/
theorem descriptors_eq (h : Built as g) : g.descriptors = (fresh as).descriptors := by
  induction h with
  | empty => rfl
  | @add as g _ a _ hadd ih =>
    obtain ⟨w, t, hw, ht, rfl⟩ := adding_eq_ok_iff.1 hadd
    -- whether an addition succeeds does not hang on what the registry holds
    have hfresh := (adding_eq_ok_iff (g := Registry.fresh as)).2 ⟨w, t, hw, ht, rfl⟩
    rw [fresh_concat, hfresh, descriptors_store, descriptors_store, descriptors_enter,
      descriptors_enter, ih]
  | set _ hset ih =>
    obtain ⟨d, t, -, -, rfl⟩ := set_eq_ok_iff.1 hset
    exact ih
  | completeSetup _ ih => exact ih

theorem fresh (h : Built as g) : Built as (fresh as) := by
  induction h with
  | empty => exact .empty
  | @add as g _ a _ hadd ih =>
    obtain ⟨w, t, hw, ht, -⟩ := adding_eq_ok_iff.1 hadd
    have hfresh := (adding_eq_ok_iff (g := Registry.fresh as)).2 ⟨w, t, hw, ht, rfl⟩
    rw [fresh_concat, hfresh]
    exact .add ih hfresh
  | set _ _ ih => exact ih
  | completeSetup _ ih => exact ih

end Built

end Registry

end StatementShell.Property
