-- The registry of properties. Every property has a descriptor, and its value is kept as
-- text, so that it can be written to a file and read back; a value is checked when it is
-- set and again when it is read.
import StatementShell.Property.Validator

namespace StatementShell.Property

/-- What is stored of a value: a text, which may have surrogates in it. -/
inductive Stored
  | text (t : Text)
  | ragged (r : Ragged)
  deriving DecidableEq, Repr

instance : Coe Text Stored := ⟨Stored.text⟩

namespace Stored

/-- What is stored, as a value. -/
def value : Stored → Value
  | .text t => .text t
  | .ragged r => .ragged r

@[simp] theorem value_text (t : Text) : (text t).value = .text t := rfl

@[simp] theorem value_ragged (r : Ragged) : (ragged r).value = .ragged r := rfl

/-- What is stored of a value, unless it is a whole number with too many digits. -/
def ofValue? : Value → Option Stored
  | .boolean true => some (.text "true")
  | .boolean false => some (.text "false")
  | .ragged r => some (.ragged r)
  | v => v.text?.map .text

end Stored

/-- What is known of a property besides its value. -/
structure Descriptor where
  name : Text
  validator : Validator
  default : Value
  readonly : Bool
  deriving DecidableEq, Repr

/-- The properties, in the order of their names, and the texts of their values. While the
shell is set up, properties that are read-only may still be set. -/
structure Registry where
  descriptors : List Descriptor
  texts : List (Text × Stored)
  inSetup : Bool
  deriving DecidableEq, Repr

namespace Registry

/-- A registry without properties. -/
def empty : Registry := ⟨[], [], true⟩

/-- The registry after its set-up. -/
def completeSetup (g : Registry) : Registry := { g with inSetup := false }

/-! ## Names -/

/-- Whether a text comes before another one, by code points. -/
def before : Text → Text → Bool
  | [], [] => false
  | [], _ :: _ => true
  | _ :: _, [] => false
  | c :: r, d :: s => if c = d then before r s else decide (c.toNat < d.toNat)

/-- The descriptors with one more in its place. It takes the place of one with its name. -/
def place (d : Descriptor) : List Descriptor → List Descriptor
  | [] => [d]
  | e :: r =>
    if e.name = d.name then d :: r
    else if before d.name e.name then d :: e :: r
    else e :: place d r

/-- The descriptor of a property, whatever the letter case of the name. -/
def descriptor? (g : Registry) (name : Text) : Option Descriptor :=
  g.descriptors.find? (fun d => d.name == Text.fold name)

/-- The descriptor of a property that must be there. -/
def descriptor (g : Registry) (name : Text) : Except Failure Descriptor :=
  match g.descriptor? name with
  | some d => .ok d
  | none => .error (.property (.unknown name))

/-- Whether there is a property of some name. -/
def has (g : Registry) (name : Text) : Bool := (g.descriptor? name).isSome

/-- The names of all properties, in order. -/
def names (g : Registry) : List Text := g.descriptors.map (·.name)

/-! ## Stored texts -/

/-- What is stored under a name. -/
def text? (g : Registry) (name : Text) : Option Stored := g.texts.lookup name

/-- The registry with something stored under a name. -/
def store (g : Registry) (name : Text) (t : Stored) : Registry :=
  { g with texts := (name, t) :: g.texts.filter (fun x => x.1 != name) }

/-- The registry without what is stored under a name. -/
def forget (g : Registry) (name : Text) : Registry :=
  { g with texts := g.texts.filter (fun x => x.1 != name) }

theorem lookup_filter_name_ne {n m : Text} (h : m ≠ n) (ts : List (Text × Stored)) :
    (ts.filter (fun x => x.1 != n)).lookup m = ts.lookup m := by
  induction ts with
  | nil => rfl
  | cons e r ih =>
    obtain ⟨k, v⟩ := e
    by_cases hk : k = n
    · subst hk
      have hm : (m == k) = false := by simpa using h
      simp [List.lookup_cons, hm, ih]
    · simp [hk, List.lookup_cons, ih]

/-- What is stored is found again. -/
@[simp] theorem text?_store_self (g : Registry) (name : Text) (t : Stored) :
    (g.store name t).text? name = some t := by
  simp [text?, store]

/-- Storing under one name leaves the other names alone. -/
theorem text?_store_of_ne {name other : Text} (h : other ≠ name) (g : Registry) (t : Stored) :
    (g.store name t).text? other = g.text? other := by
  have ho : (other == name) = false := by simpa using h
  simp only [text?, store, List.lookup_cons, ho, lookup_filter_name_ne h]

@[simp] theorem descriptors_store (g : Registry) (name : Text) (t : Stored) :
    (g.store name t).descriptors = g.descriptors := rfl

@[simp] theorem inSetup_store (g : Registry) (name : Text) (t : Stored) :
    (g.store name t).inSetup = g.inSetup := rfl

/-- What is stored of a value, where something must be found. -/
def textOf (v : Value) : Except Failure Stored :=
  match Stored.ofValue? v with
  | some t => .ok t
  | none => .error .numberTooLong

/-! ## Values -/

/-- Whether a property may be set now. -/
def checkWritable (g : Registry) (d : Descriptor) : Except Failure Unit :=
  if d.readonly && !g.inSetup then .error (.property (.readOnly d.name)) else .ok ()

/-- The value that a property would take, checked, with its descriptor and its text. -/
def accept (g : Registry) (name : Text) (v : Value) : Except Failure (Descriptor × Value) :=
  match g.descriptor name with
  | .error e => .error e
  | .ok d =>
    match g.checkWritable d with
    | .error e => .error e
    | .ok _ => (d.validator.validate d.name v).map (fun w => (d, w))

/-- Sets a property. Gives the value that it has now. -/
def set (g : Registry) (name : Text) (v : Value) : Except Failure (Registry × Value) :=
  match g.accept name v with
  | .error e => .error e
  | .ok (d, w) => (textOf w).map (fun t => (g.store d.name t, w))

/-- The value of a property: its stored text, checked again, or its default. The default
needs a text even where it is not used. -/
def valueOf (g : Registry) (d : Descriptor) : Except Failure Value :=
  match textOf d.default with
  | .error e => .error e
  | .ok t => d.validator.validate d.name ((g.text? d.name).getD t).value

/-- The value of a property. -/
def get (g : Registry) (name : Text) : Except Failure Value :=
  match g.descriptor name with
  | .error e => .error e
  | .ok d => g.valueOf d

/-- A property that has no value says why. -/
theorem hasWords_of_get {g : Registry} {name : Text} {f : Failure} (h : g.get name = .error f) :
    f.HasWords := by
  unfold get descriptor at h
  split at h
  next hd =>
    cases h
    split at hd <;> cases hd
    rfl
  next d hd =>
    unfold valueOf textOf at h
    split at h
    next ht =>
      cases h
      split at ht <;> cases ht
      rfl
    next => exact Validator.hasWords_of_validate h

/-- The value that a property began with. -/
def default (g : Registry) (name : Text) : Except Failure Value :=
  (g.descriptor name).map (·.default)

/-- The name of the type of a property. -/
def typeName (g : Registry) (name : Text) : Except Failure Text :=
  (g.descriptor name).map (·.validator.typeName)

/-- Whether a property may be set only during the set-up. -/
def isReadonly (g : Registry) (name : Text) : Except Failure Bool :=
  (g.descriptor name).map (·.readonly)

/-- All properties with their values, in the order of their names. -/
def values (g : Registry) : Except Failure (List (Text × Value)) :=
  g.descriptors.mapM (fun d => (g.valueOf d).map (fun v => (d.name, v)))

/-! ## Building -/

/-- Adds a property, and says what went wrong, if anything did. A property whose default
is no value for it is not added. One whose default cannot be stored is added without a
text. -/
def add (g : Registry) (name : Text) (v : Validator) (initial : Value) (readonly : Bool) :
    Registry × Except Failure Unit :=
  let key := Text.fold name
  match v.validate key initial with
  | .error e => (g, .error e)
  | .ok w =>
    let g := { g with descriptors := place ⟨key, v, w, readonly⟩ g.descriptors }
    match textOf w with
    | .error e => (g, .error e)
    | .ok t => (g.store key t, .ok ())

/-- Stores a value under a name without a check. It must be text. -/
def setRaw (g : Registry) (name : Text) (v : Value) : Except Failure Registry :=
  match v with
  | .text t => .ok (g.store (Text.fold name) t)
  | .ragged r => .ok (g.store (Text.fold name) (.ragged r))
  | _ => .error .valueNotText

/-- Takes away what is stored under a name, and says whether anything was. -/
def removeRaw (g : Registry) (name : Text) : Registry × Bool :=
  (g.forget (Text.fold name), (g.text? (Text.fold name)).isSome)

end Registry

end StatementShell.Property
