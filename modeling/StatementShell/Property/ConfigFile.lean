-- Properties in files. Loading takes over a whole file or nothing; saving writes a new
-- file beside the old one and then puts it in the old one's place.
import StatementShell.Ini.Reader
import StatementShell.Property.Registry

namespace StatementShell.Property.Registry

/-- The section that holds properties. -/
def sectionName : Text := "qshell"

/-! ## Loading -/

/-- Checks all options, in order. -/
def acceptAll (g : Registry) : List Ini.Item → Except Failure (List (Descriptor × Value))
  | [] => .ok []
  | i :: is =>
    match g.accept i.name (.text i.value) with
    | .error e => .error e
    | .ok p => (g.acceptAll is).map (p :: ·)

/-- Stores checked values, in order. -/
def storeAll (g : Registry) : List (Descriptor × Value) → Except Failure Registry
  | [] => .ok g
  | (d, v) :: r =>
    match textOf v with
    | .error e => .error e
    | .ok t => (g.store d.name t).storeAll r

/-- Takes over the options of a document. One without a section for properties has
none. -/
def loadDocument (g : Registry) (d : Ini.Document) : Except Failure Registry :=
  match d.section? sectionName with
  | none => .ok g
  | some items =>
    match g.acceptAll items with
    | .error e => .error e
    | .ok ps => g.storeAll ps

/-- Takes over the options of the file at a path. -/
def load (g : Registry) (fs : Files) (path : Text) : Except Failure Registry :=
  match fs.read path with
  | .error e => .error (.file e)
  | .ok b =>
    match Ini.read path b.readLenient with
    | .error e => .error (.ini e)
    | .ok d => g.loadDocument d

/-! ## Saving -/

/-- The name of the new file beside the old one. -/
def besidePath (path : Text) : Text := path ++ ".tmp"

/-- The option for a property that has some value, with what is stored of it. -/
def optionOf (p : Text × Value) : Except Failure (Text × Stored) :=
  (textOf p.2).map (fun t => (p.1, t))

/-- The options for all properties. -/
def options (g : Registry) : Except Failure (List (Text × Stored)) :=
  match g.values with
  | .error e => .error e
  | .ok vs => vs.mapM optionOf

/-- An option that UTF-8 can write. Of one that it cannot, the characters in front of the first
surrogate say where the fault is. -/
def encode (o : Text × Stored) : Except Failure Ini.Item :=
  match o.2 with
  | .text t => .ok ⟨o.1, t⟩
  | .ragged r =>
    .error (.unencodable (r.fault (o.1 ++ " = " ++ Ini.writeValue r.front : Text).length))

/-- What comes into a new file, and what has stopped the writing, if anything did. -/
structure Draft where
  body : Body
  fault : Option Failure

/-- The options of a file as they are written, one after the other, up to the first that UTF-8
cannot write. -/
def writeOptions : List (Text × Stored) → Text × Option Failure
  | [] => ("\n", none)
  | o :: os =>
    match encode o with
    | .error e => ([], some e)
    | .ok i =>
      let (t, fault) := writeOptions os
      (Ini.writeItem i ++ t, fault)

/-- A file for some options. -/
def draft (os : List (Text × Stored)) : Draft :=
  let (t, fault) := writeOptions os
  ⟨.text (Ini.writeSection sectionName ++ t), fault⟩

/-- Writes a new file beside the one at a path and puts it in its place. Where the writing has
stopped, or the new file cannot be put there, it is left beside the old one. -/
def replace (fs : Files) (path : Text) (d : Draft) : Files × Except Failure Unit :=
  match fs.write (besidePath path) d.body with
  | .error e => (fs, .error (.file e))
  | .ok written =>
    match d.fault with
    | some e => (written, .error e)
    | none =>
      match written.rename (besidePath path) path with
      | .error e => (written, .error (.file e))
      | .ok renamed => (renamed, .ok ())

/-- Writes the properties to the file at a path, with a way to write a new file for options. -/
def saveWith (write : List (Text × Stored) → Draft) (g : Registry) (fs : Files) (path : Text) :
    Files × Except Failure Unit :=
  match g.options with
  | .error e => (fs, .error e)
  | .ok os => replace fs path (write os)

/-- Writes the properties to the file at a path. -/
def save (g : Registry) (fs : Files) (path : Text) : Files × Except Failure Unit :=
  g.saveWith draft fs path

end StatementShell.Property.Registry
