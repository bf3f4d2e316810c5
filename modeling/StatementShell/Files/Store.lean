-- The files below the working directory. A path leads from directory to directory, and
-- every operation either does all of its work or gives the reason why it did none. Links and
-- permissions are left out.
import StatementShell.Files.Body
import StatementShell.Number.Integer
import StatementShell.Text.Quoted

namespace StatementShell

/-- Where a path leads: the names on the way, the last one first. The working directory is
the empty place, and an absolute path begins with an empty name. -/
abbrev Place := List Text

/-- What stands at a place. -/
inductive Entry
  | file (body : Body)
  | directory
  deriving DecidableEq, Repr

/-- The files and directories below the working directory, each at its place. -/
structure Files where
  entries : List (Place × Entry)
  deriving DecidableEq, Repr

/-- Why a path gives no file. -/
inductive FileReason
  | missing
  | busy
  | notDirectory
  | isDirectory
  | nameTooLong
  deriving DecidableEq, Repr

/-- A failed operation on files. -/
inductive FileFault
  /-- The path, or the second path of a renaming, leads nowhere useful. -/
  | refused (reason : FileReason) (path : Text) (target : Option Text)
  /-- The path holds the character that no path may hold. -/
  | nullCharacter
  deriving DecidableEq, Repr

namespace FileReason

/-- The number of a reason. -/
def number : FileReason → Nat
  | .missing => 2
  | .busy => 16
  | .notDirectory => 20
  | .isDirectory => 21
  | .nameTooLong => 36

/-- The words for a reason. -/
def message : FileReason → Text
  | .missing => "No such file or directory"
  | .busy => "Device or resource busy"
  | .notDirectory => "Not a directory"
  | .isDirectory => "Is a directory"
  | .nameTooLong => "File name too long"

/-- The kind under which a reason is reported. -/
def kind : FileReason → Text
  | .missing => "FileNotFoundError"
  | .busy => "OSError"
  | .notDirectory => "NotADirectoryError"
  | .isDirectory => "IsADirectoryError"
  | .nameTooLong => "OSError"

end FileReason

namespace FileFault

/-- The kind under which a fault is reported. -/
def kind : FileFault → Text
  | .refused reason _ _ => reason.kind
  | .nullCharacter => "ValueError"

/-- The words for a fault. -/
def message : FileFault → Text
  | .refused reason path target =>
    "[Errno " ++ Integer.digits reason.number ++ "] " ++ reason.message ++ ": " ++
      Text.quoted path ++
      (match target with
        | some t => " -> " ++ Text.quoted t
        | none => [])
  | .nullCharacter => "embedded null byte"

/-- Whether the fault comes from the files themselves, and not from the form of the
path. -/
def isSystem : FileFault → Bool
  | .refused _ _ _ => true
  | .nullCharacter => false

end FileFault

namespace Files

/-- No files at all. -/
def empty : Files := ⟨[]⟩

/-- The name of the directory that holds this one. -/
def parentName : Text := ['.', '.']

/-- The most bytes that a name may have. -/
def longestName : Nat := 255

/-- The most bytes that a path may have. -/
def longestPath : Nat := 4095

/-- Whether a place is the working directory or lies on the way up from it. -/
def isAbove (p : Place) : Bool := p.all (fun n => n == parentName || n == [])

/-- What stands at a place. Nothing but directories is known above the working
directory. -/
def find? (fs : Files) (p : Place) : Option Entry :=
  if isAbove p then some .directory else fs.entries.lookup p

/-- The files with one entry put at a place. -/
def put (fs : Files) (p : Place) (e : Entry) : Files :=
  ⟨(p, e) :: fs.entries.filter (fun x => x.1 != p)⟩

/-- The files without what stands at a place. -/
def erase (fs : Files) (p : Place) : Files := ⟨fs.entries.filter (fun x => x.1 != p)⟩

/-! ## What stands where after a change -/

theorem lookup_filter_ne {p q : Place} (h : q ≠ p) (es : List (Place × Entry)) :
    (es.filter (fun x => x.1 != p)).lookup q = es.lookup q := by
  induction es with
  | nil => rfl
  | cons e r ih =>
    obtain ⟨k, v⟩ := e
    by_cases hk : k = p
    · subst hk
      have hq : (q == k) = false := by simpa using h
      simp [List.lookup_cons, hq, ih]
    · simp [hk, List.lookup_cons, ih]

theorem lookup_filter_self (p : Place) (es : List (Place × Entry)) :
    (es.filter (fun x => x.1 != p)).lookup p = none := by
  induction es with
  | nil => rfl
  | cons e r ih =>
    obtain ⟨k, v⟩ := e
    by_cases hk : k = p
    · simp [hk, ih]
    · have hp : (p == k) = false := by simpa using fun h => hk h.symm
      simp [hk, List.lookup_cons, hp, ih]

/-- What was put at a place stands there. -/
theorem find?_put_self {p : Place} (h : isAbove p = false) (fs : Files) (e : Entry) :
    (fs.put p e).find? p = some e := by
  simp [find?, put, h]

/-- Nothing else moves when something is put at a place. -/
theorem find?_put_of_ne {p q : Place} (h : q ≠ p) (fs : Files) (e : Entry) :
    (fs.put p e).find? q = fs.find? q := by
  have hq : (q == p) = false := by simpa using h
  simp only [find?, put, List.lookup_cons, hq, lookup_filter_ne h]

/-- Nothing stands where something was erased. -/
theorem find?_erase_self {p : Place} (h : isAbove p = false) (fs : Files) :
    (fs.erase p).find? p = none := by
  simp [find?, erase, h, lookup_filter_self]

/-- Nothing else moves when a place is erased. -/
theorem find?_erase_of_ne {p q : Place} (h : q ≠ p) (fs : Files) :
    (fs.erase p).find? q = fs.find? q := by
  simp only [find?, erase, lookup_filter_ne h]

/-! ## Paths -/

/-- One step of a path. -/
def step (p : Place) (name : Text) : Place :=
  if name = [] ∨ name = ['.'] then p
  else if name = parentName then
    match p with
    | [] => [parentName]
    | [] :: _ => p
    | n :: r => if n = parentName then parentName :: n :: r else r
  else name :: p

/-- The place where a path begins. -/
def start (path : Text) : Place := if path.head? = some '/' then [[]] else []

/-- The place that a path names, whatever stands on the way. -/
def named (path : Text) : Place := (Text.pieces '/' path).foldl step (start path)

/-- A path to a place. -/
def pathTo (p : Place) : Text := if p.isEmpty then ['.'] else Text.joined ['/'] p.reverse

/-- Follows names from a place on. Every step needs a directory to start from. -/
def walk (fs : Files) : Place → List Text → Except FileReason Place
  | p, [] => .ok p
  | p, name :: r =>
    match fs.find? p with
    | none => .error .missing
    | some (.file _) => .error .notDirectory
    | some .directory =>
      if longestName < (Utf8.encode name).length then .error .nameTooLong
      else walk fs (step p name) r

/-- Where a path leads. -/
def resolve (fs : Files) (path : Text) : Except FileReason Place :=
  if path.isEmpty then .error .missing
  else if longestPath < (Utf8.encode path).length then .error .nameTooLong
  else fs.walk (start path) (Text.pieces '/' path)

/-- Whether a path holds the character that no path may hold. -/
def hasNull (path : Text) : Bool := path.contains '\x00'

/-- Whether a path can only lead to a directory. -/
def endsInSlash (path : Text) : Bool := path.getLast? == some '/'

/-- The place of a path, for an operation that reports faults under this path. -/
def locate (fs : Files) (path : Text) : Except FileFault Place :=
  if hasNull path then .error .nullCharacter
  else
    match fs.resolve path with
    | .ok p => .ok p
    | .error e => .error (.refused e path none)

/-! ## Operations -/

/-- The body of the file at a path. -/
def read (fs : Files) (path : Text) : Except FileFault Body :=
  match fs.locate path with
  | .error e => .error e
  | .ok p =>
    match fs.find? p with
    | some (.file b) => .ok b
    | some .directory => .error (.refused .isDirectory path none)
    | none => .error (.refused .missing path none)

/-- Where a file may be written under a path, and what it holds now. -/
def writable (fs : Files) (path : Text) : Except FileFault (Place × Body) :=
  match fs.locate path with
  | .error e => .error e
  | .ok p =>
    if endsInSlash path then .error (.refused .isDirectory path none)
    else
      match fs.find? p with
      | some (.file b) => .ok (p, b)
      | some .directory => .error (.refused .isDirectory path none)
      | none => .ok (p, .empty)

/-- The files with a file of the given body at a path. -/
def write (fs : Files) (path : Text) (b : Body) : Except FileFault Files :=
  (fs.writable path).map (fun (p, _) => fs.put p (.file b))

/-- The files with more text at the end of the file at a path, which is made if it is not
there. -/
def append (fs : Files) (path : Text) (t : Text) : Except FileFault Files :=
  (fs.writable path).map (fun (p, b) => fs.put p (.file (b.append t)))

/-- The last name of a path, slashes at its end aside. -/
def lastName (path : Text) : Text :=
  ((Text.pieces '/' (Text.dropBack '/' path)).getLast?).getD []

/-- Where a file may be moved to under a path. Whatever file stands there gives way. -/
def movable (fs : Files) (path : Text) : Except FileReason Place :=
  match fs.resolve path with
  | .error e => .error e
  | .ok p =>
    let name := lastName path
    if name = [] ∨ name = ['.'] ∨ name = parentName then .error .busy
    else if endsInSlash path then .error .notDirectory
    else if fs.find? p = some .directory then .error .isDirectory
    else .ok p

/-- The files after the file at one path was moved to another path. -/
def rename (fs : Files) (path target : Text) : Except FileFault Files :=
  match fs.locate path with
  | .error e => .error e
  | .ok p =>
    match fs.find? p, fs.movable target with
    | some (.file b), .ok q => .ok ((fs.erase p).put q (.file b))
    | some (.file _), .error e => .error (.refused e path (some target))
    | some .directory, _ => .error (.refused .busy path (some target))
    | none, _ => .error (.refused .missing path (some target))

/-- Whether two paths lead to the same place. -/
def meet (fs : Files) (path other : Text) : Bool :=
  match fs.resolve path, fs.resolve other with
  | .ok p, .ok q => p == q
  | _, _ => false

/-- Whether anything stands at a path. -/
def holds (fs : Files) (path : Text) : Bool :=
  match fs.locate path with
  | .ok p => (fs.find? p).isSome
  | .error _ => false

/-- The name of a file that lies in the working directory itself. -/
def topName? (p : Place) : Option Text :=
  match p with
  | [name] => some name
  | _ => none

/-- The files in the working directory itself, by name. -/
def top (fs : Files) : List (Text × Body) :=
  fs.entries.filterMap (fun (p, e) =>
    match topName? p, e with
    | some name, .file b => some (name, b)
    | _, _ => none)

end Files

end StatementShell
