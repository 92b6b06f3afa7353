import ContractCompiler.Failure
import ContractCompiler.Layout.Path

/-!
# File trees

A `FileTree` is a state of the file system: what stands at each location, and the working directory.
Paths are walked component by component, so every directory on the way has to exist, and `..` leads
to the directory that holds the one reached so far.

Principal results: `get?_put_self` and `get?_put_of_ne` — setting an entry changes its own
location and no other.
-/

namespace ContractCompiler

/-- A place in a file tree: the names on the way from the root. -/
abbrev Location := List String

inductive FileContent where
  | text (content : String)
  /-- Bytes that are no text. -/
  | binary (bytes : List UInt8)
deriving DecidableEq, Repr

inductive FileEntry where
  | directory
  | file (content : FileContent)
deriving DecidableEq, Repr

/-- What stands at one location. -/
structure FileRecord where
  location : Location
  /-- How many names the location has; where two locations differ in it, nothing else is compared. -/
  depth : Nat
  entry : FileEntry
deriving DecidableEq, Repr

/-- A state of the file system. The root is a directory without a record of its own. -/
structure FileTree where
  records : List FileRecord
  /-- Where relative paths start. -/
  workingDir : Location
deriving DecidableEq, Repr

namespace FileTree

def empty (workingDir : Location) : FileTree := ⟨[], workingDir⟩

/-! ## Entries -/

/-- The entry of a location of the given depth in a list. -/
def entryAt (depth : Nat) (l : Location) : List FileRecord → Option FileEntry
  | [] => none
  | r :: rest => if r.depth = depth ∧ r.location = l then some r.entry else entryAt depth l rest

/-- The list with an entry set: in place when the location has one, at the end otherwise. -/
def putEntry (depth : Nat) (l : Location) (e : FileEntry) : List FileRecord → List FileRecord
  | [] => [⟨l, depth, e⟩]
  | r :: rest =>
    if r.depth = depth ∧ r.location = l then ⟨l, depth, e⟩ :: rest else r :: putEntry depth l e rest

/-- What stands at a location. -/
def get? (t : FileTree) (l : Location) : Option FileEntry :=
  if l = [] then some .directory else entryAt l.length l t.records

/-- The tree with an entry set. -/
def put (t : FileTree) (l : Location) (e : FileEntry) : FileTree :=
  { t with records := putEntry l.length l e t.records }

theorem entryAt_put_self (depth : Nat) (l : Location) (e : FileEntry) (records : List FileRecord) :
    entryAt depth l (putEntry depth l e records) = some e := by
  induction records with
  | nil => simp [putEntry, entryAt]
  | cons head rest ih =>
    unfold putEntry
    split
    · simp [entryAt]
    · next h => simp [entryAt, h, ih]

theorem entryAt_put_of_ne {l m : Location} (h : l ≠ m) (depth depth' : Nat) (e : FileEntry)
    (records : List FileRecord) :
    entryAt depth' m (putEntry depth l e records) = entryAt depth' m records := by
  induction records with
  | nil => simp [putEntry, entryAt, h]
  | cons head rest ih =>
    unfold putEntry
    split
    · next hk => simp [entryAt, hk.2, h]
    · simp [entryAt, ih]

theorem get?_put_self {l : Location} (h : l ≠ []) (t : FileTree) (e : FileEntry) :
    (t.put l e).get? l = some e := by
  simp [get?, put, h, entryAt_put_self]

theorem get?_put_of_ne {l m : Location} (h : l ≠ m) (t : FileTree) (e : FileEntry) :
    (t.put l e).get? m = t.get? m := by
  simp [get?, put, entryAt_put_of_ne h]

/-- The tree without a location and all that stands below it, as it may be found by a later run. -/
def removeBelow (t : FileTree) (l : Location) : FileTree :=
  { t with records := t.records.filter fun r => !l.isPrefixOf r.location }

/-- The entries in a directory, by their names in ascending order. -/
def children (t : FileTree) (dir : Location) : List (String × FileEntry) :=
  let inside := t.records.filterMap fun r =>
    if r.depth = dir.length + 1 ∧ r.location.dropLast = dir then
      r.location.getLast?.map fun name => (name, r.entry)
    else none
  inside.mergeSort fun a b => decide (a.1 ≤ b.1)

/-! ## Paths -/

/-- The longest name that a directory can hold, in bytes. -/
def maxNameBytes : Nat := 255

/-- The longest path that an operation takes, in bytes. -/
def maxPathBytes : Nat := 4095

/-- Walks from a location along components. -/
def walk (t : FileTree) (l : Location) : List PathComponent → Except FileError Location
  | [] => .ok l
  | c :: rest =>
    match t.get? l with
    | none => .error .notFound
    | some (.file _) => .error .notADirectory
    | some .directory =>
      match c with
      | .root => t.walk [] rest
      | .here => t.walk l rest
      | .up => t.walk l.dropLast rest
      | .name n =>
        if maxNameBytes < n.utf8ByteSize then .error .nameTooLong else t.walk (l ++ [n]) rest

/-- The location of a path, whether something stands there or not; the directory around it exists. -/
def locate (t : FileTree) (p : Path) : Except FileError Location :=
  if p.text.toList.any fun c => c.toNat == 0 then .error .invalidPath
  else if p.text.isEmpty then .error .notFound
  else if maxPathBytes < p.text.utf8ByteSize then .error .nameTooLong
  else t.walk t.workingDir p.components

/-- The path ends in a separator or in `.`, so that only a directory can stand there. -/
def asksForDirectory (p : Path) : Bool :=
  match p.text.toList.reverse with
  | '/' :: _ => true
  | '.' :: '/' :: _ => true
  | ['.'] => true
  | _ => false

/-- The last component of the path is `.`. -/
def namesItself (p : Path) : Bool :=
  match p.text.toList.reverse.dropWhile (· == '/') with
  | '.' :: '/' :: _ => true
  | ['.'] => true
  | _ => false

/-- What stands at a path, and where. -/
def find (t : FileTree) (p : Path) : Except FileError (Location × FileEntry) :=
  match t.locate p with
  | .error e => .error e
  | .ok l =>
    match t.get? l with
    | none => .error .notFound
    | some .directory => .ok (l, .directory)
    | some (.file content) =>
      if asksForDirectory p then .error .notADirectory else .ok (l, .file content)

/-- Something stands at the path. -/
def has (t : FileTree) (p : Path) : Bool :=
  match t.find p with
  | .ok _ => true
  | .error _ => false

def isDirectory (t : FileTree) (p : Path) : Bool :=
  match t.find p with
  | .ok (_, .directory) => true
  | _ => false

def readText (t : FileTree) (p : Path) : Except FileError String :=
  match t.find p with
  | .error e => .error e
  | .ok (_, .directory) => .error .isADirectory
  | .ok (_, .file (.binary _)) => .error .notText
  | .ok (_, .file (.text content)) => .ok content

/-! ## Changes -/

/-- A tree after an operation, and how the operation ended. A failed operation may have changed the
tree. -/
abbrev Outcome (α : Type) := Except FileError α × FileTree

/-- Creates a directory in one that exists. A path that ends in `.` names no new directory. -/
def makeDirectory (t : FileTree) (p : Path) : Outcome Unit :=
  match t.locate p with
  | .error e => (.error e, t)
  | .ok l =>
    match t.get? l with
    | some _ => (.error .alreadyExists, t)
    | none => if namesItself p then (.error .notFound, t) else (.ok (), t.put l .directory)

/-- Walks from a directory along components, and creates the directories that are missing; a file
stands in the way of one. -/
def makeWay (t : FileTree) (l : Location) : List PathComponent → Outcome Unit
  | [] => (.ok (), t)
  | .root :: rest => t.makeWay [] rest
  | .here :: rest => t.makeWay l rest
  | .up :: rest => t.makeWay l.dropLast rest
  | .name n :: rest =>
    if maxNameBytes < n.utf8ByteSize then (.error .nameTooLong, t)
    else
      match t.get? (l ++ [n]) with
      | some .directory => t.makeWay (l ++ [n]) rest
      | some (.file _) => (.error .alreadyExists, t)
      | none => (t.put (l ++ [n]) .directory).makeWay (l ++ [n]) rest

/-- Creates a directory, unless it exists. -/
def ensureDirectory (t : FileTree) (p : Path) : Outcome Unit :=
  match t.makeDirectory p with
  | (.ok (), t) => (.ok (), t)
  | (.error e, t) => if t.isDirectory p then (.ok (), t) else (.error e, t)

/-- Creates a directory and those around it, unless they exist. -/
def makeDirectories (t : FileTree) (p : Path) : Outcome Unit :=
  match t.ensureDirectory p with
  | (.error .notFound, t) =>
    match p.parent? with
    | none => (.ok (), t)
    | some parent =>
      match t.makeWay t.workingDir parent.components with
      | (.error e, t) => (.error e, t)
      | (.ok (), t) => t.ensureDirectory p
  | outcome => outcome

/-- Writes a file in a directory that exists; a file that exists is replaced. -/
def writeFile (t : FileTree) (p : Path) (content : FileContent) : Outcome Unit :=
  match t.locate p with
  | .error e => (.error e, t)
  | .ok l =>
    match t.get? l with
    | some .directory => (.error .isADirectory, t)
    | _ => if asksForDirectory p then (.error .isADirectory, t) else (.ok (), t.put l (.file content))

end FileTree

/-! ## Artifacts

`writeArtifact` (`write_artifact`) writes a generated file only when its content changes, and
creates the directories around it on demand.
-/

/-- What became of an artifact that could be written. -/
inductive WriteOutcome where
  | written
  /-- The file already held the content. -/
  | unchanged
deriving DecidableEq, Repr

namespace FileTree

/-- Creates the directory that holds a path, unless it exists. -/
def makeParent (t : FileTree) (p : Path) : Outcome Unit :=
  match p.parent? with
  | none => (.ok (), t)
  | some parent =>
    if parent.text.isEmpty || t.has parent then (.ok (), t) else t.makeDirectories parent

/-- The file holds the text. -/
def holds (t : FileTree) (p : Path) (content : String) : Bool :=
  match t.readText p with
  | .ok existing => existing == content
  | .error _ => false

/-- Brings a file to the given content (`write_artifact`). -/
def writeArtifact (t : FileTree) (p : Path) (content : String) : Outcome WriteOutcome :=
  if t.holds p content then (.ok .unchanged, t)
  else
    match t.makeParent p with
    | (.error e, t) => (.error e, t)
    | (.ok (), t) =>
      match t.writeFile p (.text content) with
      | (.error e, t) => (.error e, t)
      | (.ok (), t) => (.ok .written, t)

end FileTree

end ContractCompiler
