import ContractCompiler.Contract.Check
import ContractCompiler.Contract.Reading
import ContractCompiler.Failure
import ContractCompiler.Files.Tree

/-!
# The contracts of a project

Contract documents are the files below a directory whose extension says so. They are visited in the
order of their paths, directory by directory, so the order of registration is stable. A document or
an entry that cannot be loaded never stops the others; a directory that cannot be opened does.

The model of `contract_files` and of `load_contracts`.
-/

namespace ContractCompiler

/-- The extensions of contract documents. -/
def contractExtensions : List String := ["json", "yml", "yaml"]

/-- The file is a contract document by its name. -/
def isContractFile (name : String) : Bool :=
  (Path.fileExtension? name).any fun e => contractExtensions.contains e

namespace FileTree

/-- The contract documents among the entries of a directory. `inside` gives those below a directory
in it, by its path and its name. -/
def contractFilesAmong (inside : Path → String → Except GeneralError (List Path)) (dir : Path) :
    List (String × FileEntry) → Except GeneralError (List Path)
  | [] => .ok []
  | (name, entry) :: rest =>
    let found : Except GeneralError (List Path) :=
      match entry with
      | .directory => inside (dir.join name) name
      | .file _ => .ok (if isContractFile name then [dir.join name] else [])
    match found with
    | .error e => .error e
    | .ok files =>
      match contractFilesAmong inside dir rest with
      | .error e => .error e
      | .ok others => .ok (files ++ others)

/-- The contract documents below a directory, which stands at a location. A directory whose path is
too long ends the search. `fuel` bounds how deep directories nest. -/
def contractFilesBelow (t : FileTree) : Nat → Path → Location → Except GeneralError (List Path)
  | 0, _, _ => .ok []
  | fuel + 1, dir, l =>
    if maxPathBytes < dir.text.utf8ByteSize then .error (.unreadableEntry dir.text .nameTooLong)
    else
      contractFilesAmong (fun path name => t.contractFilesBelow fuel path (l ++ [name])) dir
        (t.children l)

/-- The contract documents at a path: those below a directory, or a single file
(`contract_files`). -/
def contractFiles (t : FileTree) (path : Path) : Except GeneralError (List Path) :=
  match t.find path with
  | .error e => .error (.unreadableEntry path.text e)
  | .ok (l, .directory) => t.contractFilesBelow (t.records.length + 1) path l
  | .ok (_, .file _) => .ok (if path.fileName?.any isContractFile then [path] else [])

end FileTree

/-- The contracts of a project, and what could not be loaded, by its file. -/
structure LoadedContracts where
  contracts : List Contract
  failures : List (Path × Failure)
deriving DecidableEq, Repr

namespace LoadedContracts

def empty : LoadedContracts := ⟨[], []⟩

def append (a b : LoadedContracts) : LoadedContracts :=
  ⟨a.contracts ++ b.contracts, a.failures ++ b.failures⟩

instance : Append LoadedContracts := ⟨append⟩

/-- The entries of a document, sorted into contracts and failures. -/
def ofEntries (path : Path) : List (Except SchemaError Contract) → LoadedContracts
  | [] => empty
  | .ok c :: rest => ⟨[c], []⟩ ++ ofEntries path rest
  | .error e :: rest => ⟨[], [(path, .schema e)]⟩ ++ ofEntries path rest

/-- What one file holds. -/
def ofFile (t : FileTree) (path : Path) : LoadedContracts :=
  match t.readText path with
  | .error e => ⟨[], [(path, .file e)]⟩
  | .ok text =>
    match Contract.ofDocument text with
    | .error f => ⟨[], [(path, .yaml f)]⟩
    | .ok entries => ofEntries path entries

def ofFiles (t : FileTree) : List Path → LoadedContracts
  | [] => empty
  | path :: rest => ofFile t path ++ ofFiles t rest

/-- The contracts at a path (`load_contracts`). -/
def load (t : FileTree) (path : Path) : Except GeneralError LoadedContracts :=
  match t.contractFiles path with
  | .error e => .error e
  | .ok files => .ok (ofFiles t files)

/-- The loaded contracts with a link that cannot be resolved. -/
def danglingLinks (l : LoadedContracts) : List (Contract × SchemaError) :=
  l.contracts.filterMap fun c =>
    match c.resolveLinks l.contracts with
    | .error e => some (c, e)
    | .ok _ => none

end LoadedContracts

end ContractCompiler
