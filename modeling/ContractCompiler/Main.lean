import ContractCompiler.Command.Run

/-!
# The program

Takes the part of the disk that a command touches into a file tree, runs the command on it, and
brings the disk to the tree that results.
-/

namespace ContractCompiler.Disk

/-- The place of a location on the disk. -/
def entryOf (l : Location) : IO IO.FS.DirEntry := do
  return ⟨← IO.currentDir, "/" ++ "/".intercalate l⟩

def contentOf (bytes : ByteArray) : FileContent :=
  match String.fromUTF8? bytes with
  | some text => .text text
  | none => .binary bytes.toList

/-- What stands at a location of the disk, if anything does. -/
def read? (l : Location) : IO (Option FileEntry) := do
  try
    let entry ← entryOf l
    match (← entry.path.metadata).type with
    | .dir => return some .directory
    | .file => return some (.file (contentOf (← IO.FS.readBinFile entry.path)))
    | _ => return none
  catch _ => return none

/-- The tree with what stands at a location, and everything below it. -/
partial def takeAll (t : FileTree) (l : Location) : IO FileTree := do
  match ← read? l with
  | none => return t
  | some (.file content) => return t.put l (.file content)
  | some .directory =>
    let mut t := t.put l .directory
    for child in ← (← entryOf l).path.readDir do
      t ← takeAll t (l ++ [child.fileName])
    return t

/-- The tree with what stands on the way along components, up to their end. -/
def takeAlong (t : FileTree) (l : Location) : List PathComponent → IO (FileTree × Location)
  | [] => return (t, l)
  | .root :: rest => takeAlong t [] rest
  | .here :: rest => takeAlong t l rest
  | .up :: rest => takeAlong t l.dropLast rest
  | .name n :: rest => do
    let l := l ++ [n]
    match ← read? l with
    | none => takeAlong t l rest
    | some entry => takeAlong (t.put l entry) l rest

/-- The tree with what stands at a path and around it. -/
def take (t : FileTree) (p : Path) : IO FileTree := do
  return (← takeAlong t t.workingDir p.components).1

/-- The tree with what stands at a path, around it and below it. -/
def takeBelow (t : FileTree) (p : Path) : IO FileTree := do
  let r ← takeAlong t t.workingDir p.components
  takeAll r.1 r.2

/-- Brings an entry of a tree to the disk. -/
def write (l : Location) : FileEntry → IO Unit
  | .directory => do IO.FS.createDirAll (← entryOf l).path
  | .file (.text text) => do IO.FS.writeFile (← entryOf l).path text
  | .file (.binary bytes) => do IO.FS.writeBinFile (← entryOf l).path ⟨bytes.toArray⟩

/-- The working directory, with the directories around it. -/
def start : IO FileTree := do
  let path : Path := ⟨toString (← IO.currentDir)⟩
  let r ← takeAlong (.empty []) [] path.components
  return { r.1 with workingDir := r.2 }

def run (command : Command) : IO CommandResult := do
  let mut before ← start
  for p in command.inputPaths do
    before ← takeBelow before p
  for p in command.outputPaths before do
    before ← take before p
  let (result, after) := command.run before
  for r in after.records do
    if before.get? r.location != some r.entry then write r.location r.entry
  return result

end ContractCompiler.Disk

open ContractCompiler

def main (arguments : List String) : IO UInt32 := do
  let environment : Environment :=
    ⟨← IO.getEnv "CONTRACTC_ROOT", ← IO.getEnv "CONTRACTC_CONFIG"⟩
  let result ←
    match Command.ofArguments? environment arguments with
    | none => pure CommandResult.misused
    | some command => Disk.run command
  IO.print result.output
  IO.eprint result.errors
  return UInt32.ofNat result.exitCode
