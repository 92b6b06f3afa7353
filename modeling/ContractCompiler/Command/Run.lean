import ContractCompiler.Command.Arguments
import ContractCompiler.Compiler.Basic
import ContractCompiler.Config.Load
import ContractCompiler.Project.Basic

/-!
# Running commands

A command works on a state of the file system and ends with the next one, an exit status, and the
texts of the two output streams. A command that fails says why in its last line.

Principal definitions: `runCompile` and `runValidate`, the two functions called `execute`.
-/

namespace ContractCompiler

structure CommandResult where
  exitCode : Nat
  output : String
  errors : String
deriving DecidableEq, Repr

/-- The last line of a command that fails: general failures in full, others by their kind. -/
def Failure.lastLine : Failure → String
  | .general e => "Error: General(" ++ Text.quoted e.text ++ ")\n"
  | .schema _ => "Error: Schema\n"
  | .emission _ => "Error: Emission\n"
  | .json _ => "Error: Json\n"
  | .yaml _ => "Error: Yaml\n"
  | .file _ => "Error: Io\n"

namespace CommandResult

def usage : String :=
  "usage: contractc [-v] compile|manifest --contracts DIR [--root DIR] [--config FILE] " ++
    "[--module NAME]...\n       contractc [-v] validate --contracts DIR\n"

/-- The command line is not understood. -/
def misused : CommandResult := ⟨2, "", usage⟩

def success (output : String) : CommandResult := ⟨0, output, ""⟩

def failed (output errors : String) (f : Failure) : CommandResult := ⟨1, output, errors ++ f.lastLine⟩

end CommandResult

/-- What a report says of the artifacts that could be written. -/
def CompileReport.outputLines (r : CompileReport) : String :=
  String.join (r.written.map fun p => "written    " ++ p.text ++ "\n") ++
    String.join (r.unchanged.map fun p => "unchanged  " ++ p.text ++ "\n")

/-- What a report says of the others. -/
def CompileReport.errorLines (r : CompileReport) : String :=
  String.join (r.failures.map fun f => "failed     " ++ f.contract ++ ": " ++ f.failure.message ++ "\n")

/-- The number of loaded contracts as a line. -/
def LoadedContracts.countLine (l : LoadedContracts) : String :=
  toString l.contracts.length ++ " contract(s) valid\n"

/-- A line for every document or entry that was not loaded. -/
def LoadedContracts.failureLines (l : LoadedContracts) : String :=
  String.join (l.failures.map fun f => "invalid  " ++ f.1.text ++ ": " ++ f.2.message ++ "\n")

/-- A line for every contract with a link that cannot be resolved. -/
def LoadedContracts.linkLines (l : LoadedContracts) : String :=
  String.join (l.danglingLinks.map fun f =>
    "invalid  " ++ f.1.contractName ++ ": " ++ (Failure.schema f.2).message ++ "\n")

namespace Command

/-- Which passes a command runs. -/
inductive Passes where
  | all
  | manifestOnly
deriving DecidableEq, Repr

/-- Runs the passes on loaded contracts. -/
def runPasses (passes : Passes) (c : Compiler) (root : Path) (contracts : List Contract)
    (t : FileTree) : CompileReport × FileTree :=
  match passes with
  | .all => c.compile root contracts t
  | .manifestOnly => c.compileManifest root contracts t

/-- Compiles a project. Files and entries that could not be loaded count among the failures. -/
def runCompile (passes : Passes) (p : ProjectArguments) (t : FileTree) : CommandResult × FileTree :=
  match Config.load t p.config? with
  | .error f => (.failed "" "" f, t)
  | .ok config =>
    match LoadedContracts.load t p.contracts with
    | .error e => (.failed "" "" (.general e), t)
    | .ok loaded =>
      let c := Compiler.ofConfig config (.ofNames p.modules)
      let r := runPasses passes c p.root loaded.contracts t
      let count := r.1.failures.length + loaded.failures.length
      if count = 0 then (.success r.1.outputLines, r.2)
      else (.failed r.1.outputLines r.1.errorLines (.general (.artifactsFailed count)), r.2)

/-- Validates contracts without writing anything. -/
def runValidate (contracts : Path) (t : FileTree) : CommandResult :=
  match LoadedContracts.load t contracts with
  | .error e => .failed "" "" (.general e)
  | .ok loaded =>
    let count := loaded.failures.length + loaded.danglingLinks.length
    if count = 0 then .success loaded.countLine
    else
      .failed "" (loaded.failureLines ++ loaded.linkLines) (.general (.contractsInvalid count))

def run (t : FileTree) : Command → CommandResult × FileTree
  | compile p => runCompile .all p t
  | manifest p => runCompile .manifestOnly p t
  | validate contracts => (runValidate contracts t, t)

/-- Runs a command line. -/
def runArguments (environment : Environment) (arguments : List String) (t : FileTree) :
    CommandResult × FileTree :=
  match ofArguments? environment arguments with
  | none => (.misused, t)
  | some command => command.run t

end Command

/-! ## The files that a command touches

What a command reads is known from its arguments, and what it may write once that is read.
-/

namespace Command

/-- Where a command finds its input. -/
def inputPaths : Command → List Path
  | compile p => p.contracts :: p.config?.toList
  | manifest p => p.contracts :: p.config?.toList
  | validate contracts => [contracts]

/-- The files that a project's artifacts go to, when its configuration and contracts can be loaded. -/
def projectArtifacts (p : ProjectArguments) (t : FileTree) : List Path :=
  match Config.load t p.config?, LoadedContracts.load t p.contracts with
  | .ok config, .ok loaded =>
    (Compiler.ofConfig config (.ofNames p.modules)).artifactPaths p.root loaded.contracts
  | _, _ => []

/-- The files that a command may write. -/
def outputPaths (t : FileTree) : Command → List Path
  | compile p => projectArtifacts p t
  | manifest p => projectArtifacts p t
  | validate _ => []

end Command

end ContractCompiler
