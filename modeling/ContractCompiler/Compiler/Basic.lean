import ContractCompiler.Failure
import ContractCompiler.Files.Tree
import ContractCompiler.Manifest.Basic
import ContractCompiler.Module.Model

/-!
# Compiling contract sets

A run has two passes: the manifest of the whole set, and one module for each contract. Every failure
stays with its own artifact: a contract that fails is reported and passed over, and a failed
manifest does not stop the models.

Principal definitions: `compileManifest` (`compile_manifest`), `compileModels` (`compile_models`),
`compile`.
-/

namespace ContractCompiler

/-! ## Reports

What a run wrote, what it left as it was, and what failed, each in the order of the run.
-/

/-- `CompileFailure`. -/
structure ArtifactFailure where
  /-- The contract's name, or that of the manifest. -/
  contract : String
  failure : Failure
deriving DecidableEq, Repr

/-- The outcome of a run. -/
structure CompileReport where
  written : List Path
  unchanged : List Path
  failures : List ArtifactFailure
deriving DecidableEq, Repr

namespace CompileReport

def empty : CompileReport := ⟨[], [], []⟩

def failed (contract : String) (failure : Failure) : CompileReport := ⟨[], [], [⟨contract, failure⟩]⟩

/-- An artifact that could be written. -/
def single (path : Path) : WriteOutcome → CompileReport
  | .written => ⟨[path], [], []⟩
  | .unchanged => ⟨[], [path], []⟩

/-- One report after the other (`CompileReport.merge`). -/
def append (a b : CompileReport) : CompileReport :=
  ⟨a.written ++ b.written, a.unchanged ++ b.unchanged, a.failures ++ b.failures⟩

instance : Append CompileReport := ⟨append⟩

def isSuccess (r : CompileReport) : Bool := r.failures.isEmpty

end CompileReport

/-! ## Passes -/

/-- The settings of a run. -/
structure Compiler where
  config : Config
  capabilities : CapabilitySet
  /-- How modules find each other. -/
  resolver : Resolver

namespace Compiler

/-- The compiler of a configuration, whose modules find each other by the configured layout. -/
def ofConfig (config : Config) (capabilities : CapabilitySet) : Compiler :=
  ⟨config, capabilities, (Layout.ofConfig config).resolve⟩

/-- What emission depends on. -/
def context (c : Compiler) : EmissionContext := .ofConfig c.config c.capabilities

/-- The text of a contract's module. -/
def emitModel (c : Compiler) (contracts : List Contract) (contract : Contract) :
    Except Failure String :=
  contract.emitModel contracts c.context c.resolver

/-- The file of a contract's module in a project. -/
def modelPath (c : Compiler) (root : Path) (contract : Contract) : Path :=
  root.join ((Layout.ofConfig c.config).modelPath contract).text

def generatedDir (c : Compiler) (root : Path) : Path := root.join c.config.app.generatedDir

/-- What the manifest is called in reports (`MANIFEST_ARTIFACT`). -/
def manifestName : String := "<manifest>"

def jsonPath (c : Compiler) (root : Path) : Path := (c.generatedDir root).join "schema.json"

def yamlPath (c : Compiler) (root : Path) : Path := (c.generatedDir root).join "schema.yml"

/-- The files of the manifest in a project, with their texts. -/
def manifestFiles (c : Compiler) (root : Path) (contracts : List Contract) : List (Path × String) :=
  let m := Manifest.build contracts c.capabilities
  [(c.jsonPath root, m.jsonText), (c.yamlPath root, m.yamlText)]

/-- Every file that a run may write. -/
def artifactPaths (c : Compiler) (root : Path) (contracts : List Contract) : List Path :=
  c.jsonPath root :: c.yamlPath root :: contracts.map (c.modelPath root)

/-- Writes files in order (`Manifest.write`); the first failure ends the pass, and then the report
names nothing else. -/
def writeAll (t : FileTree) (report : CompileReport) :
    List (Path × String) → CompileReport × FileTree
  | [] => (report, t)
  | (path, content) :: rest =>
    match t.writeArtifact path content with
    | (.error e, t) => (.failed manifestName (.file e), t)
    | (.ok outcome, t) => writeAll t (report ++ .single path outcome) rest

/-- The first contract of a list that is not well formed, by its error. -/
def firstInvalid : List Contract → Option SchemaError
  | [] => none
  | contract :: rest =>
    match contract.check with
    | .error e => some e
    | .ok () => firstInvalid rest

/-- The manifest pass. A contract that is not well formed stops it. -/
def compileManifest (c : Compiler) (root : Path) (contracts : List Contract) (t : FileTree) :
    CompileReport × FileTree :=
  match firstInvalid contracts with
  | some e => (.failed manifestName (.schema e), t)
  | none =>
    if c.config.app.generateSchema then writeAll t .empty (c.manifestFiles root contracts)
    else (.empty, t)

/-- One artifact of the model pass. -/
def compileModel (c : Compiler) (root : Path) (contracts : List Contract) (contract : Contract)
    (t : FileTree) : CompileReport × FileTree :=
  match c.emitModel contracts contract with
  | .error e => (.failed contract.contractName e, t)
  | .ok code =>
    match t.writeArtifact (c.modelPath root contract) code with
    | (.error e, t) => (.failed contract.contractName (.file e), t)
    | (.ok outcome, t) => (.single (c.modelPath root contract) outcome, t)

/-- The model pass over part of a contract set. -/
def compileEach (c : Compiler) (root : Path) (contracts : List Contract) :
    List Contract → FileTree → CompileReport × FileTree
  | [], t => (.empty, t)
  | contract :: rest, t =>
    let first := c.compileModel root contracts contract t
    let others := c.compileEach root contracts rest first.2
    (first.1 ++ others.1, others.2)

/-- The model pass. -/
def compileModels (c : Compiler) (root : Path) (contracts : List Contract) (t : FileTree) :
    CompileReport × FileTree :=
  c.compileEach root contracts contracts t

/-- Both passes. -/
def compile (c : Compiler) (root : Path) (contracts : List Contract) (t : FileTree) :
    CompileReport × FileTree :=
  let manifest := c.compileManifest root contracts t
  let models := c.compileModels root contracts manifest.2
  (manifest.1 ++ models.1, models.2)

end Compiler

end ContractCompiler
