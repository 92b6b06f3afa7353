import ContractCompiler.Json.Value
import ContractCompiler.Text.Basic
import ContractCompiler.Text.Case

/-!
# Configuration

The settings of a project, its optional modules, and what emission takes from both. Every key of a
configuration file is optional.

Principal definitions: `CapabilitySet.ofNames` (`from_names`), `Config.backend` (`storage_backend`),
`EmissionContext.ofConfig` (`EmitContext.new`).
-/

namespace ContractCompiler

/-! ## Capabilities

Which optional modules a project has.
-/

/-- Presence of the optional modules. -/
structure CapabilitySet where
  auth : Bool
  openapi : Bool
  graphql : Bool
  transport : Bool
  protobuf : Bool
  cache : Bool
  repository : Bool
  vault : Bool
deriving DecidableEq, Repr

namespace CapabilitySet

def empty : CapabilitySet := ⟨false, false, false, false, false, false, false, false⟩

/-- Asks for every known module by name (`CapabilitySet.probe`). -/
def ofProbe (present : String → Bool) : CapabilitySet where
  auth := present "auth"
  openapi := present "openapi"
  graphql := present "graphql"
  transport := present "ws"
  protobuf := present "protobuf"
  cache := present "cache"
  repository := present "repository"
  vault := present "vault"

/-- The modules named in a list, whatever their letter case and the white space around them; other
names are ignored (`CapabilitySet.from_names`). -/
def ofNames (names : List String) : CapabilitySet :=
  let known := names.map fun n => Text.lowercase (Text.trimmed n)
  ofProbe fun name => known.contains name

/-- Remote calls need the transport and the binary protocol together. -/
def rpc (c : CapabilitySet) : Bool := c.transport && c.protobuf

end CapabilitySet

/-! ## Settings -/

/-- What becomes of a field or message that cannot be emitted. -/
inductive EmissionPolicy where
  /-- The whole model fails. -/
  | strict
  /-- A comment takes its place. -/
  | placeholder
deriving DecidableEq, Repr

namespace EmissionPolicy

def all : List EmissionPolicy := [strict, placeholder]

/-- The policy as written in a configuration. -/
def name : EmissionPolicy → String
  | strict => "strict"
  | placeholder => "placeholder"

/-- The policy with the given name; `strict` for any other text. -/
def ofName (s : String) : EmissionPolicy := (all.find? fun p => p.name == s).getD strict

end EmissionPolicy

/-- How stored models are identified. -/
inductive StorageBackend where
  /-- A document store: `_id` of type `ObjectId`. -/
  | document
  /-- Anything else: `id`. -/
  | generic
deriving DecidableEq, Repr

structure AppSection where
  /-- Write the schema manifest. -/
  generateSchema : Bool
  /-- Where generated files go, below the project root. -/
  generatedDir : String
  /-- Where the models of module contracts go, below the project root. -/
  sourceDir : String
  /-- What generated code imports the core from. -/
  coreImport : String
  /-- What stands for the output directories in imports across them. -/
  importAlias : Option String
  emissionPolicy : EmissionPolicy
deriving DecidableEq, Repr

/-- The `app` section of a configuration that says nothing. -/
def AppSection.default : AppSection where
  generateSchema := true
  generatedDir := ".generated"
  sourceDir := "src"
  coreImport := "@contractc/core"
  importAlias := none
  emissionPolicy := .strict

structure RepositorySection where
  /-- The storage backend, such as `mongodb`. -/
  type : String
deriving DecidableEq, Repr

/-- The settings of a project (`CompilerConfig`). -/
structure Config where
  app : AppSection
  repository : RepositorySection
deriving DecidableEq, Repr

namespace Config

/-- The settings of a project without a configuration. -/
def default : Config := ⟨.default, ⟨""⟩⟩

/-- The texts are equal up to the case of ASCII letters. -/
def equalsIgnoringCase (a b : String) : Bool := a.toList.map Char.toLower == b.toList.map Char.toLower

/-- The storage backend that the repository type names (`storage_backend`). -/
def backend (c : Config) : StorageBackend :=
  if equalsIgnoringCase c.repository.type "mongodb" then .document else .generic

end Config

/-- What emission depends on besides the contracts (`EmitContext`). -/
structure EmissionContext where
  capabilities : CapabilitySet
  backend : StorageBackend
  coreImport : String
  policy : EmissionPolicy
deriving DecidableEq, Repr

namespace EmissionContext

/-- The context of a configuration. -/
def ofConfig (config : Config) (capabilities : CapabilitySet) : EmissionContext :=
  ⟨capabilities, config.backend, config.app.coreImport, config.app.emissionPolicy⟩

end EmissionContext

/-- Models of the infrastructure, which have no identity. -/
def isReservedModel (model : String) : Bool := model == "Migrations" || model == "Sessions"

namespace EmissionContext

/-- Stored models of this name are identified by an `ObjectId`. -/
def usesDocumentIdentity (ctx : EmissionContext) (model : String) : Bool :=
  ctx.backend == .document && !isReservedModel model

/-- The identity property of a model, if it has one. -/
def identityKey (ctx : EmissionContext) (model : String) : Option String :=
  if isReservedModel model then none
  else if ctx.usesDocumentIdentity model then some "_id"
  else some "id"

end EmissionContext

end ContractCompiler
