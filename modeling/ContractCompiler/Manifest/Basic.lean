import ContractCompiler.Collection.Keyed
import ContractCompiler.Config.Basic
import ContractCompiler.Contract.Basic
import ContractCompiler.Contract.Encoding
import ContractCompiler.Contract.Reading
import ContractCompiler.Decode.JsonText
import ContractCompiler.Decode.Yaml
import ContractCompiler.Yaml.Printer

/-!
# The schema manifest

One document that describes every contract of a set, by its name and in registration order, and the
optional modules of the project. It is written as JSON and as YAML, and read back from either.

Principal definitions: `Manifest.build`, `Manifest.jsonText` (`to_json`), `Manifest.yamlText`
(`to_yaml`).
-/

namespace ContractCompiler

/-- The optional modules that a manifest records. -/
structure ManifestModules where
  auth : Bool
  graphql : Bool
  rpc : Bool
  openapi : Bool
  cache : Bool
  repository : Bool
  vault : Bool
deriving DecidableEq, Repr

/-- What a manifest records of a capability set. -/
def ManifestModules.ofCapabilities (c : CapabilitySet) : ManifestModules where
  auth := c.auth
  graphql := c.graphql
  rpc := c.rpc
  openapi := c.openapi
  cache := c.cache
  repository := c.repository
  vault := c.vault

/-- The manifest of a contract set. -/
structure Manifest where
  /-- The contracts by their names. -/
  contracts : Table Contract
  modules : ManifestModules
deriving DecidableEq, Repr

/-- The manifest of a list of contracts. A repeated contract name keeps its first place and its last
contract. -/
def Manifest.build (contracts : List Contract) (capabilities : CapabilitySet) : Manifest where
  contracts := Table.ofEntries (contracts.map fun c => (c.contractName, c))
  modules := .ofCapabilities capabilities

/-! ## Records

A manifest is a record of two members, the contracts and the module flags; every member has to be
there.
-/

open Decode

section Readers

variable {ν : Type} {m : Type → Type} [Monad m] [MonadExceptOf Fault m] [Source ν m]

def ManifestModules.reader : RecordReader ν m ManifestModules where
  type := "ManifestModules"
  blank := ⟨false, false, false, false, false, false, false⟩
  members :=
    [.must "auth" Source.flag fun v m => { m with auth := v },
     .must "graphql" Source.flag fun v m => { m with graphql := v },
     .must "rpc" Source.flag fun v m => { m with rpc := v },
     .must "openapi" Source.flag fun v m => { m with openapi := v },
     .must "cache" Source.flag fun v m => { m with cache := v },
     .must "repository" Source.flag fun v m => { m with repository := v },
     .must "vault" Source.flag fun v m => { m with vault := v }]
  other := ignored

def Manifest.reader : RecordReader ν m Manifest where
  type := "Manifest"
  blank := ⟨[], ⟨false, false, false, false, false, false, false⟩⟩
  members :=
    [.must "contracts" (tableOf Contract.read) fun v m => { m with contracts := v },
     .must "modules" ManifestModules.reader.read fun v m => { m with modules := v }]
  other := ignored

def Manifest.read (n : ν) : m Manifest := Manifest.reader.read n

end Readers

def ManifestModules.toJson (m : ManifestModules) : Json :=
  .object
    [("auth", .bool m.auth), ("graphql", .bool m.graphql), ("rpc", .bool m.rpc),
     ("openapi", .bool m.openapi), ("cache", .bool m.cache), ("repository", .bool m.repository),
     ("vault", .bool m.vault)]

def Manifest.toJson (m : Manifest) : Json :=
  .object
    [("contracts", Json.ofTable Contract.toJson m.contracts), ("modules", m.modules.toJson)]

/-! ## Documents -/

namespace Manifest

/-- The manifest as JSON, indented by two spaces (`to_json`). -/
def jsonText (m : Manifest) : String := m.toJson.pretty

/-- The manifest as YAML (`to_yaml`). -/
def yamlText (m : Manifest) : String := Yaml.render m.toJson

/-- The manifest that a JSON text writes. -/
def ofJsonText (text : String) : Except Fault Manifest := Json.Raw.decode Manifest.read text

/-- The manifest that a YAML text writes. -/
def ofYamlText (text : String) : Except Fault Manifest := Yaml.Value.decode Manifest.read text

end Manifest

end ContractCompiler
