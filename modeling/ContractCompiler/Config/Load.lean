import ContractCompiler.Config.Basic
import ContractCompiler.Contract.Encoding
import ContractCompiler.Decode.Record
import ContractCompiler.Decode.Yaml
import ContractCompiler.Failure
import ContractCompiler.Files.Tree

/-!
# Loading configurations

A configuration is a YAML text, and so possibly a JSON text; a blank text is the default
configuration. A project may name a configuration file; without one it has the default
configuration.

Principal definitions: `Config.ofDocument` (`CompilerConfig.parse`), `Config.load`
(`CompilerConfig.load`).
-/

namespace ContractCompiler

/-! ## Records

Configurations are records with defaults for every member.
-/

open Decode

section Readers

variable {ν : Type} {m : Type → Type} [Monad m] [MonadExceptOf Fault m] [Source ν m]

def EmissionPolicy.read (n : ν) : m EmissionPolicy := do
  let name ← Source.choice n (EmissionPolicy.all.map EmissionPolicy.name)
  pure (.ofName name)

def AppSection.reader : RecordReader ν m AppSection where
  type := "AppSection"
  blank := .default
  members :=
    [.may "generateSchema" Source.flag fun v a => { a with generateSchema := v },
     .may "generatedDir" text fun v a => { a with generatedDir := v },
     .may "sourceDir" text fun v a => { a with sourceDir := v },
     .may "coreImport" text fun v a => { a with coreImport := v },
     .may "importAlias" (optional text) fun v a => { a with importAlias := v },
     .may "emissionPolicy" EmissionPolicy.read fun v a => { a with emissionPolicy := v }]
  other := ignored

def RepositorySection.reader : RecordReader ν m RepositorySection where
  type := "RepositorySection"
  blank := ⟨""⟩
  members := [.may "type" text fun v _ => ⟨v⟩]
  other := ignored

def Config.reader : RecordReader ν m Config where
  type := "CompilerConfig"
  blank := .default
  members :=
    [.may "app" AppSection.reader.read fun v c => { c with app := v },
     .may "repository" RepositorySection.reader.read fun v c => { c with repository := v }]
  other := ignored

def Config.read (n : ν) : m Config := Config.reader.read n

end Readers

def AppSection.toJson (a : AppSection) : Json :=
  .object
    [("generateSchema", .bool a.generateSchema), ("generatedDir", .string a.generatedDir),
     ("sourceDir", .string a.sourceDir), ("coreImport", .string a.coreImport),
     ("importAlias", Json.orNull .string a.importAlias),
     ("emissionPolicy", .string a.emissionPolicy.name)]

def Config.toJson (c : Config) : Json :=
  .object
    [("app", c.app.toJson), ("repository", .object [("type", .string c.repository.type)])]

/-! ## Documents and files -/

/-- The configuration that a text writes (`CompilerConfig.parse`). -/
def Config.ofDocument (text : String) : Except Decode.Fault Config :=
  if Text.isBlankText text then .ok .default else Yaml.Value.decode Config.read text

/-- The configuration of a project (`CompilerConfig.load`). -/
def Config.load (t : FileTree) : Option Path → Except Failure Config
  | none => .ok .default
  | some path =>
    match t.readText path with
    | .error e => .error (.file e)
    | .ok text =>
      match Config.ofDocument text with
      | .error f => .error (.yaml f)
      | .ok config => .ok config

end ContractCompiler
