import ContractCompiler.Decode.Fault

/-!
# Failures

What a compilation can end with (`AppError`), and how it is told to the user. A contract, a part of a
module and an operation on files have reasons of their own.
-/

namespace ContractCompiler

/-! ## What is wrong with a contract

A `SchemaError` says why a contract cannot be compiled at all, whatever its fields hold.
-/

/-- Why a contract is refused. The contract is named by its `contractName`. -/
inductive SchemaError where
  | notAnObject
  | contractNameRequired
  | controllerNameRequired (contract : String)
  | fieldsRequired (contract : String)
  | fieldsNotAnArray (contract : String)
  | malformed (fault : Decode.Fault)
  | propertyKeyRequired (contract : String)
  | duplicatePropertyKey (key contract : String)
  | unknownLink (field target contract : String)
  | entityMismatch (field entity model contract : String)
deriving DecidableEq, Repr

namespace SchemaError

/-- The contract in parentheses. -/
def inContract (contract : String) : String := " (contract '" ++ contract ++ "')"

/-- The text of the error. -/
def text : SchemaError → String
  | notAnObject => "contract must be an object"
  | contractNameRequired => "contractName is required"
  | controllerNameRequired c => "controllerName is required" ++ inContract c
  | fieldsRequired c => "fields is required" ++ inContract c
  | fieldsNotAnArray c => "fields must be an array" ++ inContract c
  | malformed fault => "malformed contract: " ++ fault.message.getD ""
  | propertyKeyRequired c => "field propertyKey is required" ++ inContract c
  | duplicatePropertyKey key c => "duplicate propertyKey '" ++ key ++ "'" ++ inContract c
  | unknownLink field target c =>
    "field '" ++ field ++ "' links to unknown contract '" ++ target ++ "'" ++ inContract c
  | entityMismatch field entity model c =>
    "field '" ++ field ++ "' declares entityType '" ++ entity ++ "' but links to '" ++ model ++
      "'" ++ inContract c

end SchemaError

/-! ## Why a part of a module cannot be emitted

An `EmissionError` names the field, message or property that fails and the cause.
-/

inductive EmissionCause where
  | invalidPropertyKey
  | unresolvedLink
  | badDecoration (name : String)
  | namelessValidation
  | invalidValidation (name : String)
  | invalidMessageName
  | invalidMessageProperty (message : String)
deriving DecidableEq, Repr

def EmissionCause.text : EmissionCause → String
  | invalidPropertyKey => "propertyKey is not a valid identifier"
  | unresolvedLink => "linked field has no resolved target"
  | badDecoration name => "custom annotation '" ++ name ++ "' is not a valid identifier"
  | namelessValidation => "validation has no name"
  | invalidValidation name => "validation '" ++ name ++ "' is not a valid identifier"
  | invalidMessageName => "message name is not a valid identifier"
  | invalidMessageProperty message => "property of message '" ++ message ++ "' is not a valid identifier"

/-- A field, message or property that cannot be emitted. -/
structure EmissionError where
  field : String
  cause : EmissionCause
deriving DecidableEq, Repr

def EmissionError.text (e : EmissionError) : String :=
  "Emission Error on field '" ++ e.field ++ "': " ++ e.cause.text

/-! ## Errors of the file system

What an operation on files can fail with, in the system's own words.
-/

/-- Why an operation on a path failed. -/
inductive FileError where
  | notFound
  | alreadyExists
  | notADirectory
  | isADirectory
  | nameTooLong
  /-- The file holds no text. -/
  | notText
  /-- The path holds a character that no path can hold. -/
  | invalidPath
deriving DecidableEq, Repr

def FileError.text : FileError → String
  | notFound => "No such file or directory (os error 2)"
  | alreadyExists => "File exists (os error 17)"
  | notADirectory => "Not a directory (os error 20)"
  | isADirectory => "Is a directory (os error 21)"
  | nameTooLong => "File name too long (os error 36)"
  | notText => "stream did not contain valid UTF-8"
  | invalidPath => "file name contained an unexpected NUL byte"

/-! ## Failures of every kind -/

/-- A failure that concerns the run as a whole. -/
inductive GeneralError where
  | unreadableEntry (path : String) (error : FileError)
  | artifactsFailed (count : Nat)
  | contractsInvalid (count : Nat)
deriving DecidableEq, Repr

def GeneralError.text : GeneralError → String
  | unreadableEntry path e => "IO error for operation on " ++ path ++ ": " ++ e.text
  | artifactsFailed n => toString n ++ " artifact(s) failed"
  | contractsInvalid n => toString n ++ " contract(s) invalid"

/-- Why an artifact, a document or a run failed (`AppError`). -/
inductive Failure where
  | schema (error : SchemaError)
  | emission (error : EmissionError)
  | json (fault : Decode.Fault)
  | yaml (fault : Decode.Fault)
  | file (error : FileError)
  | general (error : GeneralError)
deriving DecidableEq, Repr

namespace Failure

/-- The text shown to the user. A document that cannot be read has no further description. -/
def message : Failure → String
  | schema e => "Schema Error: " ++ e.text
  | emission e => e.text
  | json f => "JSON Error: " ++ f.message.getD "unreadable document"
  | yaml f => "YAML Error: " ++ f.message.getD "unreadable document"
  | file e => "IO Error: " ++ e.text
  | general e => "General Error: " ++ e.text

/-- The contract itself is at fault. -/
def isSchema : Failure → Bool
  | schema _ => true
  | _ => false

end Failure

end ContractCompiler
