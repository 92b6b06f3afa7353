import ContractCompiler.Collection.Keyed
import ContractCompiler.Json.Value
import ContractCompiler.Text.Case
import ContractCompiler.TypeTag.Basic

/-!
# Contracts

A contract describes one data model: its fields, the messages and services around it, storage
indexes, cache directives and options. Members that are tables keep the order of their
declaration.

The model of `Contract` and its parts, from `ValidationOption` to `ExtraOptions`.
-/

namespace ContractCompiler

/-- A validation by its bare name, or by a list of its name and parameters. -/
inductive ValidationKind where
  | name (name : String)
  | tuple (items : List Json)
deriving DecidableEq, Repr

/-- `ValidationOption`. -/
structure Validation where
  kind : ValidationKind
  /-- The parameter of a validation given by its bare name. -/
  value : Option Json
  /-- The failure message. -/
  message : Option String
  /-- Passed on to the validator. -/
  context : Option Json
deriving DecidableEq, Repr

namespace Validation

/-- A validation without parameter, message and context. -/
def ofKind (kind : ValidationKind) : Validation := ⟨kind, none, none, none⟩

/-- The name, when the validation has one. -/
def name? (v : Validation) : Option String :=
  match v.kind with
  | .name n => some n
  | .tuple (.string n :: _) => some n
  | .tuple _ => none

end Validation

/-- A reference of a field to another contract (`ContractLink`). -/
structure Link where
  /-- The name of the contract referred to. -/
  contract : String
  /-- The entity on the other side. -/
  entityName : Option String
  /-- The foreign key. -/
  field : String
  /-- The relation holds many entities. -/
  array : Bool
  /-- The storage layer creates the relationship. -/
  createRelationship : Bool
deriving DecidableEq, Repr

def Link.to (contract : String) : Link := ⟨contract, none, "", false, false⟩

/-- An annotation that the author of a contract asks for (`CustomDecorator`). -/
structure Decorator where
  /-- Where the annotation is imported from. -/
  source : String
  /-- Its single argument. -/
  options : Option Json
deriving DecidableEq, Repr

/-- One data attribute of a contract. -/
structure Field where
  propertyKey : String
  type : TypeTag
  /-- `some true` makes the field optional, `some false` marks it required. -/
  nullable : Option Bool
  readOnly : Bool
  unique : Bool
  index : Bool
  /-- The field is hidden from exposure. -/
  exclude : Bool
  /-- Hides the field only when a model is written out. -/
  toPlainOnly : Bool
  /-- A repeated field of the protocol. -/
  protoRepeated : Bool
  array : Bool
  defaultValue : Option Json
  /-- A type of generated code that replaces the mapped one. -/
  objectType : Option String
  /-- The name of the linked entity. -/
  entityType : Option String
  /-- The resolver of graph queries. -/
  resolver : Option String
  /-- The item type of a `simpleArray`. -/
  arrayType : Option TypeTag
  validations : List Validation
  link : List Link
  /-- Extra annotations by their names. -/
  decorators : Table Decorator
  /-- The callback that turns plain data into the field. -/
  transform : Option String
  /-- The callback that turns the field into plain data. -/
  toPlain : Option String
  /-- The callback that runs once validation has succeeded. -/
  afterValidation : Option String
deriving DecidableEq, Repr

namespace Field

/-- A field with nothing but a key and a type. -/
def plain (propertyKey : String) (type : TypeTag) : Field where
  propertyKey := propertyKey
  type := type
  nullable := none
  readOnly := false
  unique := false
  index := false
  exclude := false
  toPlainOnly := false
  protoRepeated := false
  array := false
  defaultValue := none
  objectType := none
  entityType := none
  resolver := none
  arrayType := none
  validations := []
  link := []
  decorators := []
  transform := none
  toPlain := none
  afterValidation := none

/-- The field may be absent or null. -/
def isNullable (f : Field) : Bool := f.nullable == some true

/-- The field was marked as not nullable. -/
def isRequired (f : Field) : Bool := f.nullable == some false

/-- The field is declared as a list (`Field.is_array`). -/
def isRepeated (f : Field) : Bool := f.protoRepeated || f.array

/-- The field may be left out of an object: it is nullable or has a default. -/
def isOptional (f : Field) : Bool := f.isNullable || f.defaultValue.isSome

end Field

/-- One property of a message (`MessageProperty`). -/
structure Property where
  type : TypeTag
  /-- `some false` makes the property optional. -/
  required : Option Bool
  /-- Where the transport finds the parameter. -/
  paramType : Option String
  /-- The item type of a `simpleArray`. -/
  arrayType : Option TypeTag
  default : Option Json
  protoRepeated : Bool
  array : Bool
deriving DecidableEq, Repr

namespace Property

/-- A required property with nothing but a type. -/
def plain (type : TypeTag) : Property := ⟨type, none, none, none, none, false, false⟩

/-- The property holds a list, by declaration or by its type (`MessageProperty.is_array`). -/
def isList (p : Property) : Bool := p.protoRepeated || p.array || p.type.isListLike

/-- The property may be left out. -/
def isOptional (p : Property) : Bool := p.required == some false

end Property

/-- A request or response shape. -/
structure Message where
  name : String
  properties : Table Property
deriving DecidableEq, Repr

/-- The verb of a service. -/
inductive HttpMethod where
  | get
  | post
  | put
  | delete
  | patch
  | options
deriving DecidableEq, Repr

namespace HttpMethod

def all : List HttpMethod := [get, post, put, delete, patch, options]

/-- The verb as written in a contract. -/
def name : HttpMethod → String
  | get => "GET"
  | post => "POST"
  | put => "PUT"
  | delete => "DELETE"
  | patch => "PATCH"
  | options => "OPTIONS"

/-- The verb with the given name; `get` for any other text. -/
def ofName (s : String) : HttpMethod := (all.find? fun m => m.name == s).getD get

end HttpMethod

structure CacheOptions where
  /-- What cache keys begin with. -/
  key : String
  /-- Time to live in seconds. -/
  ttl : Option UInt64
  compress : Bool
deriving DecidableEq, Repr

/-- An endpoint. -/
structure Service where
  name : String
  path : String
  method : HttpMethod
  request : String
  response : String
  cache : Option CacheOptions
  auth : Bool
  rootOnly : Bool
  functionName : Option String
  createBoilerplate : Bool
deriving DecidableEq, Repr

structure Index where
  name : String
  fields : List String
  options : Option Json
deriving DecidableEq, Repr

/-- `ExtraOptions`. -/
structure ContractOptions where
  /-- The model lives in the project's source tree. -/
  moduleContract : Bool
  /-- The table or collection of the model. -/
  databaseSchemaName : Option String
  databaseTimestamps : Bool
  databaseUserAction : Bool
  tags : List String
  /-- Everything else, as written. -/
  extra : Table Json
deriving DecidableEq, Repr

def ContractOptions.empty : ContractOptions := ⟨false, none, false, false, [], []⟩

/-- The unit of compilation. -/
structure Contract where
  contractName : String
  /-- Names the model and its file. -/
  controllerName : String
  fields : List Field
  messages : List Message
  services : List Service
  indexes : List Index
  cache : Option CacheOptions
  options : Option ContractOptions
  /-- Modules that the generated code imports on request. -/
  imports : List String
deriving DecidableEq, Repr

namespace Contract

/-- A contract with nothing but its names. -/
def named (contractName controllerName : String) : Contract :=
  ⟨contractName, controllerName, [], [], [], [], none, none, []⟩

/-- The ending of generated names (`CONTRACT_SUFFIX`). -/
def nameEnding : String := "Contract"

/-- The contract's name, ending in `Contract`. -/
def generatedName (c : Contract) : String :=
  if nameEnding.toList.isSuffixOf c.contractName.toList then c.contractName
  else c.contractName ++ nameEnding

/-- The name of the generated model class. -/
def modelName (c : Contract) : String := c.controllerName

def interfaceName (c : Contract) : String := "I" ++ c.controllerName

/-- The name of the model's file without its ending. -/
def fileStem (c : Contract) : String := Text.lowercase c.controllerName ++ ".model"

/-- The model lives in the project's source tree. -/
def isModuleContract (c : Contract) : Bool :=
  match c.options with
  | some o => o.moduleContract
  | none => false

end Contract

end ContractCompiler
