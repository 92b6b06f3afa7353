import ContractCompiler.Contract.Basic
import ContractCompiler.Contract.Check
import ContractCompiler.Decode.Json
import ContractCompiler.Decode.Record
import ContractCompiler.Decode.Yaml

/-!
# Reading contracts

Each type of a contract is a record that can be read from every format of documents. Unknown members
are passed over, except among the options of a contract, which keep them. A value is loaded in three
steps: its outline is checked, it is read as a contract, and the contract is checked. A document
holds one contract or a list of them, each with a verdict of its own.

Principal definitions: `Contract.reader`, `Contract.load` (`load_contract_value`),
`Contract.ofDocument` (`parse_contracts`).
-/

namespace ContractCompiler

open Decode

/-- A validation seen so far: its members in the keyed form (`RawValidation`). -/
structure ValidationDraft where
  kind : Option ValidationKind
  value : Option (Option Json)
  message : Option (Option String)
  context : Option (Option Json)

namespace ValidationKind

/-- The kind that a content writes: a name, or a list that starts with one. -/
def ofContent? : Content → Option ValidationKind
  | .string n => some (name n)
  | .list items =>
    match Content.itemsToJson items with
    | .ok values => some (tuple values)
    | .error _ => none
  | _ => none

end ValidationKind

namespace ValidationDraft

def empty : ValidationDraft := ⟨none, none, none, none⟩

/-- The members of the keyed form. -/
inductive Slot where
  | kind
  | value
  | message
  | context
  | other

/-- The member that a key names, by its name or its position. -/
def slot? : Content → Option Slot
  | .string s =>
    if s = "type" || s = "name" then some .kind
    else if s = "value" then some .value
    else if s = "message" then some .message
    else if s = "context" then some .context
    else some .other
  | .number (.integer i _) =>
    if i < 0 then none
    else if i = 0 then some .kind
    else if i = 1 then some .value
    else if i = 2 then some .message
    else if i = 3 then some .context
    else some .other
  | _ => none

/-- A value that may be absent. -/
def json? : Content → Option (Option Json)
  | .unit => some none
  | c =>
    match c.toJson with
    | .ok v => some (some v)
    | .error _ => none

/-- A text that may be absent. -/
def text? : Content → Option (Option String)
  | .unit => some none
  | .string s => some (some s)
  | _ => none

/-- Fills a slot that is still empty. -/
def fill (d : ValidationDraft) : Slot → Content → Option ValidationDraft
  | .kind, c =>
    match d.kind, ValidationKind.ofContent? c with
    | none, some k => some { d with kind := some k }
    | _, _ => none
  | .value, c =>
    match d.value, json? c with
    | none, some v => some { d with value := some v }
    | _, _ => none
  | .message, c =>
    match d.message, text? c with
    | none, some m => some { d with message := some m }
    | _, _ => none
  | .context, c =>
    match d.context, json? c with
    | none, some v => some { d with context := some v }
    | _, _ => none
  | .other, _ => some d

/-- Fills in the entries of a map in order. -/
def fillAll (d : ValidationDraft) : List (Content × Content) → Option ValidationDraft
  | [] => some d
  | (k, c) :: rest =>
    match slot? k with
    | none => none
    | some s =>
      match d.fill s c with
      | none => none
      | some d => d.fillAll rest

/-- The validation, once its kind is known. -/
def finish? (d : ValidationDraft) : Option Validation :=
  d.kind.map fun k => ⟨k, d.value.join, d.message.join, d.context.join⟩

end ValidationDraft

namespace Validation

/-- The validation that a content writes: a bare name, a list of a name and its parameters, or a
record. -/
def ofContent? : Content → Option Validation
  | .string n => some (ofKind (.name n))
  | .list items =>
    match Content.itemsToJson items with
    | .ok values => some (ofKind (.tuple values))
    | .error _ => none
  | .map entries => (ValidationDraft.empty.fillAll entries).bind ValidationDraft.finish?
  | _ => none

end Validation

section Readers

variable {ν : Type} {m : Type → Type} [Monad m] [MonadExceptOf Fault m] [Source ν m]

def TypeTag.read (n : ν) : m TypeTag := do
  let tag ← text n
  pure (.ofString tag)

/-- Reads a validation in any of its shapes. -/
def Validation.read (n : ν) : m Validation := do
  let content ← Source.content n
  match Validation.ofContent? content with
  | some v => pure v
  | none => throw (.of (.noShape "RawValidation"))

def Link.reader : RecordReader ν m Link where
  type := "ContractLink"
  blank := Link.to ""
  members :=
    [.must "contract" text fun v l => { l with contract := v },
     .may "entityName" (optional text) fun v l => { l with entityName := v },
     .may "field" text fun v l => { l with field := v },
     .may "array" Source.flag fun v l => { l with array := v },
     .may "createRelationship" Source.flag fun v l => { l with createRelationship := v }]
  other := ignored

def Decorator.reader : RecordReader ν m Decorator where
  type := "CustomDecorator"
  blank := ⟨"", none⟩
  members :=
    [.must "import" text fun v d => { d with source := v },
     .may "options" (optional Source.json) fun v d => { d with options := v }]
  other := ignored

def Field.reader : RecordReader ν m Field where
  type := "Field"
  blank := Field.plain "" (.known .string)
  members :=
    [.must "propertyKey" text fun v f => { f with propertyKey := v },
     .must "protoType" TypeTag.read fun v f => { f with type := v },
     .may "nullable" (optional Source.flag) fun v f => { f with nullable := v },
     .may "readOnly" Source.flag fun v f => { f with readOnly := v },
     .may "unique" Source.flag fun v f => { f with unique := v },
     .may "index" Source.flag fun v f => { f with index := v },
     .may "exclude" Source.flag fun v f => { f with exclude := v },
     .may "toPlainOnly" Source.flag fun v f => { f with toPlainOnly := v },
     .may "protoRepeated" Source.flag fun v f => { f with protoRepeated := v },
     .may "array" Source.flag fun v f => { f with array := v },
     .may "defaultValue" (optional Source.json) fun v f => { f with defaultValue := v },
     .may "objectType" (optional text) fun v f => { f with objectType := v },
     .may "entityType" (optional text) fun v f => { f with entityType := v },
     .may "resolver" (optional text) fun v f => { f with resolver := v },
     .may "arrayType" (optional TypeTag.read) fun v f => { f with arrayType := v },
     .may "validations" (listOf Validation.read) fun v f => { f with validations := v },
     .may "link" (listOf Link.reader.read) fun v f => { f with link := v },
     .may "customDecorator" (tableOf Decorator.reader.read) fun v f => { f with decorators := v },
     .may "transform" (optional text) fun v f => { f with transform := v },
     .may "toPlain" (optional text) fun v f => { f with toPlain := v },
     .may "afterValidation" (optional text) fun v f => { f with afterValidation := v }]
  other := ignored

def Property.reader : RecordReader ν m Property where
  type := "MessageProperty"
  blank := Property.plain (.known .string)
  members :=
    [.must "type" TypeTag.read fun v p => { p with type := v },
     .may "required" (optional Source.flag) fun v p => { p with required := v },
     .may "paramType" (optional text) fun v p => { p with paramType := v },
     .may "arrayType" (optional TypeTag.read) fun v p => { p with arrayType := v },
     .may "default" (optional Source.json) fun v p => { p with default := v },
     .may "protoRepeated" Source.flag fun v p => { p with protoRepeated := v },
     .may "array" Source.flag fun v p => { p with array := v }]
  other := ignored

def Message.reader : RecordReader ν m Message where
  type := "Message"
  blank := ⟨"", []⟩
  members :=
    [.must "name" text fun v m => { m with name := v },
     .may "properties" (tableOf Property.reader.read) fun v m => { m with properties := v }]
  other := ignored

def HttpMethod.read (n : ν) : m HttpMethod := do
  let name ← Source.choice n (HttpMethod.all.map HttpMethod.name)
  pure (.ofName name)

def CacheOptions.reader : RecordReader ν m CacheOptions where
  type := "CacheOptions"
  blank := ⟨"", none, false⟩
  members :=
    [.must "key" text fun v c => { c with key := v },
     .may "ttl" (optional Source.word) fun v c => { c with ttl := v },
     .may "compress" Source.flag fun v c => { c with compress := v }]
  other := ignored

def Service.reader : RecordReader ν m Service where
  type := "Service"
  blank := ⟨"", "", .get, "", "", none, false, false, none, false⟩
  members :=
    [.must "name" text fun v s => { s with name := v },
     .must "path" text fun v s => { s with path := v },
     .must "method" HttpMethod.read fun v s => { s with method := v },
     .must "request" text fun v s => { s with request := v },
     .must "response" text fun v s => { s with response := v },
     .may "cache" (optional CacheOptions.reader.read) fun v s => { s with cache := v },
     .may "auth" Source.flag fun v s => { s with auth := v },
     .may "rootOnly" Source.flag fun v s => { s with rootOnly := v },
     .may "functionName" (optional text) fun v s => { s with functionName := v },
     .may "createBoilerplate" Source.flag fun v s => { s with createBoilerplate := v }]
  other := ignored

def Index.reader : RecordReader ν m Index where
  type := "Index"
  blank := ⟨"", [], none⟩
  members :=
    [.must "name" text fun v i => { i with name := v },
     .must "fields" (listOf text) fun v i => { i with fields := v },
     .may "options" (optional Source.json) fun v i => { i with options := v }]
  other := ignored

/-- Options read so far, and the contents of the members that are not known. -/
structure OptionsDraft where
  options : ContractOptions
  extra : List (String × Content)

/-- Keeps a member that is not known. -/
def OptionsDraft.keep (name : String) (n : ν) : m (OptionsDraft → OptionsDraft) := do
  let content ← Source.content n
  pure fun d => { d with extra := d.extra ++ [(name, content)] }

/-- A known member of the options. -/
def OptionsDraft.member {β : Type} (name : String) (read : ν → m β)
    (set : β → ContractOptions → ContractOptions) : Member ν m OptionsDraft :=
  .may name read fun v d => { d with options := set v d.options }

/-- Contract options, with the members that are not known still to be turned into values. -/
def OptionsDraft.reader : RecordReader ν m OptionsDraft where
  type := "ExtraOptions"
  blank := ⟨.empty, []⟩
  members :=
    [OptionsDraft.member "moduleContract" Source.flag fun v o => { o with moduleContract := v },
     OptionsDraft.member "databaseSchemaName" (optional text) fun v o => { o with databaseSchemaName := v },
     OptionsDraft.member "databaseTimestamps" Source.flag fun v o => { o with databaseTimestamps := v },
     OptionsDraft.member "databaseUserAction" Source.flag fun v o => { o with databaseUserAction := v },
     OptionsDraft.member "tags" (listOf text) fun v o => { o with tags := v }]
  other := OptionsDraft.keep

/-- The values of the members that are not known. -/
def OptionsDraft.values : List (String × Content) → Except Fault (List (String × Json))
  | [] => .ok []
  | (name, c) :: rest =>
    match c.toJson with
    | .error f => .error f
    | .ok v =>
      match OptionsDraft.values rest with
      | .error f => .error f
      | .ok vs => .ok ((name, v) :: vs)

/-- Reads contract options; only keyed entries will do. -/
def ContractOptions.read (n : ν) : m ContractOptions := do
  let draft ← OptionsDraft.reader.readKeyed n
  let entries ← within n (MonadExcept.ofExcept (OptionsDraft.values draft.extra))
  pure { draft.options with extra := Table.ofEntries entries }

def Contract.reader : RecordReader ν m Contract where
  type := "Contract"
  blank := Contract.named "" ""
  members :=
    [.must "contractName" text fun v c => { c with contractName := v },
     .must "controllerName" text fun v c => { c with controllerName := v },
     .must "fields" (listOf Field.reader.read) fun v c => { c with fields := v },
     .may "messages" (listOf Message.reader.read) fun v c => { c with messages := v },
     .may "services" (listOf Service.reader.read) fun v c => { c with services := v },
     (.may "indexs" (listOf Index.reader.read) fun v c => { c with indexes := v } :
        Member ν m Contract).orNamed "indexes",
     .may "cache" (optional CacheOptions.reader.read) fun v c => { c with cache := v },
     .may "options" (optional ContractOptions.read) fun v c => { c with options := v },
     .may "imports" (listOf text) fun v c => { c with imports := v }]
  other := ignored

def Contract.read (n : ν) : m Contract := Contract.reader.read n

end Readers

/-! ## Loading -/

namespace Contract

/-- The contract that a value describes (`load_contract_value`). -/
def load (v : Json) : Except SchemaError Contract :=
  match v.checkContract with
  | .error e => .error e
  | .ok () =>
    match Contract.read v with
    | .error f => .error (.malformed f)
    | .ok c =>
      match c.check with
      | .error e => .error e
      | .ok () => .ok c

/-- The contracts of a document's value in order: those of a list, none of `null`, else the value
itself. -/
def loadAll : Json → List (Except SchemaError Contract)
  | .array items => items.map load
  | .null => []
  | v => [load v]

/-- The contracts of a document in order, each with a verdict of its own (`parse_contracts`). -/
def ofDocument (text : String) : Except Decode.Fault (List (Except SchemaError Contract)) :=
  match Yaml.Value.decode Yaml.Value.toJson text with
  | .error f => .error f
  | .ok v => .ok (loadAll v)

end Contract

end ContractCompiler
