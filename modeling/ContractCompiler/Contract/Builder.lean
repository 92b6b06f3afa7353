import ContractCompiler.Contract.Check

/-!
# Building contracts step by step

A `ContractStep` adds one thing to a contract under construction, a `FieldStep` changes a field.
`ContractBuilder.build` gives the contract when it is well formed.

The model of `ContractBuilder`, `FieldBuilder` and `MessageBuilder`.
-/

namespace ContractCompiler

/-- A change to a field. -/
inductive FieldStep where
  | nullable (value : Bool)
  | readOnly
  | unique
  | index
  | exclude
  | excludeToPlainOnly
  | array
  | repeated
  | defaultValue (value : Json)
  | objectType (type : String)
  | entityType (type : String)
  | resolver (name : String)
  | arrayType (type : TypeTag)
  | validation (v : Validation)
  | link (l : Link)
  | decorator (name : String) (d : Decorator)
  | transform (callback : String)
  | toPlain (callback : String)
  | afterValidation (callback : String)

/-- The field after one change: the methods of `FieldBuilder`. -/
def Field.apply (f : Field) : FieldStep → Field
  | .nullable v => { f with nullable := some v }
  | .readOnly => { f with readOnly := true }
  | .unique => { f with unique := true }
  | .index => { f with index := true }
  | .exclude => { f with exclude := true }
  | .excludeToPlainOnly => { f with exclude := true, toPlainOnly := true }
  | .array => { f with array := true }
  | .repeated => { f with protoRepeated := true }
  | .defaultValue v => { f with defaultValue := some v }
  | .objectType t => { f with objectType := some t }
  | .entityType t => { f with entityType := some t }
  | .resolver name => { f with resolver := some name }
  | .arrayType t => { f with arrayType := some t }
  | .validation v => { f with validations := f.validations ++ [v] }
  | .link l => { f with link := f.link ++ [l] }
  | .decorator name d => { f with decorators := f.decorators.put name d }
  | .transform cb => { f with transform := some cb }
  | .toPlain cb => { f with toPlain := some cb }
  | .afterValidation cb => { f with afterValidation := some cb }

/-- A field built from its key and the text of its type. -/
def Field.build (key type : String) (steps : List FieldStep) : Field :=
  steps.foldl Field.apply (Field.plain key (.ofString type))

inductive PropertyStep where
  | optional
  | arrayType (type : TypeTag)
  | repeated
  | defaultValue (value : Json)

def Property.apply (p : Property) : PropertyStep → Property
  | .optional => { p with required := some false }
  | .arrayType t => { p with arrayType := some t }
  | .repeated => { p with array := true }
  | .defaultValue v => { p with default := some v }

/-- A property built from the text of its type (`MessageProperty.new`). -/
def Property.build (type : String) (steps : List PropertyStep) : Property :=
  steps.foldl Property.apply (Property.plain (.ofString type))

/-- A message built from its properties; a repeated one replaces the earlier one in its place
(`MessageBuilder`). -/
def Message.build (name : String) (properties : List (String × Property)) : Message :=
  ⟨name, Table.ofEntries properties⟩

/-- An addition to a contract under construction. -/
inductive ContractStep where
  | field (f : Field)
  | message (m : Message)
  | service (s : Service)
  | index (name : String) (fields : List String)
  | cache (c : CacheOptions)
  | options (o : ContractOptions)
  | moduleContract
  | importing (source : String)

/-- A contract under construction. -/
structure ContractBuilder where
  draft : Contract

namespace ContractBuilder

/-- A builder of a contract without fields. -/
def new (contractName controllerName : String) : ContractBuilder := ⟨.named contractName controllerName⟩

def apply (b : ContractBuilder) : ContractStep → ContractBuilder
  | .field f => ⟨{ b.draft with fields := b.draft.fields ++ [f] }⟩
  | .message m => ⟨{ b.draft with messages := b.draft.messages ++ [m] }⟩
  | .service s => ⟨{ b.draft with services := b.draft.services ++ [s] }⟩
  | .index name fields => ⟨{ b.draft with indexes := b.draft.indexes ++ [⟨name, fields, none⟩] }⟩
  | .cache c => ⟨{ b.draft with cache := some c }⟩
  | .options o => ⟨{ b.draft with options := some o }⟩
  | .moduleContract =>
    ⟨{ b.draft with options := some { b.draft.options.getD .empty with moduleContract := true } }⟩
  | .importing source => ⟨{ b.draft with imports := b.draft.imports ++ [source] }⟩

/-- The contract, when it is well formed. -/
def build (b : ContractBuilder) : Except SchemaError Contract :=
  match b.draft.check with
  | .error e => .error e
  | .ok () => .ok b.draft

end ContractBuilder

end ContractCompiler
