import ContractCompiler.Contract.Basic

/-!
# Contracts as JSON values

Members stand in declaration order. A member that is absent, false or empty is left out where
reading gives it that value again; the lists of a contract itself are always written, and so are
its cache and its options, as `null` when there are none.
-/

namespace ContractCompiler

namespace Json

/-- A member that is always written. -/
def always (name : String) (value : Json) : List (String × Json) := [(name, value)]

/-- A member that is written when there is a value. -/
def whenSome {α : Type} (name : String) (write : α → Json) : Option α → List (String × Json)
  | some a => [(name, write a)]
  | none => []

/-- A flag that is written when it is set. -/
def whenTrue (name : String) (flag : Bool) : List (String × Json) :=
  if flag then [(name, .bool true)] else []

/-- A list that is written when it has items. -/
def whenAny {α : Type} (name : String) (write : α → Json) : List α → List (String × Json)
  | [] => []
  | items => [(name, .array (items.map write))]

/-- A value or `null`. -/
def orNull {α : Type} (write : α → Json) : Option α → Json
  | some a => write a
  | none => .null

/-- A table as an object. -/
def ofTable {α : Type} (write : α → Json) (t : Table α) : Json := .object (t.map fun e => (e.1, write e.2))

end Json

def TypeTag.toJson (t : TypeTag) : Json := .string t.tag

def ValidationKind.toJson : ValidationKind → Json
  | name n => .string n
  | tuple items => .array items

/-- A validation as a value; its kind is called `type`. -/
def Validation.toJson (v : Validation) : Json :=
  .object
    (Json.always "type" v.kind.toJson ++ Json.whenSome "value" id v.value ++
      Json.whenSome "message" .string v.message ++ Json.whenSome "context" id v.context)

def Link.toJson (l : Link) : Json :=
  .object
    (Json.always "contract" (.string l.contract) ++ Json.whenSome "entityName" .string l.entityName ++
      Json.always "field" (.string l.field) ++ Json.whenTrue "array" l.array ++
      Json.whenTrue "createRelationship" l.createRelationship)

def Decorator.toJson (d : Decorator) : Json :=
  .object (Json.always "import" (.string d.source) ++ Json.whenSome "options" id d.options)

/-- The members of a field's table of decorators. -/
def Field.decoratorMembers (f : Field) : List (String × Json) :=
  match f.decorators with
  | [] => []
  | t => [("customDecorator", Json.ofTable Decorator.toJson t)]

def Field.toJson (f : Field) : Json :=
  .object
    (Json.always "propertyKey" (.string f.propertyKey) ++ Json.always "protoType" f.type.toJson ++
      Json.whenSome "nullable" .bool f.nullable ++ Json.whenTrue "readOnly" f.readOnly ++
      Json.whenTrue "unique" f.unique ++ Json.whenTrue "index" f.index ++
      Json.whenTrue "exclude" f.exclude ++ Json.whenTrue "toPlainOnly" f.toPlainOnly ++
      Json.whenTrue "protoRepeated" f.protoRepeated ++ Json.whenTrue "array" f.array ++
      Json.whenSome "defaultValue" id f.defaultValue ++
      Json.whenSome "objectType" .string f.objectType ++
      Json.whenSome "entityType" .string f.entityType ++ Json.whenSome "resolver" .string f.resolver ++
      Json.whenSome "arrayType" TypeTag.toJson f.arrayType ++
      Json.whenAny "validations" Validation.toJson f.validations ++
      Json.whenAny "link" Link.toJson f.link ++ f.decoratorMembers ++
      Json.whenSome "transform" .string f.transform ++ Json.whenSome "toPlain" .string f.toPlain ++
      Json.whenSome "afterValidation" .string f.afterValidation)

def Property.toJson (p : Property) : Json :=
  .object
    (Json.always "type" p.type.toJson ++ Json.whenSome "required" .bool p.required ++
      Json.whenSome "paramType" .string p.paramType ++
      Json.whenSome "arrayType" TypeTag.toJson p.arrayType ++ Json.whenSome "default" id p.default ++
      Json.whenTrue "protoRepeated" p.protoRepeated ++ Json.whenTrue "array" p.array)

def Message.toJson (m : Message) : Json :=
  .object
    (Json.always "name" (.string m.name) ++
      Json.always "properties" (Json.ofTable Property.toJson m.properties))

def CacheOptions.toJson (c : CacheOptions) : Json :=
  .object
    (Json.always "key" (.string c.key) ++ Json.whenSome "ttl" Json.ofWord c.ttl ++
      Json.whenTrue "compress" c.compress)

def Service.toJson (s : Service) : Json :=
  .object
    (Json.always "name" (.string s.name) ++ Json.always "path" (.string s.path) ++
      Json.always "method" (.string s.method.name) ++ Json.always "request" (.string s.request) ++
      Json.always "response" (.string s.response) ++
      Json.whenSome "cache" CacheOptions.toJson s.cache ++ Json.whenTrue "auth" s.auth ++
      Json.whenTrue "rootOnly" s.rootOnly ++ Json.whenSome "functionName" .string s.functionName ++
      Json.whenTrue "createBoilerplate" s.createBoilerplate)

def Index.toJson (i : Index) : Json :=
  .object
    (Json.always "name" (.string i.name) ++ Json.always "fields" (.array (i.fields.map .string)) ++
      Json.whenSome "options" id i.options)

/-- Options as a value; members that the library does not know stand last. -/
def ContractOptions.toJson (o : ContractOptions) : Json :=
  .object
    (Json.whenTrue "moduleContract" o.moduleContract ++
      Json.whenSome "databaseSchemaName" .string o.databaseSchemaName ++
      Json.whenTrue "databaseTimestamps" o.databaseTimestamps ++
      Json.whenTrue "databaseUserAction" o.databaseUserAction ++
      Json.whenAny "tags" .string o.tags ++ o.extra)

def Contract.toJson (c : Contract) : Json :=
  .object
    (Json.always "contractName" (.string c.contractName) ++
      Json.always "controllerName" (.string c.controllerName) ++
      Json.always "fields" (.array (c.fields.map Field.toJson)) ++
      Json.always "messages" (.array (c.messages.map Message.toJson)) ++
      Json.always "services" (.array (c.services.map Service.toJson)) ++
      Json.always "indexs" (.array (c.indexes.map Index.toJson)) ++
      Json.always "cache" (Json.orNull CacheOptions.toJson c.cache) ++
      Json.always "options" (Json.orNull ContractOptions.toJson c.options) ++
      Json.always "imports" (.array (c.imports.map .string)))

end ContractCompiler
