import ContractCompiler.Collection.Keyed

/-!
# Imports of a generated module

An `ImportSet` collects the names that a module needs, by where they come from. Its statements come
in a fixed order with sorted names, so the import block depends on the set alone. A
`ImportRequest` is one thing that emitted code asks for.

The model of `ImportSet`, whose methods from `core` to `linked` are the requests.
-/

namespace ContractCompiler

/-- The names that a module needs. -/
structure ImportSet where
  /-- What the core is imported from. -/
  coreImport : String
  core : NameSet
  transformer : NameSet
  validator : NameSet
  openapi : NameSet
  graphql : NameSet
  /-- The identity type of the document store is needed. -/
  storage : Bool
  /-- Names from sources that contracts give. -/
  custom : OrderedMap NameSet
  /-- Whole modules: the source of each binding. -/
  namespaces : OrderedMap String
  /-- Names from the modules of linked models, in the order of their first request. -/
  linked : List (String × List String)
deriving DecidableEq, Repr

/-- One thing that emitted code needs. -/
inductive ImportRequest where
  | core (name : String)
  | transformer (name : String)
  | validator (name : String)
  | openapi (name : String)
  | graphql (name : String)
  | storage
  | custom (source name : String)
  | wholeModule (binding source : String)
  | linked (specifier : String) (names : List String)
deriving DecidableEq, Repr

namespace ImportSet

def empty (coreImport : String) : ImportSet :=
  ⟨coreImport, .empty, .empty, .empty, .empty, .empty, false, .empty, .empty, []⟩

/-- Appends the names that are not there yet, one by one. -/
def appendMissing (present : List String) (names : List String) : List String :=
  names.foldl (fun acc n => if acc.contains n then acc else acc ++ [n]) present

/-- Adds names from a linked module. -/
def insertLinked (specifier : String) (names : List String) :
    List (String × List String) → List (String × List String)
  | [] => [(specifier, names)]
  | (s, present) :: rest =>
    if s = specifier then (s, appendMissing present names) :: rest
    else (s, present) :: insertLinked specifier names rest

/-- The set with one more request. A name asked for from the core's own source is a core name. -/
def add (s : ImportSet) : ImportRequest → ImportSet
  | .core name => { s with core := s.core.insert name }
  | .transformer name => { s with transformer := s.transformer.insert name }
  | .validator name => { s with validator := s.validator.insert name }
  | .openapi name => { s with openapi := s.openapi.insert name }
  | .graphql name => { s with graphql := s.graphql.insert name }
  | .storage => { s with storage := true }
  | .custom source name =>
    if source = s.coreImport then { s with core := s.core.insert name }
    else
      { s with custom := s.custom.insertWith NameSet.union source (NameSet.insert name .empty) }
  | .wholeModule binding source =>
    { s with namespaces := s.namespaces.insertWith (fun _ new => new) binding source }
  | .linked specifier names => { s with linked := insertLinked specifier names s.linked }

/-- The set with every request of a list, in order. -/
def addAll (s : ImportSet) (requests : List ImportRequest) : ImportSet := requests.foldl add s

/-- What every module imports (`ImportSet.new`). -/
def base (coreImport : String) : ImportSet :=
  (empty coreImport).addAll
    [.core "AbstractModel", .transformer "Expose", .transformer "plainToInstance"]

/-- The names of both sets. Core names stay core names, whatever their source is called. -/
def merge (s t : ImportSet) : ImportSet where
  coreImport := s.coreImport
  core := s.core.union t.core
  transformer := s.transformer.union t.transformer
  validator := s.validator.union t.validator
  openapi := s.openapi.union t.openapi
  graphql := s.graphql.union t.graphql
  storage := s.storage || t.storage
  custom := s.custom.mergeWith NameSet.union t.custom
  namespaces := s.namespaces.mergeWith (fun _ new => new) t.namespaces
  linked := t.linked.foldl (fun acc e => insertLinked e.1 e.2 acc) s.linked

end ImportSet

/-- A name as exported by its source, and as bound in the module. -/
structure ImportedName where
  name : String
  binding : String
deriving DecidableEq, Repr

/-- A name that keeps its own name. -/
def ImportedName.same (name : String) : ImportedName := ⟨name, name⟩

/-- The name as written in an import statement. -/
def ImportedName.text (n : ImportedName) : String :=
  if n.binding = n.name then n.name else n.name ++ " as " ++ n.binding

inductive ImportStatement where
  | wholeModule (binding source : String)
  | names (names : List ImportedName) (source : String)
deriving DecidableEq, Repr

namespace ImportStatement

/-- The names that the statement binds. -/
def bindings : ImportStatement → List String
  | wholeModule binding _ => [binding]
  | names ns _ => ns.map ImportedName.binding

/-- The statement on a line of its own. -/
def render : ImportStatement → String
  | wholeModule binding source => "import * as " ++ binding ++ " from \"" ++ source ++ "\";\n"
  | names ns source =>
    "import \x7b " ++ ", ".intercalate (ns.map ImportedName.text) ++ " \x7d from \"" ++ source ++ "\";\n"

end ImportStatement

/-- Where generated code takes names from. -/
def transformerSource : String := "class-transformer"

/-- The source of validations. -/
def validatorSource : String := "class-validator"

/-- The source of the fast serializer. -/
def serializerSource : String := "fast-json-stringify"

/-- The source of the identity type of the document store. -/
def storageSource : String := "mongodb"

/-- The source of the decorations of API documentation. -/
def openapiSource : String := "@contractc/openapi"

/-- The source of the decorations of graph queries. -/
def graphqlSource : String := "@contractc/graphql"

/-- The binding of a graph decoration: `Field` goes by a name of its own. -/
def graphqlBinding (name : String) : String := if name = "Field" then "GraphQLField" else name

namespace ImportSet

/-- The statement of a group of names, unless it is empty (`push_named`). -/
def group (names : List ImportedName) (source : String) : List ImportStatement :=
  if names.isEmpty then [] else [.names names source]

/-- The names of a set under their own names. -/
def same (s : NameSet) : List ImportedName := s.keys.map .same

def statements (s : ImportSet) : List ImportStatement :=
  [.wholeModule "fastJson" serializerSource] ++ group (same s.core) s.coreImport ++
    group (same s.transformer) transformerSource ++ group (same s.validator) validatorSource ++
    (if s.storage then [.names [.same "ObjectId"] storageSource] else []) ++
    group (same s.openapi) openapiSource ++
    group (s.graphql.keys.map fun n => ⟨n, graphqlBinding n⟩) graphqlSource ++
    s.custom.entries.flatMap (fun e => group (same e.2) e.1) ++
    s.namespaces.entries.map (fun e => .wholeModule e.1 e.2) ++
    s.linked.map fun e => .names (e.2.map .same) e.1

/-- The import block, one statement per line. -/
def render (s : ImportSet) : String := String.join (s.statements.map ImportStatement.render)

end ImportSet

end ContractCompiler
