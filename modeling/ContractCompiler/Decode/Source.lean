import ContractCompiler.Collection.Keyed
import ContractCompiler.Decimal
import ContractCompiler.Decode.Fault
import ContractCompiler.Json.Value

/-!
# Documents that typed values are read from

A `Source` is a format of documents: it says how a node is read as a text, a flag, a list, a record
and so on, and how a misfit is described. Typed values are read through it alone, so the same
reader serves JSON values, JSON text and YAML. Readings are values of a monad of the format's own,
which can end with a fault and may keep count of something besides.
-/

namespace ContractCompiler.Decode

/-! ## Contents whose shape is not known yet

Some types accept several shapes, and some records keep members that they do not know. A `Content`
holds such a value until its shape is chosen. Unlike a JSON object, a map of contents may have keys
that are no strings, and may repeat a key.
-/

/-- A value of any format. -/
inductive Content where
  | unit
  | bool (value : Bool)
  | number (value : JsonNumber)
  /-- An infinity or no number, by its name: nothing that JSON can write. -/
  | unbounded (name : String)
  | string (value : String)
  | list (items : List Content)
  | map (entries : List (Content × Content))
deriving Repr, Inhabited

namespace Content

/-- How a content is described in a message. -/
def found : Content → Found
  | unit => .unit
  | bool b => .bool b
  | number (.integer i _) => .integer i
  | number (.double d) => .float (d.render .positional)
  | unbounded name => .float name
  | string s => .string s
  | list _ => .sequence
  | map _ => .map

mutual

/-- The JSON value of a content. The keys of its maps have to be strings; a repeated key keeps its
first place and its last value. -/
def toJson : Content → Except Fault Json
  | unit => .ok .null
  | bool b => .ok (.bool b)
  | number n => .ok (.number n)
  | unbounded _ => .ok .null
  | string s => .ok (.string s)
  | list items =>
    match itemsToJson items with
    | .error f => .error f
    | .ok values => .ok (.array values)
  | map entries =>
    match entriesToJson "a string key" entries with
    | .error f => .error f
    | .ok members => .ok (.object (Table.ofEntries members))

def itemsToJson : List Content → Except Fault (List Json)
  | [] => .ok []
  | c :: rest =>
    match toJson c with
    | .error f => .error f
    | .ok v =>
      match itemsToJson rest with
      | .error f => .error f
      | .ok vs => .ok (v :: vs)

/-- The members of a map, whose keys have to be strings. -/
def entriesToJson (expected : String) : List (Content × Content) → Except Fault (List (String × Json))
  | [] => .ok []
  | (k, c) :: rest =>
    match k with
    | string key =>
      match toJson c with
      | .error f => .error f
      | .ok v =>
        match entriesToJson "a string" rest with
        | .error f => .error f
        | .ok vs => .ok ((key, v) :: vs)
    | other => .error (.of (.invalidType other.found expected))

end

mutual

/-- A JSON value as a content. -/
def ofJson : Json → Content
  | .null => unit
  | .bool b => bool b
  | .number n => number n
  | .string s => string s
  | .array items => list (ofItems items)
  | .object members => map (ofMembers members)

def ofItems : List Json → List Content
  | [] => []
  | v :: rest => ofJson v :: ofItems rest

def ofMembers : List (String × Json) → List (Content × Content)
  | [] => []
  | (k, v) :: rest => (string k, ofJson v) :: ofMembers rest

end

end Content

/-! ## Formats -/

/-- The items of a container in document order, and what ends the container early, if anything. -/
structure Run (α : Type) where
  items : List α
  stop : Option Fault

/-- A container that can be read as a record: a list of its members, or keyed entries. -/
inductive RecordShape (ν : Type) where
  | list (run : Run ν)
  | entries (run : Run (ν × ν))

/-- How the nodes `ν` of a format are read, in its monad `m`. Texts named `expected` say what the
reader wants. -/
class Source (ν : Type) (m : outParam (Type → Type)) where
  /-- A text. -/
  text : ν → (expected : String) → m String
  /-- A boolean. -/
  flag : ν → m Bool
  /-- An unsigned 64-bit word. -/
  word : ν → m UInt64
  /-- The node itself, or `none` where the document says that there is no value. -/
  present? : ν → m (Option ν)
  /-- The items of a list. -/
  items : ν → m (Run ν)
  /-- The entries of a map. -/
  entries : ν → (expected : String) → m (Run (ν × ν))
  /-- The members of a record. -/
  record : ν → (expected : String) → m (RecordShape ν)
  /-- One of a fixed list of names. -/
  choice : ν → (names : List String) → m String
  /-- Any JSON value. -/
  json : ν → m Json
  /-- A value whose shape is chosen later. -/
  content : ν → m Content
  /-- A value that is not needed. -/
  skip : ν → m Unit
  /-- A record was written as a list of `length` items, more than it has members. -/
  surplus : ν → (length : Nat) → Fault
  /-- Places a misfit at the node. -/
  locate : ν → Fault → Fault

variable {ν α β : Type} {m : Type → Type} [Monad m] [MonadExceptOf Fault m] [Source ν m]

/-- Reads the items of a run in order; the first fault ends the reading. -/
def readItems (read : α → m β) : List α → Option Fault → m (List β)
  | [], none => pure []
  | [], some stop => throw stop
  | x :: rest, stop => do
    let y ← read x
    let ys ← readItems read rest stop
    pure (y :: ys)

/-- Places the misfit of a reading at a node. -/
def within (n : ν) (reading : m α) : m α :=
  tryCatch reading fun f => throw (Source.locate n f)

def listOf (read : ν → m α) (n : ν) : m (List α) := do
  let run ← Source.items n
  within n (readItems read run.items run.stop)

/-- Reads a value that may be absent. -/
def optional (read : ν → m α) (n : ν) : m (Option α) := do
  match ← Source.present? n with
  | none => pure none
  | some n =>
    let a ← read n
    pure (some a)

/-- Reads one entry of a table. -/
def readEntry (read : ν → m α) (e : ν × ν) : m (String × α) := do
  let key ← Source.text e.1 "a string"
  let a ← read e.2
  pure (key, a)

/-- Reads a table; a repeated key keeps its first place and its last value. -/
def tableOf (read : ν → m α) (n : ν) : m (Table α) := do
  let run ← Source.entries n "a map"
  let entries ← within n (readItems (readEntry read) run.items run.stop)
  pure (Table.ofEntries entries)

def text (n : ν) : m String := Source.text n "a string"

end ContractCompiler.Decode
