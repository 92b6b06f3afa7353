import ContractCompiler.Decode.Json
import ContractCompiler.Json.Raw

/-!
# Reading typed values from JSON text

Typed values are read while the text is: of a misfit and a flaw of the text, the one that comes
first is reported, a misfit of a container at its opening bracket. Values that are passed over only
have to be well formed.
-/

namespace ContractCompiler

namespace Json.Raw

open Decode

/-- Containers at this nesting level and beyond are refused. -/
def maxLevel : Nat := 128

/-- What ends the items of a container that is not closed. -/
def stopOf (closed : Bool) : Option Fault := if closed then none else some .unreadable

/-- The container's items may be read. -/
def admitted {α : Type} (level : Nat) (result : α) : Except Fault α :=
  if level < maxLevel then .ok result else .error .unreadable

/-- The value is of the wrong type; a flaw in the value itself comes first. -/
def wrongType {α : Type} (expected : String) : Raw → Except Fault α
  | null => .error (.of (.invalidType .null expected))
  | bool b => .error (.of (.invalidType (.bool b) expected))
  | number (some n) => .error (.of (.invalidType (Json.number n).found expected))
  | string (some s) => .error (.of (.invalidType (.string s) expected))
  | array .. => .error (.of (.invalidType .sequence expected))
  | object .. => .error (.of (.invalidType .map expected))
  | number none | string none | broken => .error .unreadable

/-- A key as a node. -/
def keyed (m : Option String × Raw) : Raw × Raw := (string m.1, m.2)

mutual

/-- The JSON value of a text; a repeated key keeps its first place and its last value. -/
def toJson : Raw → Except Fault Json
  | null => .ok .null
  | bool b => .ok (.bool b)
  | number (some n) => .ok (.number n)
  | string (some s) => .ok (.string s)
  | array level items closed =>
    if level < maxLevel then
      match itemsToJson items with
      | .error f => .error f
      | .ok values => if closed then .ok (.array values) else .error .unreadable
    else .error .unreadable
  | object level members closed =>
    if level < maxLevel then
      match membersToJson members with
      | .error f => .error f
      | .ok members => if closed then .ok (.object (Table.ofEntries members)) else .error .unreadable
    else .error .unreadable
  | number none | string none | broken => .error .unreadable

def itemsToJson : List Raw → Except Fault (List Json)
  | [] => .ok []
  | x :: rest =>
    match toJson x with
    | .error f => .error f
    | .ok v =>
      match itemsToJson rest with
      | .error f => .error f
      | .ok vs => .ok (v :: vs)

/-- The members with their JSON values. -/
def membersToJson : List (Option String × Raw) → Except Fault (List (String × Json))
  | [] => .ok []
  | (none, _) :: _ => .error .unreadable
  | (some key, x) :: rest =>
    match toJson x with
    | .error f => .error f
    | .ok v =>
      match membersToJson rest with
      | .error f => .error f
      | .ok vs => .ok ((key, v) :: vs)

end

mutual

/-- The content of a text, repeated keys included. -/
def toContent : Raw → Except Fault Content
  | null => .ok .unit
  | bool b => .ok (.bool b)
  | number (some n) => .ok (.number n)
  | string (some s) => .ok (.string s)
  | array level items closed =>
    if level < maxLevel then
      match itemsToContent items with
      | .error f => .error f
      | .ok values => if closed then .ok (.list values) else .error .unreadable
    else .error .unreadable
  | object level members closed =>
    if level < maxLevel then
      match membersToContent members with
      | .error f => .error f
      | .ok entries => if closed then .ok (.map entries) else .error .unreadable
    else .error .unreadable
  | number none | string none | broken => .error .unreadable

def itemsToContent : List Raw → Except Fault (List Content)
  | [] => .ok []
  | x :: rest =>
    match toContent x with
    | .error f => .error f
    | .ok v =>
      match itemsToContent rest with
      | .error f => .error f
      | .ok vs => .ok (v :: vs)

def membersToContent : List (Option String × Raw) → Except Fault (List (Content × Content))
  | [] => .ok []
  | (none, _) :: _ => .error .unreadable
  | (some key, x) :: rest =>
    match toContent x with
    | .error f => .error f
    | .ok v =>
      match membersToContent rest with
      | .error f => .error f
      | .ok vs => .ok ((.string key, v) :: vs)

end

mutual

/-- The text is well formed, whatever its strings and numbers hold. -/
def isWellFormed : Raw → Bool
  | null | bool _ | number _ | string _ => true
  | array _ items closed => areWellFormed items && closed
  | object _ members closed => haveWellFormed members && closed
  | broken => false

def areWellFormed : List Raw → Bool
  | [] => true
  | x :: rest => isWellFormed x && areWellFormed rest

/-- All members have well-formed values. -/
def haveWellFormed : List (Option String × Raw) → Bool
  | [] => true
  | (_, x) :: rest => isWellFormed x && haveWellFormed rest

end

/-- Reads a name of a list, or an object with that one key. -/
def choice (names : List String) : Raw → Except Fault String
  | string (some s) => chosen names s
  | object level ((some key, value) :: rest) closed =>
    if maxLevel ≤ level then .error .unreadable
    else
      match chosen names key with
      | .error f => .error f
      | .ok name =>
        match value with
        | null => if rest.isEmpty && closed then .ok name else .error .unreadable
        | v => wrongType "unit" v
  | _ => .error .unreadable

instance : Source Raw (Except Fault) where
  text
    | string (some s), _ => .ok s
    | v, expected => wrongType expected v
  flag
    | bool b => .ok b
    | v => wrongType "a boolean" v
  word
    | number (some n) => wordOfNumber n
    | v => wrongType "u64" v
  present?
    | null => .ok none
    | v => .ok (some v)
  items
    | array level items closed => admitted level ⟨items, stopOf closed⟩
    | v => wrongType "a sequence" v
  entries
    | object level members closed, _ => admitted level ⟨members.map keyed, stopOf closed⟩
    | v, expected => wrongType expected v
  record
    | array level items closed, _ => admitted level (.list ⟨items, stopOf closed⟩)
    | object level members closed, _ => admitted level (.entries ⟨members.map keyed, stopOf closed⟩)
    | v, expected => wrongType expected v
  choice v names := choice names v
  json := toJson
  content := toContent
  skip v := if v.isWellFormed then .ok () else .error .unreadable
  surplus _ _ := .unreadable
  locate _ f := f

/-- A typed value read from a JSON text. Whatever follows the value must be white space, which is
looked at last. -/
def decode {α : Type} (read : Raw → Except Fault α) (text : String) : Except Fault α :=
  let document := ofText text
  match read document.1 with
  | .error f => .error f
  | .ok a => if document.2 then .ok a else .error .unreadable

end Json.Raw

end ContractCompiler
