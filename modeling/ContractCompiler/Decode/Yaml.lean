import ContractCompiler.Decode.Json
import ContractCompiler.Yaml.Meaning
import ContractCompiler.Yaml.Value

/-!
# Reading typed values from YAML

Any scalar stands for a text, whatever its tag and its quotes. Booleans and integers have to be
plain; an empty plain scalar is also an empty list, map or record. A core tag forces a scalar's type,
and any other tag marks a name of a list. Misfits are placed at the node they concern.
-/

namespace ContractCompiler

namespace Yaml

open Decode

/-- The value of a scalar: as its core tag says, by its look when it is plain, else a text. -/
def Meaning.ofScalar (tag? : Option Tag) (style : ScalarStyle) (text : String) :
    Except Reason Meaning :=
  let forced (value? : Option Meaning) (expected : String) : Except Reason Meaning :=
    match value? with
    | some m => .ok m
    | none => .error (.invalidValue (.string text) expected)
  match tag? with
  | some tag =>
    if tag == .core "bool" then forced ((boolean? text).map .bool) "a boolean"
    else if tag == .core "int" then forced ((integer? text.toList).map .integer) "an integer"
    else if tag == .core "float" then forced (float? text) "a float"
    else if tag == .core "null" then forced (if isNull text then some .null else none) "null"
    else if tag.isLocal && style == .plain then .ok (.ofText text)
    else .ok .text
  | none => .ok (if style == .plain then .ofText text else .text)

/-- How a scalar of some meaning is described in a message. -/
def Meaning.found (text : String) : Meaning → Found
  | .null => .unit
  | .bool b => .bool b
  | .integer i =>
    match JsonNumber.ofInt? i with
    | some _ => .integer i
    | none => .wide i
  | .float d => .float (d.render .positional)
  | .infinity negative => .float (if negative then "-inf" else "inf")
  | .notANumber => .float "NaN"
  | .text => .string text

/-- The JSON value of a scalar; infinities and the like are null. -/
def Meaning.toJson (text : String) : Meaning → Except Reason Json
  | .null => .ok .null
  | .bool b => .ok (.bool b)
  | .integer i =>
    match JsonNumber.ofInt? i with
    | some n => .ok (.number n)
    | none => .error .numberRange
  | .float d => .ok (.number (.double d))
  | .infinity _ => .ok .null
  | .notANumber => .ok .null
  | .text => .ok (.string text)

/-- The content of a scalar. -/
def Meaning.toContent (text : String) : Meaning → Except Reason Content
  | .null => .ok .unit
  | .bool b => .ok (.bool b)
  | .integer i =>
    match JsonNumber.ofInt? i with
    | some n => .ok (.number n)
    | none => .error (.invalidType (.wide i) "any value")
  | .float d => .ok (.number (.double d))
  | .infinity negative => .ok (.unbounded (if negative then "-inf" else "inf"))
  | .notANumber => .ok (.unbounded "NaN")
  | .text => .ok (.string text)

namespace Value

/-- A misfit at the value's place. -/
def misfit (v : Value) (reason : Reason) : Fault := .misfit (some v.path) reason

/-- What was found out about the value itself. -/
def placed {α : Type} (v : Value) (result : Except Reason α) : Following α :=
  match result with
  | .ok a => pure a
  | .error reason => throw (v.misfit reason)

/-- Places the misfit of a reading at the value. -/
def located {α : Type} (v : Value) (reading : Following α) : Following α :=
  tryCatch reading fun f => throw (f.locate v.path)

def wrongType {α : Type} (v : Value) (expected : String) : Following α :=
  match v.form with
  | .void => throw (.of (.invalidType .unit expected))
  | .scalar tag? style text => do
    let m ← v.placed (Meaning.ofScalar tag? style text)
    throw (v.misfit (.invalidType (m.found text) expected))
  | .sequence .. => throw (v.misfit (.invalidType .sequence expected))
  | .mapping .. => throw (v.misfit (.invalidType .map expected))

/-- A scalar whose look counts: a plain one, or a literal one with the given core tag. -/
def looksTyped (tag : String) (tag? : Option Tag) (style : ScalarStyle) : Bool :=
  style == .plain || (style == .literal && tag? == some (.core tag))

/-- A scalar as an unsigned word. -/
def word? (text : String) : Option UInt64 :=
  if text.toList.head? == some '-' then none
  else
    match integer? text.toList with
    | some i => if i < 0x10000000000000000 then some (UInt64.ofNat i.toNat) else none
    | none => none

/-- A scalar without quotes or a tag that is empty or null. -/
def isNothing (style : ScalarStyle) (text : String) : Bool :=
  style == .plain && (text.isEmpty || isNull text)

/-- The scalar says that there is no value. -/
def isAbsent (tag? : Option Tag) (style : ScalarStyle) (text : String) : Except Fault Bool :=
  match tag? with
  | some tag =>
    if style != .plain || tag != .core "null" then .ok false
    else if isNull text then .ok true
    else .error (.of (.invalidValue (.string text) "null"))
  | none => .ok (isNothing style text)

def text (v : Value) (expected : String) : Following String := do
  let v ← v.follow
  match v.form with
  | .scalar _ _ text => pure text
  | _ => v.wrongType expected

def flag (v : Value) : Following Bool := do
  let v ← v.follow
  match v.form with
  | .scalar tag? style text =>
    if looksTyped "bool" tag? style then
      match boolean? text with
      | some b => pure b
      | none => v.wrongType "a boolean"
    else v.wrongType "a boolean"
  | _ => v.wrongType "a boolean"

def word (v : Value) : Following UInt64 := do
  let v ← v.follow
  match v.form with
  | .scalar tag? style text =>
    if looksTyped "int" tag? style then
      match word? text with
      | some w => pure w
      | none => v.wrongType "u64"
    else v.wrongType "u64"
  | _ => v.wrongType "u64"

/-- The value with its alias followed, or none where it says that there is no value. -/
def present? (v : Value) : Following (Option Value) := do
  let v ← v.follow
  match v.form with
  | .void => pure none
  | .scalar tag? style text =>
    let absent ← MonadExcept.ofExcept (isAbsent tag? style text)
    pure (if absent then none else some v)
  | _ => pure (some v)

/-- Enters the container that the value is. -/
def enter {α : Type} (v : Value) (contents : List α) : Following (List α) :=
  if v.depth = 0 then throw .depthLimit else pure contents

/-- Reads the items of a list; an empty plain scalar has none. -/
def items (v : Value) : Following (Run Value) := do
  let v ← v.follow
  match v.form with
  | .sequence _ items =>
    let items ← v.enter items
    pure ⟨items, none⟩
  | .scalar _ .plain "" | .void => pure ⟨[], none⟩
  | _ => v.wrongType "a sequence"

/-- Reads the entries of a map; an empty plain scalar has none. -/
def entries (v : Value) (expected : String) : Following (Run (Value × Value)) := do
  let v ← v.follow
  match v.form with
  | .mapping _ entries =>
    let entries ← v.enter entries
    pure ⟨entries, none⟩
  | .scalar _ .plain "" | .void => pure ⟨[], none⟩
  | _ => v.wrongType expected

/-- The alternative that a tag names. -/
def alternative? (tag? : Option Tag) : Option String := tag?.bind Tag.alternative?

/-- What stands behind the tag of an alternative has to be nothing. -/
def checkNothing (v : Value) : Following Unit :=
  match v.form with
  | .scalar _ style text =>
    if isNothing style text then pure ()
    else throw (v.misfit (.invalidValue (.string text) "null"))
  | _ => v.wrongType "unit"

/-- The choice that a tag makes. -/
def taggedChoice (v : Value) (names : List String) (name : String) : Following String := do
  let name ← MonadExcept.ofExcept (chosen names name)
  v.checkNothing
  pure name

/-- A container is no choice, unless its tag makes one. -/
def containerChoice (v : Value) (names : List String) (found : Found) (tag? : Option Tag) :
    Following String :=
  match alternative? tag? with
  | some name => v.taggedChoice names name
  | none => throw (v.misfit (.invalidType found "a YAML tag starting with '!'"))

/-- Reads a name of a list, from a tag or else from a text. -/
def choice (v : Value) (names : List String) : Following String := do
  let v ← v.follow
  match v.form with
  | .void => v.wrongType "string or map"
  | .scalar tag? _ text =>
    match alternative? tag? with
    | some name => v.taggedChoice names name
    | none =>
      match chosen names text with
      | .ok name => pure name
      | .error f => throw (f.locate v.path)
  | .sequence tag? _ => v.containerChoice names .sequence tag?
  | .mapping tag? _ => v.containerChoice names .map tag?

/-! ## Values of any shape -/

/-- A tag must not name an alternative where any value may stand. -/
def checkTag (v : Value) (tag? : Option Tag) (reason : Reason) : Following Unit :=
  match alternative? tag? with
  | some _ => throw (v.misfit reason)
  | none => pure ()

/-- The members that entries give, their values read by `read`; `expected` describes the first
key. -/
def members (read : Value → Following Json) (expected : String) :
    List (Value × Value) → Following (List (String × Json))
  | [] => pure []
  | (k, x) :: rest => do
    let key ← k.text expected
    let value ← read x
    let others ← members read "a string" rest
    pure ((key, value) :: others)

/-- Why a tag is refused where a JSON value is read. -/
def taggedJson : Reason := .invalidType .enumeration "any valid JSON value"

/-- The JSON value of a value, whose contents `read` reads. -/
def jsonWith (read : Value → Following Json) (v : Value) : Following Json := do
  let v ← v.follow
  match v.form with
  | .void => pure .null
  | .scalar tag? style text =>
    v.checkTag tag? taggedJson
    let m ← v.placed (Meaning.ofScalar tag? style text)
    v.placed (m.toJson text)
  | .sequence tag? items =>
    v.checkTag tag? taggedJson
    let items ← v.enter items
    let values ← v.located (readItems read items none)
    pure (.array values)
  | .mapping tag? entries =>
    v.checkTag tag? taggedJson
    let entries ← v.enter entries
    let members ← v.located (members read "a string key" entries)
    pure (.object (Table.ofEntries members))

/-- The JSON value of a value that is no deeper than `depth` containers. -/
def jsonWithin : (depth : Nat) → Value → Following Json
  | 0 => jsonWith fun _ => throw .depthLimit
  | depth + 1 => jsonWith (jsonWithin depth)

/-- The JSON value of a value; a repeated key keeps its first place and its last value. -/
def toJson (v : Value) : Following Json := jsonWithin v.depth v

/-- The content of a value, whose contents `read` reads. -/
def contentWith (read : Value → Following Content) (v : Value) : Following Content := do
  let v ← v.follow
  match v.form with
  | .void => pure .unit
  | .scalar tag? style text =>
    v.checkTag tag? .taggedShape
    let m ← v.placed (Meaning.ofScalar tag? style text)
    v.placed (m.toContent text)
  | .sequence tag? items =>
    v.checkTag tag? .taggedShape
    let items ← v.enter items
    let values ← v.located (readItems read items none)
    pure (.list values)
  | .mapping tag? entries =>
    v.checkTag tag? .taggedShape
    let entries ← v.enter entries
    let entries ← v.located (readItems (readPair read) entries none)
    pure (.map entries)
where
  /-- The contents of a key and its value. -/
  readPair (read : Value → Following Content) (e : Value × Value) :
      Following (Content × Content) := do
    let key ← read e.1
    let value ← read e.2
    pure (key, value)

/-- The content of a value that is no deeper than `depth` containers. -/
def contentWithin : (depth : Nat) → Value → Following Content
  | 0 => contentWith fun _ => throw .depthLimit
  | depth + 1 => contentWith (contentWithin depth)

def toContent (v : Value) : Following Content := contentWithin v.depth v

end Value

instance : Source Value Following where
  text := Value.text
  flag := Value.flag
  word := Value.word
  present? := Value.present?
  items := Value.items
  entries := Value.entries
  record v expected := do
    let run ← v.entries expected
    pure (.entries run)
  choice := Value.choice
  json := Value.toJson
  content := Value.toContent
  skip _ := pure ()
  surplus _ length := .of (.invalidLength length "fewer elements in array")
  locate v f := f.locate v.path

/-- A typed value read from a YAML text. -/
def Value.decode {α : Type} (read : Value → Following α) (text : String) : Except Fault α :=
  match Value.ofText text with
  | .error f => .error f
  | .ok document =>
    match read document 0 with
    | .error f => .error f
    | .ok (a, _) => .ok a

end Yaml

end ContractCompiler
