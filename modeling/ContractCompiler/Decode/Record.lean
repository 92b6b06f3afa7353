import ContractCompiler.Decode.Source

/-!
# Reading records

A `RecordReader` lists the members of a record type: their names, whether they have to be there,
and how each one changes the record read so far. Keyed entries are taken in document order, so the
first misfit in the document is the one reported; a missing member is reported last. A record may
also be written as the list of its members in declaration order.
-/

namespace ContractCompiler.Decode

/-- A member of a record type `α`, read from nodes `ν` in the monad `m`. -/
structure Member (ν : Type) (m : Type → Type) (α : Type) where
  name : String
  /-- A second accepted name. -/
  secondName? : Option String
  required : Bool
  /-- How the member's value changes the record. -/
  read : ν → m (α → α)

/-- A record type. -/
structure RecordReader (ν : Type) (m : Type → Type) (α : Type) where
  /-- The name of the type in messages. -/
  type : String
  /-- The record before any member is read: defaults. -/
  blank : α
  members : List (Member ν m α)
  /-- What becomes of an entry with another name. -/
  other : String → ν → m (α → α)

namespace Member

variable {ν α β : Type} {m : Type → Type} [Monad m]

/-- A member that sets part of the record to what `read` gives. -/
def make (required : Bool) (name : String) (read : ν → m β) (set : β → α → α) : Member ν m α where
  name := name
  secondName? := none
  required := required
  read n := do
    let b ← read n
    pure (set b)

/-- A member that has to be there. -/
def must (name : String) (read : ν → m β) (set : β → α → α) : Member ν m α :=
  make true name read set

/-- A member that may be missing. -/
def may (name : String) (read : ν → m β) (set : β → α → α) : Member ν m α :=
  make false name read set

/-- The member under a second name. -/
def orNamed (member : Member ν m α) (name : String) : Member ν m α :=
  { member with secondName? := some name }

/-- The member goes by this name. -/
def isNamed (member : Member ν m α) (name : String) : Bool :=
  member.name == name || member.secondName? == some name

end Member

namespace RecordReader

variable {ν α : Type} {m : Type → Type} [Monad m] [MonadExceptOf Fault m] [Source ν m]

/-- How the type is called in messages. -/
def expected (r : RecordReader ν m α) : String := "struct " ++ r.type

/-- How the list form of the type is called in messages. -/
def expectedList (r : RecordReader ν m α) : String :=
  r.expected ++ " with " ++ toString r.members.length ++
    (if r.members.length = 1 then " element" else " elements")

/-- The member with the given name. -/
def member? (r : RecordReader ν m α) (name : String) : Option (Member ν m α) :=
  r.members.find? fun member => member.isNamed name

/-- The record once every entry is read: a required member that was not seen is missing. -/
def complete (r : RecordReader ν m α) (seen : List String) (draft : α) : m α :=
  match r.members.find? fun member => member.required && !seen.contains member.name with
  | some member => throw (.of (.missingField member.name))
  | none => pure draft

/-- Reads keyed entries in document order; `seen` holds the names of the members read so far. -/
def readEntries (r : RecordReader ν m α) (seen : List String) (draft : α) :
    List (ν × ν) → Option Fault → m α
  | [], some stop => throw stop
  | [], none => r.complete seen draft
  | (k, v) :: rest, stop => do
    let name ← Source.text k "field identifier"
    match r.member? name with
    | some member =>
      if seen.contains member.name then throw (.of (.duplicateField member.name))
      else
        let set ← member.read v
        r.readEntries (member.name :: seen) (set draft) rest stop
    | none =>
      let set ← r.other name v
      r.readEntries seen (set draft) rest stop

/-- Reads the members in declaration order from the items of a list; `position` counts the members
passed. -/
def readPositions (r : RecordReader ν m α) (n : ν) (total position : Nat) (draft : α) :
    List (Member ν m α) → List ν → Option Fault → m α
  | [], [], none => pure draft
  | _, [], some stop => throw stop
  | [], _ :: _, _ => throw (Source.surplus n total)
  | member :: members, [], none =>
    if member.required then throw (.of (.invalidLength position r.expectedList))
    else r.readPositions n total (position + 1) draft members [] none
  | member :: members, x :: xs, stop => do
    let set ← member.read x
    r.readPositions n total (position + 1) (set draft) members xs stop

/-- Reads a record, as keyed entries or as a list. -/
def read (r : RecordReader ν m α) (n : ν) : m α := do
  match ← Source.record n r.expected with
  | .list run =>
    within n (r.readPositions n run.items.length 0 r.blank r.members run.items run.stop)
  | .entries run => within n (r.readEntries [] r.blank run.items run.stop)

/-- Reads a record that has to be keyed entries. -/
def readKeyed (r : RecordReader ν m α) (n : ν) : m α := do
  let run ← Source.entries n r.expected
  within n (r.readEntries [] r.blank run.items run.stop)

end RecordReader

/-- Entries with unknown names are passed over. -/
def ignored {ν α : Type} {m : Type → Type} [Monad m] [Source ν m] (_ : String) (n : ν) :
    m (α → α) := do
  Source.skip n
  pure id

end ContractCompiler.Decode
