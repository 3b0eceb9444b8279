-- SUMMARY: Collections: records in order under an optional schema, with the rules for new identifiers.
import DocStore.Predicate
import DocStore.Schema

/-!
# Collections

A collection holds records in the order in which they were inserted. Its schema, its list of
records and its identifier counter are each optional, because a file need not have them and a file
that has none of them keeps none until an operation needs it: every operation that could change the
records makes the list present. Members of a file that the collection does not know are carried
along as they are.
-/

namespace DocStore

/-- How the identifier of a new record is chosen. -/
inductive IdPolicy where
  /-- One more than the greatest identifier present. -/
  | maxPlusOne
  /-- Never an identifier that was given before: a counter that is kept with the collection. -/
  | sequence
deriving DecidableEq, Repr, Inhabited

namespace IdPolicy

def name : IdPolicy → String
  | .maxPlusOne => "max_plus_one"
  | .sequence => "sequence"

/-- All policies, in the order in which they are listed to a user. -/
def all : List IdPolicy := [.maxPlusOne, .sequence]

def ofName? (word : String) : Option IdPolicy :=
  all.find? (fun policy => policy.name == word)

end IdPolicy

/-- A collection of records. -/
structure Collection where
  schema : Option Schema
  data : Option (List Record)
  nextId : Option RecordId
  extra : Object
deriving Repr, Inhabited

namespace Collection

/-- The collection with a schema and nothing else. -/
def new (schema : Schema) : Collection :=
  ⟨some schema, none, none, []⟩

def records (c : Collection) : List Record :=
  c.data.getD []

def withRecords (c : Collection) (records : List Record) : Collection :=
  { c with data := some records }

/-- The collection with its list of records present. -/
def touch (c : Collection) : Collection :=
  c.withRecords c.records

def maxId? (c : Collection) : Option RecordId :=
  (c.records.map Record.id).max?

/-- The identifier after the greatest one present; the first one is 1. -/
def idAfterMax (c : Collection) : RecordId :=
  match c.maxId? with
  | some id => RecordId.next id
  | none => 1

/-- The identifier for a new record, and the collection that knows it was given. -/
def allocateId (c : Collection) (policy : IdPolicy) : RecordId × Collection :=
  match policy with
  | .maxPlusOne => (c.idAfterMax, c)
  | .sequence =>
    let id := max (c.nextId.getD 1) c.idAfterMax
    (id, { c with nextId := some (RecordId.next id) })

def push (c : Collection) (r : Record) : Collection :=
  c.withRecords (c.records ++ [r])

/-- Append a record of the given fields under a new identifier. -/
def insert (c : Collection) (policy : IdPolicy) (fields : Object) : Record × Collection :=
  let (id, c) := c.allocateId policy
  let r := Record.new id fields
  (r, c.push r)

/-- The records that match a predicate, in order; all of them without one. -/
def select (c : Collection) (p : Option Predicate) : List Record :=
  match p with
  | some p => p.filter c.records
  | none => c.records

/-- Remove all records and count them. -/
def clear (c : Collection) : Nat × Collection :=
  (c.records.length, c.withRecords [])

def removeMatching (c : Collection) (p : Predicate) : Nat × Collection :=
  let kept := c.records.filter (fun r => !p.holds r)
  (c.records.length - kept.length, c.withRecords kept)

def updateMatching (c : Collection) (p : Predicate) (patch : Object) : Nat × Collection :=
  (c.records.countP p.holds,
    c.withRecords (c.records.map fun r => if p.holds r then r.merge patch else r))

/-- Whether two collections say the same, members in any order. -/
def same (a b : Collection) : Bool :=
  a.schema.map NameMap.entries == b.schema.map NameMap.entries &&
  (match a.data, b.data with
    | some rs, some ss => rs.length == ss.length && (rs.zip ss).all fun (r, s) => r.same s
    | none, none => true
    | _, _ => false) &&
  a.nextId == b.nextId && Json.same (.object a.extra) (.object b.extra)

end Collection

end DocStore
