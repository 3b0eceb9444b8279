-- SUMMARY: Records as a table for a person to read.
import DocStore.Record

/-!
# Tables

Records are shown as a table with one column for each field that any of them has, in the order in
which the fields are first seen. A column is as wide as its widest cell, counted in characters, and
a record without the field has an empty cell there.
-/

namespace DocStore.Shell

/-- What is shown in place of a list without elements. -/
def emptyListText : String := "(empty list)"

/-- A value in a cell: a string as it is, any other value as JSON, nothing for no value. -/
def cellText : Option Json → String
  | none => ""
  | some (.string s) => s
  | some value => value.compact

/-- Names with those of `more` that are not among them, each once. -/
def addNames (names : List String) (more : List String) : List String :=
  more.foldl (fun names name => if names.contains name then names else names ++ [name]) names

/-- The columns of a table: the fields of all records, as they are first seen. -/
def tableColumns (records : List Record) : List String :=
  records.foldl (fun names r => addNames names r.names) []

/-- The cells of a record. -/
def tableRow (columns : List String) (r : Record) : List String :=
  columns.map fun name => cellText (r.get? name)

def columnWidth (records : List Record) (name : String) : Nat :=
  records.foldl (fun width r => max width (cellText (r.get? name)).length) name.length

def borderLine (widths : List Nat) : List Char :=
  '+' :: widths.flatMap fun width => List.replicate (width + 2) '-' ++ ['+']

/-- A cell with the blanks that fill its column, and the bar after it. -/
def paddedCell (text : String) (width : Nat) : List Char :=
  ' ' :: text.toList ++ List.replicate (width - text.length + 1) ' ' ++ ['|']

def rowLine (cells : List String) (widths : List Nat) : List Char :=
  '|' :: (cells.zip widths).flatMap fun (text, width) => paddedCell text width

def countLine (count : Nat) : List Char :=
  if count == 1 then "(1 record)".toList else s!"({count} records)".toList

/-- The lines of a table. -/
def tableLines (records : List Record) : List (List Char) :=
  let columns := tableColumns records
  let widths := columns.map (columnWidth records)
  let border := borderLine widths
  [border, rowLine columns widths, border] ++
    records.map (fun r => rowLine (tableRow columns r) widths) ++
    [border, countLine records.length]

def tableText (records : List Record) : String :=
  if records.isEmpty then emptyListText
  else "\n".intercalate ((tableLines records).map String.ofList)

end DocStore.Shell
