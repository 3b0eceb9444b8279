-- SUMMARY: Tables are well shaped: columns as first seen, each as wide as its widest cell, and lines of one length.
import DocStore.Shell.Format
import Mathlib

/-!
# The shape of a table

The lines of a table are cut by the same columns. A column of width `w` takes `w + 3` characters of a
line: a blank, the text of a cell with the blanks that fill it up to `w`, a blank and a bar. How many
blanks fill a cell is a difference of lengths, which is right because the width of a column is the
greatest length of its name and its cells, those of records without the field included.
-/

namespace DocStore.Shell

/-! ## Columns -/

/-- Whether `columns` are the names in `seen`, each once, in the order in which they first stand
there. -/
structure FirstSeen (seen columns : List String) : Prop where
  mem_iff : ∀ name, name ∈ columns ↔ name ∈ seen
  order : columns.Pairwise fun a b => seen.idxOf a < seen.idxOf b

namespace FirstSeen

variable {seen columns : List String}

theorem nodup (h : FirstSeen seen columns) : columns.Nodup :=
  h.order.imp fun less same => absurd (same ▸ less) (Nat.lt_irrefl _)

/-- The name that is seen first leads. -/
theorem head? {name : String} (h : FirstSeen (name :: seen) columns) :
    columns.head? = some name := by
  have there : name ∈ columns := (h.mem_iff name).2 List.mem_cons_self
  cases columns with
  | nil => cases there
  | cons first columns =>
    rcases List.mem_cons.1 there with rfl | later
    · rfl
    · have before := (List.pairwise_cons.1 h.order).1 name later
      rw [List.idxOf_cons_self] at before
      exact absurd before (Nat.not_lt_zero _)

theorem concat (h : FirstSeen seen columns) (name : String) :
    FirstSeen (seen ++ [name])
      (if columns.contains name then columns else columns ++ [name]) := by
  -- What was seen before keeps its place when more is seen.
  have kept : ∀ a ∈ columns, (seen ++ [name]).idxOf a = seen.idxOf a := fun a mem =>
    List.idxOf_append_of_mem ((h.mem_iff a).1 mem)
  have order : columns.Pairwise fun a b => (seen ++ [name]).idxOf a < (seen ++ [name]).idxOf b :=
    h.order.imp_of_mem fun {a b} memA memB less => by rwa [kept a memA, kept b memB]
  by_cases there : name ∈ columns
  · rw [if_pos (List.contains_iff_mem.2 there)]
    refine ⟨fun other => ?_, order⟩
    rw [h.mem_iff, List.mem_append, List.mem_singleton]
    refine ⟨.inl, ?_⟩
    rintro (mem | rfl)
    · exact mem
    · exact (h.mem_iff other).1 there
  · rw [if_neg (mt List.contains_iff_mem.1 there)]
    refine ⟨fun other => ?_, List.pairwise_append.2 ⟨order, List.pairwise_singleton _ _, ?_⟩⟩
    · rw [List.mem_append, List.mem_append, h.mem_iff]
    · intro a mem b isName
      rw [List.mem_singleton.1 isName, kept a mem,
        List.idxOf_append_of_notMem (mt (h.mem_iff name).2 there)]
      exact Nat.lt_add_right _ (List.idxOf_lt_length_of_mem ((h.mem_iff a).1 mem))

theorem addNames (h : FirstSeen seen columns) (more : List String) :
    FirstSeen (seen ++ more) (addNames columns more) := by
  induction more generalizing seen columns with
  | nil => simpa [Shell.addNames] using h
  | cons name more ih => simpa [Shell.addNames] using ih (h.concat name)

end FirstSeen

/-- The columns are the names of all fields, in the order in which they are first seen. -/
theorem firstSeen_tableColumns (records : List Record) :
    FirstSeen (records.flatMap Record.names) (tableColumns records) := by
  have none : FirstSeen [] [] := ⟨fun _ => Iff.rfl, .nil⟩
  have columns : tableColumns records = addNames [] (records.flatMap Record.names) := by
    rw [addNames, List.foldl_flatMap]
    rfl
  rw [columns]
  exact none.addNames _

/-! ## Widths -/

/-- The lengths of what stands in a column: of its name and of the cells of all records. -/
def columnLengths (records : List Record) (name : String) : List Nat :=
  name.length :: records.map fun r => (cellText (r.get? name)).length

theorem max?_columnLengths (records : List Record) (name : String) :
    (columnLengths records name).max? = some (columnWidth records name) := by
  rw [columnLengths, List.max?_cons', List.foldl_map]
  rfl

theorem le_columnWidth {records : List Record} {name : String} {n : Nat}
    (mem : n ∈ columnLengths records name) : n ≤ columnWidth records name :=
  (List.max?_eq_some_iff.1 (max?_columnLengths records name)).2 n mem

/-- The cells of a line fit into their columns, of which there are as many. -/
def Fit (cells : List String) (widths : List Nat) : Prop :=
  List.Forall₂ (fun cell width => cell.length ≤ width) cells widths

theorem fit_columns (records : List Record) (columns : List String) :
    Fit columns (columns.map (columnWidth records)) := by
  rw [Fit, List.forall₂_map_right_iff, List.forall₂_same]
  exact fun name _ => le_columnWidth List.mem_cons_self

theorem fit_tableRow {records : List Record} {r : Record} (mem : r ∈ records)
    (columns : List String) : Fit (tableRow columns r) (columns.map (columnWidth records)) := by
  rw [Fit, tableRow, List.forall₂_map_left_iff, List.forall₂_map_right_iff, List.forall₂_same]
  exact fun name _ => le_columnWidth (List.mem_cons_of_mem _ (List.mem_map_of_mem mem))

/-! ## Lines -/

/-- The place in a line at which a column starts, after the bar in front of it. -/
def columnStart (widths : List Nat) (i : Nat) : Nat :=
  1 + ((widths.take i).map (· + 3)).sum

/-- The part of a line that a column takes, with the bar behind it. -/
def columnPart (widths : List Nat) (i : Nat) (line : List Char) : List Char :=
  (line.take (columnStart widths (i + 1))).drop (columnStart widths i)

def lineLength (widths : List Nat) : Nat :=
  1 + (widths.map (· + 3)).sum

section Parts

variable {parts : List (List Char)} {widths : List Nat}

theorem length_line (first : Char) (lengths : parts.map List.length = widths.map (· + 3)) :
    (first :: parts.flatten).length = lineLength widths := by
  rw [List.length_cons, List.length_flatten, lengths, lineLength, Nat.add_comm]

/-- A line that is put together from parts of the right lengths is cut into these parts. -/
theorem columnPart_line (first : Char) (lengths : parts.map List.length = widths.map (· + 3))
    {i : Nat} (inside : i < parts.length) :
    columnPart widths i (first :: parts.flatten) = parts[i] := by
  rw [columnPart, columnStart, columnStart, Nat.add_comm 1, Nat.add_comm 1, List.take_succ_cons,
    List.drop_succ_cons, List.map_take, List.map_take, ← lengths]
  exact List.drop_take_succ_flatten_eq_getElem parts i inside

end Parts

theorem map_length_borderParts (widths : List Nat) :
    (widths.map fun width => List.replicate (width + 2) '-' ++ ['+']).map List.length =
      widths.map (· + 3) := by
  simp

theorem borderLine_eq (widths : List Nat) :
    borderLine widths =
      '+' :: (widths.map fun width => List.replicate (width + 2) '-' ++ ['+']).flatten := by
  rw [borderLine, List.flatMap_def]

theorem rowLine_eq (cells : List String) (widths : List Nat) :
    rowLine cells widths = '|' :: (List.zipWith paddedCell cells widths).flatten := by
  rw [rowLine, List.flatMap_def, ← List.map_uncurry_zip_eq_zipWith]
  rfl

theorem length_paddedCell {cell : String} {width : Nat} (fits : cell.length ≤ width) :
    (paddedCell cell width).length = width + 3 := by
  simp only [paddedCell, List.length_append, List.length_cons, List.length_replicate,
    List.length_nil, String.length_toList]
  omega

theorem Fit.map_length {cells : List String} {widths : List Nat} (fit : Fit cells widths) :
    (List.zipWith paddedCell cells widths).map List.length = widths.map (· + 3) := by
  induction fit with
  | nil => rfl
  | cons fits _ ih => simp [length_paddedCell fits, ih]

theorem length_borderLine (widths : List Nat) : (borderLine widths).length = lineLength widths := by
  rw [borderLine_eq]
  exact length_line '+' (map_length_borderParts widths)

/-- A row whose cells fit is as long as a border. -/
theorem Fit.length_rowLine {cells : List String} {widths : List Nat} (fit : Fit cells widths) :
    (rowLine cells widths).length = lineLength widths := by
  rw [rowLine_eq]
  exact length_line '|' fit.map_length

/-! ## Cells -/

/-- The text of a value in a cell: none for no value, a string as it is, and of any other value its
compact text. -/
inductive CellOf : Option Json → List Char → Prop where
  | absent : CellOf none []
  | bare (s : String) : CellOf (some (.string s)) s.toList
  | json {value : Json} (other : ∀ s, value ≠ .string s) : CellOf (some value) value.compact.toList

/-- A cell shows a string as it is, another value as its text, and nothing for a missing field. -/
theorem cellOf_cellText (value : Option Json) : CellOf value (cellText value).toList := by
  cases value with
  | none => exact .absent
  | some value =>
    cases value with
    | string s => exact .bare s
    | _ => exact .json nofun

/-- Whether a text fills a column of a line: with a blank in front, as many blanks behind as it falls
short of the width, and a blank and a bar. -/
def Fills (text : List Char) (width : Nat) (part : List Char) : Prop :=
  ∃ blanks, text.length + blanks = width ∧
    part = ' ' :: (text ++ List.replicate blanks ' ' ++ [' ', '|'])

theorem fills_paddedCell {cell : String} {width : Nat} (fits : cell.length ≤ width) :
    Fills cell.toList width (paddedCell cell width) := by
  refine ⟨width - cell.length, ?_, ?_⟩
  · rw [String.length_toList]
    omega
  · simp [paddedCell, List.replicate_succ']

/-- In each column of a line of cells stands its cell. -/
theorem Fit.fills {cells : List String} {widths : List Nat} (fit : Fit cells widths) {i : Nat}
    {cell : String} {width : Nat} (isCell : cells[i]? = some cell)
    (isWidth : widths[i]? = some width) :
    Fills cell.toList width (columnPart widths i (rowLine cells widths)) := by
  obtain ⟨inCells, rfl⟩ := List.getElem?_eq_some_iff.1 isCell
  obtain ⟨inWidths, rfl⟩ := List.getElem?_eq_some_iff.1 isWidth
  have inside : i < (List.zipWith paddedCell cells widths).length := by
    rw [List.length_zipWith]
    omega
  rw [rowLine_eq, columnPart_line '|' fit.map_length inside, List.getElem_zipWith]
  exact fills_paddedCell ((List.forall₂_iff_get.1 fit).2 i inCells inWidths)

theorem columnPart_borderLine {widths : List Nat} {i width : Nat}
    (isWidth : widths[i]? = some width) :
    columnPart widths i (borderLine widths) = List.replicate (width + 2) '-' ++ ['+'] := by
  obtain ⟨inside, rfl⟩ := List.getElem?_eq_some_iff.1 isWidth
  rw [borderLine_eq, columnPart_line '+' (map_length_borderParts widths) (by simpa using inside),
    List.getElem_map]

/-! ## Tables -/

/-- The parts of a table: its columns with their widths, the line between its parts, the line of names
and the lines of the records. -/
structure Layout where
  columns : List String
  width : String → Nat
  border : List Char
  header : List Char
  rows : List (List Char)

namespace Layout

/-- The layout of the table of some records. -/
def ofRecords (records : List Record) : Layout :=
  let columns := tableColumns records
  let widths := columns.map (columnWidth records)
  { columns
    width := columnWidth records
    border := borderLine widths
    header := rowLine columns widths
    rows := records.map fun r => rowLine (tableRow columns r) widths }

def widths (layout : Layout) : List Nat :=
  layout.columns.map layout.width

def lines (layout : Layout) : List (List Char) :=
  [layout.border, layout.header, layout.border] ++ layout.rows ++
    [layout.border, countLine layout.rows.length]

/-- Whether a layout is one of some records. -/
structure Shows (layout : Layout) (records : List Record) : Prop where
  /-- The identifier leads. -/
  leads : layout.columns.head? = some idField
  columns : FirstSeen (records.flatMap Record.names) layout.columns
  distinct : layout.columns.Nodup
  width : ∀ name ∈ layout.columns, (columnLengths records name).max? = some (layout.width name)
  length : ∀ line ∈ layout.border :: layout.header :: layout.rows,
    line.length = lineLength layout.widths
  border : ∀ i name, layout.columns[i]? = some name →
    columnPart layout.widths i layout.border =
      List.replicate (layout.width name + 2) '-' ++ ['+']
  header : ∀ i name, layout.columns[i]? = some name →
    Fills name.toList (layout.width name) (columnPart layout.widths i layout.header)
  /-- There is a line for each record, in order, with the record's own values in its columns. -/
  rows : List.Forall₂ (fun row r => ∀ i name, layout.columns[i]? = some name →
      ∃ text, CellOf (r.get? name) text ∧
        Fills text (layout.width name) (columnPart layout.widths i row))
    layout.rows records

theorem lines_ofRecords (records : List Record) :
    (ofRecords records).lines = tableLines records := by
  have count : (ofRecords records).rows.length = records.length := List.length_map _
  rw [lines, count]
  rfl

/-- The table of some records shows them. -/
theorem shows_ofRecords {records : List Record} (nonempty : records ≠ []) :
    (ofRecords records).Shows records := by
  have columns := firstSeen_tableColumns records
  have isWidth {i : Nat} {name : String} (isColumn : (tableColumns records)[i]? = some name) :
      ((tableColumns records).map (columnWidth records))[i]? = some (columnWidth records name) := by
    rw [List.getElem?_map, isColumn]
    rfl
  refine ⟨?_, columns, columns.nodup, fun name _ => max?_columnLengths records name, ?_, ?_, ?_, ?_⟩
  · cases records with
    | nil => exact absurd rfl nonempty
    | cons r records => exact columns.head?
  · simp only [ofRecords, List.forall_mem_cons, List.forall_mem_map]
    refine ⟨length_borderLine _, (fit_columns records _).length_rowLine, ?_⟩
    intro r mem
    exact (fit_tableRow mem _).length_rowLine
  · exact fun i name isColumn => columnPart_borderLine (isWidth isColumn)
  · exact fun i name isColumn => (fit_columns records _).fills isColumn (isWidth isColumn)
  · rw [ofRecords, List.forall₂_map_left_iff, List.forall₂_same]
    intro r mem i name isColumn
    have isCell : (tableRow (tableColumns records) r)[i]? = some (cellText (r.get? name)) := by
      rw [tableRow, List.getElem?_map, isColumn]
      rfl
    exact ⟨_, cellOf_cellText _, (fit_tableRow mem _).fills isCell (isWidth isColumn)⟩

end Layout

/-- One record or more are worded for a person as a table of five lines more than there are records. Its
columns are the names of all fields as they are first seen, the identifier in front; a column is as wide
as the longest of its name and its cells, so that no text is longer than its column where the blanks
behind it are counted; all lines but the last have the same length, which the widths give; and in each
column of a record's line stands the record's own value. -/
theorem Output.table_wellShaped {records : List Record} (nonempty : records ≠ []) :
    (Output.records records).text .human =
      "\n".intercalate ((Layout.ofRecords records).lines.map String.ofList) ∧
    (Layout.ofRecords records).lines.length = records.length + 5 ∧
    (Layout.ofRecords records).Shows records ∧
    ∀ cells ∈ tableColumns records :: records.map (tableRow (tableColumns records)),
      Fit cells ((tableColumns records).map (columnWidth records)) := by
  refine ⟨?_, ?_, Layout.shows_ofRecords nonempty, ?_⟩
  · have shown : ¬records.isEmpty = true := by simpa using nonempty
    change tableText records = _
    rw [Layout.lines_ofRecords, tableText, if_neg shown]
  · rw [Layout.lines_ofRecords]
    simp [tableLines]
  · rw [List.forall_mem_cons, List.forall_mem_map]
    exact ⟨fit_columns records _, fun r mem => fit_tableRow mem _⟩

/-- Two records of which each lacks a field of the other, with characters of more than one byte. -/
theorem Output.table_wellShaped_ragged :
    let records : List Record :=
      [⟨1, [("name", .string "Zoë"), ("größe", .number (.int 30))]⟩,
        ⟨2, [("tags", .array [.string "x"]), ("name", .string "Bo")]⟩]
    (Output.records records).text .human =
      "\n".intercalate
        ["+-----+------+-------+-------+",
         "| _id | name | größe | tags  |",
         "+-----+------+-------+-------+",
         "| 1   | Zoë  | 30    |       |",
         "| 2   | Bo   |       | [\"x\"] |",
         "+-----+------+-------+-------+",
         "(2 records)"] ∧
    (Layout.ofRecords records).Shows records := by
  intro records
  have nonempty : records ≠ [] := List.cons_ne_nil _ _
  obtain ⟨shown, -, shows, -⟩ := Output.table_wellShaped nonempty
  refine ⟨shown.trans (congrArg _ ?_), shows⟩
  decide +kernel

end DocStore.Shell
