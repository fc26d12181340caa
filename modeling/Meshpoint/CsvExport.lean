import Meshpoint.CsvFormat
import Meshpoint.JsonText
import Meshpoint.OrderedDict

/-!
# The CSV exports

Model of `csv_export.py`: the cells, lines and documents, the streamed response and the pages of
the database cursor behind it.

Whatever the rows hold and however many of them a page has, a reader of the response gets the
header and one record for each row of the query (`read_streamedExport`); and a row that cannot be
transformed ends the stream after exactly the rows before it, with the cursor closed
(`streamQuery_spec`).
-/

universe u

namespace Meshpoint.CsvExport

open JsonText CsvFormat ByteCodec

/-! ### Cells -/

/-- The character of a string in `json.dumps` without `ensure_ascii`. -/
def escUnicode (c : Char) : List Char := if c.toNat < 128 ∧ c.toNat ≠ 127 then escChar c else [c]

def strCompact (s : String) : List Char := '"' :: (s.toList.flatMap escUnicode ++ ['"'])

variable {F : Type u}

section

variable [FloatText F]

mutual

/-- `json.dumps` with the separators `","` and `":"`. -/
def compactDumps : Value F → List Char
  | .null => "null".toList
  | .bool true => "true".toList
  | .bool false => "false".toList
  | .int n => intText n
  | .float x => FloatText.text x
  | .str s => strCompact s
  | .list .nil => ['[', ']']
  | .list (.cons v rest) => '[' :: (compactDumps v ++ compactItems rest)
  | .dict .nil => ['{', '}']
  | .dict (.cons k v rest) =>
    '{' :: (strCompact k ++ ':' :: (compactDumps v ++ compactEntries rest))

def compactItems : Values F → List Char
  | .nil => [']']
  | .cons v rest => ',' :: (compactDumps v ++ compactItems rest)

def compactEntries : Entries F → List Char
  | .nil => ['}']
  | .cons k v rest => ',' :: (strCompact k ++ ':' :: (compactDumps v ++ compactEntries rest))

end

/-- `csv_cell`. -/
def csvCell : Value F → List Char
  | .null => []
  | .list items => compactDumps (.list items)
  | .dict entries => compactDumps (.dict entries)
  | .bool b => if b then "true".toList else "false".toList
  | .int n => intText n
  | .float x => FloatText.text x
  | .str s => s.toList

/-! ### Lines and documents -/

/-- The default dialect of `csv.writer`. -/
def excel : Dialect where
  delimiter := ','
  quote := '"'
  delimiter_ne_quote := by decide
  delimiter_ne_cr := by decide
  delimiter_ne_lf := by decide
  quote_ne_cr := by decide
  quote_ne_lf := by decide

def BOM : Char := Char.ofNat 0xFEFF

/-- `csv_line`. -/
def csvLine (values : List (Value F)) : List Char := writeRecord excel (values.map csvCell)

/-- `csv_document`. -/
def csvDocument (header : List String) (rows : List (List (Value F))) : List Char :=
  BOM :: (csvLine (F := F) (header.map .str) ++ rows.flatMap csvLine)

/-- The chunks of `streaming_csv`. -/
def streamingCsv (header : List String) (rows : List (List (Value F))) : List Bytes :=
  utf8Chars (BOM :: csvLine (F := F) (header.map .str)) ::
    rows.map fun row => utf8Chars (csvLine row)

end

/-! ### Streaming -/

abbrev Row (F : Type u) := OrderedDict String (Value F)

/-- `[row.get(c) for c in columns]`. -/
def valuesAt (columns : List String) (row : Row F) : List (Value F) :=
  columns.map fun c => (row.get? c).getD .null

/-- What a generator yields, how it ends, and whether the cursor is closed then. -/
structure Streamed (α : Type u) where
  yielded : List α
  raised : Bool
  closed : Bool
deriving DecidableEq, Repr

/-- `for raw in chunk`; `none` of the transform is an exception. -/
def yieldChunk (columns : List String) (transform : Row F → Option (Row F)) :
    List (Row F) → List (List (Value F)) × Bool
  | [] => ([], false)
  | raw :: rest =>
    match transform raw with
    | none => ([], true)
    | some row =>
      let (yielded, raised) := yieldChunk columns transform rest
      (valuesAt columns row :: yielded, raised)

/-- `stream_query` over the rows of the cursor. -/
def streamQuery (columns : List String) (transform : Row F → Option (Row F)) (batch : Nat)
    (rows : List (Row F)) : Streamed (List (Value F)) :=
  -- an empty page ends the loop; a page of no rows is always empty
  if h : rows.take batch = [] then ⟨[], false, true⟩
  else
    let (yielded, raised) := yieldChunk columns transform (rows.take batch)
    if raised then ⟨yielded, true, true⟩
    else
      let later := streamQuery columns transform batch (rows.drop batch)
      ⟨yielded ++ later.yielded, later.raised, later.closed⟩
termination_by rows.length
decreasing_by
  rw [List.take_eq_nil_iff, not_or] at h
  have hpos := List.length_pos_of_ne_nil h.2
  rw [List.length_drop]
  omega

/-! ### What the stream holds -/

/-- The rows up to the first that cannot be transformed. -/
def transformed (transform : Row F → Option (Row F)) (rows : List (Row F)) : List (Row F) :=
  ((rows.map transform).takeWhile Option.isSome).filterMap id

def failsOn (transform : Row F → Option (Row F)) (rows : List (Row F)) : Bool :=
  (rows.map transform).any Option.isNone

variable {columns : List String} {transform : Row F → Option (Row F)}

theorem yieldChunk_eq (chunk : List (Row F)) :
    yieldChunk columns transform chunk =
      ((transformed transform chunk).map (valuesAt columns), failsOn transform chunk) := by
  induction chunk with
  | nil => rfl
  | cons raw rest ih =>
    cases hraw : transform raw with
    | none => simp [yieldChunk, transformed, failsOn, hraw]
    | some row => simp [yieldChunk, transformed, failsOn, hraw, ih]

theorem transformed_append_of_fails {rows : List (Row F)} (h : failsOn transform rows = true)
    (later : List (Row F)) : transformed transform (rows ++ later) = transformed transform rows := by
  induction rows with
  | nil => cases h
  | cons raw rest ih =>
    cases hraw : transform raw with
    | none => simp [transformed, hraw]
    | some row =>
      have hrest : failsOn transform rest = true := by simpa [failsOn, hraw] using h
      simpa [transformed, hraw] using ih hrest

theorem transformed_append {rows : List (Row F)} (h : failsOn transform rows = false)
    (later : List (Row F)) :
    transformed transform (rows ++ later) =
      transformed transform rows ++ transformed transform later := by
  induction rows with
  | nil => rfl
  | cons raw rest ih =>
    cases hraw : transform raw with
    | none => simp [failsOn, hraw] at h
    | some row =>
      have hrest : failsOn transform rest = false := by simpa [failsOn, hraw] using h
      simpa [transformed, hraw] using ih hrest

theorem failsOn_append (rows later : List (Row F)) :
    failsOn transform (rows ++ later) = (failsOn transform rows || failsOn transform later) := by
  simp [failsOn]

/-- **The pages of the cursor do not show.**  With pages of any size but zero, the generator yields
    the rows of the query in order up to the first that cannot be transformed, raises exactly when
    there is one, and leaves the cursor closed. -/
theorem streamQuery_spec {batch : Nat} (hbatch : 0 < batch) (rows : List (Row F)) :
    streamQuery columns transform batch rows =
      ⟨(transformed transform rows).map (valuesAt columns), failsOn transform rows, true⟩ := by
  induction hlength : rows.length using Nat.strong_induction_on generalizing rows with
  | _ length ih =>
    rw [streamQuery]
    split
    · rename_i hempty
      rw [List.take_eq_nil_iff] at hempty
      obtain rfl := hempty.resolve_left (Nat.pos_iff_ne_zero.mp hbatch)
      rfl
    · rename_i hchunk
      rw [List.take_eq_nil_iff, not_or] at hchunk
      have hshorter : (rows.drop batch).length < length := by
        have hpos := List.length_pos_of_ne_nil hchunk.2
        rw [List.length_drop]
        omega
      have hrows := List.take_append_drop batch rows
      rw [yieldChunk_eq]
      cases hfails : failsOn transform (rows.take batch) with
      | true =>
        have htransformed := transformed_append_of_fails hfails (rows.drop batch)
        have hraised : failsOn transform (rows.take batch ++ rows.drop batch) = _ :=
          failsOn_append (rows.take batch) (rows.drop batch)
        rw [hrows] at htransformed hraised
        simp [htransformed, hraised, hfails]
      | false =>
        have htransformed := transformed_append hfails (rows.drop batch)
        have hraised : failsOn transform (rows.take batch ++ rows.drop batch) = _ :=
          failsOn_append (rows.take batch) (rows.drop batch)
        rw [hrows] at htransformed hraised
        simp [htransformed, hraised, hfails, ih _ hshorter _ rfl]

/-- Two rows, the second of which cannot be transformed, in pages of one row. -/
theorem streamQuery_spec_failing :
    0 < 1 ∧ streamQuery (F := Empty) ["a"]
        (fun row => if row.get? "a" = none then none else some row) 1
        [⟨[("a", .int 1)], by decide⟩, .empty] = ⟨[[.int 1]], true, true⟩ := by
  refine ⟨Nat.one_pos, ?_⟩
  rw [streamQuery_spec Nat.one_pos]
  rfl

section

variable [FloatText F]

theorem flatten_streamingCsv (header : List String) (rows : List (List (Value F))) :
    (streamingCsv header rows).flatten = utf8Chars (csvDocument header rows) := by
  have hrows : (rows.map fun row => utf8Chars (csvLine row)).flatten =
      utf8Chars (rows.flatMap csvLine) := by
    induction rows with
    | nil => rfl
    | cons row rest ih =>
      rw [List.map_cons, List.flatten_cons, ih, List.flatMap_cons, utf8Chars, utf8Chars, utf8Chars,
        List.flatMap_append]
  rw [streamingCsv, List.flatten_cons, hrows, csvDocument, utf8Chars, utf8Chars, utf8Chars,
    ← List.flatMap_append, List.cons_append]

/-- What a reader of the export gets: the records after the byte order mark. -/
def readExport (body : Bytes) : Option (List Record) :=
  match (utf8DecodeReplace body).toList with
  | c :: text => if c = BOM then readRecords excel text else readRecords excel (c :: text)
  | [] => readRecords excel []

theorem readExport_document (header : List String) (rows : List (List (Value F))) :
    readExport (utf8Chars (csvDocument header rows)) =
      some (header.map String.toList :: rows.map (List.map csvCell)) := by
  have hdecode : (utf8DecodeReplace (utf8Chars (csvDocument header rows))).toList =
      csvDocument header rows := by
    rw [utf8DecodeReplace, String.toList_ofList,
      utf8DecodeLoop_utf8Chars _ (length_le_utf8Chars _)]
  have hlines : csvLine (F := F) (header.map .str) ++ rows.flatMap csvLine =
      writeRecords excel (header.map String.toList :: rows.map (List.map csvCell)) := by
    rw [writeRecords, List.flatMap_cons, List.flatMap_map]
    congr 1
    rw [csvLine, List.map_map]
    rfl
  unfold readExport
  rw [hdecode, csvDocument]
  simp only [if_true]
  rw [hlines, readRecords_writeRecords]

/-- **An export is read back.**  Whatever the rows hold, whatever their number and the size of a
    page, the reader of a streamed export gets the header and then, for each row of the query in
    order, the texts of its values in column order, up to the first that cannot be transformed. -/
theorem read_streamedExport {batch : Nat} (hbatch : 0 < batch) (header columns : List String)
    (transform : Row F → Option (Row F)) (rows : List (Row F)) :
    readExport (streamingCsv header
        (streamQuery columns transform batch rows).yielded).flatten =
      some (header.map String.toList :: (transformed transform rows).map fun row =>
        (valuesAt columns row).map csvCell) := by
  rw [flatten_streamingCsv, readExport_document, streamQuery_spec hbatch, List.map_map]
  rfl

end

/-- A row whose name holds a comma, a quote and a line break, and one without a name. -/
theorem read_streamedExport_hostile :
    0 < 500 ∧ readExport (streamingCsv ["name", "n"]
        (streamQuery (F := Empty) ["name", "n"] some 500
          [⟨[("name", .str "a,\"b\"\r\n"), ("n", .int 1)], by decide⟩, .empty]).yielded).flatten =
      some [["name".toList, "n".toList], ["a,\"b\"\r\n".toList, ['1']], [[], []]] := by
  refine ⟨by decide, ?_⟩
  rw [read_streamedExport (by decide)]
  decide +kernel

end Meshpoint.CsvExport
