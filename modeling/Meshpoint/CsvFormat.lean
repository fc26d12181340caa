import Mathlib.Data.List.Basic

/-!
# Comma-separated values

Records of text fields, as `csv.writer` of the Python runtime writes them and as its reader takes
them: a field is quoted when it holds the delimiter, the quote character or a line break, a quote
inside is doubled, and a record ends with CR LF.  A record of one empty field is written with
quotes, so that it differs from a record of no field.

Reading is a machine over the characters.  `readRecords_writeRecords` is the round trip, for any
records at all, and `writeRecords_injective` says that no two tables have one text.
-/

namespace CsvFormat

/-- The delimiter between fields and the quote character. -/
structure Dialect where
  delimiter : Char
  quote : Char
  delimiter_ne_quote : delimiter ≠ quote
  delimiter_ne_cr : delimiter ≠ '\r'
  delimiter_ne_lf : delimiter ≠ '\n'
  quote_ne_cr : quote ≠ '\r'
  quote_ne_lf : quote ≠ '\n'

abbrev Field := List Char

abbrev Record := List Field

section

variable (d : Dialect)

/-! ### Writing -/

def isSpecial (c : Char) : Bool := c == d.delimiter || c == d.quote || c == '\r' || c == '\n'

def doubled : Field → List Char
  | [] => []
  | c :: rest => if c = d.quote then c :: c :: doubled rest else c :: doubled rest

def quoted (field : Field) : List Char := d.quote :: (doubled d field ++ [d.quote])

def writeField (field : Field) : List Char :=
  if field.any (isSpecial d) then quoted d field else field

def joined : Record → List Char
  | [] => []
  | [field] => writeField d field
  | field :: rest => writeField d field ++ d.delimiter :: joined rest

/-- `writer.writerow(record)`. -/
def writeRecord (record : Record) : List Char :=
  (if record = [[]] then quoted d [] else joined d record) ++ ['\r', '\n']

def writeRecords (records : List Record) : List Char := records.flatMap (writeRecord d)

/-! ### Reading -/

/-- Where the reader stands. -/
inductive Mode where
  | recordStart
  | fieldStart
  | plain
  | quoting
  /-- After a quote inside a quoted field: the field ends, or the quote was doubled. -/
  | quoteSeen
  | returnSeen
deriving DecidableEq, Repr

/-- The reader: the field and the record it is in, and the records before. -/
structure Reader where
  mode : Mode := .recordStart
  field : Field := []
  record : Record := []
  records : List Record := []
deriving DecidableEq, Repr

namespace Reader

def endField (r : Reader) (mode : Mode) : Reader :=
  { r with mode := mode, field := [], record := r.record ++ [r.field] }

def endRecord (r : Reader) : Reader :=
  { mode := .recordStart, field := [], record := [], records := r.records ++ [r.record] }

def push (r : Reader) (mode : Mode) (c : Char) : Reader :=
  { r with mode := mode, field := r.field ++ [c] }

end Reader

def feedPlain (r : Reader) (c : Char) : Reader :=
  if c = '\r' then r.endField .returnSeen
  else if c = '\n' then (r.endField .recordStart).endRecord
  else if c = d.delimiter then r.endField .fieldStart
  else r.push .plain c

/-- One character; `none` where the text is malformed. -/
def feed (r : Reader) (c : Char) : Option Reader :=
  match r.mode with
  | .recordStart =>
    if c = '\r' then some { r with mode := .returnSeen }
    else if c = '\n' then some r.endRecord
    else if c = d.quote then some { r with mode := .quoting }
    else some (feedPlain d r c)
  | .fieldStart =>
    if c = d.quote then some { r with mode := .quoting } else some (feedPlain d r c)
  | .plain => some (feedPlain d r c)
  | .quoting =>
    if c = d.quote then some { r with mode := .quoteSeen } else some (r.push .quoting c)
  | .quoteSeen =>
    if c = d.quote then some (r.push .quoting c)
    else if c = '\r' ∨ c = '\n' ∨ c = d.delimiter then some (feedPlain d r c)
    else none
  | .returnSeen => if c = '\n' then some r.endRecord else none

def feedAll (r : Reader) : List Char → Option Reader
  | [] => some r
  | c :: rest => (feed d r c).bind fun r' => feedAll r' rest

/-- The records of a text; the line break after the last one may be missing. -/
def readRecords (text : List Char) : Option (List Record) :=
  (feedAll d {} text).bind fun r =>
    match r.mode with
    | .recordStart => some r.records
    | .fieldStart | .plain | .quoteSeen => some (r.endField .recordStart).endRecord.records
    | .quoting | .returnSeen => none

/-! ### The round trip -/

variable {d}

theorem feedAll_append (r : Reader) (text rest : List Char) :
    feedAll d r (text ++ rest) = (feedAll d r text).bind fun r' => feedAll d r' rest := by
  induction text generalizing r with
  | nil => rfl
  | cons c text ih =>
    simp only [List.cons_append, feedAll, Option.bind_assoc]
    cases feed d r c with
    | none => rfl
    | some r' => exact ih r'

theorem isSpecial_eq_false {c : Char} (h : isSpecial d c = false) :
    c ≠ d.delimiter ∧ c ≠ d.quote ∧ c ≠ '\r' ∧ c ≠ '\n' := by
  simpa [isSpecial, and_assoc] using h

theorem feedAll_doubled (field : Field) {r : Reader} (hmode : r.mode = .quoting) :
    feedAll d r (doubled d field) = some { r with field := r.field ++ field } := by
  induction field generalizing r with
  | nil => simp [doubled, feedAll]
  | cons c rest ih =>
    have hread : feedAll d r (doubled d (c :: rest)) =
        feedAll d (r.push .quoting c) (doubled d rest) := by
      by_cases hc : c = d.quote
      · simp only [doubled, if_pos hc, feedAll, feed, hmode, Option.bind_some]
        rfl
      · simp only [doubled, if_neg hc, feedAll, feed, hmode, Option.bind_some]
    rw [hread, ih rfl]
    simp [Reader.push, hmode]

theorem feedAll_quoted (field : Field) {r : Reader}
    (hmode : r.mode = .recordStart ∨ r.mode = .fieldStart) (hempty : r.field = []) :
    feedAll d r (quoted d field) = some { r with mode := .quoteSeen, field := field } := by
  have hopen : feed d r d.quote = some { r with mode := .quoting } := by
    obtain hmode | hmode := hmode
    · simp only [feed, hmode, if_neg d.quote_ne_cr, if_neg d.quote_ne_lf, if_true]
    · simp only [feed, hmode, if_true]
  have hinside : ({ r with mode := .quoting } : Reader).mode = .quoting := rfl
  rw [quoted, feedAll, hopen, Option.bind_some, feedAll_append, feedAll_doubled field hinside,
    Option.bind_some, hempty, List.nil_append]
  simp [feedAll, feed]

theorem feedAll_plain_of_plain {field : Field} (hplain : field.any (isSpecial d) = false)
    {r : Reader} (hmode : r.mode = .plain) :
    feedAll d r field = some { r with field := r.field ++ field } := by
  induction field generalizing r with
  | nil => simp [feedAll]
  | cons c rest ih =>
    rw [List.any_cons, Bool.or_eq_false_iff] at hplain
    obtain ⟨hdelimiter, -, hcr, hlf⟩ := isSpecial_eq_false hplain.1
    have hfeed : feed d r c = some (r.push .plain c) := by
      simp only [feed, hmode, feedPlain, if_neg hcr, if_neg hlf, if_neg hdelimiter]
    rw [feedAll, hfeed, Option.bind_some, ih hplain.2 rfl]
    simp [Reader.push, hmode]

theorem feedAll_plain {c : Char} {rest : Field}
    (hplain : (c :: rest).any (isSpecial d) = false) {r : Reader}
    (hmode : r.mode = .recordStart ∨ r.mode = .fieldStart) (hempty : r.field = []) :
    feedAll d r (c :: rest) = some { r with mode := .plain, field := c :: rest } := by
  rw [List.any_cons, Bool.or_eq_false_iff] at hplain
  obtain ⟨hdelimiter, hquote, hcr, hlf⟩ := isSpecial_eq_false hplain.1
  have hfeed : feed d r c = some (r.push .plain c) := by
    obtain hmode | hmode := hmode
    · simp only [feed, hmode, feedPlain, if_neg hcr, if_neg hlf, if_neg hdelimiter, if_neg hquote]
    · simp only [feed, hmode, feedPlain, if_neg hcr, if_neg hlf, if_neg hdelimiter, if_neg hquote]
  rw [feedAll, hfeed, Option.bind_some, feedAll_plain_of_plain hplain.2 rfl]
  simp [Reader.push, hempty]

theorem feedAll_writeField (field : Field) {r : Reader}
    (hmode : r.mode = .recordStart ∨ r.mode = .fieldStart) (hempty : r.field = []) :
    ∃ mode, feedAll d r (writeField d field) = some { r with mode := mode, field := field } ∧
      (mode = .plain ∨ mode = .quoteSeen ∨ field = [] ∧ mode = r.mode) := by
  unfold writeField
  split
  · exact ⟨.quoteSeen, feedAll_quoted field hmode hempty, Or.inr (Or.inl rfl)⟩
  · rename_i hplain
    cases field with
    | nil =>
      refine ⟨r.mode, ?_, Or.inr (Or.inr ⟨rfl, rfl⟩)⟩
      rw [feedAll, ← hempty]
    | cons c rest =>
      exact ⟨.plain, feedAll_plain (Bool.not_eq_true _ ▸ hplain) hmode hempty, Or.inl rfl⟩

theorem feedAll_writeField_delimiter (field : Field) {r : Reader}
    (hmode : r.mode = .recordStart ∨ r.mode = .fieldStart) (hempty : r.field = []) :
    feedAll d r (writeField d field ++ [d.delimiter]) =
      some { r with mode := .fieldStart, record := r.record ++ [field] } := by
  obtain ⟨mode, hread, hends⟩ := feedAll_writeField field hmode hempty
  have hdelimiter : d.delimiter ≠ d.quote := d.delimiter_ne_quote
  have hplain : ∀ s : Reader, feedPlain d s d.delimiter = s.endField .fieldStart := by
    intro s
    simp only [feedPlain, if_neg d.delimiter_ne_cr, if_neg d.delimiter_ne_lf, if_true]
  have hmodes : mode = .plain ∨ mode = .quoteSeen ∨ mode = .recordStart ∨ mode = .fieldStart := by
    obtain rfl | rfl | ⟨-, rfl⟩ := hends
    · exact Or.inl rfl
    · exact Or.inr (Or.inl rfl)
    · exact Or.inr (Or.inr hmode)
  rw [feedAll_append, hread, Option.bind_some, feedAll]
  have hfeed : feed d { r with mode := mode, field := field } d.delimiter =
      some (({ r with mode := mode, field := field } : Reader).endField .fieldStart) := by
    obtain rfl | rfl | rfl | rfl := hmodes
    · simp only [feed, hplain]
    · simp only [feed, hplain, if_neg hdelimiter, or_true, if_true]
    · simp only [feed, hplain, if_neg d.delimiter_ne_cr, if_neg d.delimiter_ne_lf,
        if_neg hdelimiter]
    · simp only [feed, hplain, if_neg hdelimiter]
  rw [hfeed, Option.bind_some, feedAll]
  simp [Reader.endField, hempty]

theorem feedAll_writeField_return (field : Field) {r : Reader}
    (hmode : r.mode = .fieldStart ∨ r.mode = .recordStart ∧ field ≠ []) (hempty : r.field = []) :
    feedAll d r (writeField d field ++ ['\r']) =
      some { r with mode := .returnSeen, record := r.record ++ [field] } := by
  obtain ⟨mode, hread, hends⟩ := feedAll_writeField field
    (hmode.elim Or.inr fun h => Or.inl h.1) hempty
  have hplain : ∀ s : Reader, feedPlain d s '\r' = s.endField .returnSeen := by
    intro s
    simp only [feedPlain, if_true]
  have hmodes : mode = .plain ∨ mode = .quoteSeen ∨ mode = .fieldStart := by
    obtain rfl | rfl | ⟨hnil, rfl⟩ := hends
    · exact Or.inl rfl
    · exact Or.inr (Or.inl rfl)
    · exact Or.inr (Or.inr (hmode.resolve_right fun h => h.2 hnil))
  rw [feedAll_append, hread, Option.bind_some, feedAll]
  have hfeed : feed d { r with mode := mode, field := field } '\r' =
      some (({ r with mode := mode, field := field } : Reader).endField .returnSeen) := by
    obtain rfl | rfl | rfl := hmodes
    · simp only [feed, hplain]
    · simp only [feed, hplain, if_neg d.quote_ne_cr.symm, true_or, if_true]
    · simp only [feed, hplain, if_neg d.quote_ne_cr.symm]
  rw [hfeed, Option.bind_some, feedAll]
  simp [Reader.endField, hempty]

theorem feedAll_joined {record : Record} (hne : record ≠ []) {r : Reader}
    (hmode : r.mode = .fieldStart ∨ r.mode = .recordStart ∧ record ≠ [[]]) (hempty : r.field = []) :
    feedAll d r (joined d record ++ ['\r']) =
      some { r with mode := .returnSeen, record := r.record ++ record } := by
  induction record generalizing r with
  | nil => exact absurd rfl hne
  | cons field rest ih =>
    cases rest with
    | nil =>
      refine feedAll_writeField_return field (hmode.imp_right fun h => ⟨h.1, ?_⟩) hempty
      intro hnil
      exact h.2 (by rw [hnil])
    | cons next more =>
      have hfirst := feedAll_writeField_delimiter (d := d) field
        (hmode.elim Or.inr fun h => Or.inl h.1) hempty
      have hsplit : joined d (field :: next :: more) ++ ['\r'] =
          (writeField d field ++ [d.delimiter]) ++ (joined d (next :: more) ++ ['\r']) := by
        simp [joined]
      have hrest := ih (List.cons_ne_nil _ _)
        (r := { r with mode := .fieldStart, record := r.record ++ [field] }) (Or.inl rfl) hempty
      rw [hsplit, feedAll_append, hfirst, Option.bind_some, hrest]
      simp

/-- A written record is read from where a record may start, and leaves the reader there. -/
theorem feedAll_writeRecord (record : Record) (records : List Record) :
    feedAll d { records := records } (writeRecord d record) =
      some { records := records ++ [record] } := by
  have hline : ∀ text, feedAll d { records := records } (text ++ ['\r']) =
        some { mode := .returnSeen, record := record, records := records } →
      feedAll d { records := records } (text ++ ['\r', '\n']) =
        some { records := records ++ [record] } := by
    intro text htext
    have hsplit : text ++ ['\r', '\n'] = (text ++ ['\r']) ++ ['\n'] := by simp
    rw [hsplit, feedAll_append, htext]
    simp [feedAll, feed, Reader.endRecord]
  rw [writeRecord]
  refine hline _ ?_
  by_cases hsingle : record = [[]]
  · rw [if_pos hsingle, feedAll_append, feedAll_quoted [] (Or.inl rfl) rfl, Option.bind_some,
      hsingle]
    simp [feedAll, feed, feedPlain, d.quote_ne_cr.symm, Reader.endField]
  · rw [if_neg hsingle]
    by_cases hnil : record = []
    · rw [hnil]
      simp [joined, feedAll, feed]
    · simpa using feedAll_joined (d := d) hnil
        (r := { records := records }) (Or.inr ⟨rfl, hsingle⟩) rfl

theorem feedAll_writeRecords (table records : List Record) :
    feedAll d { records := records } (writeRecords d table) =
      some { records := records ++ table } := by
  induction table generalizing records with
  | nil => simp [writeRecords, feedAll]
  | cons record table ih =>
    rw [writeRecords, List.flatMap_cons, feedAll_append, feedAll_writeRecord, Option.bind_some,
      ← writeRecords, ih]
    simp

/-- **The round trip.**  The text of any records is read as these records. -/
theorem readRecords_writeRecords (table : List Record) :
    readRecords d (writeRecords d table) = some table := by
  rw [readRecords, feedAll_writeRecords]
  rfl

theorem writeRecords_injective : Function.Injective (writeRecords d) := fun s t h => by
  have hread := readRecords_writeRecords (d := d) s
  rw [h, readRecords_writeRecords] at hread
  exact (Option.some.inj hread).symm

end

end CsvFormat
