import Meshpoint.ListFacts
import Mathlib.Data.List.Induction
import Mathlib.Data.List.Nodup
import Mathlib.Logic.Function.Basic
import Mathlib.Tactic.Tauto

/-!
# The schema of the database

Model of `connect` and `_run_migrations` (`database.py`), as far as they change columns.  A start
may be cut off between two statements, each of which is kept.

From every database of an earlier version, and after any starts that were cut off, a start leaves
every table with all its columns, exactly when none of them was cut off between the two signal
columns of `messages` (`connect_complete_iff`).
-/

namespace Meshpoint.DatabaseManager

inductive Table where
  | nodes
  | packets
  | telemetry
  | messages
  | reticulumPeers
deriving DecidableEq

/-- The columns of `SCHEMA_SQL`. -/
def SCHEMA_SQL : Table → List String
  | .nodes => ["node_id", "long_name", "short_name", "hardware_model", "firmware_version",
      "protocol", "role", "latitude", "longitude", "altitude", "last_heard", "first_seen",
      "packet_count"]
  | .packets => ["id", "packet_id", "source_id", "destination_id", "protocol", "packet_type",
      "hop_limit", "hop_start", "channel_hash", "want_ack", "via_mqtt", "relay_node",
      "decoded_payload", "decrypted", "rssi", "snr", "frequency_mhz", "spreading_factor",
      "bandwidth_khz", "capture_source", "timestamp"]
  | .telemetry => ["id", "node_id", "battery_level", "voltage", "temperature", "humidity",
      "barometric_pressure", "channel_utilization", "air_util_tx", "uptime_seconds", "timestamp"]
  | .messages => ["id", "direction", "text", "node_id", "node_name", "protocol", "channel",
      "timestamp", "status", "packet_id", "rssi", "snr", "rx_count", "attachments"]
  | .reticulumPeers => ["destination_hash", "display_name", "aspect", "first_seen", "last_seen"]

/-- The columns of each table; `none` for a table that is not there. -/
abbrev Database : Type := Table → Option (List String)

inductive Statement where
  /-- `CREATE TABLE IF NOT EXISTS`. -/
  | create (table : Table)
  /-- `ALTER TABLE ... ADD COLUMN`. -/
  | addColumn (table : Table) (column : String)
deriving DecidableEq

/-- The database after a statement; `none` when it raises. -/
def execute (db : Database) : Statement → Option Database
  | .create table =>
    some (Function.update db table (some ((db table).getD (SCHEMA_SQL table))))
  | .addColumn table column =>
    match db table with
    | none => none
    | some columns =>
      if column ∈ columns then none
      else some (Function.update db table (some (columns ++ [column])))

/-- What is kept of the statements, and whether none of them raised. -/
def perform (db : Database) : List Statement → Database × Bool
  | [] => (db, true)
  | statement :: rest =>
    match execute db statement with
    | some after => perform after rest
    | none => (db, false)

def script : List Statement :=
  [.create .nodes, .create .packets, .create .telemetry, .create .messages,
    .create .reticulumPeers]

def addUnless (columns : List String) (known : String) (table : Table) (added : List String) :
    List Statement :=
  if known ∈ columns then [] else added.map (.addColumn table)

/-- `_run_migrations`, where `table_info` of a table gives these columns. -/
def runMigrations (info : Table → List String) : List Statement :=
  addUnless (info .packets) "relay_node" .packets ["relay_node"] ++
  addUnless (info .nodes) "role" .nodes ["role"] ++
  addUnless (info .nodes) "public_key" .nodes ["public_key"] ++
  (if info .messages = [] then [] else
    addUnless (info .messages) "rssi" .messages ["rssi", "snr"] ++
    addUnless (info .messages) "rx_count" .messages ["rx_count"] ++
    addUnless (info .messages) "attachments" .messages ["attachments"])

/-- The columns after the script. -/
def tableInfo (db : Database) (table : Table) : List String :=
  (db table).getD (SCHEMA_SQL table)

/-- The statements of `connect`: no migration of another table changes what `table_info` gives. -/
def statements (db : Database) : List Statement := script ++ runMigrations (tableInfo db)

def connect (db : Database) : Database × Bool := perform db (statements db)

/-- A start that is cut off after that many statements. -/
def cutOff (db : Database) (done : Nat) : Database := (perform db ((statements db).take done)).1

def cutOffs (db : Database) (starts : List Nat) : Database := starts.foldl cutOff db

/-! ### Databases of earlier versions -/

def Has (db : Database) (table : Table) (column : String) : Prop :=
  ∃ columns, db table = some columns ∧ column ∈ columns

/-- The columns that were added to a table after its first version. -/
def addedLater : Table → List String
  | .packets => ["relay_node"]
  | .nodes => ["role", "public_key"]
  | .messages => ["rssi", "snr", "rx_count", "attachments"]
  | _ => []

/-- Every table has all its columns. -/
def Complete (db : Database) : Prop :=
  ∀ table, ∀ column ∈ SCHEMA_SQL table ++ addedLater table, Has db table column

/-- A table that is there has the columns of its first version. -/
def Earlier (db : Database) : Prop :=
  ∀ table, (db table).isSome →
    ∀ column ∈ SCHEMA_SQL table, column ∉ addedLater table → Has db table column

/-- The signal columns are there together. -/
def Paired (db : Database) : Prop := Has db .messages "rssi" ↔ Has db .messages "snr"

/-- The start ends between the two signal columns. -/
def Splits (db : Database) (done : Nat) : Prop :=
  ((statements db).take done).getLast? = some (.addColumn .messages "rssi")

instance (db : Database) (done : Nat) : Decidable (Splits db done) :=
  inferInstanceAs (Decidable (_ = _))

/-! ### What statements leave -/

theorem perform_append (db : Database) (first second : List Statement)
    (h : (perform db first).2 = true) :
    perform db (first ++ second) = perform (perform db first).1 second := by
  induction first generalizing db with
  | nil => rfl
  | cons statement rest ih =>
    rw [List.cons_append, perform, perform] at *
    cases hafter : execute db statement with
    | none => simp [hafter] at h
    | some after =>
      simp only [hafter] at h ⊢
      exact ih after h

theorem perform_prefix {db : Database} {first second : List Statement}
    (h : (perform db (first ++ second)).2 = true) : (perform db first).2 = true := by
  induction first generalizing db with
  | nil => rfl
  | cons statement rest ih =>
    rw [List.cons_append, perform] at h
    rw [perform]
    cases hafter : execute db statement with
    | none => simp [hafter] at h
    | some after =>
      simp only [hafter] at h ⊢
      exact ih h

/-- A statement adds the column it names, or makes a table that was not there. -/
theorem has_execute {db after : Database} {statement : Statement}
    (h : execute db statement = some after) (table : Table) (column : String) :
    Has after table column ↔ Has db table column ∨ statement = .addColumn table column ∨
      (statement = .create table ∧ db table = none ∧ column ∈ SCHEMA_SQL table) := by
  cases statement with
  | create made =>
    obtain rfl := Option.some.inj h
    by_cases hsame : table = made
    · subst hsame
      cases hdb : db table <;> simp [Has, hdb]
    · simp [Has, Function.update_of_ne hsame, Ne.symm hsame]
  | addColumn altered new =>
    rw [execute] at h
    cases hdb : db altered with
    | none => simp [hdb] at h
    | some columns =>
      by_cases hnew : new ∈ columns
      · simp [hdb, hnew] at h
      · simp only [hdb, hnew, if_false, Option.some.injEq] at h
        subst h
        by_cases hsame : table = altered
        · subst hsame
          simp [Has, hdb, eq_comm]
        · simp [Has, Function.update_of_ne hsame, Ne.symm hsame]

theorem isSome_execute {db after : Database} {statement : Statement}
    (h : execute db statement = some after) (table : Table) :
    (after table).isSome ↔ (db table).isSome ∨ statement = .create table := by
  cases statement with
  | create made =>
    obtain rfl := Option.some.inj h
    by_cases hsame : table = made
    · subst hsame
      simp
    · simp [Function.update_of_ne hsame, Ne.symm hsame]
  | addColumn altered new =>
    rw [execute] at h
    cases hdb : db altered with
    | none => simp [hdb] at h
    | some columns =>
      by_cases hnew : new ∈ columns
      · simp [hdb, hnew] at h
      · simp only [hdb, hnew, if_false, Option.some.injEq] at h
        subst h
        by_cases hsame : table = altered
        · subst hsame
          simp [hdb]
        · simp [Function.update_of_ne hsame]

theorem isSome_perform {db : Database} {done : List Statement} (h : (perform db done).2 = true)
    (table : Table) :
    ((perform db done).1 table).isSome ↔ (db table).isSome ∨ .create table ∈ done := by
  induction done generalizing db with
  | nil => simp [perform]
  | cons statement rest ih =>
    rw [perform] at h ⊢
    cases hafter : execute db statement with
    | none => simp [hafter] at h
    | some after =>
      simp only [hafter] at h ⊢
      rw [ih h, isSome_execute hafter, List.mem_cons, or_assoc, @eq_comm _ statement]

/-- The columns after statements that do not raise. -/
theorem has_perform {db : Database} {done : List Statement} (h : (perform db done).2 = true)
    (table : Table) (column : String) :
    Has (perform db done).1 table column ↔ Has db table column ∨ .addColumn table column ∈ done ∨
      (.create table ∈ done ∧ db table = none ∧ column ∈ SCHEMA_SQL table) := by
  induction done generalizing db with
  | nil => simp [perform]
  | cons statement rest ih =>
    rw [perform] at h ⊢
    cases hafter : execute db statement with
    | none => simp [hafter] at h
    | some after =>
      simp only [hafter] at h ⊢
      have hnone : after table = none ↔ db table = none ∧ statement ≠ .create table := by
        have hsome := isSome_execute hafter table
        rw [← Option.not_isSome_iff_eq_none, hsome, not_or, Option.not_isSome_iff_eq_none]
      rw [ih h, has_execute hafter, hnone]
      simp only [List.mem_cons, eq_comm (b := statement)]
      tauto

/-! ### The statements of a start -/

theorem mem_addUnless {columns added : List String} {known : String} {table : Table}
    {statement : Statement} : statement ∈ addUnless columns known table added ↔
      known ∉ columns ∧ ∃ column ∈ added, statement = .addColumn table column := by
  unfold addUnless
  split <;> simp [*, eq_comm]

theorem sublist_addUnless (columns added : List String) (known : String) (table : Table) :
    (addUnless columns known table added).Sublist (added.map (.addColumn table)) := by
  unfold addUnless
  split
  · exact List.nil_sublist _
  · exact List.Sublist.refl _

/-- Every migration there is. -/
def allMigrations : List Statement :=
  [.addColumn .packets "relay_node"] ++ [.addColumn .nodes "role"] ++
  [.addColumn .nodes "public_key"] ++
  ([.addColumn .messages "rssi", .addColumn .messages "snr"] ++
    [.addColumn .messages "rx_count"] ++ [.addColumn .messages "attachments"])

theorem nodup_runMigrations (info : Table → List String) : (runMigrations info).Nodup := by
  have hsublist : (runMigrations info).Sublist allMigrations := by
    unfold runMigrations allMigrations
    refine ((sublist_addUnless ..).append (sublist_addUnless ..)).append (sublist_addUnless ..)
      |>.append ?_
    split
    · exact List.nil_sublist _
    · exact ((sublist_addUnless ..).append (sublist_addUnless ..)).append (sublist_addUnless ..)
  exact hsublist.nodup (by decide)

/-- The column by which a migration is recognised as done. -/
def knownBy (column : String) : String := if column = "snr" then "rssi" else column

theorem mem_runMigrations {info : Table → List String} (hmessages : info .messages ≠ [])
    {statement : Statement} : statement ∈ runMigrations info ↔
      ∃ table, ∃ column ∈ addedLater table, statement = .addColumn table column ∧
        knownBy column ∉ info table := by
  simp only [runMigrations, List.mem_append, mem_addUnless, if_neg hmessages]
  constructor
  · rintro (((⟨h, column, hmem, rfl⟩ | ⟨h, column, hmem, rfl⟩) | ⟨h, column, hmem, rfl⟩) |
      (⟨h, column, hmem, rfl⟩ | ⟨h, column, hmem, rfl⟩) | ⟨h, column, hmem, rfl⟩)
    all_goals
      simp only [List.mem_cons, List.not_mem_nil, or_false] at hmem
      rcases hmem with rfl | rfl
    all_goals exact ⟨_, _, by decide, rfl, h⟩
  · rintro ⟨table, column, hmem, rfl, hknown⟩
    cases table <;>
      simp only [addedLater, List.mem_cons, List.not_mem_nil, or_false] at hmem
    · rcases hmem with rfl | rfl <;> simp_all [knownBy]
    · subst hmem
      simp_all [knownBy]
    · rcases hmem with rfl | rfl | rfl | rfl <;> simp_all [knownBy]

/-- A start makes the tables first. -/
theorem perform_script (db : Database) :
    perform db script = (fun table => some (tableInfo db table), true) := by
  have htables : (fun table => some (tableInfo db table)) =
      Function.update (Function.update (Function.update (Function.update (Function.update db
        .nodes (some (tableInfo db .nodes))) .packets (some (tableInfo db .packets)))
        .telemetry (some (tableInfo db .telemetry))) .messages (some (tableInfo db .messages)))
        .reticulumPeers (some (tableInfo db .reticulumPeers)) := by
    funext table
    cases table <;> rfl
  rw [htables]
  rfl

/-- Columns that are not there are added without an exception. -/
theorem perform_new {info : Table → List String} {new : List Statement} (hnodup : new.Nodup)
    (hnew : ∀ statement ∈ new, ∃ table column, statement = .addColumn table column ∧
      column ∉ info table) :
    (perform (fun table => some (info table)) new).2 = true := by
  induction new generalizing info with
  | nil => rfl
  | cons statement rest ih =>
    obtain ⟨hhead, hrest⟩ := List.forall_mem_cons.mp hnew
    obtain ⟨table, column, rfl, hcolumn⟩ := hhead
    have hupdate : Function.update (fun table => some (info table)) table
        (some (info table ++ [column])) =
          fun other => some (Function.update info table (info table ++ [column]) other) := by
      funext other
      by_cases hsame : other = table
      · subst hsame
        simp
      · simp [Function.update_of_ne hsame]
    simp only [perform, execute, if_neg hcolumn, hupdate]
    apply ih (List.nodup_cons.mp hnodup).2
    intro statement hmem
    obtain ⟨other, new, rfl, hnot⟩ := hrest statement hmem
    refine ⟨other, new, rfl, ?_⟩
    by_cases hsame : other = table
    · subst hsame
      rw [Function.update_self, List.mem_append, not_or, List.mem_singleton]
      refine ⟨hnot, ?_⟩
      rintro rfl
      exact (List.nodup_cons.mp hnodup).1 hmem
    · rwa [Function.update_of_ne hsame]

/-- What a start relies on: a table has the columns of its first version, and `snr` is not there
    without `rssi`. -/
structure Sound (db : Database) : Prop where
  earlier : Earlier db
  signal : Has db .messages "snr" → Has db .messages "rssi"

theorem mem_tableInfo {db : Database} {table : Table} {column : String} :
    column ∈ tableInfo db table ↔
      Has db table column ∨ (db table = none ∧ column ∈ SCHEMA_SQL table) := by
  unfold tableInfo Has
  cases db table <;> simp

theorem Sound.first {db : Database} (h : Sound db) {table : Table} {column : String}
    (hmem : column ∈ SCHEMA_SQL table) (hfirst : column ∉ addedLater table) :
    column ∈ tableInfo db table := by
  rw [mem_tableInfo]
  cases hdb : db table with
  | none => exact Or.inr ⟨rfl, hmem⟩
  | some columns => exact Or.inl (h.earlier table (by simp [hdb]) column hmem hfirst)

theorem Sound.messages_ne {db : Database} (h : Sound db) : tableInfo db .messages ≠ [] :=
  List.ne_nil_of_mem (@Sound.first db h .messages "id" (by decide) (by decide))

theorem Sound.mem_statements {db : Database} (h : Sound db) {table : Table} {column : String} :
    .addColumn table column ∈ statements db ↔
      column ∈ addedLater table ∧ knownBy column ∉ tableInfo db table := by
  rw [statements, List.mem_append, mem_runMigrations h.messages_ne]
  simp [script]

theorem Sound.signal_tableInfo {db : Database} (h : Sound db)
    (hsnr : "snr" ∈ tableInfo db .messages) : "rssi" ∈ tableInfo db .messages := by
  rw [mem_tableInfo] at hsnr ⊢
  rcases hsnr with hsnr | ⟨hnone, -⟩
  · exact Or.inl (h.signal hsnr)
  · exact Or.inr ⟨hnone, by decide⟩

/-- No statement of a start raises. -/
theorem Sound.connect_ok {db : Database} (h : Sound db) : (connect db).2 = true := by
  rw [connect, statements, perform_append _ _ _ (by rw [perform_script]), perform_script]
  apply perform_new (nodup_runMigrations _)
  intro statement hmem
  obtain ⟨table, column, hadded, rfl, hknown⟩ := (mem_runMigrations h.messages_ne).mp hmem
  refine ⟨table, column, rfl, fun hcolumn => hknown ?_⟩
  unfold knownBy
  split
  · rename_i hsnr
    subst hsnr
    have htable : table = .messages := by
      cases table <;> simp [addedLater] at hadded ⊢
    subst htable
    exact h.signal_tableInfo hcolumn
  · exact hcolumn

/-! ### Signal columns -/

theorem Sound.mem_rssi {db : Database} (h : Sound db) :
    .addColumn .messages "rssi" ∈ statements db ↔ "rssi" ∉ tableInfo db .messages :=
  h.mem_statements.trans (and_iff_right (by decide))

theorem Sound.mem_snr {db : Database} (h : Sound db) :
    .addColumn .messages "snr" ∈ statements db ↔ "rssi" ∉ tableInfo db .messages :=
  h.mem_statements.trans (and_iff_right (by decide))

/-- After a whole start the signal columns are there together exactly when they were before, and
    every other column is there. -/
theorem Sound.complete_iff {db : Database} (h : Sound db) :
    Complete (connect db).1 ↔ Paired db := by
  have hhas : ∀ table column, Has (connect db).1 table column ↔ Has db table column ∨
      .addColumn table column ∈ statements db ∨
        (db table = none ∧ column ∈ SCHEMA_SQL table) := by
    intro table column
    rw [connect, has_perform h.connect_ok]
    have hcreate : .create table ∈ statements db := by
      apply List.mem_append_left
      cases table <;> simp [script]
    simp [hcreate]
  have hinfo : ∀ table column, Has (connect db).1 table column ↔
      column ∈ tableInfo db table ∨ .addColumn table column ∈ statements db := by
    intro table column
    rw [hhas, mem_tableInfo]
    tauto
  have hpaired : Paired db ↔
      ("snr" ∈ tableInfo db .messages ∨ "rssi" ∉ tableInfo db .messages) := by
    unfold Paired
    rw [mem_tableInfo, mem_tableInfo]
    have hsignal := h.signal
    cases hdb : db .messages with
    | none => simp [Has, hdb, SCHEMA_SQL]
    | some columns =>
      simp only [reduceCtorEq, false_and, or_false]
      tauto
  rw [hpaired]
  constructor
  · intro hcomplete
    have hsnr := (hinfo _ _).mp (hcomplete .messages "snr" (by decide))
    rwa [h.mem_snr] at hsnr
  · intro hsignal table column hmem
    rw [hinfo]
    by_cases hadded : column ∈ addedLater table
    · rw [h.mem_statements, and_iff_right hadded]
      by_cases hsnr : column = "snr"
      · subst hsnr
        have htable : table = .messages := by
          cases table <;> simp [addedLater] at hadded ⊢
        subst htable
        exact hsignal
      · rw [knownBy, if_neg hsnr]
        exact Decidable.em _
    · exact Or.inl (h.first ((List.mem_append.mp hmem).resolve_right hadded) hadded)

/-! ### Starts that are cut off -/

/-- Cut off anywhere, a list has its second neighbour only with its first, and its first alone
    exactly when that is its end. -/
theorem mem_take_neighbours {α : Type} {front back : List α} {x y : α}
    (h : (front ++ x :: y :: back).Nodup) (done : Nat) :
    (y ∈ (front ++ x :: y :: back).take done → x ∈ (front ++ x :: y :: back).take done) ∧
      ((x ∈ (front ++ x :: y :: back).take done → y ∈ (front ++ x :: y :: back).take done) ↔
        ((front ++ x :: y :: back).take done).getLast? ≠ some x) := by
  obtain ⟨-, hback, hapart⟩ := List.nodup_append.mp h
  obtain ⟨hx, hback⟩ := List.nodup_cons.mp hback
  have hfront : x ∉ front := fun hmem => hapart x hmem x (by simp) rfl
  have hyfront : y ∉ front := fun hmem => hapart y hmem y (by simp) rfl
  rcases Nat.lt_trichotomy done (front.length + 1) with hlt | rfl | hgt
  · have htake : (front ++ x :: y :: back).take done = front.take done :=
      List.take_append_of_le_length (Nat.le_of_lt_succ hlt)
    rw [htake]
    have hnot : ∀ {z}, z ∉ front → z ∉ front.take done := fun hz hmem =>
      hz (List.mem_of_mem_take hmem)
    refine ⟨fun hmem => absurd hmem (hnot hyfront), iff_of_true ?_ ?_⟩
    · exact fun hmem => absurd hmem (hnot hfront)
    · exact fun hlast => hnot hfront (List.mem_of_getLast? hlast)
  · have htake : (front ++ x :: y :: back).take (front.length + 1) = front ++ [x] := by
      simp [List.take_append, List.take_of_length_le]
    rw [htake]
    have hxy : y ≠ x := fun heq => hx (by simp [heq])
    simp [hyfront, hxy]
  · obtain ⟨more, rfl⟩ := Nat.exists_eq_add_of_lt hgt
    have htake : (front ++ x :: y :: back).take (front.length + 1 + more + 1) =
        (front ++ [x]) ++ (y :: back.take more) := by
      rw [show front.length + 1 + more + 1 = front.length + (more + 2) by omega,
        List.take_length_add_append]
      simp
    rw [htake, List.getLast?_append_of_ne_nil _ (List.cons_ne_nil _ _)]
    refine ⟨by simp, iff_of_true (by simp) fun hlast => hx ?_⟩
    have hmem := List.mem_of_getLast? hlast
    rcases List.mem_cons.mp hmem with rfl | hmem
    · exact List.mem_cons_self
    · exact List.mem_cons_of_mem _ (List.mem_of_mem_take hmem)

theorem Sound.exists_neighbours {db : Database} (h : Sound db)
    (hrssi : "rssi" ∉ tableInfo db .messages) : ∃ front back, statements db =
      front ++ .addColumn .messages "rssi" :: .addColumn .messages "snr" :: back := by
  refine ⟨script ++ (addUnless (tableInfo db .packets) "relay_node" .packets ["relay_node"] ++
    addUnless (tableInfo db .nodes) "role" .nodes ["role"] ++
    addUnless (tableInfo db .nodes) "public_key" .nodes ["public_key"]),
    addUnless (tableInfo db .messages) "rx_count" .messages ["rx_count"] ++
    addUnless (tableInfo db .messages) "attachments" .messages ["attachments"], ?_⟩
  have hsignal : addUnless (tableInfo db .messages) "rssi" .messages ["rssi", "snr"] =
      [.addColumn .messages "rssi", .addColumn .messages "snr"] := if_neg hrssi
  simp [statements, runMigrations, h.messages_ne, hsignal]

theorem Sound.nodup_statements {db : Database} (h : Sound db) : (statements db).Nodup := by
  apply List.nodup_append.mpr
  refine ⟨by decide, nodup_runMigrations _, ?_⟩
  rintro first hfirst second hsecond rfl
  obtain ⟨table, column, -, rfl, -⟩ := (mem_runMigrations h.messages_ne).mp hsecond
  simp [script] at hfirst

theorem Sound.cut_ok {db : Database} (h : Sound db) (done : Nat) :
    (perform db ((statements db).take done)).2 = true := by
  have hok := h.connect_ok
  rw [connect, ← List.take_append_drop done (statements db)] at hok
  exact perform_prefix hok

/-- What a start that is cut off leaves is a database that a start can go on from. -/
theorem Sound.cutOff {db : Database} (h : Sound db) (done : Nat) : Sound (cutOff db done) := by
  have hhas := has_perform (h.cut_ok done)
  constructor
  · intro table hsome column hmem hfirst
    rcases (isSome_perform (h.cut_ok done) table).mp hsome with hsome | hcreate
    · exact (hhas table column).mpr (Or.inl (h.earlier table hsome column hmem hfirst))
    · cases hdb : db table with
      | none => exact (hhas table column).mpr (Or.inr (Or.inr ⟨hcreate, hdb, hmem⟩))
      | some columns =>
        have hsome : (db table).isSome := by simp [hdb]
        exact (hhas table column).mpr (Or.inl (h.earlier table hsome column hmem hfirst))
  · intro hsnr
    rcases (hhas _ _).mp hsnr with hsnr | hsnr | ⟨hcreate, hnone, -⟩
    · exact (hhas _ _).mpr (Or.inl (h.signal hsnr))
    · have hrssi := h.mem_snr.mp (List.mem_of_mem_take hsnr)
      obtain ⟨front, back, heq⟩ := h.exists_neighbours hrssi
      have hnodup := h.nodup_statements
      refine (hhas _ _).mpr (Or.inr (Or.inl ?_))
      rw [heq] at hnodup hsnr ⊢
      exact (mem_take_neighbours hnodup done).1 hsnr
    · exact (hhas _ _).mpr (Or.inr (Or.inr ⟨hcreate, hnone, by decide⟩))

/-- The signal columns stay together exactly when the start is not cut off between them. -/
theorem Sound.paired_cutOff_iff {db : Database} (h : Sound db) (done : Nat) :
    Paired (DatabaseManager.cutOff db done) ↔ Paired db ∧ ¬ Splits db done := by
  have hhas := has_perform (h.cut_ok done) .messages
  by_cases hrssi : "rssi" ∈ tableInfo db .messages
  · have hnot : ∀ {column}, column = "rssi" ∨ column = "snr" →
        .addColumn .messages column ∉ (statements db).take done := by
      rintro column (rfl | rfl) hmem
      · exact h.mem_rssi.mp (List.mem_of_mem_take hmem) hrssi
      · exact h.mem_snr.mp (List.mem_of_mem_take hmem) hrssi
    have hsplits : ¬ Splits db done := fun hlast =>
      hnot (Or.inl rfl) (List.mem_of_getLast? hlast)
    rw [and_iff_left hsplits]
    change (Has (perform db _).1 _ _ ↔ Has (perform db _).1 _ _) ↔ _
    rw [hhas, hhas, Paired, or_iff_right (hnot (Or.inl rfl)), or_iff_right (hnot (Or.inr rfl))]
    cases hdb : db .messages with
    | none => simp [Has, hdb, SCHEMA_SQL]
    | some columns => simp
  · have hnone : db .messages ≠ none := fun hnone =>
      hrssi (mem_tableInfo.mpr (Or.inr ⟨hnone, by decide⟩))
    have hno : ¬ Has db .messages "rssi" := fun hhad => hrssi (mem_tableInfo.mpr (Or.inl hhad))
    have hno' : ¬ Has db .messages "snr" := fun hhad => hno (h.signal hhad)
    have hpaired : Paired db := iff_of_false hno hno'
    rw [and_iff_right hpaired]
    change (Has (perform db _).1 _ _ ↔ Has (perform db _).1 _ _) ↔ _
    rw [hhas, hhas]
    simp only [hno, hno', hnone, false_and, and_false, or_false, false_or]
    obtain ⟨front, back, heq⟩ := h.exists_neighbours hrssi
    have hnodup := h.nodup_statements
    unfold Splits
    rw [heq] at hnodup ⊢
    obtain ⟨hfirst, hboth⟩ := mem_take_neighbours hnodup done
    rw [← Ne, ← hboth]
    exact ⟨Iff.mp, fun himp => ⟨himp, hfirst⟩⟩

theorem sound_cutOffs {db : Database} (h : Sound db) (starts : List Nat) :
    Sound (cutOffs db starts) := by
  induction starts generalizing db with
  | nil => exact h
  | cons done rest ih => exact ih (h.cutOff done)

theorem paired_cutOffs_iff {db : Database} (h : Sound db) (starts : List Nat) :
    Paired (cutOffs db starts) ↔ Paired db ∧ ∀ before done after,
      starts = before ++ done :: after → ¬ Splits (cutOffs db before) done := by
  induction starts using List.reverseRecOn with
  | nil => simp [cutOffs]
  | append_singleton starts last ih =>
    rw [cutOffs, List.foldl_append]
    change Paired (cutOff (cutOffs db starts) last) ↔ _
    rw [(sound_cutOffs h starts).paired_cutOff_iff, ih, and_assoc]
    exact and_congr_right fun _ => (@ListFacts.forall_splits_append_singleton _ starts last
      fun before done => ¬ Splits (cutOffs db before) done).symm

/-- **Starts bring an old database up to date.**  No start raises, whatever starts were cut off
    before it, and it leaves every column exactly when none of these was cut off between the two
    signal columns. -/
theorem connect_complete_iff {db : Database} (h : Sound db) (hpaired : Paired db)
    (starts : List Nat) :
    (connect (cutOffs db starts)).2 = true ∧
      (Complete (connect (cutOffs db starts)).1 ↔ ∀ before done after,
        starts = before ++ done :: after → ¬ Splits (cutOffs db before) done) := by
  have hsound := sound_cutOffs h starts
  refine ⟨hsound.connect_ok, ?_⟩
  rw [hsound.complete_iff, paired_cutOffs_iff h, and_iff_right hpaired]

/-- A database whose `messages` has no signal columns yet. -/
def unsigned : Database
  | .messages => some ["id", "direction", "text", "node_id", "node_name", "protocol", "channel",
      "timestamp", "status", "packet_id"]
  | _ => none

/-- A cut after `rssi` is never made good. -/
theorem connect_complete_iff_unsigned :
    ¬ Complete (connect (cutOffs unsigned [7])).1 ∧
      Complete (connect (cutOffs unsigned [3, 6])).1 := by
  have hsound : Sound unsigned := by
    constructor
    · intro table hsome column hmem hfirst
      cases table <;> simp [unsigned] at hsome
      refine ⟨_, rfl, ?_⟩
      revert column
      decide
    · rintro ⟨columns, hcolumns, hsnr⟩
      obtain rfl := Option.some.inj hcolumns
      simp at hsnr
  have hpaired : Paired unsigned := by
    constructor <;>
    · rintro ⟨columns, hcolumns, hmem⟩
      obtain rfl := Option.some.inj hcolumns
      simp at hmem
  constructor
  · intro hcomplete
    exact (connect_complete_iff hsound hpaired [7]).2.mp hcomplete [] 7 [] rfl (by decide)
  · apply (connect_complete_iff hsound hpaired [3, 6]).2.mpr
    intro before done after heq
    rcases before with _ | ⟨first, _ | ⟨second, rest⟩⟩
    · obtain rfl : 3 = done := (List.cons.inj heq).1
      decide
    · obtain ⟨rfl, hrest⟩ := List.cons.inj heq
      obtain rfl : 6 = done := (List.cons.inj hrest).1
      decide
    · simp at heq

end Meshpoint.DatabaseManager
