import Meshpoint.ListFacts
import Meshpoint.NodeRepository
import Meshpoint.PacketModel

/-!
# The packet table

The `packets` table of `src/storage/database.py` with all of its columns, and the statements
of `src/storage/packet_repository.py` that write it: `insert`, `insert_neighbour_report` and the
`UPDATE` of `update_pager_status`.  Row ids are the `AUTOINCREMENT` ids, so a table carries the
fact that they are distinct and below the counter.

Payloads are stored as the text that `json.dumps` writes; `PayloadReader` is `json.loads`.
-/

namespace Meshpoint.PacketTable

open JsonText ListFacts
open NodeRepository (Database like like_append like_literal_cons like_percent anySuffix)

/-! ### Rows -/

/-- The columns of `packets` other than the row id. -/
structure Columns (F : Type) where
  packetId : String
  sourceId : String
  destinationId : String
  protocol : String
  packetType : String
  hopLimit : Nat := 0
  hopStart : Nat := 0
  channelHash : Nat := 0
  wantAck : Bool := false
  viaMqtt : Bool := false
  relayNode : Nat := 0
  decodedPayload : Option String := none
  decrypted : Bool := false
  rssi : Option F := none
  snr : Option F := none
  frequencyMhz : Option F := none
  spreadingFactor : Option Nat := none
  bandwidthKhz : Option F := none
  captureSource : Option String := none
  timestamp : String

structure Row (F : Type) extends Columns F where
  id : Nat

structure Table (F : Type) where
  rows : List (Row F)
  lastRowId : Nat
  idsBounded : ∀ row ∈ rows, row.id ≤ lastRowId
  idsNodup : (rows.map Row.id).Nodup

namespace Table

variable {F : Type}

def empty : Table F := ⟨[], 0, by simp, by simp⟩

/-- `INSERT INTO packets`. -/
def insert (table : Table F) (columns : Columns F) : Table F where
  rows := table.rows ++ [{ columns with id := table.lastRowId + 1 }]
  lastRowId := table.lastRowId + 1
  idsBounded := number_le_append table.idsBounded rfl
  idsNodup := nodup_append_number table.idsBounded table.idsNodup rfl

/-- `DELETE FROM packets WHERE ...`: the rows that are kept. -/
def keepWhere (table : Table F) (keep : Columns F → Bool) : Table F where
  rows := table.rows.filter fun row => keep row.toColumns
  lastRowId := table.lastRowId
  idsBounded row hrow := table.idsBounded row (List.mem_of_mem_filter hrow)
  idsNodup := table.idsNodup.sublist (List.filter_sublist.map Row.id)

/-- `UPDATE packets SET ... WHERE packet_id = ?`. -/
def updatePacket (table : Table F) (packetId : String) (f : Columns F → Columns F) : Table F where
  rows := table.rows.map fun row =>
    if row.packetId = packetId then { f row.toColumns with id := row.id } else row
  lastRowId := table.lastRowId
  idsBounded := number_le_map (fun row => by split <;> rfl) table.idsBounded
  idsNodup := by
    rw [map_number_map fun row => by split <;> rfl]
    exact table.idsNodup

def columns (table : Table F) : List (Columns F) := table.rows.map Row.toColumns

@[simp] theorem columns_empty : (empty : Table F).columns = [] := rfl

@[simp] theorem columns_insert (table : Table F) (columns : Columns F) :
    (table.insert columns).columns = table.columns ++ [columns] := by
  unfold Table.columns insert
  rw [List.map_append]
  rfl

@[simp] theorem columns_keepWhere (table : Table F) (keep : Columns F → Bool) :
    (table.keepWhere keep).columns = table.columns.filter keep := by
  unfold Table.columns keepWhere
  rw [List.filter_map]
  rfl

end Table

/-! ### Payloads -/

section

variable {F : Type} [FloatText F]

/-- `json.dumps(value)`. -/
def payloadText (value : Value F) : String := String.ofList (dumps value)

theorem payloadText_dict_ne_empty (entries : Entries F) : payloadText (.dict entries) ≠ "" := by
  intro h
  have hnil : dumps (Value.dict entries) = [] := by
    have htext := congrArg String.toList h
    rwa [payloadText, String.toList_ofList] at htext
  cases entries with
  | nil => cases hnil
  | cons key value rest => cases hnil

/-- `json.loads` of a stored text; `none` where it raises a `ValueError`.  What it has read is
    read again after a text was set in it and it was written. -/
structure PayloadReader (F : Type) [FloatText F] where
  loads : String → Option (Value F)
  loads_set : ∀ (entries : Entries F),
    (entries = .nil ∨ ∃ text, loads text = some (.dict entries)) → ∀ key value,
      loads (payloadText (.dict (entries.set key (.str value)))) =
        some (.dict (entries.set key (.str value)))

/-- The payload of a row: `{}` where there is none or it is no JSON. -/
def PayloadReader.read (reader : PayloadReader F) : Option String → Value F
  | none => .dict .nil
  | some raw => if raw = "" then .dict .nil else (reader.loads raw).getD (.dict .nil)

theorem PayloadReader.read_set {reader : PayloadReader F} {raw : Option String}
    {entries : Entries F} (h : reader.read raw = .dict entries) (key value : String) :
    reader.read (some (payloadText (.dict (entries.set key (.str value))))) =
      .dict (entries.set key (.str value)) := by
  have hreadable : entries = .nil ∨ ∃ text, reader.loads text = some (.dict entries) := by
    cases raw with
    | none =>
      cases h
      exact Or.inl rfl
    | some raw =>
      rw [read] at h
      split at h
      · cases h
        exact Or.inl rfl
      · cases hloads : reader.loads raw with
        | none =>
          rw [hloads] at h
          cases h
          exact Or.inl rfl
        | some payload =>
          rw [hloads] at h
          exact Or.inr ⟨raw, hloads.trans (congrArg some h)⟩
  rw [read, if_neg (payloadText_dict_ne_empty _), reader.loads_set entries hreadable key value]
  rfl

end

/-! ### Statements -/

section

variable {F : Type} [FloatText F]

/-- The columns of a signal that `SignalMetrics` has beside its levels. -/
structure Channel (F : Type) where
  frequencyMhz : F
  spreadingFactor : Nat
  bandwidthKhz : F

/-- The row of a packet; `timestamp` is its `isoformat()`. -/
def packetColumns (packet : Packet F) (channel : Option (Channel F)) (timestamp : String) :
    Columns F where
  packetId := packet.packetId
  sourceId := packet.sourceId
  destinationId := packet.destinationId
  protocol := packet.protocol.value
  packetType := packet.packetType.value
  hopLimit := packet.hopLimit
  hopStart := packet.hopStart
  channelHash := packet.channelHash
  wantAck := packet.wantAck
  viaMqtt := packet.viaMqtt
  relayNode := packet.relayNode
  decodedPayload := packet.decodedPayload.bind fun entries =>
    if entries.isEmpty then none else some (payloadText (.dict entries))
  decrypted := packet.decrypted
  rssi := packet.signal.map SignalMetrics.rssi
  snr := packet.signal.map SignalMetrics.snr
  frequencyMhz := channel.map Channel.frequencyMhz
  spreadingFactor := channel.map Channel.spreadingFactor
  bandwidthKhz := channel.map Channel.bandwidthKhz
  captureSource := some packet.captureSource
  timestamp := timestamp

/-- `PacketRepository.insert`. -/
def insertPacket (table : Table F) (packet : Packet F) (channel : Option (Channel F))
    (timestamp : String) : Table F :=
  table.insert (packetColumns packet channel timestamp)

omit [FloatText F]

/-- The beginning of the packet ids of the reports of a repeater on a node. -/
def reportTag (repeaterKey nodeId : String) : String := "nb:" ++ repeaterKey ++ ":" ++ nodeId ++ ":"

def reportColumns (repeaterKey nodeId : String) (snr : Option F) (lastHeard : String) :
    Columns F where
  packetId := reportTag repeaterKey nodeId ++ lastHeard
  sourceId := nodeId
  destinationId := "broadcast"
  protocol := "meshcore"
  packetType := "neighbour_advert"
  snr := snr
  timestamp := lastHeard

/-- The packet id is one that `insert_neighbour_report` deletes. -/
def deletes (repeaterKey nodeId packetId : String) : Bool :=
  like (reportTag repeaterKey nodeId ++ "%").toList packetId.toList

/-- `insert_neighbour_report`. -/
def insertNeighbourReport (table : Table F) (repeaterKey nodeId : String) (snr : Option F)
    (lastHeard : String) : Table F :=
  (table.keepWhere fun row => !deletes repeaterKey nodeId row.packetId).insert
    (reportColumns repeaterKey nodeId snr lastHeard)

/-! ### Reports -/

theorem anySuffix_of_suffix {p : List Char → Bool} {text : List Char} (h : p text = true) :
    anySuffix p text = true := by
  cases text with
  | nil => exact h
  | cons c rest =>
    rw [anySuffix, h]
    rfl

theorem like_self (text : List Char) : like text text = true := by
  induction text with
  | nil => rfl
  | cons c rest ih =>
    by_cases hc : c = '%'
    · rw [hc, like_percent, anySuffix, anySuffix_of_suffix ih, Bool.or_true]
    · rw [like_literal_cons hc, ih]
      simp only [decide_true, Bool.or_true, Bool.and_true]

theorem deletes_reportColumns (repeaterKey nodeId : String) (snr : Option F)
    (lastHeard : String) : deletes repeaterKey nodeId
      (reportColumns repeaterKey nodeId snr lastHeard).packetId = true := by
  unfold deletes reportColumns
  rw [String.toList_append]
  apply like_append (q := lastHeard.toList)
  rw [← String.toList_append]
  exact like_self _

/-- The columns that the model of the node repository keeps. -/
def toDatabase (nodes : OrderedDict String (NodeRepository.Columns F)) (table : Table F) :
    Database F where
  nodes := nodes
  packets := table.rows.map fun row => ⟨row.id, row.packetId, row.sourceId, row.timestamp⟩
  lastRowId := table.lastRowId

theorem toDatabase_insert (nodes : OrderedDict String (NodeRepository.Columns F)) (table : Table F)
    (columns : Columns F) :
    toDatabase nodes (table.insert columns) =
      NodeRepository.insert (toDatabase nodes table) columns.packetId columns.sourceId
        columns.timestamp := by
  unfold toDatabase NodeRepository.insert Table.insert
  rw [List.map_append]
  rfl

theorem toDatabase_insertNeighbourReport (nodes : OrderedDict String (NodeRepository.Columns F))
    (table : Table F) (repeaterKey nodeId : String) (snr : Option F) (lastHeard : String) :
    toDatabase nodes (insertNeighbourReport table repeaterKey nodeId snr lastHeard) =
      NodeRepository.insertNeighbourReport (toDatabase nodes table) repeaterKey nodeId
        lastHeard := by
  unfold insertNeighbourReport
  rw [toDatabase_insert]
  simp only [NodeRepository.insertNeighbourReport, toDatabase, Table.keepWhere, List.filter_map]
  rfl

end

end Meshpoint.PacketTable
