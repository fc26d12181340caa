import Meshpoint.PacketTable
import Meshpoint.PipelineLoop

/-!
# Acknowledged pages

What an acknowledgement from the pager does to the packet table:
`PacketRepository.update_pager_status` (`src/storage/packet_repository.py`) under the branch of
`_process_capture` (`src/coordinator.py`) that calls it.

The statement reads the payload of one row with the packet id and writes it, with the status
set, to every row that has the id.  `changesStatusOnly_iff` says when that changes the status of
pages of the outbox only.
-/

namespace Meshpoint.PagerAcks

open JsonText MqttFormatter MeshcoreEventAdapter PagerEventAdapter PipelineLoop PacketTable Raising

/-! ### The update -/

/-- `SELECT ... LIMIT 1` without an order: some row, if there is one. -/
structure FirstRow (F : Type) where
  choose : List (Row F) → Option (Row F)
  mem : ∀ {rows row}, choose rows = some row → row ∈ rows
  isSome : ∀ {rows}, rows ≠ [] → (choose rows).isSome = true

def FirstRow.head (F : Type) : FirstRow F where
  choose rows := rows.head?
  mem h := List.mem_of_head? h
  isSome h := List.isSome_head?.mpr h

section

variable {F : Type} [StationFloat F] (reader : PayloadReader F) (first : FirstRow F)

def rowsOf (table : Table F) (packetId : String) : List (Row F) :=
  table.rows.filter fun row => decide (row.packetId = packetId)

def textWithStatus (payload : Entries F) (status : String) : String :=
  payloadText (.dict (payload.set "status" (.str status)))

/-- `update_pager_status`; only a dictionary takes the status. -/
def updatePagerStatus (table : Table F) (packetId status : String) :
    Table F × Except PyException Bool :=
  match first.choose (rowsOf table packetId) with
  | none => (table, .ok false)
  | some row =>
    match reader.read row.decodedPayload with
    | .dict payload =>
      (table.updatePacket packetId fun columns =>
        { columns with decodedPayload := some (textWithStatus payload status) }, .ok true)
    | _ => (table, .error .typeError)

/-- What handling an acknowledgement makes of the table.  The id it carries is a text. -/
def handleAck (r : Reception F) (tier : Option String) (packet : Packet F) (table : Table F) :
    Table F × Except PyException Bool :=
  match courseOf r (Heard.ofPacket packet) tier,
      (packet.decodedPayload.getD .nil).get? "ack_id" with
  | .acknowledge, some (.str ackId) => updatePagerStatus reader first table ackId "acked"
  | _, _ => (table, .ok false)

/-! ### The property -/

def IsOutbox (pagerCapcode : Int) (row : Row F) : Prop :=
  row.protocol = Protocol.pager.value ∧ row.sourceId = toString pagerCapcode

/-- The row stays, or it is a page of the outbox with the id whose payload gets the status. -/
def ChangesStatusOnly (pagerCapcode : Int) (packetId : String) (before after : Row F) : Prop :=
  after = before ∨
    IsOutbox pagerCapcode before ∧ before.packetId = packetId ∧ ∃ text payload,
      after = { before with decodedPayload := some text } ∧
        reader.read before.decodedPayload = .dict payload ∧
        reader.read (some text) = .dict (payload.set "status" (.str "acked"))

/-- All rows with the id are pages of the outbox that agree in everything but the status with
    the one that is read, or have the text that is written. -/
def Unshared (pagerCapcode : Int) (packetId : String) (table : Table F) : Prop :=
  ∀ found ∈ first.choose (rowsOf table packetId), ∀ payload,
    reader.read found.decodedPayload = .dict payload →
      ∀ row ∈ table.rows, row.packetId = packetId →
        row.decodedPayload = some (textWithStatus payload "acked") ∨
          IsOutbox pagerCapcode row ∧ ∃ own, reader.read row.decodedPayload = .dict own ∧
            own.set "status" (.str "acked") = payload.set "status" (.str "acked")

end

/-! ### One update -/

section

variable {F : Type} [StationFloat F] {reader : PayloadReader F} {first : FirstRow F}
variable {pagerCapcode : Int} {packetId : String}

theorem changesStatusOnly_refl (row : Row F) :
    ChangesStatusOnly reader pagerCapcode packetId row row := Or.inl rfl

theorem changesStatusOnly_written_iff {raw : Option String} {payload : Entries F}
    (hpayload : reader.read raw = .dict payload) {row : Row F} (hid : row.packetId = packetId) :
    ChangesStatusOnly reader pagerCapcode packetId row
        { row with decodedPayload := some (textWithStatus payload "acked") } ↔
      row.decodedPayload = some (textWithStatus payload "acked") ∨
        IsOutbox pagerCapcode row ∧ ∃ own, reader.read row.decodedPayload = .dict own ∧
          own.set "status" (.str "acked") = payload.set "status" (.str "acked") := by
  have hwritten := PayloadReader.read_set hpayload "status" "acked"
  constructor
  · rintro (hsame | ⟨houtbox, -, text, own, hafter, hown, hread⟩)
    · exact Or.inl (congrArg (fun row => row.toColumns.decodedPayload) hsame).symm
    · refine Or.inr ⟨houtbox, own, hown, ?_⟩
      have htext : some (textWithStatus payload "acked") = some text :=
        congrArg (fun row => row.toColumns.decodedPayload) hafter
      rw [← htext] at hread
      exact Value.dict.inj (hread.symm.trans hwritten)
  · rintro (hsame | ⟨houtbox, own, hown, hset⟩)
    · refine Or.inl ?_
      rw [← hsame]
    · refine Or.inr ⟨houtbox, hid, _, own, rfl, hown, ?_⟩
      rw [hset]
      exact hwritten

theorem updatePagerStatus_iff (table : Table F) :
    List.Forall₂ (ChangesStatusOnly reader pagerCapcode packetId) table.rows
        (updatePagerStatus reader first table packetId "acked").1.rows ↔
      Unshared reader first pagerCapcode packetId table := by
  have hstays : List.Forall₂ (ChangesStatusOnly reader pagerCapcode packetId) table.rows
      table.rows := List.forall₂_same.mpr fun row _ => changesStatusOnly_refl row
  unfold updatePagerStatus Unshared
  cases hfound : first.choose (rowsOf table packetId) with
  | none =>
    refine iff_of_true hstays ?_
    intro found hnone
    cases hnone
  | some found =>
    simp only [Option.mem_def, Option.some.injEq, forall_eq']
    cases hread : reader.read found.decodedPayload with
    | dict payload =>
      simp only [Value.dict.injEq, forall_eq']
      rw [Table.updatePacket, List.forall₂_map_right_iff, List.forall₂_same]
      refine forall₂_congr fun row _ => ?_
      by_cases hid : row.packetId = packetId
      · rw [if_pos hid]
        exact (changesStatusOnly_written_iff hread hid).trans (imp_iff_right hid).symm
      · rw [if_neg hid]
        exact iff_of_true (changesStatusOnly_refl row) fun hsame => absurd hsame hid
    | _ =>
      refine iff_of_true hstays ?_
      intro payload h
      cases h

end

/-! ### Acknowledgements -/

section

variable {F : Type} [StationFloat F] (rt : EventRuntime F)

/-- The packet of an event that carries an acknowledged id. -/
def ackPacket (data : Entries F) (ackId : String) (signal : Option (SignalMetrics F))
    (timestamp : Int) : Packet F :=
  pagerPacket rt ackId data [("ack_id", .str ackId)] signal timestamp

/-- The packet is nothing to the coordinator: a plugin's tier says so, or it is our own. -/
def Left (r : Reception F) (tier : Option String) (data : Entries F) : Prop :=
  tier = some "ignore" ∨ tier = some "blacklist" ∨
    r.pagerCapcode ≠ 0 ∧ equalsInt r.pagerCapcode (getValue data "from") = true

variable {rt} {data : Entries F} {ackId : String} {signal : Option (SignalMetrics F)}
  {timestamp : Int} {r : Reception F} {tier : Option String}

theorem courseOf_ackPacket :
    courseOf r (Heard.ofPacket (ackPacket rt data ackId signal timestamp)) tier =
      if tier = some "ignore" ∨ tier = some "blacklist" then .leave
      else if r.pagerCapcode ≠ 0 ∧ equalsInt r.pagerCapcode (getValue data "from") = true then
        .leave
      else .acknowledge := rfl

theorem courseOf_ackPacket_left (h : Left r tier data) :
    courseOf r (Heard.ofPacket (ackPacket rt data ackId signal timestamp)) tier = .leave := by
  rw [courseOf_ackPacket]
  split
  · rfl
  · rename_i htier
    obtain ⟨hignore, hblacklist⟩ := not_or.mp htier
    exact if_pos ((h.resolve_left hignore).resolve_left hblacklist)

theorem courseOf_ackPacket_taken (h : ¬ Left r tier data) :
    courseOf r (Heard.ofPacket (ackPacket rt data ackId signal timestamp)) tier = .acknowledge := by
  obtain ⟨hignore, h⟩ := not_or.mp h
  obtain ⟨hblacklist, hforeign⟩ := not_or.mp h
  rw [courseOf_ackPacket, if_neg (not_or.mpr ⟨hignore, hblacklist⟩), if_neg hforeign]

theorem handleAck_taken (reader : PayloadReader F) (first : FirstRow F) (table : Table F)
    (h : ¬ Left r tier data) :
    handleAck reader first r tier (ackPacket rt data ackId signal timestamp) table =
      updatePagerStatus reader first table ackId "acked" := by
  have hid : ((ackPacket rt data ackId signal timestamp).decodedPayload.getD .nil).get? "ack_id" =
      some (.str ackId) := rfl
  unfold handleAck
  rw [courseOf_ackPacket_taken h, hid]

/-- **Acknowledged pages.**  An event with an acknowledged id changes the status of pages of the
    outbox with that id, and nothing else, exactly when the coordinator leaves the packet alone
    or the id is not shared. -/
theorem changesStatusOnly_iff (reader : PayloadReader F) (first : FirstRow F) (table : Table F)
    {value : Value F} (hack : data.get? "ack_id" = some value) (freshId : String) :
    ∃ packet, adaptData rt freshId data signal timestamp = some packet ∧
      (List.Forall₂ (ChangesStatusOnly reader r.pagerCapcode (textOf rt.toRuntime value))
          table.rows (handleAck reader first r tier packet table).1.rows ↔
        Left r tier data ∨
          Unshared reader first r.pagerCapcode (textOf rt.toRuntime value) table) := by
  refine ⟨ackPacket rt data (textOf rt.toRuntime value) signal timestamp, ?_, ?_⟩
  · unfold adaptData
    rw [hack]
    rfl
  · by_cases hleft : Left r tier data
    · unfold handleAck
      rw [courseOf_ackPacket_left hleft]
      exact iff_of_true (List.forall₂_same.mpr fun row _ => changesStatusOnly_refl row)
        (Or.inl hleft)
    · rw [handleAck_taken reader first table hleft, or_iff_right hleft]
      exact updatePagerStatus_iff table

end

/-! ### An id of two protocols -/

open Classical in
/-- The inverse of `json.dumps`. -/
noncomputable def writtenText : PayloadReader WholeFloat where
  loads text :=
    if h : ∃ value : Value WholeFloat, payloadText value = text then some h.choose else none
  loads_set entries _ key value := by
    have h : ∃ v : Value WholeFloat,
        payloadText v = payloadText (.dict (entries.set key (.str value))) := ⟨_, rfl⟩
    rw [dif_pos h]
    exact congrArg some (dumps_injective (String.ofList_injective h.choose_spec))

theorem read_writtenText (value : Value WholeFloat) (h : payloadText value ≠ "") :
    writtenText.read (some (payloadText value)) = value := by
  have hex : ∃ v : Value WholeFloat, payloadText v = payloadText value := ⟨value, rfl⟩
  have hloads : writtenText.loads (payloadText value) = some hex.choose := dif_pos hex
  rw [PayloadReader.read, if_neg h, hloads, Option.getD_some]
  exact dumps_injective (String.ofList_injective hex.choose_spec)

def hello : Entries WholeFloat := .cons "text" (.str "hello") .nil

def call : Entries WholeFloat := .cons "text" (.str "come") (.cons "status" (.str "sent") .nil)

def textRow : Columns WholeFloat where
  packetId := "a1b2c3d4"
  sourceId := "0000002a"
  destinationId := "ffffffff"
  protocol := "meshtastic"
  packetType := "text"
  decodedPayload := some (payloadText (.dict hello))
  captureSource := some "concentrator"
  timestamp := "2026-01-01T00:00:00+00:00"

def pageRow : Columns WholeFloat where
  packetId := "0123456789abcdef"
  sourceId := "7"
  destinationId := "42"
  protocol := "pager"
  packetType := "pager_raw"
  decodedPayload := some (payloadText (.dict call))
  captureSource := some "concentrator"
  timestamp := "2026-01-01T00:00:05+00:00"

def textAndPage : Table WholeFloat := (Table.empty.insert textRow).insert pageRow

/-- An acknowledgement from capcode 42 to ours, which is 7. -/
def ackOf (ackId : String) : Entries WholeFloat :=
  .ofList [("from", .int 42), ("to", .int 7), ("ack_id", .str ackId)]

def ackReception : Reception WholeFloat := { lorawanCapture "" 0 with pagerCapcode := 7 }

theorem not_left_ackOf (ackId : String) : ¬ Left ackReception none (ackOf ackId) := by
  rintro (h | h | ⟨-, h⟩)
  · cases h
  · cases h
  · have hother : equalsInt ackReception.pagerCapcode (getValue (ackOf ackId) "from") = false := rfl
    rw [hother] at h
    cases h

theorem rowsOf_page :
    rowsOf textAndPage "0123456789abcdef" = [{ pageRow with id := 2 }] := rfl

theorem changesStatusOnly_page :
    ∃ packet, adaptData fieldLibraries.rt "" (ackOf "0123456789abcdef") none 0 = some packet ∧
      List.Forall₂ (ChangesStatusOnly writtenText 7 "0123456789abcdef") textAndPage.rows
        (handleAck writtenText (FirstRow.head _) ackReception none packet textAndPage).1.rows := by
  obtain ⟨packet, hpacket, hiff⟩ := @changesStatusOnly_iff WholeFloat _ fieldLibraries.rt
    (ackOf "0123456789abcdef") none 0 ackReception none writtenText (FirstRow.head _) textAndPage
    (.str "0123456789abcdef") rfl ""
  refine ⟨packet, hpacket, hiff.mpr (Or.inr ?_)⟩
  intro found hfound payload hread row hrow hid
  have hrows : row ∈ rowsOf textAndPage "0123456789abcdef" :=
    List.mem_filter.mpr ⟨hrow, decide_eq_true hid⟩
  rw [rowsOf_page, List.mem_singleton] at hrows
  have hsame : found ∈ rowsOf textAndPage "0123456789abcdef" := (FirstRow.head _).mem hfound
  rw [rowsOf_page, List.mem_singleton] at hsame
  subst hrows hsame
  exact Or.inr ⟨⟨rfl, rfl⟩, payload, hread, rfl⟩

/-- The text of another protocol gets the status. -/
theorem text_not_kept :
    ∃ packet, adaptData fieldLibraries.rt "" (ackOf "a1b2c3d4") none 0 = some packet ∧
      ¬ List.Forall₂ (ChangesStatusOnly writtenText 7 "a1b2c3d4") textAndPage.rows
        (handleAck writtenText (FirstRow.head _) ackReception none packet textAndPage).1.rows := by
  refine ⟨ackPacket fieldLibraries.rt (ackOf "a1b2c3d4") "a1b2c3d4" none 0, rfl, ?_⟩
  rw [handleAck_taken _ _ _ (not_left_ackOf _), updatePagerStatus_iff]
  intro hunshared
  have hread : writtenText.read textRow.decodedPayload = .dict hello :=
    read_writtenText _ (payloadText_dict_ne_empty _)
  rcases hunshared { textRow with id := 1 } rfl hello hread { textRow with id := 1 }
    List.mem_cons_self rfl with hwritten | ⟨⟨hprotocol, -⟩, -⟩
  · have htext : Value.dict hello = .dict (hello.set "status" (.str "acked")) :=
      dumps_injective (String.ofList_injective (Option.some.inj hwritten))
    cases htext
  · exact absurd hprotocol (by decide)

end Meshpoint.PagerAcks
