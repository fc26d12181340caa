import Meshpoint.MeshcoreEventAdapter

/-!
# Pager frames

Model of `src/decode/pager_event_adapter.py`: a JSON object with an `ack_id` or a `text` from
the concentrator's FSK channel becomes a packet.  The packet of an acknowledgement carries
the id it acknowledges.
-/

namespace Meshpoint.PagerEventAdapter

open JsonText MqttFormatter MeshcoreEventAdapter Raising

variable {F : Type} (rt : EventRuntime F)

/-- `str(value) if value is not None else default`. -/
def textOrDefault (default : String) (value : Value F) : String :=
  if isNull value then default else textOf rt.toRuntime value

def pagerPacket (packetId : String) (data : Entries F) (entries : List (String × Value F))
    (signal : Option (SignalMetrics F)) (timestamp : Int) : Packet F where
  packetId := packetId
  sourceId := textOrDefault rt "unknown" (getValue data "from")
  destinationId := textOrDefault rt "broadcast" (getValue data "to")
  protocol := .pager
  packetType := .pagerRaw
  decodedPayload := some (Entries.ofList
    ([("from", getValue data "from"), ("to", getValue data "to")] ++ entries))
  decrypted := true
  signal := signal
  timestamp := timestamp

/-- The packet of a JSON object, with the id a message without one is given. -/
def adaptData (freshId : String) (data : Entries F) (signal : Option (SignalMetrics F))
    (timestamp : Int) : Option (Packet F) :=
  match data.get? "ack_id" with
  | some ackId =>
    let ackId := textOf rt.toRuntime ackId
    some (pagerPacket rt ackId data [("ack_id", .str ackId)] signal timestamp)
  | none =>
    match data.get? "text" with
    | none => none
    | some text =>
      let messageId := textOrDefault rt freshId (getValue data "id")
      some (pagerPacket rt messageId data
        [("text", .str (textOf rt.toRuntime text)), ("id", .str messageId)] signal timestamp)

/-- `adapt_event`. -/
def adaptEvent (freshId : String) (timestamp : Int) (raw : Bytes)
    (signal : Option (SignalMetrics F)) : Except PyException (Option (Packet F)) :=
  match rt.loads raw with
  | .malformed => .ok none
  | .refused .typeError => .ok none
  | .refused e => .error e
  | .value (.dict data) => .ok (adaptData rt freshId data signal timestamp)
  | .value _ => .ok none

/-- `json.loads` does not refuse the payload with an exception of its own. -/
def PageLoads (raw : Bytes) : Prop := ∀ e, rt.loads raw = .refused e → e = .typeError

theorem adaptEvent_returns_iff (freshId : String) (timestamp : Int) (raw : Bytes)
    (signal : Option (SignalMetrics F)) :
    Returns (adaptEvent rt freshId timestamp raw signal) ↔ PageLoads rt raw := by
  unfold adaptEvent PageLoads
  cases rt.loads raw with
  | malformed =>
    refine iff_of_true (returns_ok _) ?_
    intro e h
    cases h
  | refused e =>
    constructor
    · intro h e' he
      cases he
      cases e with
      | typeError => rfl
      | _ => exact absurd h (not_returns_error _)
    · intro h
      rw [h e rfl]
      exact returns_ok _
  | value v =>
    have hno : ∀ e, Loaded.value v = .refused e → e = .typeError := by
      intro e h
      cases h
    cases v with
    | dict data => exact iff_of_true (returns_ok _) hno
    | _ => exact iff_of_true (returns_ok _) hno

end Meshpoint.PagerEventAdapter
