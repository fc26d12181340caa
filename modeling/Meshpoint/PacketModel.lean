import Meshpoint.ByteCodec
import Meshpoint.JsonText

/-!
# Packets

The records of `src/models/packet.py` and `src/models/signal.py` that pass from
the capture sources through the decoders to storage, relay and MQTT.  Decoded
payloads are JSON trees over a type `F` of Python floats; `PyFloat` lists the
float operations the program applies to them.
-/

namespace Meshpoint

open JsonText

/-- The operations on floats that payloads and signals go through. -/
class PyFloat (F : Type) extends FloatText F where
  /-- `math.isfinite(x)`. -/
  isFinite : F → Bool
  /-- `math.isnan(x)`. -/
  isNaN : F → Bool
  /-- `n <= x`. -/
  geInt : F → Int → Bool
  /-- `x <= n`. -/
  leInt : F → Int → Bool
  /-- `x < y`. -/
  lt : F → F → Bool
  /-- `round(x, 2)`. -/
  round2 : F → F
  /-- `round(x, 1)`. -/
  round1 : F → F
  /-- Truth value of a float: it is not zero. -/
  truthy : F → Bool
  /-- `n * 1e-7`. -/
  degrees : Int → F
  /-- `int(x * 1e7)`; `none` when it raises. -/
  degreesInt : F → Option Int
  /-- `int(x)`; `none` when it raises. -/
  toInt : F → Option Int
  /-- `float(n)`. -/
  ofInt : Int → F

/-- The operations on floats of the sensor fields and of the position statistics. -/
class StationFloat (F : Type) extends PyFloat F where
  /-- The float written with that many decimals. -/
  decimal : (digits : Int) → (decimals : Nat) → F
  /-- `x == 1.0`. -/
  isOne : F → Bool
  /-- `round(n * x, 6)`. -/
  scaled : Int → F → F
  /-- The double of a single with this bit pattern. -/
  ofSingle : Nat → F
  /-- `float(n)`; `none` when it raises. -/
  ofIntOrRaise : Int → Option F
  add : F → F → F
  sub : F → F → F
  mul : F → F → F
  div : F → F → F
  /-- `x ** 2`. -/
  square : F → F
  /-- `math.radians(x)`. -/
  radians : F → F
  /-- `math.sin(x)`; `none` when it raises. -/
  sin : F → Option F
  /-- `math.cos(x)`; `none` when it raises. -/
  cos : F → Option F
  /-- `math.sqrt(x)`; `none` when it raises. -/
  sqrt : F → Option F
  /-- `math.atan2(y, x)`. -/
  atan2 : F → F → F
  /-- `x.hex()`. -/
  hex : F → String

/-- The protocol of a packet; a plugin may register further ones. -/
inductive Protocol where
  | meshtastic
  | meshcore
  | lorawan
  | pager
  | unknown
  | plugin (name : String)
deriving DecidableEq, Repr

/-- `protocol.value`. -/
def Protocol.value : Protocol → String
  | .meshtastic => "meshtastic"
  | .meshcore => "meshcore"
  | .lorawan => "lorawan"
  | .pager => "pager"
  | .unknown => "unknown"
  | .plugin name => name

/-- The kind of a packet; a plugin may register further ones. -/
inductive PacketType where
  | text
  | position
  | telemetry
  | nodeinfo
  | routing
  | admin
  | traceroute
  | neighborinfo
  | waypoint
  | rangeTest
  | storeForward
  | detectionSensor
  | paxcounter
  | mapReport
  | encrypted
  | lorawanJoin
  | lorawanJoinAccept
  | lorawanData
  | lorawanRejoin
  | neighbourAdvert
  | pagerRaw
  | unknown
  | plugin (name : String)
deriving DecidableEq, Repr

/-- `packet_type.value`. -/
def PacketType.value : PacketType → String
  | .text => "text"
  | .position => "position"
  | .telemetry => "telemetry"
  | .nodeinfo => "nodeinfo"
  | .routing => "routing"
  | .admin => "admin"
  | .traceroute => "traceroute"
  | .neighborinfo => "neighborinfo"
  | .waypoint => "waypoint"
  | .rangeTest => "range_test"
  | .storeForward => "store_forward"
  | .detectionSensor => "detection_sensor"
  | .paxcounter => "paxcounter"
  | .mapReport => "map_report"
  | .encrypted => "encrypted"
  | .lorawanJoin => "lorawan_join"
  | .lorawanJoinAccept => "lorawan_join_accept"
  | .lorawanData => "lorawan_data"
  | .lorawanRejoin => "lorawan_rejoin"
  | .neighbourAdvert => "neighbour_advert"
  | .pagerRaw => "pager_raw"
  | .unknown => "unknown"
  | .plugin name => name

/-- RF signal measurements of a received packet. -/
structure SignalMetrics (F : Type) where
  rssi : F
  snr : F

/-- What a capture source that decrypts locally already parsed: the portnum, the
    inner payload, the request id and the name of its own channel. -/
structure PreDecoded where
  portnum : Int
  payload : Bytes
  requestId : Nat := 0
  channelName : Option String := none
deriving DecidableEq, Repr

/-- A raw frame as received from a capture source. -/
structure RawCapture (F : Type) where
  payload : Bytes
  signal : SignalMetrics F
  captureSource : String
  protocolHint : Option Protocol := none
  preDecoded : Option PreDecoded := none

/-- A decoded packet.  `timestamp` counts microseconds since the epoch. -/
structure Packet (F : Type) where
  packetId : String
  sourceId : String
  destinationId : String
  protocol : Protocol
  packetType : PacketType
  hopLimit : Nat := 0
  hopStart : Nat := 0
  channelHash : Nat := 0
  wantAck : Bool := false
  viaMqtt : Bool := false
  relayNode : Nat := 0
  decodedPayload : Option (Entries F) := none
  encryptedPayload : Option Bytes := none
  rawAppPayload : Option Bytes := none
  rawRadioPacket : Option Bytes := none
  decrypted : Bool := false
  matchedChannelIndex : Option Nat := none
  remoteChannelName : Option String := none
  signal : Option (SignalMetrics F) := none
  captureSource : String := "unknown"
  timestamp : Int

/-! ### A type of floats -/

/-- Floats with an integral value, written as Python writes them. -/
structure WholeFloat where
  value : Int
deriving DecidableEq

instance : PyFloat WholeFloat where
  text x := intText x.value ++ ['.', '0']
  text_injective := by
    intro x y h
    exact congrArg WholeFloat.mk (intText_injective (List.append_cancel_right h))
  text_ne_int := by
    intro x n h
    have hdot : '.' ∈ intText n := by rw [← h]; simp
    cases n with
    | ofNat n => exact absurd (isDigit_of_mem_toDigits hdot) (by decide)
    | negSucc n =>
      rcases List.mem_cons.mp hdot with hdot | hdot
      · exact absurd hdot (by decide)
      · exact absurd (isDigit_of_mem_toDigits hdot) (by decide)
  text_ne_nil := by intro x h; simp at h
  text_plain := by
    intro x c hc
    rcases List.mem_append.mp hc with hc | hc
    · exact intText_plain _ c hc
    · simp only [List.mem_cons, List.not_mem_nil, or_false] at hc
      rcases hc with rfl | rfl <;> decide
  text_head := by
    intro x c rest h
    obtain ⟨d, tail, hd⟩ := List.exists_cons_of_ne_nil (intText_ne_nil x.value)
    rw [hd, List.cons_append, List.cons.injEq] at h
    exact h.1 ▸ intText_head _ d tail hd
  isFinite _ := true
  isNaN _ := false
  geInt x n := decide (n ≤ x.value)
  leInt x n := decide (x.value ≤ n)
  lt x y := decide (x.value < y.value)
  round2 x := x
  round1 x := x
  truthy x := decide (x.value ≠ 0)
  degrees n := ⟨n / 10000000⟩
  degreesInt x := some (x.value * 10000000)
  toInt x := some x.value
  ofInt n := ⟨n⟩

/-- Fractions are rounded down and the angles are those of the equator's origin. -/
instance : StationFloat WholeFloat where
  decimal digits decimals := ⟨digits / 10 ^ decimals⟩
  isOne x := decide (x.value = 1)
  scaled n x := ⟨n * x.value⟩
  ofSingle _ := ⟨0⟩
  ofIntOrRaise n := some ⟨n⟩
  add x y := ⟨x.value + y.value⟩
  sub x y := ⟨x.value - y.value⟩
  mul x y := ⟨x.value * y.value⟩
  div x y := ⟨x.value / y.value⟩
  square x := ⟨x.value * x.value⟩
  radians _ := ⟨0⟩
  sin _ := some ⟨0⟩
  cos _ := some ⟨1⟩
  sqrt x := if x.value < 0 then none else some ⟨x.value.toNat.sqrt⟩
  atan2 _ _ := ⟨0⟩
  hex x := String.ofList (FloatText.text x)

end Meshpoint
