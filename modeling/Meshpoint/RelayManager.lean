import Meshpoint.OrderedDict
import Meshpoint.PacketModel
import Meshpoint.PyText
import Mathlib.Data.Rat.Defs
import Mathlib.Algebra.Order.Ring.Rat

/-!
# The relay manager

Model of `src/relay/`: the filter of packets seen before, the limiter of the
relay rate and the manager that decides, packet by packet, whether a captured
packet is sent on.  Both helpers read the monotonic clock themselves, so a
decision takes two readings.
-/

namespace Meshpoint

/-! ### Packets seen before -/

/-- `DeduplicationFilter`: the keys seen, oldest first, with the time of the first
    sighting. -/
structure DeduplicationFilter where
  maxEntries : Nat := 10000
  ttl : ℚ := 300
  seen : OrderedDict String ℚ := .empty

namespace DeduplicationFilter

/-- `_evict_expired`. -/
def evictExpired (filter : DeduplicationFilter) (now : ℚ) : DeduplicationFilter :=
  { filter with seen := filter.seen.dropWhile fun entry => entry.2 ≤ now - filter.ttl }

/-- `_enforce_max_size`. -/
def enforceMaxSize (filter : DeduplicationFilter) : DeduplicationFilter :=
  { filter with seen := filter.seen.drop (filter.seen.items.length - filter.maxEntries) }

/-- `is_duplicate`: was the packet seen within the window?  If not, it is recorded. -/
def isDuplicate (filter : DeduplicationFilter) (now : ℚ) (sourceId packetId : String) :
    Bool × DeduplicationFilter :=
  let key := sourceId ++ ":" ++ packetId
  let filter := filter.evictExpired now
  match filter.seen.get? key with
  | some _ => (true, filter)
  | none => (false, enforceMaxSize { filter with seen := filter.seen.set key now })

end DeduplicationFilter

/-! ### The rate -/

/-- `RateLimiter`: the times of the transmissions of the last minute. -/
structure RateLimiter where
  maxPerMinute : Int := 20
  burstSize : Int := 5
  timestamps : List ℚ := []

namespace RateLimiter

def WINDOW_SECONDS : ℚ := 60
def BURST_SECONDS : ℚ := 5

/-- `_prune`. -/
def prune (limiter : RateLimiter) (now : ℚ) : RateLimiter :=
  { limiter with timestamps := limiter.timestamps.dropWhile fun t => t < now - WINDOW_SECONDS }

/-- `allow`. -/
def allow (limiter : RateLimiter) (now : ℚ) : Bool × RateLimiter :=
  let limiter := limiter.prune now
  if limiter.maxPerMinute ≤ limiter.timestamps.length then (false, limiter)
  else if limiter.burstSize ≤ limiter.timestamps.countP fun t => now - t < BURST_SECONDS then
    (false, limiter)
  else (true, { limiter with timestamps := limiter.timestamps ++ [now] })

end RateLimiter

/-! ### Decisions -/

/-- The reason of a decision. -/
inductive RelayReason where
  | relayDisabled
  | duplicate
  | noHopsRemaining
  | destLocal
  | nonRelayableType
  | signalTooStrong
  | signalTooWeak
  | rateLimited
  | approved
deriving DecidableEq, Repr

/-- `reason` as it is logged and counted. -/
def RelayReason.text : RelayReason → String
  | .relayDisabled => "relay_disabled"
  | .duplicate => "duplicate"
  | .noHopsRemaining => "no_hops_remaining"
  | .destLocal => "dest_local"
  | .nonRelayableType => "non_relayable_type"
  | .signalTooStrong => "signal_too_strong"
  | .signalTooWeak => "signal_too_weak"
  | .rateLimited => "rate_limited"
  | .approved => "approved"

/-- The two readings of the clock of one decision. -/
structure RelayClock where
  dedup : ℚ
  limiter : ℚ

/-- `RelayManager`; `native` says that the onboard radio is the transmit function. -/
structure RelayManager (F : Type) where
  dedup : DeduplicationFilter := {}
  limiter : RateLimiter := {}
  minRssi : F
  maxRssi : F
  enabled : Bool := false
  localNodeHex : Option String := none
  native : Bool := false
  relayCount : Nat := 0
  rejectedCount : Nat := 0
  rejectionReasons : OrderedDict String Nat := .empty

namespace RelayManager

open PyText

def RELAY_WORTHY_TYPES : List PacketType := [.text, .position, .telemetry, .nodeinfo]
def BROADCAST_ADDR_MESHTASTIC : String := "ffffffff"
def BROADCAST_ADDR_MESHCORE : String := "ffff"

section

variable {F : Type} [PyFloat F] (py : Casing)

/-- `set_local_node_id`. -/
def setLocalNodeId (m : RelayManager F) (nodeHex : String) : RelayManager F :=
  { m with localNodeHex := some (py.lower nodeHex) }

def isDestLocal (m : RelayManager F) (packet : Packet F) : Bool :=
  let dest := py.lower packet.destinationId
  m.localNodeHex.any (fun local_ => local_ ≠ "" && dest = local_) &&
    dest ≠ BROADCAST_ADDR_MESHTASTIC && dest ≠ BROADCAST_ADDR_MESHCORE

/-- The verdict on the signal strength, if there is one. -/
def signalReason (m : RelayManager F) : Option (SignalMetrics F) → Option RelayReason
  | none => none
  | some signal =>
    if PyFloat.lt m.maxRssi signal.rssi then some .signalTooStrong
    else if PyFloat.lt signal.rssi m.minRssi then some .signalTooWeak
    else none

/-- `evaluate`: the decision is to relay when its reason is `approved`. -/
def evaluate (m : RelayManager F) (clock : RelayClock) (packet : Packet F) :
    RelayReason × RelayManager F :=
  if m.enabled = false then (.relayDisabled, m)
  else
    let (duplicate, dedup) := m.dedup.isDuplicate clock.dedup packet.sourceId packet.packetId
    let m := { m with dedup := dedup }
    if duplicate then (.duplicate, m)
    else if packet.hopLimit = 0 then (.noHopsRemaining, m)
    else if m.isDestLocal py packet then (.destLocal, m)
    else if RELAY_WORTHY_TYPES.contains packet.packetType = false then (.nonRelayableType, m)
    else
      match m.signalReason packet.signal with
      | some reason => (reason, m)
      | none =>
        let (allowed, limiter) := m.limiter.allow clock.limiter
        let m := { m with limiter := limiter }
        if allowed then (.approved, m) else (.rateLimited, m)

/-- `process_packet`: whether the packet goes to the transmit function, and the manager
    with its counters. -/
def processPacket (m : RelayManager F) (clock : RelayClock) (packet : Packet F) :
    Bool × RelayManager F :=
  match m.evaluate py clock packet with
  | (.approved, m) => (true, { m with relayCount := m.relayCount + 1 })
  | (reason, m) =>
    (false, { m with
      rejectedCount := m.rejectedCount + 1
      rejectionReasons := m.rejectionReasons.set reason.text
        ((m.rejectionReasons.get? reason.text).getD 0 + 1) })

variable {py}

/-- What an approved packet met. -/
structure Approved (m : RelayManager F) (packet : Packet F) : Prop where
  enabled : m.enabled = true
  hopLimit : packet.hopLimit ≠ 0
  packetType : packet.packetType ∈ RELAY_WORTHY_TYPES

theorem approved_of_evaluate {m : RelayManager F} {clock : RelayClock} {packet : Packet F}
    (h : (m.evaluate py clock packet).1 = .approved) : m.Approved packet := by
  unfold evaluate at h
  split at h
  · cases h
  · rename_i henabled
    rw [Bool.not_eq_false] at henabled
    simp only at h
    split at h
    · cases h
    · split at h
      · cases h
      · rename_i hhops
        split at h
        · cases h
        · split at h
          · cases h
          · rename_i htype
            rw [Bool.not_eq_false, List.contains_iff_mem] at htype
            exact ⟨henabled, hhops, htype⟩

theorem approved_of_processPacket {m : RelayManager F} {clock : RelayClock} {packet : Packet F}
    (h : (m.processPacket py clock packet).1 = true) : m.Approved packet := by
  unfold processPacket at h
  split at h
  · rename_i m' heval
    exact approved_of_evaluate (by rw [heval])
  · cases h

end

end RelayManager

end Meshpoint
