import Meshpoint.BoundedDeque
import Meshpoint.GuardedRun
import Meshpoint.RelayManager
import Meshpoint.StatsReporter

/-!
# The upstream client

Model of `src/api/upstream_client.py`: the queue of packets, the flush that sends it and the
heartbeats, as they interleave at the points where a coroutine waits.  A flush looks at the
oldest message, waits for the send lock and for the socket, and then pops the oldest message.
A heartbeat takes a report, waits the same way, and then resets the statistics.

Queued messages are numbered, and the history records what left the queue, what was handed to
the socket and what was reported.
-/

namespace Meshpoint

open JsonText

namespace UpstreamClient

/-- A message of the queue, with its position among all that were queued. -/
structure Queued (M : Type) where
  number : Nat
  message : M
deriving DecidableEq

/-- How a message left the queue: dropped by an append to the full queue, shown with what was
    then in it and the new message; or popped after the send of a message was acknowledged. -/
inductive Removal (M : Type) where
  | overflow (message : Queued M) (items : List (Queued M))
  | acknowledged (sent popped : Queued M)
deriving DecidableEq

def Removal.message {M : Type} : Removal M → Queued M
  | .overflow message _ => message
  | .acknowledged _ popped => popped

/-- A flush between its look at the queue and the end of the send: the message, whether the
    socket has it, and whether an append has dropped a message since. -/
structure Sending (M : Type) where
  message : Queued M
  handed : Bool := false
  overtaken : Bool := false

/-- The queue of packets, the flush that is under way, and the history of both. -/
structure Outbox (M : Type) (bufferMaxSize : Nat) where
  buffer : BoundedDeque (Queued M) bufferMaxSize := .empty
  flush : Option (Sending M) := none
  queued : Nat := 0
  handed : List (Queued M) := []
  removed : List (Removal M) := []

namespace Outbox

variable {M : Type} {bufferMaxSize : Nat}

/-- `self._buffer.append(message)`, with what it drops. -/
def append (o : Outbox M bufferMaxSize) (message : M) : Outbox M bufferMaxSize :=
  let item : Queued M := ⟨o.queued, message⟩
  let o' := { o with buffer := o.buffer.append item, queued := o.queued + 1 }
  match o.buffer.isFull, o.buffer.items ++ [item] with
  | true, oldest :: rest =>
    { o' with
      removed := o.removed ++ [.overflow oldest (oldest :: rest)]
      flush := o.flush.map fun sending => { sending with overtaken := true } }
  | _, _ => o'

/-- `message = self._buffer[0]`, where no flush is under way and the queue is not empty. -/
def peek (o : Outbox M bufferMaxSize) : Option (Outbox M bufferMaxSize) :=
  match o.flush, o.buffer.items with
  | none, oldest :: _ => some { o with flush := some ⟨oldest, false, false⟩ }
  | _, _ => none

def hand (o : Outbox M bufferMaxSize) : Option (Outbox M bufferMaxSize) :=
  match o.flush with
  | some ⟨message, false, overtaken⟩ =>
    some { o with flush := some ⟨message, true, overtaken⟩, handed := o.handed ++ [message] }
  | _ => none

def abandon (o : Outbox M bufferMaxSize) : Outbox M bufferMaxSize := { o with flush := none }

/-- `self._buffer.popleft()` when the send has returned; the inner `none` is an exception. -/
def acknowledge (o : Outbox M bufferMaxSize) : Option (Option (Outbox M bufferMaxSize)) :=
  match o.flush with
  | some ⟨message, true, _⟩ =>
    some (o.buffer.popleft.map fun popped =>
      { o with
        flush := none
        buffer := popped.2
        removed := o.removed ++ [.acknowledged message popped.1] })
  | _ => none

end Outbox

/-- The payload of a heartbeat. -/
structure Heartbeat (F N : Type) where
  deviceId : String
  timestamp : Int
  stats : StatsReporter.Report F
  packetsSinceLast : Nat
  nodes : List N

/-- The heartbeat task: not running, in its sleep, or in the send of a payload. -/
inductive HeartbeatTask (F N : Type) where
  | stopped
  | asleep
  | sending (heartbeat : Heartbeat F N) (handed : Bool)

/-- Who is inside `async with self._send_lock`. -/
inductive LockHolder where
  | flush
  | heartbeat
  | other
deriving DecidableEq

/-- `UpstreamClient`, the statistics it reports and the history of the reports. -/
structure Client (M F N : Type) (bufferMaxSize : Nat) extends Outbox M bufferMaxSize where
  enabled : Bool := true
  deviceId : String
  limiter : RateLimiter := { maxPerMinute := 120, burstSize := 20 }
  droppedCount : Nat := 0
  connected : Bool := false
  heartbeatTask : HeartbeatTask F N := .stopped
  lock : Option LockHolder := none
  stats : StatsReporter F
  changedNodes : OrderedDict String N := .empty
  recorded : Nat := 0
  reported : List (Heartbeat F N) := []

/-- What happens next: a call from outside, or a task running to where it next waits. -/
inductive Event (M F N : Type) where
  /-- `send_packet`, at a reading of the limiter's clock. -/
  | sendPacket (now : ℚ) (message : M)
  | recordPacket (protocol packetType : String) (signal : Option (SignalMetrics F))
      (hopStart hopLimit : Int)
  | recordNode (nodeId : String) (data : N)
  /-- A connection is open and registered, and its heartbeat task starts. -/
  | connect
  /-- The connection is lost or left: its tasks are cancelled. -/
  | disconnect
  /-- `_flush_buffer` takes the oldest message. -/
  | peek
  /-- The flush has the lock and gives its message to the socket. -/
  | flushHand
  /-- The send of the flush returns. -/
  | flushAcknowledged
  /-- The heartbeat wakes and builds its payload. -/
  | heartbeatBuild (timestamp : Int) (elapsed : F)
  /-- The heartbeat has the lock and gives its payload to the socket. -/
  | heartbeatHand
  /-- The send of the heartbeat returns. -/
  | heartbeatSent
  /-- The send of the heartbeat raises. -/
  | heartbeatFailed
  /-- Another send takes or leaves the lock. -/
  | otherTakes
  | otherLeaves

section

variable {M F N : Type} [StationFloat F] {bufferMaxSize : Nat}

namespace Client

/-- `send_packet`. -/
def sendPacket (s : Client M F N bufferMaxSize) (now : ℚ) (message : M) :
    Client M F N bufferMaxSize :=
  if s.enabled = false then s
  else
    match s.limiter.allow now with
    | (false, limiter) => { s with limiter := limiter, droppedCount := s.droppedCount + 1 }
    | (true, limiter) => { s with limiter := limiter, toOutbox := s.toOutbox.append message }

/-- `_build_heartbeat`. -/
def buildHeartbeat (s : Client M F N bufferMaxSize) (timestamp : Int) (elapsed : F) :
    Heartbeat F N where
  deviceId := s.deviceId
  timestamp := timestamp
  stats := s.stats.buildReport elapsed
  packetsSinceLast := s.stats.totalPackets
  nodes := s.changedNodes.values

/-- `self._stats_reporter.reset()`. -/
def resetStats (s : Client M F N bufferMaxSize) : Client M F N bufferMaxSize :=
  { s with stats := s.stats.reset, changedNodes := .empty }

/-- The connection is gone: the flush ends with it, the heartbeat and the other tasks are
    cancelled, and the lock they held is released. -/
def dropConnection (s : Client M F N bufferMaxSize) : Client M F N bufferMaxSize :=
  { s with
    toOutbox := s.toOutbox.abandon
    connected := false
    heartbeatTask := .stopped
    lock := none }

/-- The state after an event; `none` when the event cannot happen. -/
def step (s : Client M F N bufferMaxSize) : Event M F N → Option (Client M F N bufferMaxSize)
  | .sendPacket now message => some (s.sendPacket now message)
  | .recordPacket protocol packetType signal hopStart hopLimit =>
    some { s with
      stats := s.stats.recordPacket protocol packetType signal hopStart hopLimit
      recorded := s.recorded + 1 }
  | .recordNode nodeId data =>
    some (if nodeId = "" then s else { s with changedNodes := s.changedNodes.set nodeId data })
  | .connect =>
    if s.connected then none
    else some { s.dropConnection with connected := true, heartbeatTask := .asleep }
  | .disconnect => if s.connected then some s.dropConnection else none
  | .peek =>
    if s.connected then s.toOutbox.peek.map fun outbox => { s with toOutbox := outbox } else none
  | .flushHand =>
    if s.lock = none then
      s.toOutbox.hand.map fun outbox => { s with toOutbox := outbox, lock := some .flush }
    else none
  | .flushAcknowledged =>
    s.toOutbox.acknowledge.map fun outbox =>
      match outbox with
      | some outbox => { s with toOutbox := outbox, lock := none }
      -- an `IndexError` ends the connection
      | none => s.dropConnection
  | .heartbeatBuild timestamp elapsed =>
    match s.heartbeatTask with
    | .asleep =>
      if s.connected then
        some { s with heartbeatTask := .sending (s.buildHeartbeat timestamp elapsed) false }
      -- `_send` returns at once, and the statistics are reset all the same
      else some { s.resetStats with heartbeatTask := .stopped }
    | _ => none
  | .heartbeatHand =>
    match s.heartbeatTask, s.lock with
    | .sending heartbeat false, none =>
      some { s with heartbeatTask := .sending heartbeat true, lock := some .heartbeat }
    | _, _ => none
  | .heartbeatSent =>
    match s.heartbeatTask with
    | .sending heartbeat true => some { s.resetStats with
        heartbeatTask := if s.connected then .asleep else .stopped
        lock := none
        reported := s.reported ++ [heartbeat] }
    | _ => none
  | .heartbeatFailed =>
    match s.heartbeatTask with
    | .sending _ handed =>
      some { s with heartbeatTask := .stopped, lock := if handed then none else s.lock }
    | _ => none
  | .otherTakes => if s.connected ∧ s.lock = none then some { s with lock := some .other } else none
  | .otherLeaves => if s.lock = some .other then some { s with lock := none } else none

def fresh (deviceId : String) (enabled : Bool) : Client M F N bufferMaxSize :=
  { deviceId := deviceId, enabled := enabled, stats := .fresh }

end Client

end

end UpstreamClient

end Meshpoint
