import Mathlib.Logic.Function.Basic
import Meshpoint.GuardedRun

/-!
# The serial port of a companion

Model of the connections that `MeshcoreUsbCaptureSource` (`src/capture/meshcore_usb_source.py`)
makes to its port: the background reconnect, the health-check loop, commands that time out,
`set_radio_params` and `stop`, interleaved at their awaits.  A connection is open from when it is
being made to when it is closed; a handshake that gives nothing, raises or is cancelled leaves none,
and `disconnect` closes its connection even when it raises.

Nothing but a flag that the reconnect itself sets keeps two owners apart.  `Meets` is the condition
on a run under which there is one connection and one reconnect at a time, and none after `stop`.
-/

namespace Meshpoint.CompanionPort

open GuardedRun Function

/-! ### Coroutines -/

inductive TaskKind
  /-- `_reconnect_until_connected` -/
  | reconnect
  /-- `_health_check_loop` -/
  | health
deriving DecidableEq

/-- Where a task waits.  The health check reconnects in its own task. -/
inductive Pc
  | created
  /-- `stop_auto_message_fetching` of `_disconnect` -/
  | stopFetching
  /-- `disconnect` of `_disconnect` -/
  | closing (conn : Nat)
  | backoff
  | pulsing
  | settling
  /-- `create_serial` -/
  | opening (conn : Nat)
  /-- `start_auto_message_fetching` of `_connect` -/
  | starting
  | sleeping (failures : Nat)
  | probing (failures : Nat)
  | retrying (failures : Nat)
  | finished
deriving DecidableEq

/-- The task is in `_reconnect`, past its guard. -/
def Pc.inSequence : Pc → Bool
  | .stopFetching | .closing _ | .backoff | .pulsing | .settling | .opening _ | .starting => true
  | .created | .sleeping _ | .probing _ | .retrying _ | .finished => false

structure Task where
  kind : TaskKind
  pc : Pc
  /-- Its next step raises `CancelledError`. -/
  cancelled : Bool := false
deriving DecidableEq

/-- The two exclusive connections of `_apply_radio_params_exclusive`. -/
inductive Round
  | set
  | verify
deriving DecidableEq

/-- Where a call of `set_radio_params` waits. -/
inductive CallPc
  | awaitingHealth (task : Nat)
  | awaitingReconnect (task : Nat)
  | stopFetching
  | closing (conn : Nat)
  | pulsing (round : Round)
  | settling (round : Round)
  | opening (round : Round) (conn : Nat)
  | talking (round : Round) (conn : Nat)
  | leaving (round : Round) (conn : Nat) (goOn : Bool)
  | rebooting
  | finished
deriving DecidableEq

/-- Where `stop` waits. -/
inductive StopPc
  | notCalled
  | awaitingReconnect (task : Nat)
  | awaitingHealth (task : Nat)
  | stopFetching
  | closing (conn : Nat)
  | stopped
deriving DecidableEq

structure State where
  running : Bool := true
  connected : Bool
  /-- `_meshcore`, by the connection it is on. -/
  meshcore : Option Nat
  healthTask : Option Nat := none
  reconnectTask : Option Nat := none
  /-- `_reconnect_in_progress` -/
  inProgress : Bool := false
  tasks : Nat → Task
  taskCount : Nat
  calls : Nat → CallPc := fun _ => .finished
  callCount : Nat := 0
  stop : StopPc := .notCalled
  /-- The dashboard commands that were sent and have not ended. -/
  commands : Nat := 0
  isOpen : Nat → Bool
  /-- How many connections there have been. -/
  conns : Nat

/-- How an awaited call ends: a probe that is answered or an event in between, and a handshake, are
    `ok`. -/
inductive Outcome
  | ok
  | nothing
  | raised
deriving DecidableEq

/-! ### Tasks -/

def setPc (s : State) (i : Nat) (pc : Pc) : State :=
  { s with tasks := update s.tasks i { s.tasks i with pc := pc } }

/-- `task.cancel()`. -/
def requestCancel (s : State) (i : Nat) : State :=
  { s with tasks := update s.tasks i { s.tasks i with cancelled := true } }

def isDone (s : State) (i : Nat) : Bool := (s.tasks i).pc = .finished

/-- `asyncio.create_task`. -/
def spawn (s : State) (kind : TaskKind) : State :=
  { s with
    tasks := update s.tasks s.taskCount ⟨kind, .created, false⟩
    taskCount := s.taskCount + 1 }

/-- A background reconnect that the source knows as its own. -/
def spawnReconnect (s : State) : State :=
  { spawn s .reconnect with reconnectTask := some s.taskCount }

def openConn (s : State) : State :=
  { s with isOpen := update s.isOpen s.conns true, conns := s.conns + 1 }

def closeConn (s : State) (conn : Nat) : State := { s with isOpen := update s.isOpen conn false }

/-- The head of the loop of `_health_check_loop`. -/
def healthLoop (s : State) (i failures : Nat) : State :=
  setPc s i (if s.running && s.connected then .sleeping failures else .finished)

/-- What follows `_reconnect` in the two kinds of tasks. -/
def afterReconnect (s : State) (i : Nat) : State :=
  match (s.tasks i).kind with
  | .reconnect =>
    if s.connected then
      setPc { spawn s .health with healthTask := some s.taskCount } i .finished
    else setPc s i .finished
  | .health => healthLoop s i 0

/-- The `finally` of `_reconnect`. -/
def leaveReconnect (s : State) (i : Nat) : State := afterReconnect { s with inProgress := false } i

/-- The head of the loop of `_reconnect`. -/
def loopHead (s : State) (i : Nat) : State :=
  if s.running then setPc s i .backoff else leaveReconnect s i

/-- `_reconnect` up to its first await. -/
def beginReconnect (s : State) (i : Nat) : State :=
  if s.inProgress then afterReconnect s i
  else
    match s.meshcore with
    | some _ => setPc { s with inProgress := true, connected := false } i .stopFetching
    | none => loopHead { s with inProgress := true, connected := false } i

/-- `_HEALTH_CHECK_MAX_FAILURES`. -/
def maxFailures : Nat := 2

def probeMissed (s : State) (i failures : Nat) : State :=
  if failures + 1 < maxFailures then setPc s i (.retrying (failures + 1)) else beginReconnect s i

def runPc (s : State) (i : Nat) (outcome : Outcome) : Pc → Option State
  | .finished => none
  | .created =>
    match (s.tasks i).kind with
    | .reconnect => some (beginReconnect s i)
    | .health => some (healthLoop s i 0)
  | .stopFetching =>
    match s.meshcore with
    | none => some (loopHead s i)
    | some conn => some (setPc s i (.closing conn))
  | .closing conn => some (loopHead { closeConn s conn with meshcore := none } i)
  | .backoff => some (if s.running then setPc s i .pulsing else leaveReconnect s i)
  | .pulsing => some (setPc s i .settling)
  | .settling => some (setPc (openConn s) i (.opening s.conns))
  | .opening conn =>
    match outcome with
    | .ok => some (setPc { s with meshcore := some conn, connected := true } i .starting)
    | .nothing =>
      some (loopHead { closeConn s conn with meshcore := none, connected := false } i)
    | .raised => some (loopHead { closeConn s conn with connected := false } i)
  | .starting =>
    match outcome with
    | .raised => some (loopHead { s with connected := false } i)
    | _ => some (if s.connected then leaveReconnect s i else loopHead s i)
  | .sleeping failures =>
    if s.running then
      match outcome, s.meshcore with
      | .ok, _ => some (healthLoop s i 0)
      | _, none => some (probeMissed s i failures)
      | _, some _ => some (setPc s i (.probing failures))
    else some (setPc s i .finished)
  | .probing failures =>
    match outcome with
    | .ok => some (healthLoop s i 0)
    | _ => some (probeMissed s i failures)
  | .retrying failures => some (healthLoop s i failures)

/-- `CancelledError` at an await: the `finally` of `_reconnect`, and the end of the task.  A
    `disconnect` that is cancelled may have closed its connection. -/
def cancelPc (s : State) (i : Nat) (closed : Bool) : Pc → Option State
  | .finished => none
  | .opening conn => some (setPc { closeConn s conn with inProgress := false } i .finished)
  | .closing conn =>
    some (setPc { (if closed then closeConn s conn else s) with inProgress := false } i .finished)
  | .stopFetching | .backoff | .pulsing | .settling | .starting =>
    some (setPc { s with inProgress := false } i .finished)
  | .created | .sleeping _ | .probing _ | .retrying _ => some (setPc s i .finished)

/-! ### Commands -/

/-- What `_trigger_reconnect` does before it schedules the reconnect. -/
def cancelHealth (s : State) : State :=
  { s with
    tasks :=
      match s.healthTask with
      | some h => (requestCancel s h).tasks
      | none => s.tasks
    healthTask := none
    connected := false }

/-- `_trigger_reconnect`. -/
def triggerReconnect (s : State) : State :=
  if s.inProgress then s else spawnReconnect (cancelHealth s)

/-! ### `set_radio_params` -/

def setCall (s : State) (j : Nat) (pc : CallPc) : State := { s with calls := update s.calls j pc }

/-- The end of `_detach_for_exclusive_radio_apply`, up to its await. -/
def callDisconnect (s : State) (j : Nat) : State :=
  match s.meshcore with
  | some _ => setCall { s with inProgress := false, connected := false } j .stopFetching
  | none => setCall { s with inProgress := false, connected := false } j (.pulsing .set)

def callCancelReconnect (s : State) (j : Nat) : State :=
  match s.reconnectTask with
  | none => callDisconnect s j
  | some r =>
    if isDone s r then callDisconnect { requestCancel s r with reconnectTask := none } j
    else setCall (requestCancel s r) j (.awaitingReconnect r)

def callCancelHealth (s : State) (j : Nat) : State :=
  match s.healthTask with
  | none => callCancelReconnect s j
  | some h =>
    if isDone s h then callCancelReconnect { requestCancel s h with healthTask := none } j
    else setCall (requestCancel s h) j (.awaitingHealth h)

/-- `_reattach_after_exclusive_radio_apply`, and the end of the call. -/
def endCall (s : State) (j : Nat) : State :=
  if s.running then spawnReconnect (setCall s j .finished) else setCall s j .finished

def runCallPc (s : State) (j : Nat) (outcome : Outcome) : CallPc → Option State
  | .finished => none
  | .awaitingHealth h =>
    if isDone s h then some (callCancelReconnect { s with healthTask := none } j) else none
  | .awaitingReconnect r =>
    if isDone s r then some (callDisconnect { s with reconnectTask := none } j) else none
  | .stopFetching =>
    match s.meshcore with
    | none => some (setCall s j (.pulsing .set))
    | some conn => some (setCall s j (.closing conn))
  | .closing conn => some (setCall { closeConn s conn with meshcore := none } j (.pulsing .set))
  | .pulsing round => some (setCall s j (.settling round))
  | .settling round => some (setCall (openConn s) j (.opening round s.conns))
  | .opening round conn =>
    match outcome with
    | .ok => some (setCall s j (.talking round conn))
    | _ => some (endCall (closeConn s conn) j)
  | .talking round conn => some (setCall s j (.leaving round conn (outcome = .ok)))
  | .leaving round conn goOn =>
    if goOn ∧ round = .set then some (setCall (closeConn s conn) j .rebooting)
    else some (endCall (closeConn s conn) j)
  | .rebooting => some (setCall s j (.pulsing .verify))

/-- `set_radio_params` up to its first await; the port is resolved when there is a connection. -/
def setRadioParams (s : State) : State :=
  if s.connected then callCancelHealth { s with callCount := s.callCount + 1 } s.callCount else s

/-! ### `stop` -/

def stopDisconnect (s : State) : State :=
  match s.meshcore with
  | some _ => { s with connected := false, stop := .stopFetching }
  | none => { s with connected := false, stop := .stopped }

def stopCancelHealth (s : State) : State :=
  match s.healthTask with
  | none => stopDisconnect s
  | some h =>
    if isDone s h then stopDisconnect { requestCancel s h with healthTask := none }
    else { requestCancel s h with stop := .awaitingHealth h }

def stopCancelReconnect (s : State) : State :=
  match s.reconnectTask with
  | none => stopCancelHealth s
  | some r =>
    if isDone s r then stopCancelHealth { requestCancel s r with reconnectTask := none }
    else { requestCancel s r with stop := .awaitingReconnect r }

def runStopPc (s : State) : StopPc → Option State
  | .notCalled => none
  | .stopped => none
  | .awaitingReconnect r =>
    if isDone s r then some (stopCancelHealth { s with reconnectTask := none }) else none
  | .awaitingHealth h =>
    if isDone s h then some (stopDisconnect { s with healthTask := none }) else none
  | .stopFetching =>
    match s.meshcore with
    | none => some { s with stop := .stopped }
    | some conn => some { s with stop := .closing conn }
  | .closing conn => some { closeConn s conn with meshcore := none, stop := .stopped }

/-! ### Runs -/

inductive Event
  | run (task : Nat) (outcome : Outcome)
  | cancel (task : Nat) (closed : Bool)
  | command
  | commandEnds
  | commandTimesOut
  | setRadio
  | runCall (call : Nat) (outcome : Outcome)
  | stop
  | runStop

def step (s : State) : Event → Option State
  | .run i outcome => if (s.tasks i).cancelled then none else runPc s i outcome (s.tasks i).pc
  | .cancel i closed => if (s.tasks i).cancelled then cancelPc s i closed (s.tasks i).pc else none
  | .command => some (if s.connected then { s with commands := s.commands + 1 } else s)
  | .commandEnds => if s.commands = 0 then none else some { s with commands := s.commands - 1 }
  | .commandTimesOut =>
    if s.commands = 0 then none
    else some (triggerReconnect { s with commands := s.commands - 1 })
  | .setRadio => some (setRadioParams s)
  | .runCall j outcome => runCallPc s j outcome (s.calls j)
  | .stop =>
    match s.stop with
    | .notCalled => some (stopCancelReconnect { s with running := false })
    | _ => none
  | .runStop => runStopPc s s.stop

def noTask : Task := ⟨.health, .finished, false⟩

/-- The source as `start` leaves it, by how its `_connect` ended: connected with its health check,
    or with a reconnect that is going to run.  Where the fetching of a connection could not start,
    the connection is still there. -/
def started (outcome : Outcome) : State where
  connected := outcome = .ok
  meshcore := if outcome = .nothing then none else some 0
  healthTask := if outcome = .ok then some 0 else none
  reconnectTask := if outcome = .ok then none else some 0
  tasks := update (fun _ => noTask) 0
    ⟨if outcome = .ok then .health else .reconnect, .created, false⟩
  taskCount := 1
  isOpen := update (fun _ => false) 0 (outcome ≠ .nothing)
  conns := 1

/-- One connection at most, one reconnect at most, and after `stop` no connection. -/
structure OneOwner (s : State) : Prop where
  connection : ∀ c c', s.isOpen c = true → s.isOpen c' = true → c = c'
  sequence : ∀ i i',
    (s.tasks i).pc.inSequence = true → (s.tasks i').pc.inSequence = true → i = i'
  stopped : s.stop = .stopped → ∀ c, s.isOpen c = false

/-- No call of `set_radio_params` is under way. -/
def NoCall (s : State) : Prop := ∀ j < s.callCount, s.calls j = .finished

/-- No background reconnect is waiting or running, but for one that is cancelled. -/
def NoReconnect (s : State) : Prop := ∀ i < s.taskCount, (s.tasks i).kind = .reconnect →
  (s.tasks i).pc ≠ .finished → (s.tasks i).cancelled = true

/-- A command times out in a reconnect, or when no radio change is under way and, before `stop`, no
    background reconnect either; a radio change gets past its check while the source runs and no
    other is under way; `stop` is called when no radio change is; and a connection that was made can
    start its fetching. -/
def Meets (s : State) : Event → Prop
  | .run i outcome => (s.tasks i).pc = .starting → outcome ≠ .raised
  | .commandTimesOut => s.inProgress = true ∨ (NoCall s ∧ (s.running = true → NoReconnect s))
  | .setRadio => s.connected = true → s.running = true ∧ NoCall s
  | .stop => NoCall s
  | _ => True

instance (s : State) : Decidable (NoCall s) :=
  inferInstanceAs (Decidable (∀ j < s.callCount, s.calls j = .finished))

instance (s : State) : Decidable (NoReconnect s) :=
  inferInstanceAs (Decidable (∀ i < s.taskCount, (s.tasks i).kind = .reconnect →
    (s.tasks i).pc ≠ .finished → (s.tasks i).cancelled = true))

instance (s : State) : (e : Event) → Decidable (Meets s e)
  | .run i outcome => inferInstanceAs (Decidable ((s.tasks i).pc = .starting → outcome ≠ .raised))
  | .commandTimesOut =>
    inferInstanceAs
      (Decidable (s.inProgress = true ∨ (NoCall s ∧ (s.running = true → NoReconnect s))))
  | .setRadio =>
    inferInstanceAs (Decidable (s.connected = true → s.running = true ∧ NoCall s))
  | .stop => inferInstanceAs (Decidable (NoCall s))
  | .cancel _ _ | .command | .commandEnds | .runCall _ _ | .runStop => .isTrue trivial

/-! ### Updates of the tasks and the calls -/

@[simp] theorem tasks_setPc_self (s : State) (i : Nat) (pc : Pc) :
    (setPc s i pc).tasks i = { s.tasks i with pc := pc } := update_self ..

theorem tasks_setPc_of_ne (s : State) {i k : Nat} (h : k ≠ i) (pc : Pc) :
    (setPc s i pc).tasks k = s.tasks k := update_of_ne h ..

@[simp] theorem tasks_requestCancel_self (s : State) (i : Nat) :
    (requestCancel s i).tasks i = { s.tasks i with cancelled := true } := update_self ..

theorem tasks_requestCancel_of_ne (s : State) {i k : Nat} (h : k ≠ i) :
    (requestCancel s i).tasks k = s.tasks k := update_of_ne h ..

theorem tasks_requestCancel (s : State) (i k : Nat) :
    ((requestCancel s i).tasks k).pc = (s.tasks k).pc ∧
      ((requestCancel s i).tasks k).kind = (s.tasks k).kind := by
  by_cases h : k = i
  · rw [h, tasks_requestCancel_self]
    exact ⟨rfl, rfl⟩
  · rw [tasks_requestCancel_of_ne s h]
    exact ⟨rfl, rfl⟩

@[simp] theorem tasks_spawn_self (s : State) (kind : TaskKind) :
    (spawn s kind).tasks s.taskCount = ⟨kind, .created, false⟩ := update_self ..

theorem tasks_spawn_of_ne (s : State) (kind : TaskKind) {k : Nat} (h : k ≠ s.taskCount) :
    (spawn s kind).tasks k = s.tasks k := update_of_ne h ..

@[simp] theorem calls_setCall_self (s : State) (j : Nat) (pc : CallPc) :
    (setCall s j pc).calls j = pc := update_self ..

theorem calls_setCall_of_ne (s : State) {j k : Nat} (h : k ≠ j) (pc : CallPc) :
    (setCall s j pc).calls k = s.calls k := update_of_ne h ..

end Meshpoint.CompanionPort
