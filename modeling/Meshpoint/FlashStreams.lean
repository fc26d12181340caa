import Mathlib.Data.List.Infix
import Meshpoint.AsyncGenerators

/-!
# Flash streams

Model of the `body` generators of the flash routes: `meshtastic_firmware_routes.py`,
`meshcore_firmware_routes.py` and `rnode_firmware_routes.py`. A script says how each `yield` and
`await` goes: an awaitable may raise, the stream may be closed or cancelled, and the process of the
flashing tool, which nothing kills, ends by itself at some time.

`flash_given_back_iff` says for which scripts a stream that has ended gave the port back: the first
two routes have no `finally` block, and the third one yields in it.
-/

namespace Meshpoint.FlashStreams

open AsyncGenerators

/-! ### The surroundings -/

/-- An exception: whether it is an `OSError`, and its text. -/
structure Exc where
  osError : Bool
  text : String
deriving DecidableEq

inductive Chunk where
  | started (cmd : List String)
  | line (stream text : String)
  | result (returncode : Int) (success : Bool) (error : Option String)
    (alreadyProvisioned : Option Bool)
deriving DecidableEq

/-- An entry of the audit log, without the request's own parameters. -/
structure Entry where
  action : String
  result : String
  error : Option String
deriving DecidableEq

/-- The source or daemon of the port, the tool's process, and what was sent and logged. `down` is
    that it was stopped and not asked to start since, `clashed` that it was asked to start while the
    tool ran. -/
structure Host where
  down : Bool
  running : Bool
  exitStatus : Option Int
  clashed : Bool
  sent : List Chunk
  entries : List Entry

def Host.start : Host := ⟨false, false, none, false, [], []⟩

def Host.meanwhile (h : Host) (exits : Option Int) : Host :=
  match h.running, exits with
  | true, some returncode => { h with running := false, exitStatus := some returncode }
  | _, _ => h

def Host.restart (h : Host) : Host := { h with down := false, clashed := h.clashed || h.running }

/-- What an awaitable does to the host. -/
inductive Effect where
  | stops
  | spawns
deriving DecidableEq

def Host.after (h : Host) : Option Effect → Host
  | none => h
  | some .stops => { h with down := true }
  | some .spawns => { h with running := true, exitStatus := none }

/-- An awaitable that may raise; `stop` tells whether the source or daemon is stopped then. -/
inductive Point where
  | fetch
  | stop (stopped : Bool)
  | spawn
  | feed
  | start
  | status
deriving DecidableEq

structure Line where
  stream : String
  text : String
deriving DecidableEq

/-- The commands of `systemctl`. -/
inductive Verb where
  | stop
  | start
  | isActive
deriving DecidableEq

/-- What a suspension point goes on with, `φ` being what the cache of the firmware returns. -/
inductive Reply (φ : Type) where
  | resumed
  | fetched (fw : φ)
  | stopped
  | spawned
  | fed
  | item (item : Option Line)
  | joined
  | exited
  | slept
  | started (connected : Bool)
  | status (verb : Verb) (returncode : Int) (output : String)

/-- How a suspension point goes; at an interrupt the awaitable may have had its effect. -/
inductive How (φ : Type) where
  | comes (reply : Reply φ)
  | raises (point : Point) (exc : Exc)
  | interrupted (how : Interrupt) (took : Option Effect)

/-- An answer, after the tool's process has gone on. -/
structure Answer (φ : Type) where
  exits : Option Int
  how : How φ

variable {φ : Type}

abbrev Flow (φ α : Type) := Gen Host (Answer φ) Exc α

/-- A suspension point: what is left when it raises, the replies that it takes, and its effect. -/
def pause {α : Type} (raising : Point → Option (Host → Host)) (accept : Host → Reply φ → Option α)
    (effect : Option Effect) : Flow φ α :=
  suspend fun answer h =>
    let h := h.meanwhile answer.exits
    match answer.how with
    | .comes reply => (accept h reply).map fun a => (.returned a, h.after effect)
    | .raises point exc => (raising point).map fun f => (.stopped (.raised exc), f h)
    | .interrupted how took =>
      if took = none ∨ took = effect then some (.stopped (.interrupted how), h.after took) else none

def Host.send (h : Host) (chunk : Chunk) : Host := { h with sent := h.sent ++ [chunk] }

def yieldChunk (chunk : Chunk) : Flow φ PUnit := do
  act fun h => h.send chunk
  pause (fun _ => none) (fun | _, .resumed => some ⟨⟩ | _, _ => none) none

/-- The awaitable raises at one point, and leaves the host as it is. -/
def raisesAt (point : Point) : Point → Option (Host → Host) :=
  fun other => if other = point then some id else none

def stopRaises : Point → Option (Host → Host)
  | .stop stopped => some fun h => if stopped then h.after (some .stops) else h
  | _ => none

/-- `await loop.run_in_executor(None, _ensure_board_firmware_cached_sync, …)`. -/
def fetchFirmware : Flow φ φ :=
  pause (raisesAt .fetch) (fun | _, .fetched fw => some fw | _, _ => none) none

/-- `await source.stop()`. -/
def stopSource : Flow φ PUnit :=
  pause stopRaises (fun | _, .stopped => some ⟨⟩ | _, _ => none) (some .stops)

/-- `await source.start()`: whether the source is connected then. -/
def startSource : Flow φ Bool := do
  act Host.restart
  pause (raisesAt .start) (fun | _, .started connected => some connected | _, _ => none) none

def sleep : Flow φ PUnit :=
  pause (fun _ => none) (fun | _, .slept => some ⟨⟩ | _, _ => none) none

/-- The exit status and output of a command of `systemctl`. -/
def statusOf (verb : Verb) : Host → Reply φ → Option (Int × String)
  | _, .status verb' returncode output => if verb' = verb then some (returncode, output) else none
  | _, _ => none

/-- `await _run_systemctl("stop", "rnsd")`. -/
def systemctlStop : Flow φ (Int × String) := pause stopRaises (statusOf .stop) (some .stops)

/-- `await _run_systemctl("start", "rnsd")`. -/
def systemctlStart : Flow φ (Int × String) := do
  act Host.restart
  pause (raisesAt .start) (statusOf .start) none

/-- `await _run_systemctl("is-active", "rnsd")`. -/
def systemctlIsActive : Flow φ (Int × String) :=
  pause (raisesAt .status) (statusOf .isActive) none

/-! ### The tool -/

/-- `await asyncio.create_subprocess_exec(…)`. -/
def spawnTool : Flow φ PUnit :=
  pause (raisesAt .spawn) (fun | _, .spawned => some ⟨⟩ | _, _ => none) (some .spawns)

/-- `await process.stdin.drain()`. -/
def feedTool : Flow φ PUnit :=
  pause (raisesAt .feed) (fun | _, .fed => some ⟨⟩ | _, _ => none) none

/-- `await queue.get()`. -/
def nextItem : Flow φ (Option Line) :=
  pause (fun _ => none) (fun | _, .item item => some item | _, _ => none) none

def joinPump : Flow φ PUnit :=
  pause (fun _ => none) (fun | _, .joined => some ⟨⟩ | _, _ => none) none

/-- `await process.wait()`, which takes the end of the process. -/
def waitTool : Flow φ Int :=
  pause (fun _ => none)
    (fun
      | h, .exited => if h.running then none else h.exitStatus
      | _, _ => none)
    none

/-- A round of the loop over the queue, with what was seen of the lines so far. -/
def drainRound {μ : Type} (see : μ → String → μ) (carried : Nat × μ) :
    Flow φ ((Nat × μ) ⊕ μ) := do
  if carried.1 = 0 then pure (.inr carried.2)
  else
    let item ← nextItem
    match item with
    | none => pure (.inl (carried.1 - 1, carried.2))
    | some line => do
      yieldChunk (.line line.stream line.text)
      pure (.inl (carried.1, see carried.2 line.text))

/-- `while pending: …`. -/
def drainQueue {μ : Type} (see : μ → String → μ) (pending : Nat) (seen : μ) : Flow φ μ :=
  iterate (drainRound see) (pending, seen)

/-- The answers of the wizard are written to the tool's input. -/
def feedAnswers (feeds : Bool) : Flow φ PUnit := if feeds then feedTool else pure ⟨⟩

def toolOutput {μ : Type} (feeds : Bool) (see : μ → String → μ) (seen : μ)
    (succeeded : μ → Int → Bool) (already : μ → Option Bool) : Flow φ Bool := do
  feedAnswers feeds
  let seen ← drainQueue see 2 seen
  joinPump
  joinPump
  let returncode ← waitTool
  yieldChunk (.result returncode (succeeded seen returncode) none (already seen))
  pure (succeeded seen returncode)

/-- A helper that runs a tool, and the flag that the loop over its chunks leaves. -/
def runTool {μ : Type} (cmd : List String) (feeds : Bool) (see : μ → String → μ) (seen : μ)
    (succeeded : μ → Int → Bool) (already : μ → Option Bool) : Flow φ Bool := do
  yieldChunk (.started cmd)
  let spawned ← attempt (fun exc => exc.osError) spawnTool
  match spawned with
  | .error exc => do
    yieldChunk (.result (-1) false (some exc.text) none)
    pure false
  | .ok _ => toolOutput feeds see seen succeeded already

/-- `_stream_subprocess` of the routes with esptool. -/
def streamSubprocess (cmd : List String) : Flow φ Bool :=
  runTool cmd false (fun seen _ => seen) () (fun _ returncode => returncode = 0) fun _ => none

def SUCCESS_MARKER : String := "RNode Firmware autoinstallation complete!"

def ALREADY_PROVISIONED_MARKER : String := "This device is already installed and provisioned"

/-- The marks seen so far: a success, and a device that was provisioned before. -/
def seeMarkers (seen : Bool × Bool) (text : String) : Bool × Bool :=
  if SUCCESS_MARKER.toList <:+: text.toList then (true, seen.2)
  else if ALREADY_PROVISIONED_MARKER.toList <:+: text.toList then (seen.1, true)
  else seen

/-- `_stream_autoinstall`. -/
def streamAutoinstall (rnodeconf port : String) : Flow φ Bool :=
  runTool [rnodeconf, "-a", "--baud-flash", "115200", port] true seeMarkers (false, false)
    (fun seen _ => seen.1 || seen.2) fun seen => some seen.2

/-- `_stream_eeprom_wipe`. -/
def streamEepromWipe (rnodeconf port : String) : Flow φ Bool :=
  runTool [rnodeconf, "--eeprom-wipe", port] false (fun seen _ => seen) ()
    (fun _ returncode => returncode = 0) fun _ => none

def Host.log (h : Host) (entry : Entry) : Host := { h with entries := h.entries ++ [entry] }

/-- `audit.timed_action` around a block that leaves the result set in the handle. -/
def timedAction (action : String) (block : Flow φ (Option String)) : Flow φ PUnit := fun run =>
  match block run with
  | (.returned result, run) =>
    (.returned ⟨⟩, { run with host := run.host.log ⟨action, result.getD "success", none⟩ })
  | (.stopped (.raised exc), run) =>
    (.stopped (.raised exc), { run with host := run.host.log ⟨action, "error", some exc.text⟩ })
  | (.stopped stop, run) => (.stopped stop, run)

/-! ### The routes with esptool -/

/-- The capture source of the port: its name, and whether it is connected. -/
structure Source where
  name : String
  connected : Bool

/-- What tells the two routes apart. -/
structure EsptoolRoute (φ : Type) where
  action : String
  announcement : String
  chosen : φ → String
  cmd : φ → List String
  port : String
  source : Option Source
  /-- `req.flavor == "ble"`. -/
  bluetooth : Bool

namespace EsptoolRoute

variable (route : EsptoolRoute φ)

/-- `if released: …` before esptool. -/
def releasePort : Flow φ PUnit :=
  match route.source with
  | none => pure ⟨⟩
  | some source => do
    yieldChunk (.line "stdout" ("Releasing " ++ route.port ++ " (" ++ source.name ++
      (if source.connected then "" else " reconnect loop") ++ ")…"))
    stopSource

def restoreAfterFailure (source : Source) : Flow φ PUnit := do
  yieldChunk (.line "stderr" ("Flash failed (esptool exited non-zero). Board firmware " ++
    "was not updated. Restoring USB capture on the previous build…"))
  let connected ← startSource
  yieldChunk (.line "stdout" (if connected then source.name ++ " restored on " ++ route.port ++ "."
    else source.name ++ " did NOT come back -- a service restart may be needed."))

def restoreAfterSuccess (source : Source) : Flow φ PUnit := do
  yieldChunk (.line "stdout" "Waiting for the board to finish rebooting…")
  sleep
  let connected ← startSource
  yieldChunk (.line "stdout"
    (if connected then source.name ++ " reconnected on " ++ route.port ++ "."
    else source.name ++ " did NOT reconnect -- a service restart may be needed."))

/-- `if released: …` after esptool. -/
def restorePort (success : Bool) : Flow φ PUnit :=
  match route.source with
  | none => pure ⟨⟩
  | some source =>
    if success = false then route.restoreAfterFailure source
    else if route.bluetooth then
      yieldChunk (.line "stdout" ("Flashed BLE firmware -- " ++ source.name ++
        " won't reconnect over USB (that's expected); pair it with the MeshCore app instead."))
    else route.restoreAfterSuccess source

def flashFetched (fw : φ) : Flow φ (Option String) := do
  yieldChunk (.line "stdout" (route.chosen fw))
  route.releasePort
  let success ← streamSubprocess (route.cmd fw)
  route.restorePort success
  pure (some (if success then "success" else "error"))

/-- The handler of a firmware that could not be fetched. -/
def reportFetch (exc : Exc) : Flow φ (Option String) := do
  yieldChunk (.line "stderr" exc.text)
  yieldChunk (.result (-1) false (some exc.text) none)
  pure (some "error")

def block : Flow φ (Option String) := do
  yieldChunk (.line "stdout" route.announcement)
  let fetched ← attempt (fun _ => true) fetchFirmware
  match fetched with
  | .error exc => reportFetch exc
  | .ok fw => route.flashFetched fw

def body : Flow φ PUnit := timedAction route.action route.block

end EsptoolRoute

/-- `hex`. -/
def hexText (n : Int) : String :=
  (if n < 0 then "-0x" else "0x") ++ String.ofList (Nat.toDigits 16 n.natAbs)

def ESPTOOL_BIN : String := "esptool"

structure MeshtasticFirmware where
  version : String
  mcu : String
  factoryBin : String
  littlefsBin : Option String
  littlefsOffset : Option Int

/-- `body` of `flash_meshtastic_stream`. -/
def flashMeshtasticStream (board tag port : String) (eraseAll : Bool) (source : Option Source) :
    EsptoolRoute MeshtasticFirmware where
  action := "meshtastic_firmware.flash"
  announcement := "Fetching Meshtastic " ++ (if tag = "" then "latest" else tag) ++
    " firmware for " ++ board.replace "-" " " ++ "…"
  chosen fw := "Using Meshtastic " ++ fw.version ++ " (" ++ fw.mcu ++ ")."
  cmd fw :=
    [ESPTOOL_BIN, "--chip", fw.mcu, "--port", port, "--baud", "921600", "write-flash"] ++
      (if eraseAll then ["--erase-all"] else []) ++ ["0x0", fw.factoryBin] ++
      match fw.littlefsBin, fw.littlefsOffset with
      | some path, some offset => if eraseAll then [hexText offset, path] else []
      | _, _ => []
  port := port
  source := source
  bluetooth := false

structure MeshcoreFirmware where
  tag : String
  flavor : String
  mergedBin : String

/-- `body` of `flash_meshcore_stream`. -/
def flashMeshcoreStream (board tag flavor port : String) (eraseAll : Bool)
    (source : Option Source) : EsptoolRoute MeshcoreFirmware where
  action := "meshcore_firmware.flash"
  announcement := "Fetching MeshCore " ++ (if tag = "" then "latest" else tag) ++ " (" ++ flavor ++
    ") companion firmware for " ++ board.replace "_" " " ++ "…"
  chosen fw := "Using MeshCore " ++ fw.tag ++ " (" ++ fw.flavor ++ ")."
  cmd fw :=
    [ESPTOOL_BIN, "--chip", "auto", "--port", port, "--baud", "921600", "write-flash"] ++
      (if eraseAll then ["--erase-all"] else []) ++ ["0x0", fw.mergedBin]
  port := port
  source := source
  bluetooth := flavor = "ble"

/-! ### The route with rnodeconf -/

structure RnodeRoute where
  rnodeconf : String
  port : String
  releaseRnsd : Bool
  eraseFirst : Bool

namespace RnodeRoute

variable (route : RnodeRoute)

/-- `if release_rnsd: …` before the `try`. -/
def releasePort : Flow PUnit PUnit :=
  if route.releaseRnsd then do
    yieldChunk (.line "stdout" ("Stopping rnsd (holds " ++ route.port ++
      " open as its own RNode interface)…"))
    let (rc, out) ← systemctlStop
    if rc ≠ 0 then
      yieldChunk (.line "stderr"
        ("Could not stop rnsd (exit " ++ toString rc ++ "): " ++ out))
    else pure ⟨⟩
  else pure ⟨⟩

/-- `if req.erase_first: …`; `false` when the board could not be erased. -/
def eraseBoard : Flow PUnit Bool :=
  if route.eraseFirst then do
    yieldChunk (.line "stdout" "Erasing EEPROM first…")
    let wipeOk ← streamEepromWipe route.rnodeconf route.port
    if wipeOk then do
      yieldChunk (.line "stdout" "Waiting for the board to finish resetting…")
      sleep
      pure true
    else do
      yieldChunk (.line "stderr" "EEPROM erase failed -- aborting before attempting to flash.")
      pure false
  else pure true

/-- The `try` block: the flag of the flash, or `none` where the block returns. -/
def flashBoard : Flow PUnit (Option Bool) := do
  let erased ← route.eraseBoard
  if erased then do
    let success ← streamAutoinstall route.rnodeconf route.port
    pure (some success)
  else pure none

/-- The `finally` block. -/
def restorePort (closing : Bool) : Flow PUnit PUnit :=
  if route.releaseRnsd then
    yieldUnless closing do
      yieldChunk (.line "stdout" "Waiting for the board to finish rebooting…")
      sleep
      yieldChunk (.line "stdout" "Restarting rnsd…")
      let _ ← systemctlStart
      let (rc, out) ← systemctlIsActive
      yieldChunk (.line "stdout" (if rc = 0 then "rnsd reconnected."
        else "rnsd did NOT come back up (status: " ++ out ++ ") -- check `systemctl status rnsd`."))
  else pure ⟨⟩

def block : Flow PUnit (Option String) := do
  route.releasePort
  let flashed ← tryFinally route.flashBoard route.restorePort
  -- a block that returns early leaves the result of the handle unset
  pure (flashed.map fun success => if success then "success" else "error")

/-- `body` of `flash_firmware_stream`. -/
def body : Flow PUnit PUnit := timedAction "rnode_firmware.flash" route.block

end RnodeRoute

/-! ### Scripts -/

namespace How

def interrupts : How φ → Bool
  | .interrupted _ _ => true
  | _ => false

def isRaise : How φ → Bool
  | .raises _ _ => true
  | _ => false

def isStart : How φ → Bool
  | .comes (.started _) => true
  | .comes (.status .start _ _) => true
  | .raises .start _ => true
  | _ => false

def spawns : How φ → Bool
  | .comes .spawned => true
  | .interrupted _ (some .spawns) => true
  | _ => false

/-- Stopping raised when the source or daemon was stopped already. -/
def raisesStopped : How φ → Bool
  | .raises (.stop true) _ => true
  | _ => false

/-- The tool fails to start by another exception than an `OSError`. -/
def raisesSpawn : How φ → Bool
  | .raises .spawn exc => !exc.osError
  | _ => false

end How

def toolRuns (script : List (Answer φ)) : Bool :=
  script.foldl (fun runs answer => answer.how.spawns || (runs && answer.exits.isNone)) false

/-- The tool does not run when the source or daemon is asked to start. -/
def IdleAtStart (script : List (Answer φ)) : Prop :=
  ∀ before answer later, script = before ++ answer :: later → answer.how.isStart = true →
    toolRuns before = false

theorem toolRuns_append (past : List (Answer φ)) (answer : Answer φ) :
    toolRuns (past ++ [answer]) =
      (answer.how.spawns || (toolRuns past && answer.exits.isNone)) := by
  simp [toolRuns, List.foldl_append]

theorem idleAtStart_append {past : List (Answer φ)} {answer : Answer φ} :
    IdleAtStart (past ++ [answer]) ↔
      IdleAtStart past ∧ (answer.how.isStart = true → toolRuns past = false) := by
  constructor
  · intro h
    refine ⟨fun before other later heq hstart => ?_, h past answer [] rfl⟩
    exact h before other (later ++ [answer]) (by rw [heq]; simp) hstart
  · rintro ⟨hpast, hanswer⟩ before other later heq hstart
    rcases List.eq_nil_or_concat later with rfl | ⟨rest, last, rfl⟩
    · obtain ⟨rfl, hother⟩ := List.append_inj' heq rfl
      cases hother
      exact hanswer hstart
    · have heq' : past ++ [answer] = (before ++ other :: rest) ++ [last] := by simpa using heq
      obtain ⟨rfl, -⟩ := List.append_inj' heq' rfl
      exact hpast before other rest rfl hstart

theorem idleAtStart_of_none {past : List (Answer φ)}
    (h : ∀ answer ∈ past, answer.how.isStart = false) : IdleAtStart past := by
  rintro before answer later rfl hstart
  rw [h answer (by simp)] at hstart
  cases hstart

/-! ### What a stream leaves -/

/-- The port was given back, the tool was left alone, and there is one entry in the log.
    `bluetooth` is the exception of a Bluetooth-only firmware that was written. -/
structure GivenBack (bluetooth : Bool) (h : Host) : Prop where
  restarted : h.down = true → bluetooth = true ∧ h.exitStatus = some 0
  alone : h.clashed = false
  logged : h.entries.length = 1

/-- The first two parts, before the entry is written. -/
def Restored (bluetooth : Bool) (h : Host) : Prop :=
  (h.down = true → bluetooth = true ∧ h.exitStatus = some 0) ∧ h.clashed = false

/-- The host when a stream has ended with the last answer of its script. -/
def outcome (body : Flow φ PUnit) (script : List (Answer φ)) : Option Host :=
  match body ⟨.start, [], script⟩ with
  | (.stopped .waiting, _) => none
  | (_, run) => if run.script = [] then some run.host else none

/-! ### Rules of the suspension points -/

section Rules

variable {α : Type} {P : Assertion Host (Answer φ)} {Q : α → Assertion Host (Answer φ)}
  {E : Stop Exc → Assertion Host (Answer φ)}

/-- The rule of a suspension point: what its replies, its exceptions and an interrupt lead to. -/
theorem meets_pause {raising : Point → Option (Host → Host)} {accept : Host → Reply φ → Option α}
    {effect : Option Effect} (hwaits : ∀ past h, P past h → E .waiting past h)
    (hcomes : ∀ past h exits reply a, P past h → accept (h.meanwhile exits) reply = some a →
      Q a (past ++ [⟨exits, .comes reply⟩]) ((h.meanwhile exits).after effect))
    (hraises : ∀ past h exits point exc f, P past h → raising point = some f →
      E (.raised exc) (past ++ [⟨exits, .raises point exc⟩]) (f (h.meanwhile exits)))
    (hinterrupted : ∀ past h exits how took, P past h →
      E (.interrupted how) (past ++ [⟨exits, .interrupted how took⟩])
        ((h.meanwhile exits).after took)) :
    Meets P (pause raising accept effect) Q E := by
  refine meets_suspend hwaits ?_
  rintro past h ⟨exits, reply | ⟨point, exc⟩ | ⟨how, took⟩⟩ ending h' hP hanswer
  · obtain ⟨a, haccept, heq⟩ := Option.map_eq_some_iff.mp hanswer
    cases heq
    exact hcomes past h exits reply a hP haccept
  · obtain ⟨f, hraising, heq⟩ := Option.map_eq_some_iff.mp hanswer
    cases heq
    exact hraises past h exits point exc f hP hraising
  · simp only at hanswer
    split at hanswer
    · cases hanswer
      exact hinterrupted past h exits how took hP
    · cases hanswer

end Rules

/-! ### The loop over the queue -/

theorem meets_pause_length {α : Type} (raising : Point → Option (Host → Host))
    (accept : Host → Reply φ → Option α) (effect : Option Effect) (n : Nat) :
    Meets (fun past _ => n ≤ past.length) (pause raising accept effect)
      (fun _ past _ => n < past.length) fun _ _ _ => True := by
  refine meets_pause (fun _ _ _ => trivial) (fun past h exits reply a hn _ => ?_)
    (fun _ _ _ _ _ _ _ _ => trivial) fun _ _ _ _ _ _ => trivial
  rw [List.length_append]
  exact Nat.lt_of_le_of_lt hn (Nat.lt_add_one _)

theorem advances_drainRound {μ : Type} (see : μ → String → μ) :
    Advances (drainRound see : Nat × μ → Flow φ ((Nat × μ) ⊕ μ)) := by
  refine advances_of_meets fun carried n => ?_
  unfold drainRound
  split
  · exact meets_pure fun _ _ _ => trivial
  refine meets_bind (meets_pause_length _ _ _ n) fun item => ?_
  cases item with
  | none => exact meets_pure fun _ _ hn => hn
  | some line =>
    refine meets_bind (Q := fun _ past _ => n < past.length) ?_ fun _ => meets_pure fun _ _ hn => hn
    refine meets_bind (Q := fun _ past _ => n < past.length) (meets_act fun _ _ hn => hn)
      fun _ => ?_
    exact meets_imp (meets_pause_length _ _ _ n) (fun _ _ hn => Nat.le_of_lt hn)
      (fun _ _ _ hn => hn) fun _ _ _ _ => trivial

theorem drainQueue_eq {μ : Type} (see : μ → String → μ) (pending : Nat) (seen : μ) :
    (drainQueue see pending seen : Flow φ μ) =
      drainRound see (pending, seen) >>=
        Sum.elim (fun carried => drainQueue see carried.1 carried.2) pure :=
  iterate_eq (advances_drainRound see) (pending, seen)

/-! ### Phases of a stream -/

theorem Host.running_meanwhile (h : Host) (exits : Option Int) :
    (h.meanwhile exits).running = (h.running && exits.isNone) := by
  unfold meanwhile
  cases hrunning : h.running with
  | false => simp [hrunning]
  | true => cases exits <;> simp [hrunning]

theorem Host.meanwhile_of_idle {h : Host} (hidle : h.running = false) (exits : Option Int) :
    h.meanwhile exits = h := by
  simp [meanwhile, hidle]

@[simp] theorem Host.down_meanwhile (h : Host) (exits : Option Int) :
    (h.meanwhile exits).down = h.down := by
  unfold meanwhile
  split <;> rfl

@[simp] theorem Host.clashed_meanwhile (h : Host) (exits : Option Int) :
    (h.meanwhile exits).clashed = h.clashed := by
  unfold meanwhile
  split <;> rfl

@[simp] theorem Host.entries_meanwhile (h : Host) (exits : Option Int) :
    (h.meanwhile exits).entries = h.entries := by
  unfold meanwhile
  split <;> rfl

@[simp] theorem Host.clashed_after (h : Host) (effect : Option Effect) :
    (h.after effect).clashed = h.clashed := by
  rcases effect with _ | _ | _ <;> rfl

@[simp] theorem Host.entries_after (h : Host) (effect : Option Effect) :
    (h.after effect).entries = h.entries := by
  rcases effect with _ | _ | _ <;> rfl

/-- The answers so far are of a kind, the tool runs as they say, and so far nothing clashed and
    nothing was logged. -/
structure Stands (J : List (Answer φ) → Prop) (down : Bool) (past : List (Answer φ)) (h : Host) :
    Prop where
  kind : J past
  runs : toolRuns past = h.running
  down : h.down = down
  alone : h.clashed = false
  unlogged : h.entries = []

namespace Stands

variable {J J' : List (Answer φ) → Prop} {down : Bool} {past : List (Answer φ)} {h : Host}

theorem answer (hs : Stands J down past h) {exits : Option Int} {how : How φ}
    (hkind : J' (past ++ [⟨exits, how⟩])) (hspawns : how.spawns = false) :
    Stands J' down (past ++ [⟨exits, how⟩]) (h.meanwhile exits) where
  kind := hkind
  runs := by rw [toolRuns_append, h.running_meanwhile, hs.runs, hspawns, Bool.false_or]
  down := (h.down_meanwhile exits).trans hs.down
  alone := (h.clashed_meanwhile exits).trans hs.alone
  unlogged := (h.entries_meanwhile exits).trans hs.unlogged

theorem spawned (hs : Stands J down past h) {exits : Option Int} {how : How φ}
    (hkind : J' (past ++ [⟨exits, how⟩])) (hspawns : how.spawns = true) :
    Stands J' down (past ++ [⟨exits, how⟩]) ((h.meanwhile exits).after (some .spawns)) where
  kind := hkind
  runs := by
    rw [toolRuns_append, hspawns, Bool.true_or]
    rfl
  down := (h.down_meanwhile exits).trans hs.down
  alone := (h.clashed_meanwhile exits).trans hs.alone
  unlogged := (h.entries_meanwhile exits).trans hs.unlogged

theorem stopped (hs : Stands J down past h) {exits : Option Int} {how : How φ}
    (hkind : J' (past ++ [⟨exits, how⟩])) (hspawns : how.spawns = false) :
    Stands J' true (past ++ [⟨exits, how⟩]) ((h.meanwhile exits).after (some .stops)) where
  kind := hkind
  runs := (hs.answer hkind hspawns).runs
  down := rfl
  alone := (h.clashed_meanwhile exits).trans hs.alone
  unlogged := (h.entries_meanwhile exits).trans hs.unlogged

theorem send (hs : Stands J down past h) (chunk : Chunk) : Stands J down past (h.send chunk) :=
  ⟨hs.kind, hs.runs, hs.down, hs.alone, hs.unlogged⟩

end Stands

/-- Answers that go on keep the kind, but those to a start. -/
def Keeps (J : List (Answer φ) → Prop) : Prop :=
  ∀ past exits reply, J past → (How.comes reply : How φ).isStart = false →
    J (past ++ [⟨exits, .comes reply⟩])

/-- What `E` has to admit in a phase. -/
structure Breaks (J : List (Answer φ) → Prop) (down : Bool)
    (E : Stop Exc → Assertion Host (Answer φ)) : Prop where
  waiting : ∀ past h, E .waiting past h
  interrupted : ∀ past h exits how took, Stands J down past h →
    E (.interrupted how) (past ++ [⟨exits, .interrupted how took⟩])
      ((h.meanwhile exits).after took)

/-- What the tool's end and a chunk do not change. -/
structure Steady (T : Host → Prop) : Prop where
  meanwhile : ∀ h exits, T h → T (h.meanwhile exits)
  send : ∀ h chunk, T h → T (h.send chunk)

theorem steady_true : Steady fun _ => True := ⟨fun _ _ _ => trivial, fun _ _ _ => trivial⟩

theorem steady_running : Steady fun h => h.running = false where
  meanwhile h exits hidle := by rwa [Host.meanwhile_of_idle hidle]
  send _ _ hidle := hidle

def Idle (exitStatus : Option Int) (h : Host) : Prop :=
  h.running = false ∧ h.exitStatus = exitStatus

theorem steady_idle (exitStatus : Option Int) : Steady (Idle exitStatus) where
  meanwhile h exits hidle := by rwa [Host.meanwhile_of_idle hidle.1]
  send _ _ hidle := hidle

section Phases

variable {α : Type} {J : List (Answer φ) → Prop} {down : Bool} {T : Host → Prop}
  {E : Stop Exc → Assertion Host (Answer φ)}

def Phase (J : List (Answer φ) → Prop) (down : Bool) (T : Host → Prop) :
    Assertion Host (Answer φ) := fun past h => Stands J down past h ∧ T h

theorem meets_plain (hkeeps : Keeps J) (hbreaks : Breaks J down E) (hsteady : Steady T)
    {raising : Point → Option (Host → Host)} {accept : Host → Reply φ → Option α}
    (haccept : ∀ h reply a, accept h reply = some a →
      (How.comes reply : How φ).isStart = false ∧ (How.comes reply : How φ).spawns = false)
    (hraises : ∀ past h exits point exc f, Phase J down T past h → raising point = some f →
      E (.raised exc) (past ++ [⟨exits, .raises point exc⟩]) (f (h.meanwhile exits))) :
    Meets (Phase J down T) (pause raising accept none) (fun _ => Phase J down T) E := by
  refine meets_pause (fun past h _ => hbreaks.waiting past h) ?_ hraises
    fun past h exits how took hP => hbreaks.interrupted past h exits how took hP.1
  rintro past h exits reply a ⟨hstands, hT⟩ hreply
  obtain ⟨hstart, hspawns⟩ := haccept _ _ _ hreply
  exact ⟨hstands.answer (hkeeps past exits reply hstands.kind hstart) hspawns,
    hsteady.meanwhile h exits hT⟩

theorem meets_silent (hkeeps : Keeps J) (hbreaks : Breaks J down E) (hsteady : Steady T)
    {accept : Host → Reply φ → Option α}
    (haccept : ∀ h reply a, accept h reply = some a →
      (How.comes reply : How φ).isStart = false ∧ (How.comes reply : How φ).spawns = false) :
    Meets (Phase J down T) (pause (fun _ => none) accept none) (fun _ => Phase J down T) E := by
  refine meets_plain hkeeps hbreaks hsteady haccept fun _ _ _ _ _ _ _ hnone => ?_
  cases hnone

theorem meets_yieldChunk (hkeeps : Keeps J) (hbreaks : Breaks J down E) (hsteady : Steady T)
    (chunk : Chunk) :
    Meets (Phase J down T) (yieldChunk chunk) (fun _ => Phase J down T) E := by
  refine meets_bind (Q := fun _ => Phase J down T) (meets_act ?_) fun _ => ?_
  · exact fun past h hP => ⟨hP.1.send chunk, hsteady.send h chunk hP.2⟩
  · refine meets_silent hkeeps hbreaks hsteady fun h reply a hreply => ?_
    cases reply with
    | resumed => exact ⟨rfl, rfl⟩
    | _ => cases hreply

theorem meets_sleep (hkeeps : Keeps J) (hbreaks : Breaks J down E) (hsteady : Steady T) :
    Meets (Phase J down T) sleep (fun _ => Phase J down T) E := by
  refine meets_silent hkeeps hbreaks hsteady fun h reply a hreply => ?_
  cases reply with
  | slept => exact ⟨rfl, rfl⟩
  | _ => cases hreply

/-! ### The tool -/

theorem meets_nextItem (hkeeps : Keeps J) (hbreaks : Breaks J down E) (hsteady : Steady T) :
    Meets (Phase J down T) nextItem (fun _ => Phase J down T) E := by
  refine meets_silent hkeeps hbreaks hsteady fun h reply a hreply => ?_
  cases reply with
  | item item => exact ⟨rfl, rfl⟩
  | _ => cases hreply

theorem meets_drainQueue {μ : Type} (see : μ → String → μ) (hkeeps : Keeps J)
    (hbreaks : Breaks J down E) (hsteady : Steady T) (pending : Nat) (seen : μ) :
    Meets (Phase J down T) (drainQueue see pending seen) (fun _ => Phase J down T) E := by
  refine meets_iterate (I := fun _ => Phase J down T) (fun carried => ?_)
    (fun _ past h _ => hbreaks.waiting past h) _
  unfold drainRound
  split
  · exact meets_pure fun _ _ hP => hP
  · refine meets_bind (meets_nextItem hkeeps hbreaks hsteady) fun item => ?_
    cases item with
    | none => exact meets_pure fun _ _ hP => hP
    | some line =>
      refine meets_bind (meets_yieldChunk hkeeps hbreaks hsteady _) fun _ => ?_
      exact meets_pure fun _ _ hP => hP

theorem meets_joinPump (hkeeps : Keeps J) (hbreaks : Breaks J down E) (hsteady : Steady T) :
    Meets (Phase J down T) joinPump (fun _ => Phase J down T) E := by
  refine meets_silent hkeeps hbreaks hsteady fun h reply a hreply => ?_
  cases reply with
  | joined => exact ⟨rfl, rfl⟩
  | _ => cases hreply

theorem meets_waitTool (hkeeps : Keeps J) (hbreaks : Breaks J down E) :
    Meets (Phase J down fun _ => True) waitTool
      (fun returncode => Phase J down (Idle (some returncode))) E := by
  refine meets_pause (fun past h _ => hbreaks.waiting past h) ?_
    (fun _ _ _ _ _ _ _ hnone => by cases hnone)
    fun past h exits how took hP => hbreaks.interrupted past h exits how took hP.1
  rintro past h exits reply returncode ⟨hstands, -⟩ hreply
  cases reply with
  | exited =>
    simp only at hreply
    split at hreply
    · cases hreply
    · rename_i hrunning
      refine ⟨hstands.answer (hkeeps past exits _ hstands.kind rfl) rfl, ?_, hreply⟩
      exact Bool.eq_false_iff.mpr hrunning
  | _ => cases hreply

/-- What `E` has to admit while a helper runs a tool. -/
structure ToolBreaks (J : List (Answer φ) → Prop) (down : Bool) (T : Host → Prop) (feeds : Bool)
    (E : Stop Exc → Assertion Host (Answer φ)) : Prop extends Breaks J down E where
  osError : ∀ past exits exc, J past → exc.osError = true →
    J (past ++ [⟨exits, .raises .spawn exc⟩])
  spawn : ∀ past h exits exc, Phase J down T past h → exc.osError = false →
    E (.raised exc) (past ++ [⟨exits, .raises .spawn exc⟩]) (h.meanwhile exits)
  feed : feeds = true → ∀ past h exits exc, Stands J down past h →
    E (.raised exc) (past ++ [⟨exits, .raises .feed exc⟩]) (h.meanwhile exits)

/-- What holds when the start of a tool stops: an `OSError` leaves the phase as it was. -/
def SpawnStop (J : List (Answer φ) → Prop) (down : Bool) (T : Host → Prop)
    (E : Stop Exc → Assertion Host (Answer φ)) : Stop Exc → Assertion Host (Answer φ)
  | .raised exc, past, h => (exc.osError = true → Phase J down T past h) ∧
      (exc.osError = false → E (.raised exc) past h)
  | stop, past, h => E stop past h

theorem eq_of_raisesAt {point other : Point} {f : Host → Host}
    (h : raisesAt point other = some f) : other = point ∧ f = id := by
  unfold raisesAt at h
  split at h
  · cases h
    exact ⟨‹_›, rfl⟩
  · cases h

variable {feeds : Bool}

theorem meets_feedAnswers (hkeeps : Keeps J) (hbreaks : ToolBreaks J down T feeds E) :
    Meets (Phase J down fun _ => True) (feedAnswers feeds) (fun _ => Phase J down fun _ => True)
      E := by
  unfold feedAnswers
  split
  · rename_i hfeeds
    refine meets_plain hkeeps hbreaks.toBreaks steady_true (fun h reply a hreply => ?_) ?_
    · cases reply with
      | fed => exact ⟨rfl, rfl⟩
      | _ => cases hreply
    · intro past h exits point exc f hP hraising
      obtain ⟨rfl, rfl⟩ := eq_of_raisesAt hraising
      exact hbreaks.feed hfeeds past h exits exc hP.1
  · exact meets_pure fun _ _ hP => hP

theorem meets_toolOutput {μ : Type} (hkeeps : Keeps J) (hbreaks : ToolBreaks J down T feeds E)
    (see : μ → String → μ) (seen : μ) (succeeded : μ → Int → Bool) (already : μ → Option Bool)
    {T' : Bool → Host → Prop}
    (hend : ∀ seen returncode h, Idle (some returncode) h → T' (succeeded seen returncode) h) :
    Meets (Phase J down fun _ => True) (toolOutput feeds see seen succeeded already)
      (fun success => Phase J down (T' success)) E := by
  have hplain := hbreaks.toBreaks
  unfold toolOutput
  refine meets_bind (meets_feedAnswers hkeeps hbreaks) fun _ => ?_
  refine meets_bind (meets_drainQueue see hkeeps hplain steady_true 2 seen) fun seen => ?_
  refine meets_bind (meets_joinPump hkeeps hplain steady_true) fun _ => ?_
  refine meets_bind (meets_joinPump hkeeps hplain steady_true) fun _ => ?_
  refine meets_bind (meets_waitTool hkeeps hplain) fun returncode => ?_
  refine meets_bind (meets_yieldChunk hkeeps hplain (steady_idle _) _) fun _ => ?_
  exact meets_pure fun past h hP => ⟨hP.1, hend seen returncode h hP.2⟩

theorem meets_spawnTool (hkeeps : Keeps J) (hbreaks : ToolBreaks J down T feeds E)
    (hidle : ∀ h, T h → h.running = false) :
    Meets (Phase J down T) (attempt (fun exc => exc.osError) spawnTool)
      (fun spawned => match spawned with
        | .ok _ => Phase J down fun _ => True
        | .error _ => Phase J down T) E := by
  refine meets_attempt (Q := fun _ => Phase J down fun _ => True)
    (F := SpawnStop J down T E) ?_ (fun _ _ _ hP => hP)
    (fun exc past h hE hcaught => hE.1 hcaught) ?_
  · refine meets_pause (fun past h _ => hbreaks.waiting past h) ?_ ?_
      fun past h exits how took hP => hbreaks.interrupted past h exits how took hP.1
    · rintro past h exits reply a ⟨hstands, -⟩ hreply
      cases reply with
      | spawned =>
        exact ⟨hstands.spawned (hkeeps past exits _ hstands.kind rfl) rfl, trivial⟩
      | _ => cases hreply
    · rintro past h exits point exc f ⟨hstands, hT⟩ hraising
      obtain ⟨rfl, rfl⟩ := eq_of_raisesAt hraising
      refine ⟨fun hos => ⟨?_, ?_⟩, fun hother => ?_⟩
      · exact hstands.answer (hbreaks.osError past exits exc hstands.kind hos) rfl
      · rw [Host.meanwhile_of_idle (hidle h hT)]
        exact hT
      · exact hbreaks.spawn past h exits exc ⟨hstands, hT⟩ hother
  · intro stop past h hE hnot
    cases stop with
    | raised exc => exact hE.2 (hnot exc rfl)
    | interrupted how => exact hE
    | dropped => exact hE
    | waiting => exact hE

/-- A helper that runs a tool: afterwards the tool does not run, and the flag is the verdict over
    its end. -/
theorem meets_runTool {μ : Type} (hkeeps : Keeps J) (hbreaks : ToolBreaks J down T feeds E)
    (hsteady : Steady T) (hidle : ∀ h, T h → h.running = false) (cmd : List String)
    (see : μ → String → μ) (seen : μ) (succeeded : μ → Int → Bool) (already : μ → Option Bool)
    {T' : Bool → Host → Prop} (hfails : ∀ h, T h → T' false h)
    (hend : ∀ seen returncode h, Idle (some returncode) h → T' (succeeded seen returncode) h) :
    Meets (Phase J down T) (runTool cmd feeds see seen succeeded already)
      (fun success => Phase J down (T' success)) E := by
  have hplain := hbreaks.toBreaks
  unfold runTool
  refine meets_bind (meets_yieldChunk hkeeps hplain hsteady _) fun _ => ?_
  refine meets_bind (meets_spawnTool hkeeps hbreaks hidle) fun spawned => ?_
  cases spawned with
  | error exc =>
    refine meets_bind (meets_yieldChunk hkeeps hplain hsteady _) fun _ => ?_
    exact meets_pure fun past h hP => ⟨hP.1, hfails h hP.2⟩
  | ok _ => exact meets_toolOutput hkeeps hbreaks see seen succeeded already hend

end Phases

/-! ### The end of a stream -/

/-- A block returns with the port given back exactly where the answers are of the kind `C`. -/
def Closes (C : List (Answer φ) → Prop) (bluetooth : Bool) : Assertion Host (Answer φ) :=
  fun past h => h.entries = [] ∧ (Restored bluetooth h ↔ C past)

/-- A block that an exception ends is logged, one that is interrupted is not. -/
def Off (C : List (Answer φ) → Prop) (bluetooth : Bool) : Stop Exc → Assertion Host (Answer φ)
  | .raised _ => Closes C bluetooth
  | .interrupted _ => fun past h => h.entries = [] ∧ ¬ C past
  | .dropped => fun past h => h.entries = [] ∧ ¬ C past
  | .waiting => fun _ _ => True

section

variable {C : List (Answer φ) → Prop} {bluetooth : Bool}

theorem Closes.givenBack {past : List (Answer φ)} {h : Host} (hcloses : Closes C bluetooth past h)
    (entry : Entry) : GivenBack bluetooth (h.log entry) ↔ C past := by
  rw [← hcloses.2]
  constructor
  · exact fun hback => ⟨hback.restarted, hback.alone⟩
  · exact fun hrestored => ⟨hrestored.1, hrestored.2, by simp [Host.log, hcloses.1]⟩

theorem not_givenBack {h : Host} (hentries : h.entries = []) : ¬ GivenBack bluetooth h := by
  intro hback
  have hlogged := hback.logged
  rw [hentries] at hlogged
  cases hlogged

theorem givenBack_of_meets {action : String} {block : Flow φ (Option String)}
    (hblock : Meets (fun past h => past = [] ∧ h = .start) block (fun _ => Closes C bluetooth)
      (Off C bluetooth)) {script : List (Answer φ)} {h : Host}
    (houtcome : outcome (timedAction action block) script = some h) :
    GivenBack bluetooth h ↔ C script := by
  obtain ⟨hpast, hends⟩ := hblock ⟨.start, [], script⟩ ⟨rfl, rfl⟩
  -- the stream has ended with the last answer
  have hall : ∀ run : Run Host (Answer φ), run.past ++ run.script = script →
      (if run.script = [] then some run.host else none) = some h →
      run.past = script ∧ run.host = h := by
    intro run heq hended
    split at hended
    · rename_i hnil
      rw [hnil, List.append_nil] at heq
      cases hended
      exact ⟨heq, rfl⟩
    · cases hended
  unfold outcome timedAction at houtcome
  rcases hresult : block ⟨.start, [], script⟩ with ⟨result | exc | how | _ | _, run⟩
  all_goals
    rw [hresult] at hpast hends houtcome
  · obtain ⟨rfl, rfl⟩ := hall { run with host := run.host.log _ } hpast houtcome
    exact Closes.givenBack hends _
  · obtain ⟨rfl, rfl⟩ := hall { run with host := run.host.log _ } hpast houtcome
    exact Closes.givenBack hends _
  · obtain ⟨rfl, rfl⟩ := hall run hpast houtcome
    exact iff_of_false (not_givenBack hends.1) hends.2
  · obtain ⟨rfl, rfl⟩ := hall run hpast houtcome
    exact iff_of_false (not_givenBack hends.1) hends.2
  · cases houtcome

end

end Meshpoint.FlashStreams
