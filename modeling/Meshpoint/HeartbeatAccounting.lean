import Meshpoint.UpstreamClient

/-!
# What the heartbeats count

A heartbeat reports the packets counted when it was built, and when its send returns the
counter starts again from zero, whatever has been counted since.  `accounted_iff` says of every
run that this is the only way in which packets disappear: the heartbeats that were sent and the
counter account for all packets exactly when none was recorded during a send that returned.  A
heartbeat is never built without a connection, so none is dropped for want of one.
-/

namespace Meshpoint.UpstreamClient

variable {M F N : Type} {bufferMaxSize : Nat}

def reportedPackets (s : Client M F N bufferMaxSize) : Nat :=
  (s.reported.map Heartbeat.packetsSinceLast).sum

/-- The heartbeats and the counter account for every packet. -/
def Accounted (s : Client M F N bufferMaxSize) : Prop :=
  reportedPackets s + s.stats.totalPackets = s.recorded

/-- No packet is counted twice, a heartbeat that is being sent reports no more than is counted,
    and its task runs only on an open connection. -/
structure Counted (s : Client M F N bufferMaxSize) : Prop where
  total_le : reportedPackets s + s.stats.totalPackets ≤ s.recorded
  report_le : ∀ heartbeat handed, s.heartbeatTask = .sending heartbeat handed →
    heartbeat.packetsSinceLast ≤ s.stats.totalPackets
  connected : ∀ task, s.heartbeatTask = task → task ≠ .stopped → s.connected = true

def Event.isSent : Event M F N → Bool
  | .heartbeatSent => true
  | _ => false

/-- No packet was recorded since the heartbeat whose send returns was built. -/
def Unrecorded (s : Client M F N bufferMaxSize) (e : Event M F N) : Prop :=
  e.isSent = true →
    match s.heartbeatTask with
    | .sending heartbeat _ => heartbeat.packetsSinceLast = s.stats.totalPackets
    | _ => True

instance (s : Client M F N bufferMaxSize) (e : Event M F N) : Decidable (Unrecorded s e) :=
  match h : s.heartbeatTask with
  | .sending heartbeat _ =>
    decidable_of_iff (e.isSent = true → heartbeat.packetsSinceLast = s.stats.totalPackets)
      (by rw [Unrecorded, h])
  | .stopped => .isTrue (by rw [Unrecorded, h]; exact fun _ => trivial)
  | .asleep => .isTrue (by rw [Unrecorded, h]; exact fun _ => trivial)

/-! ### One event -/

variable {s s' : Client M F N bufferMaxSize}

theorem counted_of_same (h : Counted s) (hstats : s'.stats = s.stats)
    (hreported : s'.reported = s.reported) (hrecorded : s'.recorded = s.recorded)
    (htask : s'.heartbeatTask = s.heartbeatTask) (hconnected : s'.connected = s.connected) :
    Counted s' ∧ (Accounted s' ↔ Accounted s) := by
  constructor
  · constructor
    · rw [reportedPackets, hreported, hstats, hrecorded]
      exact h.total_le
    · rw [htask, hstats]
      exact h.report_le
    · rw [htask, hconnected]
      exact h.connected
  · rw [Accounted, Accounted, reportedPackets, reportedPackets, hreported, hstats, hrecorded]

theorem counted_dropConnection (h : Counted s) :
    Counted s.dropConnection ∧ (Accounted s.dropConnection ↔ Accounted s) := by
  refine ⟨⟨h.total_le, ?_, ?_⟩, Iff.rfl⟩
  · intro heartbeat handed htask
    cases htask
  · intro task htask hne
    exact absurd htask.symm hne

theorem counted_sendPacket (h : Counted s) (now : ℚ) (message : M) :
    Counted (s.sendPacket now message) ∧ (Accounted (s.sendPacket now message) ↔ Accounted s) := by
  unfold Client.sendPacket
  split
  · exact ⟨h, Iff.rfl⟩
  · split
    · exact counted_of_same h rfl rfl rfl rfl rfl
    · exact counted_of_same h rfl rfl rfl rfl rfl

variable [StationFloat F]

/-- **One event.**  The counters stay consistent, and packets disappear exactly when a send
    returns during which one was recorded. -/
theorem counted_step {e : Event M F N} (hinv : Counted s) (h : s.step e = some s') :
    Counted s' ∧ (Accounted s' ↔ Accounted s ∧ Unrecorded s e) := by
  have hother : e.isSent = false → Counted s' ∧ (Accounted s' ↔ Accounted s) →
      Counted s' ∧ (Accounted s' ↔ Accounted s ∧ Unrecorded s e) := by
    rintro hnot ⟨hcounted, hiff⟩
    refine ⟨hcounted, hiff.trans (and_iff_left ?_).symm⟩
    intro hsent
    rw [hnot] at hsent
    cases hsent
  cases e with
  | sendPacket now message =>
    cases h
    exact hother rfl (counted_sendPacket hinv now message)
  | recordPacket protocol packetType signal hopStart hopLimit =>
    cases h
    have htotal := s.stats.totalPackets_recordPacket protocol packetType signal hopStart hopLimit
    have hle := hinv.total_le
    refine hother rfl ⟨⟨?_, ?_, hinv.connected⟩, ?_⟩
    · change reportedPackets s + _ ≤ s.recorded + 1
      rw [htotal]
      omega
    · intro heartbeat handed htask
      rw [htotal]
      exact Nat.le_succ_of_le (hinv.report_le heartbeat handed htask)
    · change reportedPackets s + _ = s.recorded + 1 ↔ reportedPackets s + _ = s.recorded
      rw [htotal]
      omega
  | recordNode nodeId data =>
    cases h
    refine hother rfl ?_
    split
    · exact ⟨hinv, Iff.rfl⟩
    · exact counted_of_same hinv rfl rfl rfl rfl rfl
  | connect =>
    rw [Client.step] at h
    split at h
    · cases h
    · cases h
      refine hother rfl ⟨⟨hinv.total_le, ?_, fun _ _ _ => rfl⟩, Iff.rfl⟩
      intro heartbeat handed htask
      cases htask
  | disconnect =>
    rw [Client.step] at h
    split at h
    · cases h
      exact hother rfl (counted_dropConnection hinv)
    · cases h
  | peek =>
    rw [Client.step] at h
    split at h
    · obtain ⟨outbox, -, rfl⟩ := Option.map_eq_some_iff.mp h
      exact hother rfl (counted_of_same hinv rfl rfl rfl rfl rfl)
    · cases h
  | flushHand =>
    rw [Client.step] at h
    split at h
    · obtain ⟨outbox, -, rfl⟩ := Option.map_eq_some_iff.mp h
      exact hother rfl (counted_of_same hinv rfl rfl rfl rfl rfl)
    · cases h
  | flushAcknowledged =>
    rw [Client.step] at h
    obtain ⟨outcome, -, hs'⟩ := Option.map_eq_some_iff.mp h
    cases outcome with
    | none =>
      cases hs'
      exact hother rfl (counted_dropConnection hinv)
    | some outbox =>
      cases hs'
      exact hother rfl (counted_of_same hinv rfl rfl rfl rfl rfl)
  | heartbeatBuild timestamp elapsed =>
    rw [Client.step] at h
    split at h
    · rename_i htask
      have hconnected := hinv.connected _ htask (by exact fun h => by cases h)
      rw [if_pos hconnected] at h
      cases h
      refine hother rfl ⟨⟨hinv.total_le, ?_, fun _ _ _ => hconnected⟩, Iff.rfl⟩
      intro heartbeat handed hsending
      cases hsending
      exact Nat.le_refl _
    · cases h
  | heartbeatHand =>
    rw [Client.step] at h
    split at h
    · rename_i heartbeat htask hlock
      cases h
      have hconnected := hinv.connected _ htask (by exact fun h => by cases h)
      refine hother rfl ⟨⟨hinv.total_le, ?_, fun _ _ _ => hconnected⟩, Iff.rfl⟩
      intro heartbeat' handed hsending
      cases hsending
      exact hinv.report_le heartbeat false htask
    · cases h
  | heartbeatSent =>
    rw [Client.step] at h
    split at h
    · rename_i heartbeat htask
      cases h
      have hle := hinv.total_le
      have hreport := hinv.report_le heartbeat true htask
      have hconnected := hinv.connected _ htask (by exact fun h => by cases h)
      have hsum : ((s.reported ++ [heartbeat]).map Heartbeat.packetsSinceLast).sum =
          reportedPackets s + heartbeat.packetsSinceLast := by
        rw [List.map_append, List.sum_append, List.map_singleton, List.sum_singleton]
        rfl
      refine ⟨⟨?_, ?_, fun _ _ _ => hconnected⟩, ?_⟩
      · change ((s.reported ++ [heartbeat]).map Heartbeat.packetsSinceLast).sum + 0 ≤ s.recorded
        rw [hsum]
        omega
      · intro heartbeat' handed hsending
        rw [if_pos hconnected] at hsending
        cases hsending
      · have hguard : Unrecorded s .heartbeatSent ↔
            heartbeat.packetsSinceLast = s.stats.totalPackets := by
          rw [Unrecorded, htask]
          exact imp_iff_right rfl
        rw [hguard]
        change ((s.reported ++ [heartbeat]).map Heartbeat.packetsSinceLast).sum + 0 = s.recorded ↔
          reportedPackets s + s.stats.totalPackets = s.recorded ∧ _
        rw [hsum]
        omega
    · cases h
  | heartbeatFailed =>
    rw [Client.step] at h
    split at h
    · cases h
      refine hother rfl ⟨⟨hinv.total_le, ?_, ?_⟩, Iff.rfl⟩
      · intro heartbeat' handed hsending
        cases hsending
      · intro task htask hne
        exact absurd htask.symm hne
    · cases h
  | otherTakes =>
    rw [Client.step] at h
    split at h
    · cases h
      exact hother rfl (counted_of_same hinv rfl rfl rfl rfl rfl)
    · cases h
  | otherLeaves =>
    rw [Client.step] at h
    split at h
    · cases h
      exact hother rfl (counted_of_same hinv rfl rfl rfl rfl rfl)
    · cases h

/-! ### Runs -/

theorem counted_fresh (deviceId : String) (enabled : Bool) :
    Counted (.fresh deviceId enabled : Client M F N bufferMaxSize) := by
  refine ⟨Nat.le_refl 0, ?_, ?_⟩
  · intro heartbeat handed htask
    cases htask
  · intro task htask hne
    exact absurd htask.symm hne

/-- **Heartbeat accounting.**  After every run from the start, the packets of the heartbeats that
    were sent and the current counter are the packets recorded exactly when none was recorded
    between the building of a heartbeat and the return of its send. -/
theorem accounted_iff (deviceId : String) (enabled : Bool) (events : List (Event M F N))
    (s : Client M F N bufferMaxSize)
    (hrun : GuardedRun.replay Client.step GuardedRun.Always (.fresh deviceId enabled) events =
      some s) :
    Accounted s ↔
      GuardedRun.replay Client.step Unrecorded (.fresh deviceId enabled) events = some s := by
  obtain ⟨-, hiff⟩ := GuardedRun.replay_guard_iff (I := Counted) (P := Accounted) counted_step
    (counted_fresh deviceId enabled) hrun
  rw [hiff]
  exact and_iff_right rfl

/-! ### One heartbeat -/

def quietHeartbeat : List (Event String WholeFloat Unit) :=
  [.connect, .recordPacket "meshtastic" "text" none 3 3, .heartbeatBuild 0 ⟨540⟩, .heartbeatHand,
    .heartbeatSent]

/-- The same, but a second packet is recorded during the send. -/
def busyHeartbeat : List (Event String WholeFloat Unit) :=
  [.connect, .recordPacket "meshtastic" "text" none 3 3, .heartbeatBuild 0 ⟨540⟩, .heartbeatHand,
    .recordPacket "meshtastic" "text" none 3 3, .heartbeatSent]

def afterQuietHeartbeat : Client String WholeFloat Unit 1 :=
  (GuardedRun.replay Client.step GuardedRun.Always (.fresh "station" true) quietHeartbeat).get
    (by decide +kernel)

def afterBusyHeartbeat : Client String WholeFloat Unit 1 :=
  (GuardedRun.replay Client.step GuardedRun.Always (.fresh "station" true) busyHeartbeat).get
    (by decide +kernel)

theorem accounted_iff_quietHeartbeat :
    Accounted afterQuietHeartbeat ↔
      GuardedRun.replay Client.step Unrecorded (.fresh "station" true) quietHeartbeat =
        some afterQuietHeartbeat :=
  accounted_iff "station" true quietHeartbeat afterQuietHeartbeat (Option.some_get _).symm

/-- Two packets were recorded, one is reported and none is counted any more. -/
theorem packet_of_busyHeartbeat_lost :
    GuardedRun.replay Client.step GuardedRun.Always (.fresh "station" true) busyHeartbeat =
        some afterBusyHeartbeat ∧
      reportedPackets afterBusyHeartbeat = 1 ∧ afterBusyHeartbeat.stats.totalPackets = 0 ∧
      afterBusyHeartbeat.recorded = 2 :=
  ⟨(Option.some_get _).symm, by decide +kernel, by decide +kernel, by decide +kernel⟩

end Meshpoint.UpstreamClient
