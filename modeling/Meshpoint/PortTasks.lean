import Meshpoint.PortInvariant

/-!
# Tasks at the port

A task that goes on keeps the invariant: one at work before `stop` (`Working.run`), and one that
began after it and only disconnects (`Ending.run`).  So does a command that times out.
-/

namespace Meshpoint.CompanionPort

open Function

/-! ### A task at work -/

/-- Neither `stop` nor a radio change has begun. -/
structure Normal (s : State) : Prop where
  running : s.running = true
  stop : s.stop = .notCalled
  calls : ∀ j, s.calls j = .finished

/-- The task that is not inert goes on, in the normal course. -/
structure Working (s : State) (i : Nat) : Prop extends Base s (some i), Normal s where
  owned : Owned s (some i)

/-- A connection that is open is the one that `_meshcore` is on. -/
def Attached (s : State) : Prop := ∀ c, s.isOpen c = true → s.meshcore = some c

theorem setPc_spawn (s : State) (kind : TaskKind) {i : Nat} (h : i ≠ s.taskCount) (pc : Pc) :
    setPc (spawn s kind) i pc = spawn (setPc s i pc) kind := by
  unfold setPc spawn
  simp only [update_of_ne h]
  rw [update_comm h]

theorem Owned.finish {s : State} {i : Nat} (h : Owned s (some i)) :
    Owned (setPc s i .finished) none := by
  refine ⟨nofun, ?_, ?_⟩
  · intro t ht
    left
    rcases h.health t ht with hfinished | heq
    · exact finished_setPc s hfinished
    · cases heq
      rw [tasks_setPc_self]
  · intro t ht
    left
    rcases h.reconnect t ht with hfinished | heq
    · exact finished_setPc s hfinished
    · cases heq
      rw [tasks_setPc_self]

theorem finished_spawn (s : State) (kind : TaskKind) {k : Nat} (hk : k < s.taskCount)
    (hfinished : (s.tasks k).pc = .finished) : ((spawn s kind).tasks k).pc = .finished := by
  rw [tasks_spawn_of_ne s kind (Nat.ne_of_lt hk)]
  exact hfinished

theorem tasks_spawnReconnect (s : State) :
    (spawnReconnect s).tasks s.taskCount = ⟨.reconnect, .created, false⟩ :=
  tasks_spawn_self s .reconnect

theorem core_spawnReconnect {s : State} (hbase : Base s none) (hprogress : s.inProgress = false)
    (hattached : Attached s) : Core (spawnReconnect s) (some s.taskCount) := by
  have hpc : actorPc (spawnReconnect s) (some s.taskCount) = .created :=
    congrArg Task.pc (tasks_spawnReconnect s)
  have hspawned := hbase.spawn .reconnect
  refine ⟨⟨hspawned.freshTask, hspawned.freshCall, hspawned.health, ?_, hspawned.inert,
    hspawned.acting⟩, ?_, ?_, fun c hc => .inl (hattached c hc)⟩
  · rintro t ⟨⟩
    exact Nat.lt_succ_self _
  · rw [hpc]
    exact hprogress
  · rw [hpc]
    trivial

theorem inv_spawnReconnect {s : State} (hbase : Base s none) (hnormal : Normal s)
    (hhealth : s.healthTask = none) (hprogress : s.inProgress = false) (hattached : Attached s) :
    Inv (spawnReconnect s) (some s.taskCount) := by
  refine ⟨core_spawnReconnect hbase hprogress hattached,
    .normal hnormal.running hnormal.stop hnormal.calls ⟨?_, ?_, ?_⟩⟩
  · rintro k ⟨⟩
    rw [tasks_spawnReconnect]
    exact ⟨rfl, fun _ => rfl, nofun⟩
  · intro t ht
    rw [show (spawnReconnect s).healthTask = none from hhealth] at ht
    cases ht
  · rintro t ⟨⟩
    exact .inr rfl

theorem inv_spawnHealth {s : State} (hbase : Base s none) (hnormal : Normal s)
    (howned : Owned s none) (hprogress : s.inProgress = false) (hattached : Attached s) :
    Inv { spawn s .health with healthTask := some s.taskCount } (some s.taskCount) := by
  have hnew : (spawn s .health).tasks s.taskCount = ⟨.health, .created, false⟩ :=
    tasks_spawn_self s .health
  have hpc : actorPc { spawn s .health with healthTask := some s.taskCount } (some s.taskCount) =
      .created := congrArg Task.pc hnew
  have hspawned := hbase.spawn .health
  refine ⟨⟨⟨hspawned.freshTask, hspawned.freshCall, ?_, hspawned.reconnect, hspawned.inert,
    hspawned.acting⟩, ?_, ?_, fun c hc => .inl (hattached c hc)⟩,
    .normal hnormal.running hnormal.stop hnormal.calls ⟨?_, ?_, ?_⟩⟩
  · rintro t ⟨⟩
    exact ⟨Nat.lt_succ_self _, congrArg Task.kind hnew⟩
  · rw [hpc]
    exact hprogress
  · rw [hpc]
    trivial
  · rintro k ⟨⟩
    refine ⟨congrArg Task.cancelled hnew, ?_, fun _ => rfl⟩
    intro hkind
    rw [congrArg Task.kind hnew] at hkind
    cases hkind
  · rintro t ⟨⟩
    exact .inr rfl
  · intro t ht
    rcases howned.reconnect t ht with hfinished | heq
    · exact .inl (finished_spawn s .health (hbase.reconnect t ht) hfinished)
    · cases heq

theorem attached_closeConn {s : State} {conn : Nat} (honly : ∀ c, s.isOpen c = true → c = conn)
    (meshcore : Option Nat) : Attached { closeConn s conn with meshcore := meshcore } := by
  intro c hc
  have hopen : update s.isOpen conn false c = true := hc
  by_cases heq : c = conn
  · rw [heq, update_self] at hopen
    cases hopen
  · rw [update_of_ne heq] at hopen
    exact absurd (honly c hopen) heq

theorem Attached.only {s : State} {conn : Nat} (h : Attached s)
    (hconn : s.meshcore = some conn ∨ s.meshcore = none) : ∀ c, s.isOpen c = true → c = conn := by
  intro c hc
  have hm := h c hc
  rcases hconn with hsome | hnone
  · rw [hm] at hsome
    exact Option.some.inj hsome
  · rw [hm] at hnone
    cases hnone

namespace Working

variable {s : State} {i : Nat}

theorem port (h : Working s i) (connected inProgress : Bool) (meshcore : Option Nat)
    (isOpen : Nat → Bool) (conns : Nat) :
    Working { s with
      connected := connected
      inProgress := inProgress
      meshcore := meshcore
      isOpen := isOpen
      conns := conns } i :=
  ⟨h.toBase.congr rfl rfl rfl rfl (fun _ => id) (fun _ => id)
      (fun hoff => Bool.noConfusion (hoff.1.symm.trans h.running)), ⟨h.running, h.stop, h.calls⟩,
    ⟨h.owned.live, h.owned.health, h.owned.reconnect⟩⟩

theorem moves (h : Working s i) (pc : Pc) (hprogress : s.inProgress = pc.inSequence)
    (hfacts : PcFacts s.connected s.meshcore pc)
    (hopened : ∀ c, s.isOpen c = true → s.meshcore = some c ∨ pc = .opening c) :
    ∃ actor, Inv (setPc s i pc) actor := by
  have hpc : actorPc (setPc s i pc) (some i) = pc := congrArg Task.pc (tasks_setPc_self s i pc)
  have hother : ∀ {t}, (s.tasks t).pc = .finished ∨ some i = some t →
      ((setPc s i pc).tasks t).pc = .finished ∨ some i = some t := by
    intro t ht
    by_cases heq : t = i
    · exact .inr (congrArg some heq.symm)
    · rw [tasks_setPc_of_ne s heq]
      exact ht
  refine ⟨some i, ⟨h.toBase.setPc pc, ?_, ?_, ?_⟩, .normal h.running h.stop h.calls ⟨?_, ?_, ?_⟩⟩
  · rw [hpc]
    exact hprogress
  · rw [hpc]
    exact hfacts
  · intro c hc
    rw [hpc]
    exact (hopened c hc).imp_right .inl
  · rintro k ⟨⟩
    rw [tasks_setPc_self]
    exact h.owned.live i rfl
  · exact fun t ht => hother (h.owned.health t ht)
  · exact fun t ht => hother (h.owned.reconnect t ht)

theorem healthLoop (h : Working s i) (failures : Nat) (hprogress : s.inProgress = false)
    (hattached : Attached s) : ∃ actor, Inv (healthLoop s i failures) actor := by
  unfold CompanionPort.healthLoop
  split
  · exact h.moves _ hprogress trivial (fun c hc => .inl (hattached c hc))
  · exact h.moves _ hprogress trivial (fun c hc => .inl (hattached c hc))

theorem afterReconnect (h : Working s i) (hprogress : s.inProgress = false)
    (hattached : Attached s) : ∃ actor, Inv (afterReconnect s i) actor := by
  unfold CompanionPort.afterReconnect
  split
  · split
    · have hne : i ≠ s.taskCount := Nat.ne_of_lt (h.acting i rfl)
      have hfinish : Base (setPc s i .finished) none := h.toBase.finish
      refine ⟨some s.taskCount, ?_⟩
      have heq : setPc { spawn s .health with healthTask := some s.taskCount } i .finished =
          { spawn (setPc s i .finished) .health with healthTask := some s.taskCount } := by
        rw [← setPc_spawn s .health hne .finished]
        rfl
      rw [heq]
      exact inv_spawnHealth hfinish ⟨h.running, h.stop, h.calls⟩ h.owned.finish hprogress hattached
    · exact h.moves _ hprogress trivial (fun c hc => .inl (hattached c hc))
  · exact h.healthLoop 0 hprogress hattached

theorem leaveReconnect (h : Working s i) (hattached : Attached s) :
    ∃ actor, Inv (leaveReconnect s i) actor :=
  (h.port s.connected false s.meshcore s.isOpen s.conns).afterReconnect rfl hattached

theorem loopHead (h : Working s i) (hprogress : s.inProgress = true)
    (hconnected : s.connected = false) (hmeshcore : s.meshcore = none) (hattached : Attached s) :
    ∃ actor, Inv (loopHead s i) actor := by
  unfold CompanionPort.loopHead
  rw [if_pos h.running]
  exact h.moves _ hprogress ⟨hconnected, hmeshcore⟩ (fun c hc => .inl (hattached c hc))

theorem beginReconnect (h : Working s i) (hprogress : s.inProgress = false)
    (hattached : Attached s) : ∃ actor, Inv (beginReconnect s i) actor := by
  unfold CompanionPort.beginReconnect
  rw [if_neg (by rw [hprogress]; exact Bool.false_ne_true)]
  split
  · exact (h.port false true s.meshcore s.isOpen s.conns).moves _ rfl rfl
      (fun c hc => .inl (hattached c hc))
  · next hm =>
      exact (h.port false true s.meshcore s.isOpen s.conns).loopHead rfl rfl hm hattached

theorem probeMissed (h : Working s i) (failures : Nat) (hprogress : s.inProgress = false)
    (hattached : Attached s) : ∃ actor, Inv (probeMissed s i failures) actor := by
  unfold CompanionPort.probeMissed
  split
  · exact h.moves _ hprogress trivial (fun c hc => .inl (hattached c hc))
  · exact h.beginReconnect hprogress hattached

theorem run {s' : State} {outcome : Outcome} (h : Working s i) {pc : Pc}
    (hprogress : s.inProgress = pc.inSequence) (hfacts : PcFacts s.connected s.meshcore pc)
    (hopened : ∀ c, s.isOpen c = true → s.meshcore = some c ∨ pc = .opening c)
    (hmeets : pc = .starting → outcome ≠ .raised) (hs : runPc s i outcome pc = some s') :
    ∃ actor, Inv s' actor := by
  have hattached : (∀ c, pc ≠ .opening c) → Attached s :=
    fun hne c hc => (hopened c hc).resolve_right (hne c)
  cases pc with
  | finished => cases hs
  | created =>
    simp only [runPc] at hs
    split at hs
    · cases hs
      exact h.beginReconnect hprogress (hattached nofun)
    · cases hs
      exact h.healthLoop 0 hprogress (hattached nofun)
  | stopFetching =>
    simp only [runPc] at hs
    split at hs
    · next hm =>
        cases hs
        exact h.loopHead hprogress hfacts hm (hattached nofun)
    · next conn hm =>
        cases hs
        exact h.moves _ hprogress ⟨hfacts, .inl hm⟩ (fun c hc => .inl (hattached nofun c hc))
  | closing conn =>
    cases hs
    exact (h.port s.connected s.inProgress none (update s.isOpen conn false) s.conns).loopHead
      hprogress hfacts.1 rfl (attached_closeConn ((hattached nofun).only hfacts.2) none)
  | backoff =>
    cases hs
    rw [if_pos h.running]
    exact h.moves _ hprogress hfacts (fun c hc => .inl (hattached nofun c hc))
  | pulsing =>
    cases hs
    exact h.moves _ hprogress hfacts (fun c hc => .inl (hattached nofun c hc))
  | settling =>
    cases hs
    refine (h.port s.connected s.inProgress s.meshcore (update s.isOpen s.conns true)
      (s.conns + 1)).moves _ hprogress hfacts ?_
    intro c hc
    have hopen : update s.isOpen s.conns true c = true := hc
    by_cases heq : c = s.conns
    · exact .inr (congrArg Pc.opening heq.symm)
    · rw [update_of_ne heq] at hopen
      exact .inl (hattached nofun c hopen)
  | opening conn =>
    have honly : ∀ c, s.isOpen c = true → c = conn := by
      intro c hc
      rcases hopened c hc with hm | ho
      · rw [hfacts.2] at hm
        cases hm
      · exact (Pc.opening.inj ho).symm
    cases outcome with
    | ok =>
      cases hs
      exact (h.port true s.inProgress (some conn) s.isOpen s.conns).moves _ hprogress rfl
        (fun c hc => .inl (congrArg some (honly c hc).symm))
    | nothing =>
      cases hs
      exact (h.port false s.inProgress none (update s.isOpen conn false) s.conns).loopHead
        hprogress rfl rfl (attached_closeConn honly none)
    | raised =>
      cases hs
      exact (h.port false s.inProgress s.meshcore (update s.isOpen conn false) s.conns).loopHead
        hprogress rfl hfacts.2 (attached_closeConn honly s.meshcore)
  | starting =>
    have hs' : runPc s i outcome .starting = some (CompanionPort.leaveReconnect s i) := by
      simp only [runPc]
      split
      · exact absurd rfl (hmeets rfl)
      · exact congrArg some (if_pos hfacts)
    rw [hs'] at hs
    cases hs
    exact h.leaveReconnect (hattached nofun)
  | sleeping failures =>
    simp only [runPc] at hs
    rw [if_pos h.running] at hs
    split at hs
    · cases hs
      exact h.healthLoop 0 hprogress (hattached nofun)
    · cases hs
      exact h.probeMissed failures hprogress (hattached nofun)
    · cases hs
      exact h.moves _ hprogress trivial (fun c hc => .inl (hattached nofun c hc))
  | probing failures =>
    simp only [runPc] at hs
    split at hs
    · cases hs
      exact h.healthLoop 0 hprogress (hattached nofun)
    · cases hs
      exact h.probeMissed failures hprogress (hattached nofun)
  | retrying failures =>
    cases hs
    exact h.healthLoop failures hprogress (hattached nofun)

end Working

/-! ### After `stop` -/

/-- A reconnect that began after `stop` goes on. -/
structure Ending (s : State) (i : Nat) : Prop extends Base s (some i), Early s i where
  running : s.running = false
  calls : ∀ j, s.calls j = .finished
  stop : StopFacts s (some i) s.stop

namespace Ending

variable {s : State} {i : Nat}

theorem port (h : Ending s i) {connected : Bool}
    (hconnected : s.connected = false → connected = false) (inProgress : Bool)
    {meshcore : Option Nat} (hmeshcore : meshcore = s.meshcore ∨ meshcore = none)
    (isOpen : Nat → Bool) :
    Ending { s with
      connected := connected
      inProgress := inProgress
      meshcore := meshcore
      isOpen := isOpen } i :=
  ⟨h.toBase.congr rfl rfl rfl rfl (fun _ => id) (fun _ => id) (And.imp_right hconnected),
    ⟨h.kind, h.cancelled, h.pc⟩, h.running, h.calls,
    h.stop.mono (fun _ ha => .inl (ha.congr fun _ _ => rfl))
      (fun hq => hq.congr fun _ _ => rfl) hmeshcore⟩

theorem quiet (h : Ending s i) {s' : State} {actor : Option Nat} (hquiet : Quiet s' actor)
    (hmeshcore : s'.meshcore = s.meshcore) : StopFacts s' actor s.stop :=
  h.stop.mono (fun _ _ => .inr hquiet) (fun _ => hquiet) (.inl hmeshcore)

theorem moves (h : Ending s i) {pc : Pc} (hpc : pc = .stopFetching ∨ ∃ conn, pc = .closing conn)
    (hprogress : s.inProgress = pc.inSequence) (hfacts : PcFacts s.connected s.meshcore pc)
    (hattached : Attached s) : ∃ actor, Inv (setPc s i pc) actor := by
  have hself := tasks_setPc_self s i pc
  have hactor : actorPc (setPc s i pc) (some i) = pc := congrArg Task.pc hself
  refine ⟨some i, ⟨h.toBase.setPc pc, ?_, ?_, fun c hc => .inl (hattached c hc)⟩,
    .stopping h.running h.calls (h.quiet (.inr ⟨i, rfl, ?_, ?_, ?_⟩) rfl)⟩
  · rw [hactor]
    exact hprogress
  · rw [hactor]
    exact hfacts
  · rw [hself]
    exact h.kind
  · rw [hself]
    exact h.cancelled
  · rw [hself]
    exact .inr hpc

theorem loopHead (h : Ending s i) (hconnected : s.connected = false) (hattached : Attached s) :
    ∃ actor, Inv (loopHead s i) actor := by
  have heq : CompanionPort.loopHead s i = setPc { s with inProgress := false } i .finished := by
    unfold CompanionPort.loopHead leaveReconnect afterReconnect
    rw [if_neg (by rw [h.running]; exact Bool.false_ne_true)]
    simp only [h.kind, hconnected, Bool.false_eq_true, if_false]
  have hended := h.port id false (.inl rfl) s.isOpen
  rw [heq]
  exact ⟨none, ⟨hended.toBase.finish, rfl, trivial, fun c hc => .inl (hattached c hc)⟩,
    .stopping h.running h.calls (h.quiet (.inl rfl) rfl)⟩

theorem run {s' : State} {outcome : Outcome} (h : Ending s i)
    (hprogress : s.inProgress = (s.tasks i).pc.inSequence)
    (hfacts : PcFacts s.connected s.meshcore (s.tasks i).pc) (hattached : Attached s)
    (hs : runPc s i outcome (s.tasks i).pc = some s') : ∃ actor, Inv s' actor := by
  rcases h.pc with hpc | hpc | ⟨conn, hpc⟩
  · rw [hpc] at hs hprogress
    simp only [runPc, h.kind] at hs
    cases hs
    unfold beginReconnect
    rw [if_neg (by rw [hprogress]; exact Bool.false_ne_true)]
    split
    · exact (h.port (fun _ => rfl) true (.inl rfl) s.isOpen).moves (.inl rfl) rfl rfl hattached
    · exact (h.port (fun _ => rfl) true (.inl rfl) s.isOpen).loopHead rfl hattached
  · rw [hpc] at hs hprogress hfacts
    simp only [runPc] at hs
    split at hs
    · cases hs
      exact h.loopHead hfacts hattached
    · next conn hm =>
        cases hs
        exact h.moves (.inr ⟨conn, rfl⟩) hprogress ⟨hfacts, .inl hm⟩ hattached
  · rw [hpc] at hs hprogress hfacts
    cases hs
    exact (h.port id s.inProgress (.inr rfl) (update s.isOpen conn false)).loopHead
      hfacts.1 (attached_closeConn (hattached.only hfacts.2) none)

end Ending

theorem Core.attached {s : State} {actor : Option Nat} (h : Core s actor)
    (hcalls : ∀ j, s.calls j = .finished) (hpc : ∀ c, actorPc s actor ≠ .opening c) :
    Attached s := by
  intro c hc
  rcases h.opened c hc with hm | ho | ⟨j, hj⟩
  · exact hm
  · exact absurd ho (hpc c)
  · rw [hcalls j] at hj
    cases hj

theorem Core.ne_opening {s : State} {actor : Option Nat} (h : Core s actor)
    (hprogress : s.inProgress = false) (c : Nat) : actorPc s actor ≠ .opening c := by
  intro hpc
  have htrue := h.progress
  rw [hpc, hprogress] at htrue
  cases htrue

theorem Early.ne_opening {s : State} {i : Nat} (h : Early s i) (c : Nat) :
    (s.tasks i).pc ≠ .opening c := by
  rcases h.pc with hpc | hpc | ⟨conn, hpc⟩
  · rw [hpc]
    nofun
  · rw [hpc]
    nofun
  · rw [hpc]
    nofun

theorem not_awaited {s : State} {i t : Nat} (hcancelled : (s.tasks i).cancelled = false) :
    ¬ Awaited s (some i) t := by
  rintro (hnone | ⟨heq, hwas⟩)
  · cases hnone
  · cases heq
    rw [hcancelled] at hwas
    cases hwas

theorem StopFacts.early {s : State} {i : Nat} {pc : StopPc} (h : StopFacts s (some i) pc)
    (hcancelled : (s.tasks i).cancelled = false) : Early s i := by
  have hquiet : Quiet s (some i) → Early s i := by
    rintro (hnone | ⟨k, heq, hearly⟩)
    · cases hnone
    · cases heq
      exact hearly
  cases pc with
  | notCalled => exact h.elim
  | awaitingReconnect t => exact hquiet (h.resolve_left (not_awaited hcancelled))
  | awaitingHealth t => exact hquiet (h.resolve_left (not_awaited hcancelled))
  | stopFetching => exact hquiet h
  | closing conn => exact hquiet h.1
  | stopped => exact hquiet h.1

theorem StopFacts.inert {s : State} {actor : Option Nat} {pc : StopPc} (h : StopFacts s actor pc)
    (hpc : (actorPc s actor).inSequence = false) :
    ∀ i, actor = some i → Inert True (s.tasks i) := by
  rintro i rfl
  cases hcancelled : (s.tasks i).cancelled with
  | true => exact .cancelled hcancelled hpc
  | false =>
    have hearly := h.early hcancelled
    rcases hearly.pc with hcreated | hin | ⟨conn, hin⟩
    · exact .late trivial hearly.kind hcreated
    · rw [show actorPc s (some i) = .stopFetching from hin] at hpc
      cases hpc
    · rw [show actorPc s (some i) = .closing conn from hin] at hpc
      cases hpc

theorem Inv.runLate {s s' : State} {actor : Option Nat} {i : Nat} {outcome : Outcome}
    (h : Inv s actor) (hactor : actor ≠ some i) (hoff : Off s.running s.connected)
    (hearly : Early s i) (hpc : (s.tasks i).pc = .created)
    (hs : runPc s i outcome (s.tasks i).pc = some s') : ∃ actor', Inv s' actor' := by
  cases h.mode with
  | normal running stop calls owned => exact Bool.noConfusion (hoff.1.symm.trans running)
  | applying j running stop others facts => exact Bool.noConfusion (hoff.1.symm.trans running)
  | stopping running calls facts =>
    cases hprogress : s.inProgress with
    | true =>
      rw [hpc] at hs
      simp only [runPc, hearly.kind, beginReconnect, hprogress, afterReconnect, hoff.2, if_true,
        Bool.false_eq_true, if_false] at hs
      cases hs
      exact ⟨actor, h.finishOther hactor⟩
    | false =>
      have hinert : ∀ k, actor = some k → Inert (Off s.running s.connected) (s.tasks k) :=
        fun k hk => (facts.inert (h.progress.symm.trans hprogress) k hk).imp fun _ => hoff
      have hknown : i < s.taskCount := by
        by_contra hnot
        rw [h.freshTask i (Nat.not_lt.mp hnot)] at hpc
        cases hpc
      have hbase : Base s (some i) :=
        h.toBase.retire hinert (some i) fun k hk => Option.some.inj hk ▸ hknown
      have hquiet : Quiet s (some i) := .inr ⟨i, rfl, hearly⟩
      have hending : Ending s i := ⟨hbase, hearly, running, calls,
        facts.mono (fun _ _ => .inr hquiet) (fun _ => hquiet) (.inl rfl)⟩
      refine hending.run ?_ ?_ (h.toCore.attached calls (h.toCore.ne_opening hprogress)) hs
      · rw [hpc]
        exact hprogress
      · rw [hpc]
        trivial

theorem Inv.run {s s' : State} {actor : Option Nat} {i : Nat} {outcome : Outcome} (h : Inv s actor)
    (hcancelled : (s.tasks i).cancelled = false)
    (hmeets : (s.tasks i).pc = .starting → outcome ≠ .raised)
    (hs : runPc s i outcome (s.tasks i).pc = some s') : ∃ actor', Inv s' actor' := by
  have hpc : (s.tasks i).pc ≠ .finished := by
    intro hfinished
    rw [hfinished] at hs
    cases hs
  by_cases hactor : actor = some i
  case neg =>
    obtain ⟨hoff, hkind, hcreated⟩ := (h.eq_of_running hcancelled hpc).resolve_left hactor
    exact h.runLate hactor hoff ⟨hkind, hcancelled, .inl hcreated⟩ hcreated hs
  subst hactor
  cases h.mode with
  | normal running stop calls owned =>
    refine Working.run ⟨h.toBase, ⟨running, stop, calls⟩, owned⟩ h.progress h.facts ?_ hmeets hs
    intro c hc
    rcases h.opened c hc with hm | ho | ⟨j, hj⟩
    · exact .inl hm
    · exact .inr ho
    · rw [calls j] at hj
      cases hj
  | applying j running stop others facts =>
    cases hpc : s.calls j with
    | finished =>
      rw [hpc] at facts
      exact facts.elim
    | awaitingHealth t =>
      rw [hpc] at facts
      exact absurd facts (not_awaited hcancelled)
    | awaitingReconnect t =>
      rw [hpc] at facts
      exact absurd facts.1 (not_awaited hcancelled)
    | _ =>
      rw [hpc] at facts
      cases facts.1
  | stopping running calls facts =>
    have hearly := facts.early hcancelled
    exact Ending.run ⟨h.toBase, hearly, running, calls, facts⟩ h.progress h.facts
      (h.toCore.attached calls hearly.ne_opening) hs

/-! ### Commands that time out -/

theorem Base.calls_finished {s : State} {actor : Option Nat} (h : Base s actor) (hno : NoCall s)
    (j : Nat) : s.calls j = .finished := by
  rcases Nat.lt_or_ge j s.callCount with hlt | hge
  · exact hno j hlt
  · exact h.freshCall j hge

theorem Inv.setCommands {s : State} {actor : Option Nat} (h : Inv s actor) (n : Nat) :
    Inv { s with commands := n } actor :=
  ⟨h.toCore.congr (h.toBase.congr rfl rfl rfl rfl (fun _ => id) (fun _ => id) id) rfl rfl rfl rfl
    rfl rfl, h.mode.congr rfl rfl rfl rfl rfl rfl rfl (fun _ _ => rfl) (fun _ => id)⟩

/-- Before `stop` the task that is not inert is the health check, which is cancelled. -/
theorem Owned.health_or_finished {s : State} {actor : Option Nat} (h : Owned s actor)
    (hbase : Base s actor) (hno : NoReconnect s) :
    ∀ i, actor = some i → s.healthTask = some i ∨ (s.tasks i).pc = .finished := by
  intro i hi
  obtain ⟨hcancelled, -, hhealth⟩ := h.live i hi
  cases hkind : (s.tasks i).kind with
  | health => exact .inl (hhealth hkind)
  | reconnect =>
    right
    by_contra hpc
    rw [hno i (hbase.acting i hi) hkind hpc] at hcancelled
    cases hcancelled

theorem tasks_cancelHealth (s : State) (k : Nat) :
    ((cancelHealth s).tasks k).pc = (s.tasks k).pc ∧
      ((cancelHealth s).tasks k).kind = (s.tasks k).kind ∧
      ((s.tasks k).cancelled = true ∨ s.healthTask = some k →
        ((cancelHealth s).tasks k).cancelled = true) := by
  unfold cancelHealth
  split
  · next t ht =>
      obtain ⟨hpc, hkind⟩ := tasks_requestCancel s t k
      refine ⟨hpc, hkind, ?_⟩
      by_cases heq : k = t
      · intro _
        exact heq ▸ congrArg Task.cancelled (tasks_requestCancel_self s t)
      · rintro (hcancelled | hk)
        · exact (congrArg Task.cancelled (tasks_requestCancel_of_ne s heq)).trans hcancelled
        · rw [ht] at hk
          exact absurd (Option.some.inj hk).symm heq
  · next hnone =>
      refine ⟨rfl, rfl, ?_⟩
      rintro (hcancelled | hk)
      · exact hcancelled
      · rw [hnone] at hk
        cases hk

theorem Base.cancelHealth {s : State} {actor : Option Nat} (h : Base s actor) :
    Base (cancelHealth s) actor := by
  unfold CompanionPort.cancelHealth
  split
  · next t _ => exact (h.requestCancel t).congr rfl rfl rfl rfl nofun (fun _ => id) Off.disconnect
  · exact h.congr rfl rfl rfl rfl nofun (fun _ => id) Off.disconnect

theorem Core.base_cancelHealth {s : State} {actor : Option Nat} (h : Core s actor)
    (hprogress : s.inProgress = false)
    (hlive : ∀ i, actor = some i → s.healthTask = some i ∨ Inert (s.running = false) (s.tasks i)) :
    Base (cancelHealth s) none := by
  refine h.toBase.cancelHealth.retire ?_ none nofun
  rintro i rfl
  have hout : (s.tasks i).pc.inSequence = false := h.progress.symm.trans hprogress
  obtain ⟨hpc, hkind, hcancelled⟩ := tasks_cancelHealth s i
  have hout' := (congrArg Pc.inSequence hpc).trans hout
  rcases hlive i rfl with hhealth | hinert
  · exact .cancelled (hcancelled (.inr hhealth)) hout'
  · cases hinert with
    | finished pc => exact .finished (hpc.trans pc)
    | cancelled cancelled pc => exact .cancelled (hcancelled (.inl cancelled)) hout'
    | late off kind pc => exact .late ⟨off, rfl⟩ (hkind.trans kind) (hpc.trans pc)

theorem Inv.trigger {s : State} {actor : Option Nat} (h : Inv s actor)
    (hmeets : s.inProgress = true ∨ (NoCall s ∧ (s.running = true → NoReconnect s))) :
    ∃ actor', Inv (triggerReconnect s) actor' := by
  unfold triggerReconnect
  split
  · exact ⟨actor, h⟩
  · next hnot =>
      have hprogress : s.inProgress = false := Bool.eq_false_iff.mpr hnot
      obtain ⟨hnoCall, hnoReconnect⟩ := hmeets.resolve_left hnot
      have hcalls := h.toBase.calls_finished hnoCall
      have hattached : Attached (cancelHealth s) :=
        h.toCore.attached hcalls (h.toCore.ne_opening hprogress)
      refine ⟨some s.taskCount, ?_⟩
      cases h.mode with
      | normal running stop calls owned =>
        have hbase := h.toCore.base_cancelHealth hprogress fun i hi =>
          (owned.health_or_finished h.toBase (hnoReconnect running) i hi).imp_right .finished
        exact inv_spawnReconnect hbase ⟨running, stop, calls⟩ rfl hprogress hattached
      | applying j running stop others facts =>
        rw [hcalls j] at facts
        exact facts.elim
      | stopping running calls facts =>
        have hbase := h.toCore.base_cancelHealth hprogress fun i hi =>
          .inr ((facts.inert (h.progress.symm.trans hprogress) i hi).imp fun _ => running)
        have hnew := tasks_spawnReconnect (cancelHealth s)
        have hquiet : Quiet (spawnReconnect (cancelHealth s)) (some s.taskCount) :=
          .inr ⟨s.taskCount, rfl, congrArg Task.kind hnew, congrArg Task.cancelled hnew,
            .inl (congrArg Task.pc hnew)⟩
        exact ⟨core_spawnReconnect hbase hprogress hattached,
          .stopping running calls
            (facts.mono (fun _ _ => .inr hquiet) (fun _ => hquiet) (.inl rfl))⟩

end Meshpoint.CompanionPort
