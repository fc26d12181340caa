import Meshpoint.CompanionPort

/-!
# Who uses the port

The invariant of the runs that meet the condition.  One task at most is not inert (`Base`), what is
open follows from where it waits (`Core`), and it is the task that the source knows as its own, or
one that a radio change or `stop` waits for (`Mode`).  A state with the invariant has one owner of
the port, and a cancelled task that ends keeps it.
-/

namespace Meshpoint.CompanionPort

open Function

/-! ### The invariant -/

/-- `stop` has begun, and the source is not connected. -/
def Off (running connected : Bool) : Prop := running = false ∧ connected = false

theorem Off.disconnect {running connected : Bool} (h : Off running connected) : Off running false :=
  ⟨h.1, rfl⟩

theorem Off.stop {running connected : Bool} (h : Off running connected) : Off false connected :=
  ⟨rfl, h.2⟩

/-- A task that does nothing at the port: it has ended, is going to, or is a reconnect that has not
    begun and was scheduled after `stop`. -/
inductive Inert (off : Prop) (t : Task) : Prop
  | finished (pc : t.pc = .finished)
  | cancelled (cancelled : t.cancelled = true) (pc : t.pc.inSequence = false)
  | late (off : off) (kind : t.kind = .reconnect) (pc : t.pc = .created)

theorem Inert.not_inSequence {off : Prop} {t : Task} (h : Inert off t) :
    t.pc.inSequence = false := by
  cases h with
  | finished pc =>
    rw [pc]
    rfl
  | cancelled cancelled pc => exact pc
  | late off kind pc =>
    rw [pc]
    rfl

theorem Inert.imp {off off' : Prop} {t : Task} (h : Inert off t) (himp : off → off') :
    Inert off' t := by
  cases h with
  | finished pc => exact .finished pc
  | cancelled cancelled pc => exact .cancelled cancelled pc
  | late off kind pc => exact .late (himp off) kind pc

/-- The tasks and the calls that are known, and the one task that is not inert. -/
structure Base (s : State) (actor : Option Nat) : Prop where
  freshTask : ∀ i, s.taskCount ≤ i → (s.tasks i).pc = .finished
  freshCall : ∀ j, s.callCount ≤ j → s.calls j = .finished
  health : ∀ h, s.healthTask = some h → h < s.taskCount ∧ (s.tasks h).kind = .health
  reconnect : ∀ r, s.reconnectTask = some r → r < s.taskCount
  inert : ∀ i, actor ≠ some i → Inert (Off s.running s.connected) (s.tasks i)
  acting : ∀ i, actor = some i → i < s.taskCount

namespace Base

variable {s s' : State} {actor : Option Nat} {i j : Nat}

theorem congr (h : Base s actor) (htasks : s'.tasks = s.tasks) (hcount : s'.taskCount = s.taskCount)
    (hcalls : s'.calls = s.calls) (hcallCount : s'.callCount = s.callCount)
    (hhealth : ∀ h, s'.healthTask = some h → s.healthTask = some h)
    (hreconnect : ∀ r, s'.reconnectTask = some r → s.reconnectTask = some r)
    (hoff : Off s.running s.connected → Off s'.running s'.connected) : Base s' actor := by
  refine ⟨?_, ?_, ?_, ?_, ?_, ?_⟩
  · rw [htasks, hcount]
    exact h.freshTask
  · rw [hcalls, hcallCount]
    exact h.freshCall
  · intro t ht
    rw [htasks, hcount]
    exact h.health t (hhealth t ht)
  · intro t ht
    rw [hcount]
    exact h.reconnect t (hreconnect t ht)
  · intro k hk
    rw [htasks]
    exact (h.inert k hk).imp hoff
  · rw [hcount]
    exact h.acting

theorem setPc (h : Base s (some i)) (pc : Pc) : Base (setPc s i pc) (some i) := by
  have hother : ∀ {k}, k ≠ i → (CompanionPort.setPc s i pc).tasks k = s.tasks k :=
    fun hne => tasks_setPc_of_ne s hne pc
  refine ⟨?_, h.freshCall, ?_, h.reconnect, ?_, h.acting⟩
  · intro k hk
    have hne : k ≠ i := by
      rintro rfl
      exact absurd (h.acting k rfl) (Nat.not_lt.mpr hk)
    rw [hother hne]
    exact h.freshTask k hk
  · intro t ht
    obtain ⟨hlt, hkind⟩ := h.health t ht
    refine ⟨hlt, ?_⟩
    by_cases heq : t = i
    · rw [heq, tasks_setPc_self]
      exact heq ▸ hkind
    · rw [hother heq]
      exact hkind
  · intro k hk
    have hne : k ≠ i := by
      rintro rfl
      exact hk rfl
    rw [hother hne]
    exact h.inert k hk

theorem retire (h : Base s actor)
    (hinert : ∀ k, actor = some k → Inert (Off s.running s.connected) (s.tasks k))
    (next : Option Nat) (hnext : ∀ k, next = some k → k < s.taskCount) : Base s next := by
  refine ⟨h.freshTask, h.freshCall, h.health, h.reconnect, ?_, hnext⟩
  intro k _
  by_cases heq : actor = some k
  · exact hinert k heq
  · exact h.inert k heq

theorem drop (h : Base s (some i)) (hinert : Inert (Off s.running s.connected) (s.tasks i)) :
    Base s none :=
  h.retire (fun _ hk => Option.some.inj hk ▸ hinert) none nofun

theorem finish (h : Base s (some i)) : Base (CompanionPort.setPc s i .finished) none :=
  (h.setPc .finished).drop (.finished (by rw [tasks_setPc_self]))

theorem requestCancel (h : Base s actor) (t : Nat) : Base (requestCancel s t) actor := by
  refine ⟨?_, h.freshCall, ?_, h.reconnect, ?_, h.acting⟩
  · intro k hk
    rw [(tasks_requestCancel s t k).1]
    exact h.freshTask k hk
  · intro k hk
    obtain ⟨hlt, hkind⟩ := h.health k hk
    refine ⟨hlt, ?_⟩
    rw [(tasks_requestCancel s t k).2]
    exact hkind
  · intro k hk
    obtain ⟨hpc, hkind⟩ := tasks_requestCancel s t k
    cases h.inert k hk with
    | finished pc => exact .finished (hpc.trans pc)
    | cancelled cancelled pc =>
      refine .cancelled ?_ ((congrArg Pc.inSequence hpc).trans pc)
      by_cases heq : k = t
      · rw [heq, tasks_requestCancel_self]
      · rw [tasks_requestCancel_of_ne s heq]
        exact cancelled
    | late off kind pc =>
      exact .late off (hkind.trans kind) (hpc.trans pc)

theorem spawn (h : Base s none) (kind : TaskKind) : Base (spawn s kind) (some s.taskCount) := by
  have hother : ∀ {k}, k ≠ s.taskCount → (CompanionPort.spawn s kind).tasks k = s.tasks k :=
    fun hne => tasks_spawn_of_ne s kind hne
  refine ⟨?_, h.freshCall, ?_, ?_, ?_, ?_⟩
  · intro k hk
    have hle : s.taskCount + 1 ≤ k := hk
    rw [hother (by omega)]
    exact h.freshTask k (by omega)
  · intro t ht
    obtain ⟨hlt, hkind⟩ := h.health t ht
    refine ⟨Nat.lt_succ_of_lt hlt, ?_⟩
    rw [hother (Nat.ne_of_lt hlt)]
    exact hkind
  · intro t ht
    exact Nat.lt_succ_of_lt (h.reconnect t ht)
  · intro k hk
    have hne : k ≠ s.taskCount := by
      rintro rfl
      exact hk rfl
    rw [hother hne]
    exact h.inert k nofun
  · rintro k ⟨⟩
    exact Nat.lt_succ_self _

theorem setCall (h : Base s actor) (hj : j < s.callCount) (pc : CallPc) :
    Base (setCall s j pc) actor := by
  refine ⟨h.freshTask, ?_, h.health, h.reconnect, h.inert, h.acting⟩
  intro k hk
  have hle : s.callCount ≤ k := hk
  rw [calls_setCall_of_ne s (by omega)]
  exact h.freshCall k hle

theorem eq_of_running (h : Base s actor) (hcancelled : (s.tasks i).cancelled = false)
    (hpc : (s.tasks i).pc ≠ .finished) : actor = some i ∨
      (Off s.running s.connected ∧ (s.tasks i).kind = .reconnect ∧ (s.tasks i).pc = .created) := by
  by_cases hactor : actor = some i
  · exact .inl hactor
  · cases h.inert i hactor with
    | finished pc => exact absurd pc hpc
    | cancelled cancelled pc =>
      rw [hcancelled] at cancelled
      cases cancelled
    | late off kind pc => exact .inr ⟨off, kind, pc⟩

theorem eq_of_inSequence (h : Base s actor) (hpc : (s.tasks i).pc.inSequence = true) :
    actor = some i := by
  by_contra hne
  rw [(h.inert i hne).not_inSequence] at hpc
  cases hpc

end Base

/-- Where the one task is that is not inert; finished where there is none. -/
def actorPc (s : State) : Option Nat → Pc
  | none => .finished
  | some i => (s.tasks i).pc

/-- What holds of the connection while a reconnect waits. -/
def PcFacts (connected : Bool) (meshcore : Option Nat) : Pc → Prop
  | .stopFetching => connected = false
  | .closing conn => connected = false ∧ (meshcore = some conn ∨ meshcore = none)
  | .backoff | .pulsing | .settling | .opening _ => connected = false ∧ meshcore = none
  | .starting => connected = true
  | .created | .sleeping _ | .probing _ | .retrying _ | .finished => True

def CallPc.holds (conn : Nat) : CallPc → Bool
  | .opening _ c => c = conn
  | .talking _ c => c = conn
  | .leaving _ c _ => c = conn
  | _ => false

/-- The task that is waited for is the one that is not inert, or all are. -/
def Awaited (s : State) (actor : Option Nat) (t : Nat) : Prop :=
  actor = none ∨ (actor = some t ∧ (s.tasks t).cancelled = true)

def CallFacts (s : State) (actor : Option Nat) : CallPc → Prop
  | .finished => False
  | .awaitingHealth t => Awaited s actor t
  | .awaitingReconnect t => Awaited s actor t ∧ s.healthTask = none
  | .stopFetching => actor = none ∧ s.healthTask = none ∧ s.connected = false
  | .closing conn => actor = none ∧ s.healthTask = none ∧ s.connected = false ∧
      (s.meshcore = some conn ∨ s.meshcore = none)
  | .pulsing _ | .settling _ | .opening _ _ | .talking _ _ | .leaving _ _ _ | .rebooting =>
    actor = none ∧ s.healthTask = none ∧ s.connected = false ∧ s.meshcore = none

/-- A reconnect that began after `stop`: it disconnects and ends. -/
structure Early (s : State) (i : Nat) : Prop where
  kind : (s.tasks i).kind = .reconnect
  cancelled : (s.tasks i).cancelled = false
  pc : (s.tasks i).pc = .created ∨ (s.tasks i).pc = .stopFetching ∨
    ∃ conn, (s.tasks i).pc = .closing conn

/-- Nothing is left, or a reconnect that only disconnects. -/
def Quiet (s : State) (actor : Option Nat) : Prop :=
  actor = none ∨ ∃ i, actor = some i ∧ Early s i

def StopFacts (s : State) (actor : Option Nat) : StopPc → Prop
  | .notCalled => False
  | .awaitingReconnect t => Awaited s actor t ∨ Quiet s actor
  | .awaitingHealth t => Awaited s actor t ∨ Quiet s actor
  | .stopFetching => Quiet s actor
  | .closing conn => Quiet s actor ∧ (s.meshcore = some conn ∨ s.meshcore = none)
  | .stopped => Quiet s actor ∧ s.meshcore = none

/-- The task that is not inert is the one that the source knows as its own. -/
structure Owned (s : State) (actor : Option Nat) : Prop where
  live : ∀ i, actor = some i → (s.tasks i).cancelled = false ∧
    ((s.tasks i).kind = .reconnect → s.reconnectTask = some i) ∧
    ((s.tasks i).kind = .health → s.healthTask = some i)
  health : ∀ h, s.healthTask = some h → (s.tasks h).pc = .finished ∨ actor = some h
  reconnect : ∀ r, s.reconnectTask = some r → (s.tasks r).pc = .finished ∨ actor = some r

/-- Who uses the port: the tasks, a radio change, or `stop`. -/
inductive Mode (s : State) (actor : Option Nat) : Prop
  | normal (running : s.running = true) (stop : s.stop = .notCalled)
      (calls : ∀ j, s.calls j = .finished) (owned : Owned s actor)
  | applying (j : Nat) (running : s.running = true) (stop : s.stop = .notCalled)
      (others : ∀ k, k ≠ j → s.calls k = .finished) (facts : CallFacts s actor (s.calls j))
  | stopping (running : s.running = false) (calls : ∀ j, s.calls j = .finished)
      (facts : StopFacts s actor s.stop)

/-- What holds of the port whoever uses it. -/
structure Core (s : State) (actor : Option Nat) : Prop extends Base s actor where
  progress : s.inProgress = (actorPc s actor).inSequence
  facts : PcFacts s.connected s.meshcore (actorPc s actor)
  opened : ∀ c, s.isOpen c = true →
    s.meshcore = some c ∨ actorPc s actor = .opening c ∨ ∃ j, (s.calls j).holds c = true

structure Inv (s : State) (actor : Option Nat) : Prop extends Core s actor where
  mode : Mode s actor

/-! ### One owner -/

theorem CallPc.holds_eq {pc : CallPc} {c c' : Nat} (h : pc.holds c = true)
    (h' : pc.holds c' = true) : c = c' := by
  cases pc with
  | opening r d => exact (of_decide_eq_true h).symm.trans (of_decide_eq_true h')
  | talking r d => exact (of_decide_eq_true h).symm.trans (of_decide_eq_true h')
  | leaving r d g => exact (of_decide_eq_true h).symm.trans (of_decide_eq_true h')
  | _ => cases h

theorem Mode.of_holds {s : State} {actor : Option Nat} (h : Mode s actor) {j c : Nat}
    (hc : (s.calls j).holds c = true) :
    actor = none ∧ s.meshcore = none ∧ s.stop = .notCalled ∧
      ∀ k, k ≠ j → s.calls k = .finished := by
  cases h with
  | normal running stop calls owned =>
    rw [calls j] at hc
    cases hc
  | stopping running calls facts =>
    rw [calls j] at hc
    cases hc
  | applying k running stop others facts =>
    have heq : j = k := by
      by_contra hne
      rw [others j hne] at hc
      cases hc
    subst heq
    cases hpc : s.calls j with
    | opening r d =>
      rw [hpc] at facts
      exact ⟨facts.1, facts.2.2.2, stop, others⟩
    | talking r d =>
      rw [hpc] at facts
      exact ⟨facts.1, facts.2.2.2, stop, others⟩
    | leaving r d g =>
      rw [hpc] at facts
      exact ⟨facts.1, facts.2.2.2, stop, others⟩
    | _ =>
      rw [hpc] at hc
      cases hc

theorem Inv.oneOwner {s : State} {actor : Option Nat} (h : Inv s actor) : OneOwner s := by
  have hopening : ∀ {c}, actorPc s actor = .opening c → s.meshcore = none ∧ actor ≠ none := by
    intro c hc
    have hfacts := h.facts
    rw [hc] at hfacts
    refine ⟨hfacts.2, ?_⟩
    rintro rfl
    cases hc
  refine ⟨?_, ?_, ?_⟩
  · intro c c' hc hc'
    rcases h.opened c hc with hm | ho | ⟨j, hj⟩
    · rcases h.opened c' hc' with hm' | ho' | ⟨j', hj'⟩
      · rw [hm] at hm'
        exact Option.some.inj hm'
      · rw [(hopening ho').1] at hm
        cases hm
      · rw [(h.mode.of_holds hj').2.1] at hm
        cases hm
    · rcases h.opened c' hc' with hm' | ho' | ⟨j', hj'⟩
      · rw [(hopening ho).1] at hm'
        cases hm'
      · rw [ho] at ho'
        exact Pc.opening.inj ho'
      · exact absurd (h.mode.of_holds hj').1 (hopening ho).2
    · obtain ⟨hnone, hm, -, hothers⟩ := h.mode.of_holds hj
      rcases h.opened c' hc' with hm' | ho' | ⟨j', hj'⟩
      · rw [hm] at hm'
        cases hm'
      · exact absurd hnone (hopening ho').2
      · by_cases heq : j' = j
        · rw [heq] at hj'
          exact CallPc.holds_eq hj hj'
        · rw [hothers j' heq] at hj'
          cases hj'
  · intro i i' hi hi'
    have hactor := h.eq_of_inSequence hi
    rw [h.eq_of_inSequence hi'] at hactor
    exact (Option.some.inj hactor).symm
  · intro hstop c
    rw [Bool.eq_false_iff]
    intro hc
    cases h.mode with
    | normal running stop calls owned =>
      rw [stop] at hstop
      cases hstop
    | applying j running stop others facts =>
      rw [stop] at hstop
      cases hstop
    | stopping running calls facts =>
      rw [hstop] at facts
      rcases h.opened c hc with hm | ho | ⟨j, hj⟩
      · rw [facts.2] at hm
        cases hm
      · rcases facts.1 with hnone | ⟨i, hi, hearly⟩
        · exact (hopening ho).2 hnone
        · rw [hi] at ho
          have hpc : (s.tasks i).pc = .opening c := ho
          rcases hearly.pc with h₁ | h₁ | ⟨d, h₁⟩
          · rw [h₁] at hpc
            cases hpc
          · rw [h₁] at hpc
            cases hpc
          · rw [h₁] at hpc
            cases hpc
      · rw [calls j] at hj
        cases hj

/-! ### Tasks that are not the actor -/

namespace Core

variable {s s' : State} {actor : Option Nat} {i k : Nat}

theorem congr (h : Core s actor) (hbase : Base s' actor) (hpc : actorPc s' actor = actorPc s actor)
    (hprogress : s'.inProgress = s.inProgress) (hconnected : s'.connected = s.connected)
    (hmeshcore : s'.meshcore = s.meshcore) (hopen : s'.isOpen = s.isOpen)
    (hcalls : s'.calls = s.calls) : Core s' actor := by
  refine ⟨hbase, ?_, ?_, ?_⟩
  · rw [hprogress, hpc]
    exact h.progress
  · rw [hconnected, hmeshcore, hpc]
    exact h.facts
  · rw [hopen, hmeshcore, hpc, hcalls]
    exact h.opened

theorem drop (h : Core s (some i)) (hfinished : (s.tasks i).pc = .finished) : Core s none := by
  have hpc : actorPc s (some i) = .finished := hfinished
  refine ⟨h.toBase.drop (.finished hfinished), ?_, trivial, ?_⟩
  · have hprogress := h.progress
    rw [hpc] at hprogress
    exact hprogress
  · intro c hc
    rcases h.opened c hc with hm | ho | hj
    · exact .inl hm
    · rw [hpc] at ho
      cases ho
    · exact .inr (.inr hj)

theorem requestCancel (h : Core s actor) (t : Nat) : Core (requestCancel s t) actor := by
  refine h.congr (h.toBase.requestCancel t) ?_ rfl rfl rfl rfl rfl
  cases actor with
  | none => rfl
  | some k => exact (tasks_requestCancel s t k).1

theorem forgetHealth (h : Core s actor) : Core { s with healthTask := none } actor :=
  h.congr (h.toBase.congr rfl rfl rfl rfl nofun (fun _ => id) id) rfl rfl rfl rfl rfl rfl

theorem forgetReconnect (h : Core s actor) : Core { s with reconnectTask := none } actor :=
  h.congr (h.toBase.congr rfl rfl rfl rfl (fun _ => id) nofun id) rfl rfl rfl rfl rfl rfl

theorem setStop (h : Core s actor) (pc : StopPc) : Core { s with stop := pc } actor :=
  h.congr (h.toBase.congr rfl rfl rfl rfl (fun _ => id) (fun _ => id) id) rfl rfl rfl rfl rfl rfl

end Core

section Frame

variable {s s' : State} {actor actor' : Option Nat}

theorem Early.congr {i : Nat} (h : Early s i) (hi : s'.tasks i = s.tasks i) : Early s' i := by
  refine ⟨?_, ?_, ?_⟩
  · rw [hi]
    exact h.kind
  · rw [hi]
    exact h.cancelled
  · rw [hi]
    exact h.pc

theorem Quiet.congr (h : Quiet s actor) (hactor : ∀ i, actor = some i → s'.tasks i = s.tasks i) :
    Quiet s' actor := by
  rcases h with hnone | ⟨i, hi, hearly⟩
  · exact .inl hnone
  · exact .inr ⟨i, hi, hearly.congr (hactor i hi)⟩

theorem Awaited.congr {t : Nat} (h : Awaited s actor t)
    (hactor : ∀ i, actor = some i → s'.tasks i = s.tasks i) : Awaited s' actor t := by
  rcases h with hnone | ⟨ht, hcancelled⟩
  · exact .inl hnone
  · refine .inr ⟨ht, ?_⟩
    rw [hactor t ht]
    exact hcancelled

theorem Owned.congr (h : Owned s actor) (hhealth : s'.healthTask = s.healthTask)
    (hreconnect : s'.reconnectTask = s.reconnectTask)
    (hactor : ∀ i, actor = some i → s'.tasks i = s.tasks i)
    (hfinished : ∀ i, (s.tasks i).pc = .finished → (s'.tasks i).pc = .finished) :
    Owned s' actor := by
  refine ⟨?_, ?_, ?_⟩
  · intro i hi
    rw [hactor i hi, hhealth, hreconnect]
    exact h.live i hi
  · intro t ht
    rw [hhealth] at ht
    exact (h.health t ht).imp_left (hfinished t)
  · intro t ht
    rw [hreconnect] at ht
    exact (h.reconnect t ht).imp_left (hfinished t)

theorem CallFacts.congr {pc : CallPc} (h : CallFacts s actor pc)
    (hhealth : s'.healthTask = s.healthTask) (hconnected : s'.connected = s.connected)
    (hmeshcore : s'.meshcore = s.meshcore)
    (hactor : ∀ i, actor = some i → s'.tasks i = s.tasks i) : CallFacts s' actor pc := by
  cases pc with
  | finished => exact h
  | awaitingHealth t => exact Awaited.congr h hactor
  | awaitingReconnect t =>
    refine ⟨h.1.congr hactor, ?_⟩
    rw [hhealth]
    exact h.2
  | _ =>
    simp only [CallFacts, hhealth, hconnected, hmeshcore]
    exact h

theorem StopFacts.mono {pc : StopPc} (h : StopFacts s actor pc)
    (hawaited : ∀ t, Awaited s actor t → Awaited s' actor' t ∨ Quiet s' actor')
    (hquiet : Quiet s actor → Quiet s' actor')
    (hmeshcore : s'.meshcore = s.meshcore ∨ s'.meshcore = none) : StopFacts s' actor' pc := by
  cases pc with
  | notCalled => exact h
  | awaitingReconnect t =>
    rcases h with ha | hq
    · exact hawaited t ha
    · exact .inr (hquiet hq)
  | awaitingHealth t =>
    rcases h with ha | hq
    · exact hawaited t ha
    · exact .inr (hquiet hq)
  | stopFetching => exact hquiet h
  | closing conn =>
    refine ⟨hquiet h.1, ?_⟩
    rcases hmeshcore with hm | hm
    · rw [hm]
      exact h.2
    · exact .inr hm
  | stopped =>
    refine ⟨hquiet h.1, ?_⟩
    rcases hmeshcore with hm | hm
    · rw [hm]
      exact h.2
    · exact hm

theorem Mode.congr (h : Mode s actor) (hrunning : s'.running = s.running) (hstop : s'.stop = s.stop)
    (hcalls : s'.calls = s.calls) (hhealth : s'.healthTask = s.healthTask)
    (hreconnect : s'.reconnectTask = s.reconnectTask) (hconnected : s'.connected = s.connected)
    (hmeshcore : s'.meshcore = s.meshcore)
    (hactor : ∀ i, actor = some i → s'.tasks i = s.tasks i)
    (hfinished : ∀ i, (s.tasks i).pc = .finished → (s'.tasks i).pc = .finished) :
    Mode s' actor := by
  cases h with
  | normal running stop calls owned =>
    exact .normal (hrunning.trans running) (hstop.trans stop) (fun j => hcalls ▸ calls j)
      (owned.congr hhealth hreconnect hactor hfinished)
  | applying j running stop others facts =>
    refine .applying j (hrunning.trans running) (hstop.trans stop)
      (fun k hk => hcalls ▸ others k hk) ?_
    rw [hcalls]
    exact facts.congr hhealth hconnected hmeshcore hactor
  | stopping running calls facts =>
    refine .stopping (hrunning.trans running) (fun j => hcalls ▸ calls j) ?_
    rw [hstop]
    exact facts.mono (fun t ha => .inl (ha.congr hactor)) (fun hq => hq.congr hactor)
      (.inl hmeshcore)

end Frame

/-! ### The end of a cancelled task -/

theorem finished_setPc (s : State) {i k : Nat} (h : (s.tasks k).pc = .finished) :
    ((setPc s i .finished).tasks k).pc = .finished := by
  by_cases heq : k = i
  · rw [heq, tasks_setPc_self]
  · rw [tasks_setPc_of_ne s heq]
    exact h

theorem Base.finishOther {s : State} {actor : Option Nat} (h : Base s actor) (k : Nat) :
    Base (CompanionPort.setPc s k .finished) actor := by
  refine ⟨fun i hi => finished_setPc s (h.freshTask i hi), h.freshCall, ?_, h.reconnect, ?_,
    h.acting⟩
  · intro t ht
    obtain ⟨hlt, hkind⟩ := h.health t ht
    refine ⟨hlt, ?_⟩
    by_cases heq : t = k
    · rw [heq, tasks_setPc_self]
      exact heq ▸ hkind
    · rw [tasks_setPc_of_ne s heq]
      exact hkind
  · intro i hi
    by_cases heq : i = k
    · refine .finished ?_
      rw [heq, tasks_setPc_self]
    · rw [tasks_setPc_of_ne s heq]
      exact h.inert i hi

theorem Inv.finishOther {s : State} {actor : Option Nat} {k : Nat} (h : Inv s actor)
    (hk : actor ≠ some k) : Inv (setPc s k .finished) actor := by
  have hactor : ∀ i, actor = some i → (setPc s k .finished).tasks i = s.tasks i := by
    rintro i rfl
    exact tasks_setPc_of_ne s (fun heq => hk (congrArg some heq)) .finished
  refine ⟨h.toCore.congr (h.toBase.finishOther k) ?_ rfl rfl rfl rfl rfl,
    h.mode.congr rfl rfl rfl rfl rfl rfl rfl hactor (fun i => finished_setPc s)⟩
  cases actor with
  | none => rfl
  | some i => exact congrArg Task.pc (hactor i rfl)

theorem Mode.after_cancel {s s' : State} {i : Nat} (h : Mode s (some i))
    (hcancelled : (s.tasks i).cancelled = true) (hrunning : s'.running = s.running)
    (hstop : s'.stop = s.stop) (hcalls : s'.calls = s.calls)
    (hhealth : s'.healthTask = s.healthTask) (hmeshcore : s'.meshcore = s.meshcore) :
    Mode s' none := by
  cases h with
  | normal running stop calls owned =>
    rw [(owned.live i rfl).1] at hcancelled
    cases hcancelled
  | applying j running stop others facts =>
    refine .applying j (hrunning.trans running) (hstop.trans stop)
      (fun k hk => hcalls ▸ others k hk) ?_
    rw [hcalls]
    cases hpc : s.calls j with
    | awaitingHealth t => exact .inl rfl
    | awaitingReconnect t =>
      rw [hpc] at facts
      exact ⟨.inl rfl, hhealth.trans facts.2⟩
    | finished =>
      rw [hpc] at facts
      exact facts.elim
    | _ =>
      rw [hpc] at facts
      cases facts.1
  | stopping running calls facts =>
    refine .stopping (hrunning.trans running) (fun j => hcalls ▸ calls j) ?_
    rw [hstop]
    exact facts.mono (fun t _ => .inr (.inl rfl)) (fun _ => .inl rfl) (.inl hmeshcore)

/-- A cancelled task ends: its `finally` clears the flag, and a handshake leaves no connection. -/
theorem cancelPc_cases {s s' : State} {i : Nat} {closed : Bool} {pc : Pc}
    (h : cancelPc s i closed pc = some s') :
    ∃ isOpen inProgress,
      s' = setPc { s with isOpen := isOpen, inProgress := inProgress } i .finished ∧
      (∀ c, isOpen c = true → s.isOpen c = true ∧ pc ≠ .opening c) ∧
      (pc.inSequence = true → inProgress = false) ∧
      (pc.inSequence = false → isOpen = s.isOpen ∧ inProgress = s.inProgress) := by
  have hclose : ∀ {conn c}, update s.isOpen conn false c = true → s.isOpen c = true ∧ c ≠ conn := by
    intro conn c hc
    by_cases heq : c = conn
    · rw [heq, update_self] at hc
      cases hc
    · rw [update_of_ne heq] at hc
      exact ⟨hc, heq⟩
  cases pc with
  | finished => cases h
  | opening conn =>
    cases h
    refine ⟨_, _, rfl, ?_, fun _ => rfl, nofun⟩
    intro c hc
    refine ⟨(hclose hc).1, ?_⟩
    rintro ⟨⟩
    exact (hclose hc).2 rfl
  | closing conn =>
    cases h
    cases closed with
    | false => exact ⟨s.isOpen, _, rfl, fun c hc => ⟨hc, nofun⟩, fun _ => rfl, nofun⟩
    | true => exact ⟨_, _, rfl, fun c hc => ⟨(hclose hc).1, nofun⟩, fun _ => rfl, nofun⟩
  | created | sleeping n | probing n | retrying n =>
    cases h
    exact ⟨s.isOpen, s.inProgress, rfl, fun c hc => ⟨hc, nofun⟩, nofun, fun _ => ⟨rfl, rfl⟩⟩
  | _ =>
    cases h
    exact ⟨s.isOpen, _, rfl, fun c hc => ⟨hc, nofun⟩, fun _ => rfl, nofun⟩

theorem Inv.cancel {s s' : State} {actor : Option Nat} {i : Nat} {closed : Bool} (h : Inv s actor)
    (hcancelled : (s.tasks i).cancelled = true)
    (hs : cancelPc s i closed (s.tasks i).pc = some s') : ∃ actor', Inv s' actor' := by
  obtain ⟨isOpen, inProgress, rfl, hopen, hin, hout⟩ := cancelPc_cases hs
  by_cases hactor : actor = some i
  · subst hactor
    have hbase : Base { s with isOpen := isOpen, inProgress := inProgress } (some i) :=
      h.toBase.congr rfl rfl rfl rfl (fun _ => id) (fun _ => id) id
    refine ⟨none, ⟨hbase.finish, ?_, trivial, ?_⟩,
      h.mode.after_cancel hcancelled rfl rfl rfl rfl rfl⟩
    · change inProgress = false
      cases hpc : (s.tasks i).pc.inSequence with
      | true => exact hin hpc
      | false => exact (hout hpc).2.trans (h.progress.trans hpc)
    · intro c hc
      obtain ⟨hwas, hne⟩ := hopen c hc
      rcases h.opened c hwas with hm | ho | hj
      · exact .inl hm
      · exact absurd ho hne
      · exact .inr (.inr hj)
  · obtain ⟨rfl, rfl⟩ := hout (h.inert i hactor).not_inSequence
    exact ⟨actor, h.finishOther hactor⟩

end Meshpoint.CompanionPort
