import Meshpoint.PortTasks

/-!
# One owner of the port

`stop` and the call of `set_radio_params` keep the invariant as well, so every step does, and
`oneOwner_run` follows by induction over the run.
-/

namespace Meshpoint.CompanionPort

open GuardedRun Function

/-! ### `stop` -/

theorem Quiet.requestCancel {s : State} {actor : Option Nat} {t : Nat} (h : Quiet s actor)
    (hkind : (s.tasks t).kind = .health) : Quiet (requestCancel s t) actor := by
  rcases h with hnone | ⟨i, hi, hearly⟩
  · exact .inl hnone
  · refine .inr ⟨i, hi, hearly.congr (tasks_requestCancel_of_ne s ?_)⟩
    rintro rfl
    rw [hearly.kind] at hkind
    cases hkind

theorem Quiet.ne_opening {s : State} {actor : Option Nat} (h : Quiet s actor) (c : Nat) :
    actorPc s actor ≠ .opening c := by
  rcases h with rfl | ⟨i, rfl, hearly⟩
  · nofun
  · exact hearly.ne_opening c

theorem Quiet.facts {s s' : State} {actor : Option Nat} (h : Quiet s actor)
    (hfacts : PcFacts s.connected s.meshcore (actorPc s actor))
    (hactor : actorPc s' actor = actorPc s actor)
    (hconnected : s'.connected = s.connected ∨ s'.connected = false)
    (hmeshcore : s'.meshcore = s.meshcore ∨ s'.meshcore = none) :
    PcFacts s'.connected s'.meshcore (actorPc s' actor) := by
  rw [hactor]
  have hoff : s.connected = false → s'.connected = false :=
    fun hwas => hconnected.elim (fun heq => heq.trans hwas) id
  rcases h with rfl | ⟨i, rfl, hearly⟩
  · trivial
  · rcases hearly.pc with hpc | hpc | ⟨conn, hpc⟩
    · rw [show actorPc s (some i) = .created from hpc]
      trivial
    · rw [show actorPc s (some i) = .stopFetching from hpc] at hfacts ⊢
      exact hoff hfacts
    · rw [show actorPc s (some i) = .closing conn from hpc] at hfacts ⊢
      refine ⟨hoff hfacts.1, ?_⟩
      rcases hmeshcore with hm | hm
      · rw [hm]
        exact hfacts.2
      · exact .inr hm

/-- `stop` has begun. -/
structure Stopping (s : State) (actor : Option Nat) : Prop extends Core s actor where
  running : s.running = false
  calls : ∀ j, s.calls j = .finished

namespace Stopping

variable {s : State} {actor : Option Nat} {t : Nat}

theorem inv (h : Stopping s actor) (pc : StopPc) (hpc : StopFacts s actor pc) :
    Inv { s with stop := pc } actor :=
  ⟨h.toCore.setStop pc, .stopping h.running h.calls (hpc.mono
    (fun _ ha => .inl (ha.congr fun _ _ => rfl)) (fun hq => hq.congr fun _ _ => rfl) (.inl rfl))⟩

theorem drop {i : Nat} (h : Stopping s (some i)) (hfinished : (s.tasks i).pc = .finished) :
    Stopping s none :=
  ⟨h.toCore.drop hfinished, h.running, h.calls⟩

theorem requestCancel (h : Stopping s actor) (t : Nat) : Stopping (requestCancel s t) actor :=
  ⟨h.toCore.requestCancel t, h.running, h.calls⟩

theorem forgetHealth (h : Stopping s actor) : Stopping { s with healthTask := none } actor :=
  ⟨h.toCore.forgetHealth, h.running, h.calls⟩

theorem forgetReconnect (h : Stopping s actor) : Stopping { s with reconnectTask := none } actor :=
  ⟨h.toCore.forgetReconnect, h.running, h.calls⟩

theorem quiet_of_done (h : Stopping s actor) (hwait : Awaited s actor t ∨ Quiet s actor)
    (hdone : (s.tasks t).pc = .finished) : ∃ actor', Stopping s actor' ∧ Quiet s actor' := by
  rcases hwait with (rfl | ⟨rfl, -⟩) | hquiet
  · exact ⟨none, h, .inl rfl⟩
  · exact ⟨none, h.drop hdone, .inl rfl⟩
  · exact ⟨actor, h, hquiet⟩

theorem disconnect (h : Stopping s actor) (hquiet : Quiet s actor) :
    Inv (stopDisconnect s) actor := by
  have hoff : Stopping { s with connected := false } actor := by
    refine ⟨⟨h.toBase.congr rfl rfl rfl rfl (fun _ => id) (fun _ => id) Off.disconnect, h.progress,
      ?_, h.opened⟩,
      h.running, h.calls⟩
    exact hquiet.facts h.facts rfl (.inr rfl) (.inl rfl)
  have hquiet' : Quiet { s with connected := false } actor := hquiet.congr fun _ _ => rfl
  unfold stopDisconnect
  split
  · exact hoff.inv .stopFetching hquiet'
  · next hm => exact hoff.inv .stopped ⟨hquiet', hm⟩

theorem cancelHealth (h : Stopping s actor)
    (hwho : Quiet s actor ∨ ∃ t, actor = some t ∧ s.healthTask = some t) :
    ∃ actor', Inv (stopCancelHealth s) actor' := by
  unfold stopCancelHealth
  split
  · next hnone =>
      refine ⟨actor, h.disconnect ?_⟩
      rcases hwho with hquiet | ⟨t, -, ht⟩
      · exact hquiet
      · rw [hnone] at ht
        cases ht
  · next t ht =>
      have hkind := (h.health t ht).2
      have hwait : Awaited (CompanionPort.requestCancel s t) actor t ∨
          Quiet (CompanionPort.requestCancel s t) actor := by
        rcases hwho with hquiet | ⟨k, hk, hhealth⟩
        · exact .inr (hquiet.requestCancel hkind)
        · rw [ht] at hhealth
          cases hhealth
          refine .inl (.inr ⟨hk, ?_⟩)
          rw [tasks_requestCancel_self]
      split
      · next hdone =>
          have hpc := (tasks_requestCancel s t t).1.trans (of_decide_eq_true hdone)
          obtain ⟨actor', hstopping, hquiet⟩ := (h.requestCancel t).quiet_of_done hwait hpc
          exact ⟨actor', hstopping.forgetHealth.disconnect (hquiet.congr fun _ _ => rfl)⟩
      · exact ⟨actor, (h.requestCancel t).inv (.awaitingHealth t) hwait⟩

theorem cancelReconnect (h : Stopping s actor) (howned : Owned s actor) :
    ∃ actor', Inv (stopCancelReconnect s) actor' := by
  have hwho : (∀ t, s.reconnectTask = some t → (s.tasks t).pc = .finished) →
      ∃ actor', Stopping s actor' ∧
        (actor' = none ∨ ∃ t, actor' = some t ∧ s.healthTask = some t) := by
    intro hdone
    cases actor with
    | none => exact ⟨none, h, .inl rfl⟩
    | some i =>
      obtain ⟨-, hreconnect, hhealth⟩ := howned.live i rfl
      cases hkind : (s.tasks i).kind with
      | health => exact ⟨some i, h, .inr ⟨i, rfl, hhealth hkind⟩⟩
      | reconnect => exact ⟨none, h.drop (hdone i (hreconnect hkind)), .inl rfl⟩
  unfold stopCancelReconnect
  split
  · next hnone =>
      obtain ⟨actor', hstopping, hactor⟩ := hwho (by rw [hnone]; nofun)
      exact hstopping.cancelHealth (hactor.imp_left .inl)
  · next r hr =>
      split
      · next hdone =>
          have hpc : (s.tasks r).pc = .finished := of_decide_eq_true hdone
          obtain ⟨actor', hstopping, hactor⟩ := hwho (by rw [hr]; rintro t ⟨⟩; exact hpc)
          exact (hstopping.requestCancel r).forgetReconnect.cancelHealth (hactor.imp_left .inl)
      · next hrunning =>
          have hactor := (howned.reconnect r hr).resolve_left
            (fun hpc => hrunning (decide_eq_true hpc))
          refine ⟨actor, (h.requestCancel r).inv (.awaitingReconnect r) (.inl (.inr ⟨hactor, ?_⟩))⟩
          rw [tasks_requestCancel_self]

end Stopping

theorem Inv.stop {s : State} {actor : Option Nat} (h : Inv s actor) (hno : NoCall s)
    (hstop : s.stop = .notCalled) :
    ∃ actor', Inv (stopCancelReconnect { s with running := false }) actor' := by
  have hcalls := h.toBase.calls_finished hno
  have hstopping : Stopping { s with running := false } actor :=
    ⟨h.toCore.congr (h.toBase.congr rfl rfl rfl rfl (fun _ => id) (fun _ => id) Off.stop) rfl rfl
      rfl rfl rfl rfl, rfl, hcalls⟩
  cases h.mode with
  | normal running stop calls owned =>
    exact hstopping.cancelReconnect ⟨owned.live, owned.health, owned.reconnect⟩
  | applying j running stop others facts =>
    rw [hcalls j] at facts
    exact facts.elim
  | stopping running calls facts =>
    rw [hstop] at facts
    exact facts.elim

theorem Inv.runStop {s s' : State} {actor : Option Nat} (h : Inv s actor)
    (hs : runStopPc s s.stop = some s') : ∃ actor', Inv s' actor' := by
  have hstopped : s.stop ≠ .notCalled := by
    intro hstop
    rw [hstop] at hs
    cases hs
  cases h.mode with
  | normal running stop calls owned => exact absurd stop hstopped
  | applying j running stop others facts => exact absurd stop hstopped
  | stopping running calls facts =>
    have hstopping : Stopping s actor := ⟨h.toCore, running, calls⟩
    cases hpc : s.stop with
    | notCalled => exact absurd hpc hstopped
    | stopped =>
      rw [hpc] at hs
      cases hs
    | awaitingReconnect r =>
      rw [hpc] at hs facts
      simp only [runStopPc] at hs
      split at hs
      · next hdone =>
          cases hs
          obtain ⟨actor', hleft, hquiet⟩ := hstopping.quiet_of_done facts (of_decide_eq_true hdone)
          exact hleft.forgetReconnect.cancelHealth (.inl (hquiet.congr fun _ _ => rfl))
      · cases hs
    | awaitingHealth t =>
      rw [hpc] at hs facts
      simp only [runStopPc] at hs
      split at hs
      · next hdone =>
          cases hs
          obtain ⟨actor', hleft, hquiet⟩ := hstopping.quiet_of_done facts (of_decide_eq_true hdone)
          exact ⟨actor', hleft.forgetHealth.disconnect (hquiet.congr fun _ _ => rfl)⟩
      · cases hs
    | stopFetching =>
      rw [hpc] at hs facts
      simp only [runStopPc] at hs
      split at hs
      · next hm =>
          cases hs
          exact ⟨actor, hstopping.inv .stopped ⟨facts, hm⟩⟩
      · next conn hm =>
          cases hs
          exact ⟨actor, hstopping.inv (.closing conn) ⟨facts, .inl hm⟩⟩
    | closing conn =>
      rw [hpc] at hs facts
      cases hs
      obtain ⟨hquiet, hconn⟩ := facts
      have hattached := attached_closeConn
        ((h.toCore.attached calls hquiet.ne_opening).only hconn) none
      have hclosed : Stopping { closeConn s conn with meshcore := none } actor :=
        ⟨⟨h.toBase.congr rfl rfl rfl rfl (fun _ => id) (fun _ => id) id, h.progress,
          hquiet.facts h.facts rfl (.inl rfl) (.inr rfl), fun c hc => .inl (hattached c hc)⟩,
          running, calls⟩
      exact ⟨actor, hclosed.inv .stopped ⟨hquiet.congr fun _ _ => rfl, rfl⟩⟩

/-! ### `set_radio_params` -/

theorem CallFacts.setCall {s : State} {actor : Option Nat} {pc : CallPc} (h : CallFacts s actor pc)
    (j : Nat) (pc' : CallPc) : CallFacts (setCall s j pc') actor pc :=
  h.congr rfl rfl rfl fun _ _ => rfl

/-- The call is the only one that is under way. -/
structure Calling (s : State) (j : Nat) : Prop where
  running : s.running = true
  stop : s.stop = .notCalled
  others : ∀ k, k ≠ j → s.calls k = .finished
  known : j < s.callCount

namespace Calling

variable {s : State} {actor : Option Nat} {j : Nat}

theorem inv (h : Calling s j) (hbase : Base s actor)
    (hprogress : s.inProgress = (actorPc s actor).inSequence)
    (htask : PcFacts s.connected s.meshcore (actorPc s actor)) (pc : CallPc)
    (hfacts : CallFacts s actor pc)
    (hopened : ∀ c, s.isOpen c = true →
      s.meshcore = some c ∨ actorPc s actor = .opening c ∨ pc.holds c = true) :
    Inv (setCall s j pc) actor := by
  refine ⟨⟨hbase.setCall h.known pc, hprogress, htask, ?_⟩,
    .applying j h.running h.stop ?_ ?_⟩
  · intro c hc
    rcases hopened c hc with hm | ho | hj
    · exact .inl hm
    · exact .inr (.inl ho)
    · refine .inr (.inr ⟨j, ?_⟩)
      rw [calls_setCall_self]
      exact hj
  · intro k hk
    rw [calls_setCall_of_ne s hk]
    exact h.others k hk
  · rw [calls_setCall_self]
    exact hfacts.setCall j pc

theorem waits (h : Calling s j) (hcore : Core s actor) (hidle : ∀ c, (s.calls j).holds c = false)
    (pc : CallPc) (hfacts : CallFacts s actor pc) : Inv (setCall s j pc) actor := by
  refine h.inv hcore.toBase hcore.progress hcore.facts pc hfacts ?_
  intro c hc
  rcases hcore.opened c hc with hm | ho | ⟨k, hk⟩
  · exact .inl hm
  · exact .inr (.inl ho)
  · by_cases heq : k = j
    · rw [heq, hidle] at hk
      cases hk
    · rw [h.others k heq] at hk
      cases hk

theorem disconnect (h : Calling s j) (hcore : Core s none) (hhealth : s.healthTask = none)
    (hidle : ∀ c, (s.calls j).holds c = false) : Inv (callDisconnect s j) none := by
  have hoff : Core { s with inProgress := false, connected := false } none :=
    ⟨hcore.toBase.congr rfl rfl rfl rfl (fun _ => id) (fun _ => id) Off.disconnect, rfl, trivial,
      hcore.opened⟩
  have hcalling : Calling { s with inProgress := false, connected := false } j :=
    ⟨h.running, h.stop, h.others, h.known⟩
  unfold callDisconnect
  split
  · exact hcalling.waits hoff hidle .stopFetching ⟨rfl, hhealth, rfl⟩
  · next hm => exact hcalling.waits hoff hidle (.pulsing .set) ⟨rfl, hhealth, rfl, hm⟩

theorem cancelReconnect (h : Calling s j) (hcore : Core s actor) (hhealth : s.healthTask = none)
    (hidle : ∀ c, (s.calls j).holds c = false)
    (hwho : actor = none ∨ ∃ t, actor = some t ∧ s.reconnectTask = some t) :
    ∃ actor', Inv (callCancelReconnect s j) actor' := by
  unfold callCancelReconnect
  split
  · next hnone =>
      rcases hwho with rfl | ⟨t, -, ht⟩
      · exact ⟨none, h.disconnect hcore hhealth hidle⟩
      · rw [hnone] at ht
        cases ht
  · next r hr =>
      have hcalling : Calling (requestCancel s r) j := ⟨h.running, h.stop, h.others, h.known⟩
      split
      · next hdone =>
          have hpc : (s.tasks r).pc = .finished := of_decide_eq_true hdone
          have hended : Core s none := by
            rcases hwho with rfl | ⟨t, rfl, ht⟩
            · exact hcore
            · rw [hr] at ht
              cases ht
              exact hcore.drop hpc
          have hforgot : Calling { requestCancel s r with reconnectTask := none } j :=
            ⟨h.running, h.stop, h.others, h.known⟩
          exact ⟨none, hforgot.disconnect (hended.requestCancel r).forgetReconnect hhealth hidle⟩
      · refine ⟨actor, hcalling.waits (hcore.requestCancel r) hidle (.awaitingReconnect r)
          ⟨?_, hhealth⟩⟩
        rcases hwho with rfl | ⟨t, rfl, ht⟩
        · exact .inl rfl
        · rw [hr] at ht
          cases ht
          refine .inr ⟨rfl, ?_⟩
          rw [tasks_requestCancel_self]

/-- A radio change begins: the task that is not inert is one of the two that it cancels. -/
theorem cancelHealth (h : Calling s j) (hcore : Core s actor) (howned : Owned s actor)
    (hidle : ∀ c, (s.calls j).holds c = false) : ∃ actor', Inv (callCancelHealth s j) actor' := by
  have hwho : (∀ t, s.healthTask = some t → (s.tasks t).pc = .finished) →
      ∃ actor', Core s actor' ∧
        (actor' = none ∨ ∃ t, actor' = some t ∧ s.reconnectTask = some t) := by
    intro hdone
    cases actor with
    | none => exact ⟨none, hcore, .inl rfl⟩
    | some i =>
      obtain ⟨-, hreconnect, hhealth⟩ := howned.live i rfl
      cases hkind : (s.tasks i).kind with
      | reconnect => exact ⟨some i, hcore, .inr ⟨i, rfl, hreconnect hkind⟩⟩
      | health => exact ⟨none, hcore.drop (hdone i (hhealth hkind)), .inl rfl⟩
  unfold callCancelHealth
  split
  · next hnone =>
      obtain ⟨actor', hcore', hactor⟩ := hwho (by rw [hnone]; nofun)
      exact h.cancelReconnect hcore' hnone hidle hactor
  · next t ht =>
      have hcalling : Calling (requestCancel s t) j := ⟨h.running, h.stop, h.others, h.known⟩
      split
      · next hdone =>
          have hpc : (s.tasks t).pc = .finished := of_decide_eq_true hdone
          obtain ⟨actor', hcore', hactor⟩ := hwho (by rw [ht]; rintro k ⟨⟩; exact hpc)
          have hforgot : Calling { requestCancel s t with healthTask := none } j :=
            ⟨h.running, h.stop, h.others, h.known⟩
          exact hforgot.cancelReconnect (hcore'.requestCancel t).forgetHealth rfl hidle hactor
      · next hrunning =>
          have hactor := (howned.health t ht).resolve_left
            (fun hpc => hrunning (decide_eq_true hpc))
          refine ⟨actor, hcalling.waits (hcore.requestCancel t) hidle (.awaitingHealth t)
            (.inr ⟨hactor, ?_⟩)⟩
          rw [tasks_requestCancel_self]

end Calling

/-- The call has the port to itself. -/
structure Detached (s : State) (j : Nat) : Prop extends Calling s j, Core s none where
  noHealth : s.healthTask = none
  disconnected : s.connected = false
  noMeshcore : s.meshcore = none

namespace Detached

variable {s : State} {j : Nat}

theorem holds_of_open (h : Detached s j) {pc : CallPc} (hpc : s.calls j = pc) {c : Nat}
    (hc : s.isOpen c = true) : pc.holds c = true := by
  rcases h.toCore.opened c hc with hm | ho | ⟨k, hk⟩
  · rw [h.noMeshcore] at hm
    cases hm
  · cases ho
  · by_cases heq : k = j
    · rw [heq, hpc] at hk
      exact hk
    · rw [h.others k heq] at hk
      cases hk

theorem moves (h : Detached s j) (isOpen : Nat → Bool) (conns : Nat) (pc : CallPc)
    (hfacts : CallFacts s none pc) (hopened : ∀ c, isOpen c = true → pc.holds c = true) :
    ∃ actor, Inv (setCall { s with isOpen := isOpen, conns := conns } j pc) actor := by
  have hcalling : Calling { s with isOpen := isOpen, conns := conns } j :=
    ⟨h.running, h.stop, h.others, h.known⟩
  have hbase : Base { s with isOpen := isOpen, conns := conns } none :=
    h.toBase.congr rfl rfl rfl rfl (fun _ => id) (fun _ => id) id
  exact ⟨none, hcalling.inv hbase h.progress trivial pc (hfacts.congr rfl rfl rfl nofun)
    fun c hc => .inr (.inr (hopened c hc))⟩

theorem ends (h : Detached s j) (hclosed : ∀ c, s.isOpen c ≠ true) :
    ∃ actor, Inv (endCall s j) actor := by
  unfold endCall
  rw [if_pos h.running]
  refine ⟨_, inv_spawnReconnect (h.toBase.setCall h.known .finished) ⟨h.running, h.stop, ?_⟩
    h.noHealth h.progress (fun c hc => absurd hc (hclosed c))⟩
  intro k
  by_cases heq : k = j
  · rw [heq, calls_setCall_self]
  · rw [calls_setCall_of_ne s heq]
    exact h.others k heq

theorem close (h : Detached s j) {conn : Nat} (hconn : ∀ c, s.isOpen c = true → c = conn) :
    Detached (closeConn s conn) j ∧ ∀ c, (closeConn s conn).isOpen c ≠ true := by
  have hclosed : ∀ c, (closeConn s conn).isOpen c ≠ true := by
    intro c hc
    have hm := attached_closeConn hconn none c hc
    cases hm
  exact ⟨⟨⟨h.running, h.stop, h.others, h.known⟩,
    ⟨h.toBase.congr rfl rfl rfl rfl (fun _ => id) (fun _ => id) id, h.progress, trivial,
      fun c hc => absurd hc (hclosed c)⟩, h.noHealth, h.disconnected, h.noMeshcore⟩, hclosed⟩

end Detached

theorem Inv.runCall {s s' : State} {actor : Option Nat} {j : Nat} {outcome : Outcome}
    (h : Inv s actor) (hs : runCallPc s j outcome (s.calls j) = some s') :
    ∃ actor', Inv s' actor' := by
  have hunder : s.calls j ≠ .finished := by
    intro hfinished
    rw [hfinished] at hs
    cases hs
  have hknown : j < s.callCount := by
    by_contra hnot
    exact hunder (h.freshCall j (Nat.not_lt.mp hnot))
  cases h.mode with
  | normal running stop calls owned => exact absurd (calls j) hunder
  | stopping running calls facts => exact absurd (calls j) hunder
  | applying k running stop others facts =>
    have heq : j = k := by
      by_contra hne
      exact hunder (others j hne)
    subst heq
    have hcalling : Calling s j := ⟨running, stop, others, hknown⟩
    have hawaited : ∀ {t}, Awaited s actor t → (s.tasks t).pc = .finished → Core s none := by
      rintro t (rfl | ⟨rfl, -⟩) hdone
      · exact h.toCore
      · exact h.toCore.drop hdone
    have hdetached : actor = none ∧ s.healthTask = none ∧ s.connected = false ∧ s.meshcore = none →
        Detached s j := by
      rintro ⟨rfl, hhealth, hconnected, hmeshcore⟩
      exact ⟨hcalling, h.toCore, hhealth, hconnected, hmeshcore⟩
    cases hpc : s.calls j with
    | finished => exact absurd hpc hunder
    | awaitingHealth t =>
      rw [hpc] at hs facts
      simp only [runCallPc] at hs
      split at hs
      · next hdone =>
          cases hs
          have hforgot : Calling { s with healthTask := none } j := ⟨running, stop, others, hknown⟩
          have hcore := hawaited facts (of_decide_eq_true hdone)
          exact hforgot.cancelReconnect hcore.forgetHealth rfl (fun c => by rw [hpc]; rfl)
            (.inl rfl)
      · cases hs
    | awaitingReconnect r =>
      rw [hpc] at hs facts
      simp only [runCallPc] at hs
      split at hs
      · next hdone =>
          cases hs
          have hforgot : Calling { s with reconnectTask := none } j :=
            ⟨running, stop, others, hknown⟩
          have hcore := hawaited facts.1 (of_decide_eq_true hdone)
          exact ⟨none, hforgot.disconnect hcore.forgetReconnect facts.2 (fun c => by rw [hpc]; rfl)⟩
      · cases hs
    | stopFetching =>
      rw [hpc] at hs facts
      obtain ⟨rfl, hhealth, hconnected⟩ := facts
      have hidle : ∀ c, (s.calls j).holds c = false := fun c => by rw [hpc]; rfl
      simp only [runCallPc] at hs
      split at hs
      · next hm =>
          cases hs
          exact ⟨none, hcalling.waits h.toCore hidle (.pulsing .set) ⟨rfl, hhealth, hconnected, hm⟩⟩
      · next conn hm =>
          cases hs
          exact ⟨none, hcalling.waits h.toCore hidle (.closing conn)
            ⟨rfl, hhealth, hconnected, .inl hm⟩⟩
    | closing conn =>
      rw [hpc] at hs facts
      obtain ⟨rfl, hhealth, hconnected, hconn⟩ := facts
      cases hs
      have hattached : Attached s := by
        intro c hc
        rcases h.opened c hc with hm | ho | ⟨k, hk⟩
        · exact hm
        · cases ho
        · by_cases heq : k = j
          · rw [heq, hpc] at hk
            cases hk
          · rw [others k heq] at hk
            cases hk
      have hclosed := attached_closeConn (hattached.only hconn) none
      have hcalling' : Calling { closeConn s conn with meshcore := none } j :=
        ⟨running, stop, others, hknown⟩
      exact ⟨none, hcalling'.inv (h.toBase.congr rfl rfl rfl rfl (fun _ => id) (fun _ => id) id)
        h.progress trivial (.pulsing .set) ⟨rfl, hhealth, hconnected, rfl⟩
        fun c hc => .inl (hclosed c hc)⟩
    | pulsing round =>
      rw [hpc] at hs facts
      have hd := hdetached facts
      cases hs
      refine hd.moves s.isOpen s.conns (.settling round) ⟨rfl, facts.2⟩ ?_
      intro c hc
      cases hd.holds_of_open hpc hc
    | settling round =>
      rw [hpc] at hs facts
      have hd := hdetached facts
      cases hs
      refine hd.moves (update s.isOpen s.conns true) (s.conns + 1) (.opening round s.conns)
        ⟨rfl, facts.2⟩ ?_
      intro c hc
      by_cases heq : c = s.conns
      · exact decide_eq_true heq.symm
      · rw [update_of_ne heq] at hc
        cases hd.holds_of_open hpc hc
    | opening round conn =>
      rw [hpc] at hs facts
      have hd := hdetached facts
      cases outcome with
      | ok =>
        cases hs
        exact hd.moves s.isOpen s.conns (.talking round conn) ⟨rfl, facts.2⟩
          fun c hc => hd.holds_of_open hpc hc
      | nothing | raised =>
        cases hs
        obtain ⟨hd', hclosed⟩ := hd.close
          fun c hc => (of_decide_eq_true (hd.holds_of_open hpc hc)).symm
        exact hd'.ends hclosed
    | talking round conn =>
      rw [hpc] at hs facts
      have hd := hdetached facts
      cases hs
      exact hd.moves s.isOpen s.conns (.leaving round conn (outcome = .ok)) ⟨rfl, facts.2⟩
        fun c hc => hd.holds_of_open hpc hc
    | leaving round conn goOn =>
      rw [hpc] at hs facts
      have hd := hdetached facts
      obtain ⟨hd', hclosed⟩ := hd.close
        fun c hc => (of_decide_eq_true (hd.holds_of_open hpc hc)).symm
      simp only [runCallPc] at hs
      split at hs
      · cases hs
        exact hd'.moves (closeConn s conn).isOpen s.conns .rebooting
          ⟨rfl, hd'.noHealth, hd'.disconnected, hd'.noMeshcore⟩ fun c hc => absurd hc (hclosed c)
      · cases hs
        exact hd'.ends hclosed
    | rebooting =>
      rw [hpc] at hs facts
      have hd := hdetached facts
      cases hs
      refine hd.moves s.isOpen s.conns (.pulsing .verify) ⟨rfl, facts.2⟩ ?_
      intro c hc
      cases hd.holds_of_open hpc hc

theorem Inv.setRadio {s : State} {actor : Option Nat} (h : Inv s actor)
    (hmeets : s.connected = true → s.running = true ∧ NoCall s) :
    ∃ actor', Inv (setRadioParams s) actor' := by
  unfold setRadioParams
  split
  · next hconnected =>
      obtain ⟨hrunning, hno⟩ := hmeets hconnected
      have hcalls := h.toBase.calls_finished hno
      cases h.mode with
      | normal running stop calls owned =>
        have hbase : Base { s with callCount := s.callCount + 1 } actor :=
          ⟨h.freshTask, fun j _ => hcalls j, h.health, h.reconnect, h.inert, h.acting⟩
        have hcalling : Calling { s with callCount := s.callCount + 1 } s.callCount :=
          ⟨running, stop, fun k _ => calls k, Nat.lt_succ_self _⟩
        refine hcalling.cancelHealth (h.toCore.congr hbase rfl rfl rfl rfl rfl rfl)
          ⟨owned.live, owned.health, owned.reconnect⟩ ?_
        intro c
        rw [show s.calls s.callCount = .finished from calls _]
        rfl
      | applying j running stop others facts =>
        rw [hcalls j] at facts
        exact facts.elim
      | stopping running calls facts =>
        rw [running] at hrunning
        cases hrunning
  · exact ⟨actor, h⟩

/-! ### Runs -/

theorem inv_started (outcome : Outcome) : Inv (started outcome) (some 0) := by
  have hfirst : (started outcome).tasks 0 =
      ⟨if outcome = .ok then .health else .reconnect, .created, false⟩ := by
    simp only [started]
    exact update_self ..
  have hother : ∀ i, i ≠ 0 → (started outcome).tasks i = noTask := by
    intro i hi
    simp only [started]
    exact update_of_ne hi ..
  have hpc : actorPc (started outcome) (some 0) = .created := congrArg Task.pc hfirst
  have hhealth : ∀ t, (started outcome).healthTask = some t → t = 0 ∧ outcome = .ok := by
    intro t ht
    cases outcome with
    | ok => exact ⟨(Option.some.inj ht).symm, rfl⟩
    | nothing | raised => cases ht
  have hreconnect : ∀ t, (started outcome).reconnectTask = some t → t = 0 := by
    intro t ht
    cases outcome with
    | ok => cases ht
    | nothing | raised => exact (Option.some.inj ht).symm
  refine ⟨⟨⟨?_, fun _ _ => rfl, ?_, ?_, ?_, ?_⟩, ?_, ?_, ?_⟩,
    .normal rfl rfl (fun _ => rfl) ⟨?_, ?_, ?_⟩⟩
  · intro i hi
    rw [hother i (Nat.pos_iff_ne_zero.mp hi)]
    rfl
  · intro t ht
    obtain ⟨rfl, rfl⟩ := hhealth t ht
    exact ⟨Nat.one_pos, congrArg Task.kind hfirst⟩
  · intro t ht
    rw [hreconnect t ht]
    exact Nat.one_pos
  · intro i hi
    refine .finished ?_
    rw [hother i (fun heq => hi (congrArg some heq.symm))]
    rfl
  · rintro i ⟨⟩
    exact Nat.one_pos
  · rw [hpc]
    rfl
  · rw [hpc]
    trivial
  · intro c hc
    left
    have hopen : update (fun _ => false) 0 (decide (outcome ≠ .nothing)) c = true := hc
    by_cases heq : c = 0
    · rw [heq, update_self] at hopen
      rw [heq]
      exact if_neg (of_decide_eq_true hopen)
    · rw [update_of_ne heq] at hopen
      cases hopen
  · rintro i ⟨⟩
    rw [hfirst]
    cases outcome with
    | ok => exact ⟨rfl, nofun, fun _ => rfl⟩
    | nothing | raised => exact ⟨rfl, fun _ => rfl, nofun⟩
  · intro t ht
    rw [(hhealth t ht).1]
    exact .inr rfl
  · intro t ht
    rw [hreconnect t ht]
    exact .inr rfl

theorem Inv.step {s s' : State} {actor : Option Nat} {e : Event} (h : Inv s actor)
    (hmeets : Meets s e) (hs : step s e = some s') : ∃ actor', Inv s' actor' := by
  cases e with
  | run i outcome =>
    simp only [CompanionPort.step] at hs
    split at hs
    · cases hs
    · next hnot => exact h.run (Bool.eq_false_iff.mpr hnot) hmeets hs
  | cancel i closed =>
    simp only [CompanionPort.step] at hs
    split at hs
    · next hcancelled => exact h.cancel hcancelled hs
    · cases hs
  | command =>
    simp only [CompanionPort.step] at hs
    cases hs
    split
    · exact ⟨actor, h.setCommands _⟩
    · exact ⟨actor, h⟩
  | commandEnds =>
    simp only [CompanionPort.step] at hs
    split at hs
    · cases hs
    · cases hs
      exact ⟨actor, h.setCommands _⟩
  | commandTimesOut =>
    simp only [CompanionPort.step] at hs
    split at hs
    · cases hs
    · cases hs
      exact (h.setCommands _).trigger hmeets
  | setRadio =>
    cases hs
    exact h.setRadio hmeets
  | runCall j outcome => exact h.runCall hs
  | stop =>
    simp only [CompanionPort.step] at hs
    split at hs
    · next hstop =>
        cases hs
        exact h.stop hmeets hstop
    · cases hs
  | runStop => exact h.runStop hs

/-- **One owner of the port.**  In a run whose events meet the condition, one connection is open at
    most and one reconnect runs, and after `stop` no connection is open. -/
theorem oneOwner_run : ∀ (outcome : Outcome) (s : State),
    Reaches step Meets (started outcome) s → OneOwner s := by
  intro outcome s hreach
  have hinv : ∃ actor, Inv s actor :=
    hreach.invariant (I := fun s => ∃ actor, Inv s actor) ⟨some 0, inv_started outcome⟩
      fun s e s' ⟨actor, h⟩ hmeets hs => h.step hmeets hs
  obtain ⟨actor, h⟩ := hinv
  exact h.oneOwner

/-- A command times out, the reconnect closes the connection and makes another, and `stop` closes
    that one. -/
def commandThenStop : List Event :=
  [.run 0 .ok, .command, .commandTimesOut, .cancel 0 false] ++ List.replicate 8 (.run 1 .ok) ++
    [.stop, .cancel 2 false, .runStop, .runStop, .runStop]

theorem oneOwner_stopped : ∃ s, OneOwner s ∧ s.stop = .stopped ∧ s.conns = 2 := by
  have hreplay : ((replay step Meets (started .ok) commandThenStop).map
      fun s => (s.stop, s.conns)) = some (.stopped, 2) := by decide +kernel
  obtain ⟨s, hreach, hs⟩ := exists_reaches_of_replay commandThenStop hreplay
  exact ⟨s, oneOwner_run .ok s hreach, congrArg Prod.fst hs, congrArg Prod.snd hs⟩

/-- Two radio changes that both find the source connected. -/
def twoRadioChanges : List Event :=
  [.run 0 .ok, .setRadio, .setRadio, .cancel 0 false] ++
    (List.replicate 5 [.runCall 0 .ok, .runCall 1 .ok]).flatten

/-- `stop` in the middle of a radio change. -/
def stopInRadioChange : List Event :=
  [.run 0 .ok, .setRadio, .cancel 0 false] ++ List.replicate 4 (.runCall 0 .ok) ++
    [.stop, .runCall 0 .ok]

/-- **Two radio changes** have two connections open, and one goes on **after `stop`**. -/
theorem radio_changes_overlap :
    (∃ s, Reaches step Always (started .ok) s ∧ s.isOpen 1 = true ∧ s.isOpen 2 = true ∧
      ¬ OneOwner s) ∧
    ∃ s, Reaches step Always (started .ok) s ∧ s.stop = .stopped ∧ s.isOpen 1 = true ∧
      ¬ OneOwner s := by
  have htwo : ((replay step Always (started .ok) twoRadioChanges).map
      fun s => (s.isOpen 1, s.isOpen 2)) = some (true, true) := by decide +kernel
  have hafter : ((replay step Always (started .ok) stopInRadioChange).map
      fun s => (s.stop, s.isOpen 1)) = some (.stopped, true) := by decide +kernel
  constructor
  · obtain ⟨s, hreach, hs⟩ := exists_reaches_of_replay twoRadioChanges htwo
    have hfirst := congrArg Prod.fst hs
    have hsecond := congrArg Prod.snd hs
    refine ⟨s, hreach, hfirst, hsecond, ?_⟩
    intro hone
    cases hone.connection 1 2 hfirst hsecond
  · obtain ⟨s, hreach, hs⟩ := exists_reaches_of_replay stopInRadioChange hafter
    have hstop := congrArg Prod.fst hs
    have hopen := congrArg Prod.snd hs
    refine ⟨s, hreach, hstop, hopen, ?_⟩
    intro hone
    rw [show s.isOpen 1 = false from hone.stopped hstop 1] at hopen
    cases hopen

end Meshpoint.CompanionPort
