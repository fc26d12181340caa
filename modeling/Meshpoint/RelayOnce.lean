import Meshpoint.GuardedRun
import Meshpoint.RelayManager

/-!
# Relaying a packet once

Runs of the relay manager over received packets.  The filter of seen packets keeps a packet
apart from its copies while it remembers it: until its time is up or as many other packets
as it has room for have come (`Remembered`).  It remembers received packets only, so the
echo of a frame of our own is a packet like any other.
-/

namespace Meshpoint.RelayOnce

open GuardedRun PyText RelayManager

/-! ### What the filter remembers -/

section

variable {filter : DeduplicationFilter} {now time : ℚ} {key : String}

/-- The key was recorded at a time, and at most `n` others after it. -/
def Holds (filter : DeduplicationFilter) (key : String) (time : ℚ) (n : Nat) : Prop :=
  ∃ before after, filter.seen.items = before ++ (key, time) :: after ∧ after.length ≤ n

theorem Holds.mono {n m : Nat} (h : Holds filter key time n) (hle : n ≤ m) :
    Holds filter key time m := by
  obtain ⟨before, after, hitems, hlength⟩ := h
  exact ⟨before, after, hitems, hlength.trans hle⟩

theorem Holds.get? {n : Nat} (h : Holds filter key time n) : filter.seen.get? key = some time := by
  obtain ⟨before, after, hitems, -⟩ := h
  rw [OrderedDict.get?_eq_some_iff, hitems]
  exact List.mem_append_right _ List.mem_cons_self

theorem dropWhile_append_cons {α : Type} {p : α → Bool} (before : List α) {x : α}
    (hx : p x = false) (after : List α) :
    ∃ before', (before ++ x :: after).dropWhile p = before' ++ x :: after := by
  induction before with
  | nil =>
    refine ⟨[], ?_⟩
    rw [List.nil_append, List.dropWhile_cons, hx]
    rfl
  | cons y rest ih =>
    rw [List.cons_append, List.dropWhile_cons]
    split
    · exact ih
    · exact ⟨y :: rest, rfl⟩

theorem Holds.evictExpired {n : Nat} (h : Holds filter key time n)
    (hyoung : now < time + filter.ttl) : Holds (filter.evictExpired now) key time n := by
  obtain ⟨before, after, hitems, hlength⟩ := h
  let expired : String × ℚ → Bool := fun entry => decide (entry.2 ≤ now - filter.ttl)
  have hkeep : expired (key, time) = false := by
    apply decide_eq_false
    rw [not_le, sub_lt_iff_lt_add]
    exact hyoung
  obtain ⟨before', hdrop⟩ := dropWhile_append_cons before hkeep after
  refine ⟨before', after, ?_, hlength⟩
  change filter.seen.items.dropWhile _ = _
  rw [hitems]
  exact hdrop

theorem Holds.enforceMaxSize {n : Nat} (h : Holds filter key time n) (hroom : n < filter.maxEntries) :
    Holds filter.enforceMaxSize key time n := by
  obtain ⟨before, after, hitems, hlength⟩ := h
  let excess := filter.seen.items.length - filter.maxEntries
  have hexcess : excess ≤ before.length := by
    have htotal : filter.seen.items.length = before.length + (after.length + 1) := by
      rw [hitems, List.length_append, List.length_cons]
    omega
  refine ⟨before.drop excess, after, ?_, hlength⟩
  change filter.seen.items.drop excess = _
  rw [hitems, List.drop_append_of_le_length hexcess]

theorem Holds.set {n : Nat} {other : String} (h : Holds filter key time n)
    (hother : filter.seen.get? other = none) :
    Holds { filter with seen := filter.seen.set other now } key time (n + 1) := by
  obtain ⟨before, after, hitems, hlength⟩ := h
  refine ⟨before, after ++ [(other, now)], ?_, ?_⟩
  · rw [OrderedDict.items_set_of_not_mem _ _ ((OrderedDict.get?_eq_none_iff _).mp hother), hitems]
    rw [List.append_assoc, List.cons_append]
  · rw [List.length_append]
    exact Nat.succ_le_succ hlength

end

/-! ### Runs -/

/-- A packet that was received, and whether it went to the transmit function. -/
structure Entry (F : Type) where
  now : ℚ
  packet : Packet F
  relayed : Bool

/-- The manager, the last reading of the clock and the packets received, newest first. -/
structure State (F : Type) where
  manager : RelayManager F
  lastNow : Option ℚ := none
  log : List (Entry F) := []

inductive Event (F : Type) where
  | receive (clock : RelayClock) (packet : Packet F)
  | setEnabled (enabled : Bool)
  | setLocalNodeId (nodeHex : String)

section

variable {F : Type} [PyFloat F] (py : Casing)

def ClockOrder (lastNow : Option ℚ) (clock : RelayClock) : Prop :=
  (∀ t ∈ lastNow, t ≤ clock.dedup) ∧ clock.dedup ≤ clock.limiter

instance (lastNow : Option ℚ) (clock : RelayClock) : Decidable (ClockOrder lastNow clock) :=
  inferInstanceAs (Decidable (_ ∧ _))

def step (s : State F) : Event F → Option (State F)
  | .receive clock packet =>
    if ClockOrder s.lastNow clock then
      let (relayed, manager) := s.manager.processPacket py clock packet
      some { manager := manager
             lastNow := some clock.limiter
             log := ⟨clock.dedup, packet, relayed⟩ :: s.log }
    else none
  | .setEnabled enabled => some { s with manager := { s.manager with enabled := enabled } }
  | .setLocalNodeId nodeHex => some { s with manager := s.manager.setLocalNodeId py nodeHex }

def SamePacket (a b : Packet F) : Prop := a.sourceId = b.sourceId ∧ a.packetId = b.packetId

instance (a b : Packet F) : Decidable (SamePacket a b) := inferInstanceAs (Decidable (_ ∧ _))

/-- How many packets of a part of the log are other ones. -/
def others (packet : Packet F) (log : List (Entry F)) : Nat :=
  log.countP fun entry => decide (¬ SamePacket entry.packet packet)

/-- A relay of `packet` at position `i` of the log, at most the window before `now`. -/
def RelayedAt (ttl now : ℚ) (packet : Packet F) (log : List (Entry F)) (i : Nat) : Prop :=
  ∃ a ∈ log[i]?, a.relayed = true ∧ SamePacket a.packet packet ∧ now - a.now < ttl

/-- Every relay has more than `maxEntries` other packets between it and the relays of the
    same packet in the window before it. -/
def SpacedRelays (ttl : ℚ) (maxEntries : Nat) : List (Entry F) → Prop
  | [] => True
  | b :: log =>
    (b.relayed = true → ∀ i, RelayedAt ttl b.now b.packet log i →
      maxEntries < others b.packet (log.take i)) ∧ SpacedRelays ttl maxEntries log

/-- The relay sends no frame of this node, and no packet twice within the window. -/
structure RelaysOnce (ourNodeHex : String) (s : State F) : Prop where
  foreign : ∀ entry ∈ s.log, entry.relayed = true → entry.packet.sourceId ≠ ourNodeHex
  spaced : SpacedRelays s.manager.dedup.ttl s.manager.dedup.maxEntries s.log

def Stopped (m : RelayManager F) (clock : RelayClock) (packet : Packet F) : Prop :=
  m.enabled = false ∨
    (m.dedup.isDuplicate clock.dedup packet.sourceId packet.packetId).1 = true ∨
    packet.hopLimit = 0 ∨ m.isDestLocal py packet = true ∨
    RELAY_WORTHY_TYPES.contains packet.packetType = false ∨
    (m.signalReason packet.signal).isSome = true ∨ (m.limiter.allow clock.limiter).1 = false

instance (m : RelayManager F) (clock : RelayClock) (packet : Packet F) :
    Decidable (Stopped py m clock packet) := inferInstanceAs (Decidable (_ ∨ _))

/-- The packet was relayed within the window and exactly as many others have come since as
    the filter has room for. -/
def AtCap (s : State F) (now : ℚ) (packet : Packet F) : Prop :=
  ∃ i < s.log.length, RelayedAt s.manager.dedup.ttl now packet s.log i ∧
    others packet (s.log.take i) = s.manager.dedup.maxEntries

instance (s : State F) (now : ℚ) (packet : Packet F) : Decidable (AtCap s now packet) :=
  inferInstanceAs (Decidable (∃ i < s.log.length, (∃ a ∈ s.log[i]?, _) ∧ _))

/-- A frame of this node, or a packet right at the cap, is stopped by a filter. -/
def Covered (ourNodeHex : String) (s : State F) : Event F → Prop
  | .receive clock packet =>
    packet.sourceId = ourNodeHex ∨ AtCap s clock.dedup packet → Stopped py s.manager clock packet
  | _ => True

instance (ourNodeHex : String) : ∀ (s : State F) (e : Event F),
    Decidable (Covered py ourNodeHex s e)
  | s, .receive clock packet => inferInstanceAs (Decidable (_ ∨ AtCap s clock.dedup packet → _))
  | _, .setEnabled _ => inferInstanceAs (Decidable True)
  | _, .setLocalNodeId _ => inferInstanceAs (Decidable True)

/-! ### One decision -/

variable {py}

theorem signalReason_ne_approved (m : RelayManager F) (signal : Option (SignalMetrics F)) :
    m.signalReason signal ≠ some .approved := by
  cases signal with
  | none =>
    intro h
    cases h
  | some signal =>
    simp only [signalReason]
    split
    · decide
    · split
      · decide
      · decide

theorem evaluate_approved_iff {m : RelayManager F} {clock : RelayClock} {packet : Packet F} :
    (m.evaluate py clock packet).1 = .approved ↔ ¬ Stopped py m clock packet := by
  have hreason : ∀ dedup, signalReason { m with dedup := dedup } packet.signal =
      m.signalReason packet.signal := by
    intro dedup
    cases packet.signal with
    | none => rfl
    | some signal => rfl
  unfold evaluate Stopped
  constructor
  · intro h
    split at h
    · cases h
    · rename_i henabled
      simp only at h
      split at h
      · cases h
      · rename_i hdup
        split at h
        · cases h
        · rename_i hhops
          split at h
          · cases h
          · rename_i hlocal
            split at h
            · cases h
            · rename_i htype
              split at h
              · rename_i reason hsome
                rw [hreason] at hsome
                cases h
                exact absurd hsome (signalReason_ne_approved m packet.signal)
              · rename_i hnone
                rw [hreason] at hnone
                split at h
                · rename_i hallow
                  rintro (h | h | h | h | h | h | h)
                  · exact henabled h
                  · exact hdup h
                  · exact hhops h
                  · exact hlocal h
                  · exact htype h
                  · rw [hnone] at h
                    cases h
                  · rw [h] at hallow
                    cases hallow
                · cases h
  · intro h
    simp only [not_or] at h
    obtain ⟨henabled, hdup, hhops, hlocal, htype, hsignal, hallow⟩ := h
    have hnone : m.signalReason packet.signal = none := by
      rw [← Option.not_isSome_iff_eq_none]
      exact hsignal
    rw [Bool.not_eq_false] at hallow
    have hlocal' : ∀ dedup, ¬ isDestLocal py { m with dedup := dedup } packet = true :=
      fun _ => hlocal
    simp only [if_neg henabled, if_neg hdup, if_neg hhops, if_neg (hlocal' _), if_neg htype,
      hreason, hnone, hallow, if_true]

variable (py) in
theorem evaluate_dedup (m : RelayManager F) (clock : RelayClock) (packet : Packet F) :
    (m.evaluate py clock packet).2.dedup =
      if m.enabled = false then m.dedup
      else (m.dedup.isDuplicate clock.dedup packet.sourceId packet.packetId).2 := by
  unfold evaluate
  split
  · rfl
  · simp only
    split
    · rfl
    · split
      · rfl
      · split
        · rfl
        · split
          · rfl
          · split
            · rfl
            · split
              · rfl
              · rfl

theorem processPacket_relayed_iff {m : RelayManager F} {clock : RelayClock} {packet : Packet F} :
    (m.processPacket py clock packet).1 = true ↔ ¬ Stopped py m clock packet := by
  rw [← evaluate_approved_iff]
  unfold processPacket
  split
  · rename_i m' heval
    rw [heval]
    exact ⟨fun _ => rfl, fun _ => rfl⟩
  · rename_i reason m' hne heval
    rw [heval]
    constructor
    · intro h
      cases h
    · intro h
      exact absurd h hne

variable (py) in
theorem processPacket_dedup (m : RelayManager F) (clock : RelayClock) (packet : Packet F) :
    (m.processPacket py clock packet).2.dedup =
      if m.enabled = false then m.dedup
      else (m.dedup.isDuplicate clock.dedup packet.sourceId packet.packetId).2 := by
  rw [← evaluate_dedup py]
  unfold processPacket
  split
  · rename_i m' heval
    rw [heval]
  · rename_i reason m' hne heval
    rw [heval]

/-! ### What one decision remembers -/

def keyOf (packet : Packet F) : String := packet.sourceId ++ ":" ++ packet.packetId

omit [PyFloat F] in
theorem keyOf_eq_of_samePacket {a b : Packet F} (h : SamePacket a b) : keyOf a = keyOf b := by
  unfold keyOf
  rw [h.1, h.2]

/-- A sighting that `n` other packets have followed is still known, or there were too many, or
    its time is up. -/
def Remembered (filter : DeduplicationFilter) (lastNow : Option ℚ) (key : String) (time : ℚ)
    (n : Nat) : Prop :=
  Holds filter key time n ∨ filter.maxEntries ≤ n ∨ ∃ t ∈ lastNow, time + filter.ttl ≤ t

section

variable {filter : DeduplicationFilter} {now time : ℚ} {key : String} {packet : Packet F} {n : Nat}

omit [PyFloat F] in
theorem isDuplicate_settings (filter : DeduplicationFilter) (now : ℚ) (sourceId packetId : String) :
    (filter.isDuplicate now sourceId packetId).2.ttl = filter.ttl ∧
      (filter.isDuplicate now sourceId packetId).2.maxEntries = filter.maxEntries := by
  unfold DeduplicationFilter.isDuplicate
  simp only
  split
  · exact ⟨rfl, rfl⟩
  · exact ⟨rfl, rfl⟩

omit [PyFloat F] in
theorem isDuplicate_of_holds (h : Holds filter (keyOf packet) time n)
    (hyoung : now < time + filter.ttl) :
    (filter.isDuplicate now packet.sourceId packet.packetId).1 = true := by
  have hget := (h.evictExpired hyoung).get?
  unfold keyOf at hget
  unfold DeduplicationFilter.isDuplicate
  simp only [hget]

omit [PyFloat F] in
theorem isDuplicate_holds (h : Holds filter key time n) (hyoung : now < time + filter.ttl)
    (packet : Packet F) :
    let next := (filter.isDuplicate now packet.sourceId packet.packetId).2
    Holds next key time n ∨
      (keyOf packet ≠ key ∧ (Holds next key time (n + 1) ∨ filter.maxEntries ≤ n + 1)) := by
  have hkept := h.evictExpired hyoung
  unfold DeduplicationFilter.isDuplicate
  simp only
  cases hget : (filter.evictExpired now).seen.get? (packet.sourceId ++ ":" ++ packet.packetId) with
  | some t => exact Or.inl hkept
  | none =>
    refine Or.inr ⟨?_, ?_⟩
    · rintro rfl
      have hsome := hkept.get?
      rw [keyOf, hget] at hsome
      cases hsome
    · rcases Nat.lt_or_ge (n + 1) filter.maxEntries with hroom | hfull
      · exact Or.inl ((hkept.set hget).enforceMaxSize hroom)
      · exact Or.inr hfull

omit [PyFloat F] in
theorem isDuplicate_records
    (h : (filter.isDuplicate now packet.sourceId packet.packetId).1 = false) :
    Holds (filter.isDuplicate now packet.sourceId packet.packetId).2 (keyOf packet) now 0 ∨
      filter.maxEntries ≤ 0 := by
  unfold DeduplicationFilter.isDuplicate at h ⊢
  simp only at h ⊢
  cases hget : (filter.evictExpired now).seen.get? (packet.sourceId ++ ":" ++ packet.packetId) with
  | some t =>
    rw [hget] at h
    cases h
  | none =>
    have hset : Holds { filter.evictExpired now with
        seen := (filter.evictExpired now).seen.set (keyOf packet) now } (keyOf packet) now 0 := by
      refine ⟨(filter.evictExpired now).seen.items, [], ?_, Nat.le_refl 0⟩
      exact OrderedDict.items_set_of_not_mem _ _ ((OrderedDict.get?_eq_none_iff _).mp hget)
    rcases Nat.lt_or_ge 0 filter.maxEntries with hroom | hfull
    · exact Or.inl (hset.enforceMaxSize hroom)
    · exact Or.inr hfull

end

/-! ### Runs -/

def Inv (s : State F) : Prop :=
  ∀ i a, s.log[i]? = some a → a.relayed = true →
    Remembered s.manager.dedup s.lastNow (keyOf a.packet) a.now
      (others a.packet (s.log.take i))

omit [PyFloat F] in
theorem others_cons (packet : Packet F) (entry : Entry F) (log : List (Entry F)) :
    others packet (entry :: log) =
      others packet log + if SamePacket entry.packet packet then 0 else 1 := by
  unfold others
  rw [List.countP_cons]
  by_cases h : SamePacket entry.packet packet
  · simp [h]
  · simp [h]

omit [PyFloat F] in
theorem others_congr {a b : Packet F} (h : SamePacket a b) (log : List (Entry F)) :
    others a log = others b log := by
  apply List.countP_congr
  intro entry _
  have hiff : SamePacket entry.packet a ↔ SamePacket entry.packet b := by
    unfold SamePacket
    rw [h.1, h.2]
  simp [hiff]

omit [PyFloat F] in
/-- What is remembered before a decision is remembered after it, with one more packet. -/
theorem Remembered.next {filter : DeduplicationFilter} {lastNow : Option ℚ} {time : ℚ} {n : Nat}
    {a packet : Packet F} {clock : RelayClock} (h : Remembered filter lastNow (keyOf a) time n)
    (hclock : ClockOrder lastNow clock) :
    Remembered (filter.isDuplicate clock.dedup packet.sourceId packet.packetId).2
      (some clock.limiter) (keyOf a) time (n + if SamePacket packet a then 0 else 1) := by
  obtain ⟨httl, hmax⟩ := isDuplicate_settings filter clock.dedup packet.sourceId packet.packetId
  unfold Remembered
  rw [httl, hmax]
  by_cases hyoung : clock.dedup < time + filter.ttl
  · rcases h with hholds | hfull | ⟨t, ht, hle⟩
    · rcases isDuplicate_holds hholds hyoung packet with hkept | ⟨hother, hkept⟩
      · exact Or.inl (hkept.mono (Nat.le_add_right _ _))
      · rw [if_neg fun hsame => hother (keyOf_eq_of_samePacket hsame)]
        rcases hkept with hkept | hfull
        · exact Or.inl hkept
        · exact Or.inr (Or.inl hfull)
    · exact Or.inr (Or.inl (hfull.trans (Nat.le_add_right _ _)))
    · exact absurd (hle.trans (hclock.1 t ht)) (not_le_of_gt hyoung)
  · exact Or.inr (Or.inr ⟨clock.limiter, rfl, (le_of_not_gt hyoung).trans hclock.2⟩)

omit [PyFloat F] in
theorem Remembered.idle {filter : DeduplicationFilter} {lastNow : Option ℚ} {time : ℚ} {n m : Nat}
    {key : String} {clock : RelayClock} (h : Remembered filter lastNow key time n)
    (hclock : ClockOrder lastNow clock) (hle : n ≤ m) :
    Remembered filter (some clock.limiter) key time m := by
  rcases h with hholds | hfull | ⟨t, ht, hexpired⟩
  · exact Or.inl (hholds.mono hle)
  · exact Or.inr (Or.inl (hfull.trans hle))
  · exact Or.inr (Or.inr ⟨clock.limiter, rfl,
      hexpired.trans ((hclock.1 t ht).trans hclock.2)⟩)

/-- A packet that is relayed has as many others between it and an earlier relay in the window
    as the filter has room for. -/
theorem maxEntries_le_others {s : State F} (hinv : Inv s) {clock : RelayClock} {packet : Packet F}
    (hclock : ClockOrder s.lastNow clock) (hpass : ¬ Stopped py s.manager clock packet) {i : Nat}
    (hat : RelayedAt s.manager.dedup.ttl clock.dedup packet s.log i) :
    s.manager.dedup.maxEntries ≤ others packet (s.log.take i) := by
  obtain ⟨a, ha, hrelayed, hsame, hwindow⟩ := hat
  have hothers : others a.packet (s.log.take i) = others packet (s.log.take i) :=
    others_congr hsame _
  have hyoung : clock.dedup < a.now + s.manager.dedup.ttl := by
    rw [← sub_lt_iff_lt_add']
    exact hwindow
  rcases hinv i a ha hrelayed with hholds | hfull | ⟨t, ht, hle⟩
  · rw [keyOf_eq_of_samePacket hsame] at hholds
    exact absurd (Or.inr (Or.inl (isDuplicate_of_holds hholds hyoung))) hpass
  · rw [← hothers]
    exact hfull
  · exact absurd (hle.trans (hclock.1 t ht)) (not_le_of_gt hyoung)

theorem receive_inv {s : State F} (hinv : Inv s) {clock : RelayClock} {packet : Packet F}
    (hclock : ClockOrder s.lastNow clock) :
    Inv { manager := (s.manager.processPacket py clock packet).2
          lastNow := some clock.limiter
          log := ⟨clock.dedup, packet, (s.manager.processPacket py clock packet).1⟩ :: s.log } := by
  intro i a ha hrelayed
  rw [processPacket_dedup]
  cases i with
  | zero =>
    cases ha
    -- the new packet itself: it was relayed, so it was no duplicate
    have hpass := processPacket_relayed_iff.mp hrelayed
    unfold Stopped at hpass
    simp only [not_or] at hpass
    obtain ⟨henabled, hdup, -⟩ := hpass
    rw [if_neg henabled]
    rw [Bool.not_eq_true] at hdup
    obtain ⟨-, hmax⟩ := isDuplicate_settings s.manager.dedup clock.dedup packet.sourceId
      packet.packetId
    rcases isDuplicate_records hdup with hholds | hfull
    · exact Or.inl hholds
    · refine Or.inr (Or.inl ?_)
      rw [hmax]
      exact hfull
  | succ i =>
    have hbefore := hinv i a ha hrelayed
    rw [List.take_succ_cons, others_cons]
    split
    · exact hbefore.idle hclock (Nat.le_add_right _ _)
    · exact hbefore.next hclock

theorem spaced_receive_iff {s : State F} (hinv : Inv s) {clock : RelayClock} {packet : Packet F}
    (hclock : ClockOrder s.lastNow clock) :
    ((s.manager.processPacket py clock packet).1 = true → ∀ i,
        RelayedAt s.manager.dedup.ttl clock.dedup packet s.log i →
          s.manager.dedup.maxEntries < others packet (s.log.take i)) ↔
      (AtCap s clock.dedup packet → Stopped py s.manager clock packet) := by
  rw [processPacket_relayed_iff]
  constructor
  · rintro hspaced ⟨i, -, hat, hothers⟩
    by_contra hpass
    have hlt := hspaced hpass i hat
    rw [hothers] at hlt
    exact Nat.lt_irrefl _ hlt
  · intro hcap hpass i hat
    apply Nat.lt_of_le_of_ne (maxEntries_le_others hinv hclock hpass hat)
    intro hequal
    have hlt : i < s.log.length := by
      obtain ⟨a, ha, -⟩ := hat
      exact (List.getElem?_eq_some_iff.mp ha).1
    exact hpass (hcap ⟨i, hlt, hat, hequal.symm⟩)

variable (py) in
theorem dedup_settings_processPacket (m : RelayManager F) (clock : RelayClock)
    (packet : Packet F) :
    (m.processPacket py clock packet).2.dedup.ttl = m.dedup.ttl ∧
      (m.processPacket py clock packet).2.dedup.maxEntries = m.dedup.maxEntries := by
  rw [processPacket_dedup]
  split
  · exact ⟨rfl, rfl⟩
  · exact isDuplicate_settings ..

/-- **One event.**  What is remembered stays so, and the relay sends a frame of this node or a
    packet again exactly when no filter covers it. -/
theorem step_spec {ourNodeHex : String} {s s' : State F} {e : Event F} (hinv : Inv s)
    (h : step py s e = some s') :
    Inv s' ∧ (RelaysOnce ourNodeHex s' ↔ RelaysOnce ourNodeHex s ∧ Covered py ourNodeHex s e) := by
  cases e with
  | setEnabled enabled =>
    cases h
    exact ⟨hinv, ⟨fun h => ⟨⟨h.foreign, h.spaced⟩, trivial⟩, fun h => ⟨h.1.foreign, h.1.spaced⟩⟩⟩
  | setLocalNodeId nodeHex =>
    cases h
    exact ⟨hinv, ⟨fun h => ⟨⟨h.foreign, h.spaced⟩, trivial⟩, fun h => ⟨h.1.foreign, h.1.spaced⟩⟩⟩
  | receive clock packet =>
    simp only [step] at h
    split at h
    · rename_i hclock
      cases h
      refine ⟨receive_inv hinv hclock, ?_⟩
      obtain ⟨httl, hmax⟩ := dedup_settings_processPacket py s.manager clock packet
      have hspaced : ((s.manager.processPacket py clock packet).1 = true → ∀ i, _ → _) ↔
          (AtCap s clock.dedup packet → _) := spaced_receive_iff hinv hclock
      constructor
      · rintro ⟨hforeign, hall⟩
        simp only [httl, hmax] at hall
        obtain ⟨hfirst, hrest⟩ := hall
        refine ⟨⟨fun entry hentry => hforeign entry (List.mem_cons_of_mem _ hentry), hrest⟩, ?_⟩
        rintro (hown | hcap)
        · by_contra hpass
          exact hforeign _ List.mem_cons_self (processPacket_relayed_iff.mpr hpass) hown
        · exact hspaced.mp hfirst hcap
      · rintro ⟨⟨hforeign, hrest⟩, hcovered⟩
        constructor
        · intro entry hentry hrelayed
          rcases List.mem_cons.mp hentry with rfl | hentry
          · intro hown
            exact processPacket_relayed_iff.mp hrelayed (hcovered (Or.inl hown))
          · exact hforeign entry hentry hrelayed
        · simp only [httl, hmax]
          exact ⟨hspaced.mpr fun hcap => hcovered (Or.inr hcap), hrest⟩
    · cases h

/-- **The relay over all runs.**  From a manager that has seen no packet, with a clock that does
    not go back, the relay sends no frame of this node and no packet twice in the window unless
    more than `maxEntries` others came between, exactly when the filters cover the frames of
    this node and the packets right at the cap. -/
theorem relaysOnce_replay_iff {ourNodeHex : String} {m : RelayManager F} {events : List (Event F)}
    {s : State F} (h : replay (step py) Always { manager := m } events = some s) :
    RelaysOnce ourNodeHex s ↔
      replay (step py) (Covered py ourNodeHex) { manager := m } events = some s := by
  have hinv : Inv ({ manager := m } : State F) := by
    intro i a ha
    cases ha
  have hstart : RelaysOnce ourNodeHex ({ manager := m } : State F) := by
    constructor
    · intro entry hentry
      cases hentry
    · trivial
  obtain ⟨-, hiff⟩ : Inv s ∧ (RelaysOnce ourNodeHex s ↔ RelaysOnce ourNodeHex _ ∧
      replay (step py) (Covered py ourNodeHex) { manager := m } events = some s) :=
    replay_guard_iff (fun hinv hstep => step_spec hinv hstep) hinv h
  rw [and_iff_right hstart] at hiff
  exact hiff

end

/-! ### The echo of our own frame -/

def relayStation : RelayManager WholeFloat where
  minRssi := ⟨-110⟩
  maxRssi := ⟨-50⟩
  enabled := true
  localNodeHex := some "bbbb0002"

def heardText (sourceId : String) (hopLimit : Nat) : Packet WholeFloat where
  packetId := "00000007"
  sourceId := sourceId
  destinationId := "ffffffff"
  protocol := .meshtastic
  packetType := .text
  hopLimit := hopLimit
  hopStart := 3
  decrypted := true
  signal := some ⟨⟨-80⟩, ⟨5⟩⟩
  timestamp := 0

def heardAt (t : ℚ) (packet : Packet WholeFloat) : Event WholeFloat := .receive ⟨t, t⟩ packet

/-- A packet and its copy, and an echo of our own frame that has no hops left. -/
def coveredEvents : List (Event WholeFloat) :=
  [heardAt 1 (heardText "aaaa0001" 3), heardAt 2 (heardText "aaaa0001" 2),
    heardAt 3 (heardText "bbbb0002" 0)]

def coveredEnd : State WholeFloat :=
  (replay (step Casing.ascii) (Covered Casing.ascii "bbbb0002") { manager := relayStation }
    coveredEvents).get (by decide +kernel)

theorem relaysOnce_coveredEnd : RelaysOnce "bbbb0002" coveredEnd := by
  have hcovered : replay (step Casing.ascii) (Covered Casing.ascii "bbbb0002")
      { manager := relayStation } coveredEvents = some coveredEnd := (Option.some_get _).symm
  exact (relaysOnce_replay_iff (replay_mono (fun _ _ _ => trivial) hcovered)).mpr hcovered

/-- A neighbour's echo of our own text is relayed. -/
theorem own_echo_relayed :
    (replay (step Casing.ascii) Always { manager := relayStation }
        [heardAt 1 (heardText "bbbb0002" 2)]).map
          (fun s => s.log.map fun entry => (entry.packet.sourceId, entry.relayed)) =
      some [("bbbb0002", true)] ∧
    ∀ s, replay (step Casing.ascii) Always { manager := relayStation }
        [heardAt 1 (heardText "bbbb0002" 2)] = some s → ¬ RelaysOnce "bbbb0002" s := by
  have hends : (replay (step Casing.ascii) Always { manager := relayStation }
      [heardAt 1 (heardText "bbbb0002" 2)]).map
        (fun s => s.log.map fun entry => (entry.packet.sourceId, entry.relayed)) =
      some [("bbbb0002", true)] := by decide +kernel
  refine ⟨hends, ?_⟩
  intro s hs honce
  rw [hs, Option.map_some, Option.some.injEq] at hends
  have hmem : ("bbbb0002", true) ∈ s.log.map fun entry => (entry.packet.sourceId, entry.relayed) := by
    rw [hends]
    exact List.mem_singleton.mpr rfl
  obtain ⟨entry, hentry, heq⟩ := List.mem_map.mp hmem
  rw [Prod.mk.injEq] at heq
  exact honce.foreign entry hentry heq.2 heq.1

end Meshpoint.RelayOnce
