import Meshpoint.GuardedRun

/-!
# Commands to a companion and their replies

Model of `RfEnvCompanionScanService` (`src/api/telemetry/rfenv_companion_scan_service.py`): calls of
`send_command` on the event loop, one at a time, and the reader thread that writes the queued
commands and hands a line of the expected type to the pending future.  A step is what one of the two
threads, or the device, does between two accesses to a field that both threads use.

A line carries no name of the command it answers.  Here it has one that nothing reads (`command`),
so that it can be said whose reply a call returns.  `ownReplies_run` says when every call returns
its own.
-/

namespace Meshpoint.CompanionReplies

open GuardedRun

/-! ### Calls, replies and the two threads -/

/-- `data.get("type")` of a line. -/
inductive LineType
  | missing
  | text (type : String)
  | other
deriving DecidableEq

/-- The type of a line equals what the field holds. -/
def LineType.equals : LineType → Option String → Bool
  | .missing, none => true
  | .text type, some expected => type = expected
  | _, _ => false

/-- A line that the companion answers a command with, and whose command it is. -/
structure Reply (D : Type) where
  type : LineType
  content : D
  command : Nat
deriving DecidableEq

/-- Where a call of `send_command` is, once it holds the lock. -/
inductive Phase (D : Type)
  | entered
  /-- `_pending_expect_type` is set. -/
  | typed
  /-- `_pending_future` is set. -/
  | armed
  /-- The command is queued; with what the future holds. -/
  | waiting (result : Option (Reply D))
  /-- In the `finally`, with what the call is going to return. -/
  | leaving (value : Option (Reply D))
  /-- `_pending_expect_type` is cleared. -/
  | cleared (value : Option (Reply D))
deriving DecidableEq

structure Call (D : Type) where
  id : Nat
  expectType : String
  phase : Phase D
deriving DecidableEq

/-- Where the reader thread is in `_read_loop`. -/
inductive Reader (D : Type)
  | flushing
  | reading
  /-- A line was read. -/
  | read (reply : Reply D)
  /-- `_pending_expect_type is not None`. -/
  | expected (reply : Reply D)
  /-- The type is the expected one. -/
  | matched (reply : Reply D)
  | stopped
deriving DecidableEq

structure State (D : Type) where
  running : Bool := true
  connected : Bool := true
  call : Option (Call D) := none
  pendingType : Option String := none
  pendingFuture : Option Nat := none
  /-- `_command_queue`, by the calls the commands are of. -/
  queued : List Nat := []
  /-- What the companion has received and neither answered nor dropped. -/
  received : List Nat := []
  /-- What stands on the serial line. -/
  lines : List (Reply D) := []
  reader : Reader D := .flushing
  /-- `_set_result` calls that the event loop has still to make, each with its future. -/
  callbacks : List (Nat × Reply D) := []
  /-- What the calls have returned. -/
  returned : List (Nat × Option (Reply D)) := []
  calls : Nat := 0
deriving DecidableEq

inductive Event (D : Type)
  /-- A call gets the lock. -/
  | enter (expectType : String)
  /-- The next access of the call, up to the wait and after it. -/
  | advance
  /-- The wait times out, or the task is cancelled. -/
  | timeOut
  /-- The wait ends with a result. -/
  | resume
  /-- The event loop makes the next `_set_result` call. -/
  | callback
  | write (accepted : Bool)
  | flushed
  | readLine
  | readNothing
  | readFails
  | testPending
  | testType
  /-- `_resolve_pending`. -/
  | takeFuture
  /-- The companion answers a command it has received, in any order. -/
  | answer (command : Nat) (type : LineType) (content : D)
  | lose (command : Nat)
  | stop
  | halt

section

variable {D : Type}

/-! ### Steps -/

def loopIdle (s : State D) : Bool :=
  match s.call with
  | none => true
  | some c => match c.phase with
    | .waiting _ => true
    | _ => false

/-- `send_command`, with the lock held. -/
def enter (s : State D) (expectType : String) : Option (State D) :=
  match s.call with
  | some _ => none
  | none =>
    if s.connected then
      some { s with call := some ⟨s.calls, expectType, .entered⟩, calls := s.calls + 1 }
    else some { s with returned := s.returned ++ [(s.calls, none)], calls := s.calls + 1 }

/-- The accesses of `send_command` one by one. -/
def advance (s : State D) (c : Call D) : Option (State D) :=
  match c.phase with
  | .entered =>
    some { s with pendingType := some c.expectType, call := some { c with phase := .typed } }
  | .typed => some { s with pendingFuture := some c.id, call := some { c with phase := .armed } }
  | .armed =>
    some { s with queued := s.queued ++ [c.id], call := some { c with phase := .waiting none } }
  | .waiting _ => none
  | .leaving value =>
    some { s with pendingType := none, call := some { c with phase := .cleared value } }
  | .cleared value =>
    some { s with
      pendingFuture := none
      call := none
      returned := s.returned ++ [(c.id, value)] }

/-- `_set_result`: a future that is done stays as it is. -/
def setResult (s : State D) (future : Nat) (reply : Reply D) : State D :=
  match s.call with
  | some ⟨id, expectType, .waiting none⟩ =>
    if id = future then { s with call := some ⟨id, expectType, .waiting (some reply)⟩ } else s
  | _ => s

/-- `_resolve_pending`. -/
def resolvePending (s : State D) (reply : Reply D) : State D :=
  match s.pendingFuture with
  | none => s
  | some future => { s with callbacks := s.callbacks ++ [(future, reply)] }

def step (s : State D) : Event D → Option (State D)
  | .enter expectType => enter s expectType
  | .advance => s.call.bind (advance s)
  | .timeOut =>
    match s.call with
    | some ⟨id, expectType, .waiting _⟩ => some { s with call := some ⟨id, expectType, .leaving none⟩ }
    | _ => none
  | .resume =>
    match s.call with
    | some ⟨id, expectType, .waiting (some reply)⟩ =>
      some { s with call := some ⟨id, expectType, .leaving (some reply)⟩ }
    | _ => none
  | .callback =>
    match s.callbacks with
    | (future, reply) :: rest =>
      if loopIdle s then some (setResult { s with callbacks := rest } future reply) else none
    | [] => none
  | .write accepted =>
    match s.reader, s.queued with
    | .flushing, command :: rest =>
      some { s with
        queued := rest
        received := if accepted then s.received ++ [command] else s.received }
    | _, _ => none
  | .flushed =>
    match s.reader, s.queued with
    | .flushing, [] => some { s with reader := .reading }
    | _, _ => none
  | .readLine =>
    match s.reader, s.lines with
    | .reading, reply :: rest => some { s with lines := rest, reader := .read reply }
    | _, _ => none
  | .readNothing =>
    match s.reader with
    | .reading => some { s with reader := .flushing }
    | _ => none
  | .readFails =>
    match s.reader with
    | .reading => some { s with reader := .stopped, connected := false }
    | _ => none
  | .testPending =>
    match s.reader with
    | .read reply =>
      some { s with reader := if s.pendingType.isSome then .expected reply else .flushing }
    | _ => none
  | .testType =>
    match s.reader with
    | .expected reply =>
      some { s with
        reader := if reply.type.equals s.pendingType then .matched reply else .flushing }
    | _ => none
  | .takeFuture =>
    match s.reader with
    | .matched reply => some { resolvePending s reply with reader := .flushing }
    | _ => none
  | .answer command type content =>
    if command ∈ s.received then
      some { s with
        received := s.received.erase command
        lines := s.lines ++ [⟨type, content, command⟩] }
    else none
  | .lose command =>
    if command ∈ s.received then some { s with received := s.received.erase command } else none
  | .stop => some { s with running := false, connected := false }
  | .halt =>
    match s.reader with
    | .flushing => if s.running then none else some { s with reader := .stopped }
    | _ => none

/-! ### Own replies -/

/-- Every value that was returned is the reply to the command of its own call. -/
def OwnReplies (s : State D) : Prop :=
  ∀ id reply, (id, some reply) ∈ s.returned → reply.command = id

/-- The future of the call is pending and has no result. -/
def Phase.unresolved : Phase D → Bool
  | .armed => true
  | .waiting none => true
  | _ => false

/-- The line that the reader is going to hand over. -/
def Reader.taken : Reader D → Option (Reply D)
  | .matched reply => some reply
  | _ => none

/-- The late replies that matter: when the reader takes the pending future for a line of the
    expected type, and nothing is on its way to that future, the line is the reply to the command
    that waits and not one to an earlier command. -/
def Meets (s : State D) : Event D → Prop
  | .takeFuture => ∀ reply ∈ s.reader.taken, ∀ c ∈ s.call,
      s.pendingFuture = some c.id → c.phase.unresolved = true →
        (∀ callback ∈ s.callbacks, callback.1 ≠ c.id) → reply.command = c.id
  | _ => True

instance (s : State D) : (e : Event D) → Decidable (Meets s e)
  | .takeFuture => inferInstanceAs (Decidable (∀ reply ∈ s.reader.taken, ∀ c ∈ s.call,
      s.pendingFuture = some c.id → c.phase.unresolved = true →
        (∀ callback ∈ s.callbacks, callback.1 ≠ c.id) → reply.command = c.id))
  | .enter _ | .advance | .timeOut | .resume | .callback | .write _ | .flushed | .readLine
  | .readNothing | .readFails | .testPending | .testType | .answer _ _ _ | .lose _ | .stop | .halt =>
    .isTrue trivial

/-! ### The invariant -/

def Phase.value : Phase D → Option (Reply D)
  | .waiting result => result
  | .leaving value => value
  | .cleared value => value
  | _ => none

def Phase.hasFuture : Phase D → Bool
  | .entered => false
  | .typed => false
  | _ => true

/-- What is returned and what a call holds is its own; and the first result on its way to the future
    of a call is, too. -/
structure Own (s : State D) : Prop where
  returned : OwnReplies s
  value : ∀ c reply, s.call = some c → c.phase.value = some reply → reply.command = c.id
  first : ∀ c callback, s.call = some c →
    s.callbacks.find? (fun callback => callback.1 = c.id) = some callback →
      c.phase.unresolved = true → callback.2.command = c.id
  pending : ∀ future, s.pendingFuture = some future →
    ∃ c, s.call = some c ∧ c.id = future ∧ c.phase.hasFuture = true
  early : ∀ c, s.call = some c → c.phase.hasFuture = false →
    ∀ callback ∈ s.callbacks, callback.1 ≠ c.id
  fresh : ∀ callback ∈ s.callbacks, callback.1 < s.calls
  known : ∀ c, s.call = some c → c.id < s.calls

theorem Own.of_same {s s' : State D} (h : Own s) (hcall : s'.call = s.call)
    (hfuture : s'.pendingFuture = s.pendingFuture) (hcallbacks : s'.callbacks = s.callbacks)
    (hreturned : s'.returned = s.returned) (hcalls : s'.calls = s.calls) : Own s' := by
  obtain ⟨h₁, h₂, h₃, h₄, h₅, h₆, h₇⟩ := h
  unfold OwnReplies at h₁
  rw [← hreturned] at h₁
  simp only [← hcall, ← hfuture, ← hcallbacks, ← hcalls] at h₂ h₃ h₄ h₅ h₆ h₇
  exact ⟨h₁, h₂, h₃, h₄, h₅, h₆, h₇⟩

theorem own_start : Own ({} : State D) where
  returned := fun _ _ hmem => absurd hmem List.not_mem_nil
  value := nofun
  first := nofun
  pending := nofun
  early := nofun
  fresh := fun _ hmem => absurd hmem List.not_mem_nil
  known := nofun

theorem ownReplies_append {s : State D} (h : OwnReplies s) {id : Nat} {value : Option (Reply D)}
    (hvalue : ∀ reply, value = some reply → reply.command = id)
    {returned : List (Nat × Option (Reply D))}
    (hreturned : returned = s.returned ++ [(id, value)]) :
    ∀ id reply, (id, some reply) ∈ returned → reply.command = id := by
  intro other reply hmem
  rw [hreturned] at hmem
  rcases List.mem_append.mp hmem with hold | hnew
  · exact h other reply hold
  · obtain ⟨rfl, hreply⟩ := Prod.mk.inj (List.mem_singleton.mp hnew)
    exact hvalue reply hreply.symm

theorem Own.enter {s s' : State D} (h : Own s) {expectType : String}
    (hstep : CompanionReplies.enter s expectType = some s') : Own s' := by
  unfold CompanionReplies.enter at hstep
  split at hstep
  · cases hstep
  · rename_i hnone
    split at hstep
    · cases hstep
      refine ⟨h.returned, ?_, ?_, ?_, ?_, ?_, ?_⟩
      · rintro c reply ⟨⟩ hvalue
        cases hvalue
      · rintro c callback ⟨⟩ _ hunresolved
        cases hunresolved
      · intro future hfuture
        obtain ⟨c, hc, -⟩ := h.pending future hfuture
        rw [hnone] at hc
        cases hc
      · -- the id is a new one
        rintro c ⟨⟩ _ callback hmem
        exact Nat.ne_of_lt (h.fresh callback hmem)
      · intro callback hmem
        exact Nat.lt_succ_of_lt (h.fresh callback hmem)
      · rintro c ⟨⟩
        exact Nat.lt_succ_self _
    · cases hstep
      refine ⟨ownReplies_append h.returned (by rintro reply ⟨⟩) rfl, ?_, ?_, h.pending, ?_, ?_, ?_⟩
      · exact h.value
      · exact h.first
      · exact h.early
      · intro callback hmem
        exact Nat.lt_succ_of_lt (h.fresh callback hmem)
      · intro c hc
        exact Nat.lt_succ_of_lt (h.known c hc)

theorem Own.setPhase {s s' : State D} (h : Own s) {c : Call D} (hc : s.call = some c)
    {phase : Phase D} (hcall : s'.call = some { c with phase := phase })
    (hcallbacks : s'.callbacks = s.callbacks) (hreturned : s'.returned = s.returned)
    (hcalls : s'.calls = s.calls)
    (hvalue : ∀ reply, phase.value = some reply → reply.command = c.id)
    (hunresolved : phase.unresolved = true →
      c.phase.unresolved = true ∨ c.phase.hasFuture = false)
    (hpending : ∀ future, s'.pendingFuture = some future →
      future = c.id ∧ phase.hasFuture = true)
    (hearly : phase.hasFuture = false → c.phase.hasFuture = false) : Own s' := by
  refine ⟨?_, ?_, ?_, ?_, ?_, ?_, ?_⟩
  · unfold OwnReplies
    rw [hreturned]
    exact h.returned
  · intro c' reply hc' hreply
    rw [hcall] at hc'
    cases hc'
    exact hvalue reply hreply
  · intro c' callback hc' hfind hun
    rw [hcall] at hc'
    cases hc'
    rw [hcallbacks] at hfind
    rcases hunresolved hun with hold | hnew
    · exact h.first c callback hc hfind hold
    · have hmem := List.mem_of_find?_eq_some hfind
      have hid := List.find?_some hfind
      exact absurd (of_decide_eq_true hid) (h.early c hc hnew callback hmem)
  · intro future hfuture
    obtain ⟨hid, hhas⟩ := hpending future hfuture
    exact ⟨_, hcall, hid.symm, hhas⟩
  · intro c' hc' hhas
    rw [hcall] at hc'
    cases hc'
    rw [hcallbacks]
    exact h.early c hc (hearly hhas)
  · rw [hcallbacks, hcalls]
    exact h.fresh
  · intro c' hc'
    rw [hcall] at hc'
    cases hc'
    rw [hcalls]
    exact h.known c hc

theorem Own.pending_eq {s : State D} (h : Own s) {c : Call D} (hc : s.call = some c) {future : Nat}
    (hfuture : s.pendingFuture = some future) : future = c.id ∧ c.phase.hasFuture = true := by
  obtain ⟨c', hc', hid, hhas⟩ := h.pending future hfuture
  rw [hc] at hc'
  cases hc'
  exact ⟨hid.symm, hhas⟩

theorem Own.advance {s s' : State D} (h : Own s) {c : Call D} (hc : s.call = some c)
    (hstep : CompanionReplies.advance s c = some s') : Own s' := by
  obtain ⟨id, expectType, phase⟩ := c
  have hpending : ∀ future, s.pendingFuture = some future → future = id ∧ phase.hasFuture = true :=
    fun _ => h.pending_eq hc
  have hvalue := fun reply => h.value _ reply hc
  unfold CompanionReplies.advance at hstep
  cases phase with
  | entered =>
    cases hstep
    refine h.setPhase hc rfl rfl rfl rfl nofun nofun ?_ (fun _ => rfl)
    intro future hfuture
    cases (hpending future hfuture).2
  | typed =>
    cases hstep
    refine h.setPhase hc rfl rfl rfl rfl nofun (fun _ => .inr rfl) ?_ nofun
    rintro future ⟨⟩
    exact ⟨rfl, rfl⟩
  | armed =>
    cases hstep
    exact h.setPhase hc rfl rfl rfl rfl nofun (fun _ => .inl rfl) hpending nofun
  | waiting result => cases hstep
  | leaving value =>
    cases hstep
    exact h.setPhase hc rfl rfl rfl rfl hvalue nofun hpending nofun
  | cleared value =>
    cases hstep
    exact ⟨ownReplies_append h.returned hvalue rfl, nofun, nofun, nofun, nofun, h.fresh, nofun⟩

theorem Own.timeOut {s : State D} (h : Own s) {id : Nat} {expectType : String}
    {result : Option (Reply D)} (hc : s.call = some ⟨id, expectType, .waiting result⟩) :
    Own { s with call := some ⟨id, expectType, .leaving none⟩ } :=
  h.setPhase hc rfl rfl rfl rfl nofun nofun (fun _ => h.pending_eq hc) nofun

theorem Own.resume {s : State D} (h : Own s) {id : Nat} {expectType : String} {reply : Reply D}
    (hc : s.call = some ⟨id, expectType, .waiting (some reply)⟩) :
    Own { s with call := some ⟨id, expectType, .leaving (some reply)⟩ } :=
  h.setPhase hc rfl rfl rfl rfl (fun other => h.value _ other hc) nofun (fun _ => h.pending_eq hc)
    nofun

/-- The next `_set_result` call: the first on its way to a future is the one that counts. -/
theorem Own.callback {s : State D} (h : Own s) {future : Nat} {reply : Reply D}
    {rest : List (Nat × Reply D)} (hcallbacks : s.callbacks = (future, reply) :: rest)
    (hidle : loopIdle s = true) : Own (setResult { s with callbacks := rest } future reply) := by
  have hrest : ∀ callback ∈ rest, callback ∈ s.callbacks := by
    intro callback hmem
    rw [hcallbacks]
    exact List.mem_cons_of_mem _ hmem
  -- the callback for another future is gone, the others are as they were
  have hother : (∀ c, s.call = some c → c.phase.unresolved = true → c.id ≠ future) →
      Own { s with callbacks := rest } := by
    intro hnot
    refine ⟨h.returned, h.value, ?_, h.pending, ?_, ?_, h.known⟩
    · intro c callback hc hfind hun
      refine h.first c callback hc ?_ hun
      rw [hcallbacks, List.find?_cons_of_neg (by simpa using Ne.symm (hnot c hc hun))]
      exact hfind
    · intro c hc hhas callback hmem
      exact h.early c hc hhas callback (hrest callback hmem)
    · intro callback hmem
      exact h.fresh callback (hrest callback hmem)
  unfold setResult
  dsimp only
  split
  · rename_i id expectType hc
    split
    · rename_i hid
      have hreply : reply.command = id := by
        refine h.first _ (future, reply) hc ?_ rfl
        rw [hcallbacks]
        exact List.find?_cons_of_pos (by simpa using hid.symm)
      refine ⟨h.returned, ?_, ?_, ?_, ?_, ?_, ?_⟩
      · rintro c other ⟨⟩ hvalue
        cases hvalue
        exact hreply
      · rintro c callback ⟨⟩ _ hun
        cases hun
      · intro other hfuture
        exact ⟨_, rfl, ((h.pending_eq hc hfuture).1).symm, rfl⟩
      · rintro c ⟨⟩ hhas
        cases hhas
      · intro callback hmem
        exact h.fresh callback (hrest callback hmem)
      · rintro c ⟨⟩
        exact h.known ⟨id, expectType, .waiting none⟩ hc
    · rename_i hid
      apply hother
      intro c hc' _
      rw [hc] at hc'
      cases hc'
      exact hid
  · rename_i hnot
    apply hother
    rintro ⟨id, expectType, phase⟩ hc hun
    -- inside a call the loop makes no other call
    unfold loopIdle at hidle
    rw [hc] at hidle
    cases phase with
    | waiting result =>
      cases result with
      | none => exact absurd hc (hnot id expectType)
      | some other => cases hun
    | armed => cases hidle
    | entered => cases hun
    | typed => cases hun
    | leaving value => cases hun
    | cleared value => cases hun

theorem Own.takeFuture {s : State D} (h : Own s) {reply : Reply D} (hreader : s.reader = .matched reply)
    (hmeets : Meets s .takeFuture) : Own { resolvePending s reply with reader := .flushing } := by
  unfold resolvePending
  split
  · exact h.of_same rfl rfl rfl rfl rfl
  · rename_i future hfuture
    obtain ⟨call, hcall, hid, hhas⟩ := h.pending future hfuture
    refine ⟨h.returned, h.value, ?_, h.pending, ?_, ?_, h.known⟩
    · intro c callback hc hfind hun
      rw [List.find?_append] at hfind
      cases hold : s.callbacks.find? (fun callback => callback.1 = c.id) with
      | some first =>
        rw [hold, Option.some_or] at hfind
        cases hfind
        exact h.first c _ hc hold hun
      | none =>
        rw [hold, Option.none_or] at hfind
        have hmem := List.mem_singleton.mp (List.mem_of_find?_eq_some hfind)
        have hown : callback.1 = c.id := by simpa using List.find?_some hfind
        rw [hmem] at hown ⊢
        have htaken : reply ∈ s.reader.taken := by
          rw [hreader]
          exact rfl
        refine hmeets reply htaken c hc (hown ▸ hfuture) hun ?_
        intro other hother heq
        exact List.find?_eq_none.mp hold other hother (decide_eq_true heq)
    · intro c hc hearly callback hmem
      rcases List.mem_append.mp hmem with hold | hnew
      · exact h.early c hc hearly callback hold
      · rw [hcall] at hc
        cases hc
        rw [hhas] at hearly
        cases hearly
    · intro callback hmem
      rcases List.mem_append.mp hmem with hold | hnew
      · exact h.fresh callback hold
      · rw [List.mem_singleton.mp hnew, ← hid]
        exact h.known call hcall

/-- **A step** that meets the condition keeps the invariant. -/
theorem Own.step {s s' : State D} (h : Own s) {e : Event D} (hmeets : Meets s e)
    (hstep : CompanionReplies.step s e = some s') : Own s' := by
  cases e with
  | enter expectType => exact h.enter hstep
  | advance =>
    obtain ⟨c, hc, hadvance⟩ := Option.bind_eq_some_iff.mp hstep
    exact h.advance hc hadvance
  | timeOut =>
    simp only [CompanionReplies.step] at hstep
    split at hstep
    · rename_i hc
      cases hstep
      exact h.timeOut hc
    · cases hstep
  | resume =>
    simp only [CompanionReplies.step] at hstep
    split at hstep
    · rename_i hc
      cases hstep
      exact h.resume hc
    · cases hstep
  | callback =>
    simp only [CompanionReplies.step] at hstep
    split at hstep
    · rename_i hcallbacks
      split at hstep
      · rename_i hidle
        cases hstep
        exact h.callback hcallbacks hidle
      · cases hstep
    · cases hstep
  | takeFuture =>
    simp only [CompanionReplies.step] at hstep
    split at hstep
    · rename_i hreader
      cases hstep
      exact h.takeFuture hreader hmeets
    · cases hstep
  | stop =>
    cases hstep
    exact h.of_same rfl rfl rfl rfl rfl
  | halt =>
    simp only [CompanionReplies.step] at hstep
    split at hstep
    · split at hstep
      · cases hstep
      · cases hstep
        exact h.of_same rfl rfl rfl rfl rfl
    · cases hstep
  | _ =>
    -- the reader, the companion and the queue
    simp only [CompanionReplies.step] at hstep
    split at hstep
    · cases hstep
      exact h.of_same rfl rfl rfl rfl rfl
    · cases hstep

/-! ### Late replies that matter -/

theorem returned_of_result {s₀ s : State D} (hs : Reaches step Always s₀ s) {id : Nat}
    {expectType : String} {reply : Reply D}
    (hc : s.call = some ⟨id, expectType, .waiting (some reply)⟩) :
    ∃ s', Reaches step Always s₀ s' ∧ (id, some reply) ∈ s'.returned := by
  have hresume : step s .resume =
      some { s with call := some ⟨id, expectType, .leaving (some reply)⟩ } := by
    simp only [step, hc]
  have hreach := hs.tail trivial hresume
  have hreach := hreach.tail (e := .advance) trivial rfl
  have hreach := hreach.tail (e := .advance) trivial rfl
  exact ⟨_, hreach, List.mem_append_right _ (List.mem_singleton.mpr rfl)⟩

theorem result_of_first {s₀ : State D} {id : Nat} {expectType : String} {reply : Reply D}
    {callbacks : List (Nat × Reply D)}
    (hfirst : callbacks.find? (fun callback => callback.1 = id) = some (id, reply)) {s : State D}
    (hs : Reaches step Always s₀ s) (hc : s.call = some ⟨id, expectType, .waiting none⟩)
    (hcallbacks : s.callbacks = callbacks) :
    ∃ s', Reaches step Always s₀ s' ∧ s'.call = some ⟨id, expectType, .waiting (some reply)⟩ := by
  induction callbacks generalizing s with
  | nil => cases hfirst
  | cons callback rest ih =>
    obtain ⟨future, result⟩ := callback
    have hidle : loopIdle s = true := by
      unfold loopIdle
      rw [hc]
    have hstep : step s .callback = some (setResult { s with callbacks := rest } future result) := by
      simp only [step, hcallbacks, hidle, if_true]
    have hreach := hs.tail trivial hstep
    by_cases hid : id = future
    · rw [List.find?_cons_of_pos (by simpa using hid.symm)] at hfirst
      cases hfirst
      refine ⟨_, hreach, ?_⟩
      simp only [setResult, hc, if_true]
    · rw [List.find?_cons_of_neg (by simpa using Ne.symm hid)] at hfirst
      have hsame : setResult { s with callbacks := rest } future result =
          { s with callbacks := rest } := by
        simp only [setResult, hc, if_neg hid]
      rw [hsame] at hreach
      exact ih hfirst hreach hc rfl

/-- **A late reply that matters** can be returned by the call that waits. -/
theorem wrong_reply_of_not_meets {s₀ s s' : State D} (hs : Reaches step Always s₀ s) {e : Event D}
    (hmeets : ¬ Meets s e) (hstep : step s e = some s') :
    ∃ s'', Reaches step Always s₀ s'' ∧ ¬ OwnReplies s'' := by
  cases e with
  | takeFuture =>
    simp only [Meets, not_forall] at hmeets
    obtain ⟨reply, htaken, c, hc, hfuture, hun, hnone, hwrong⟩ := hmeets
    rw [Option.mem_def] at hc
    have hreader : s.reader = .matched reply := by
      cases hphase : s.reader with
      | matched other =>
        rw [hphase] at htaken
        cases htaken
        rfl
      | _ =>
        rw [hphase] at htaken
        cases htaken
    have hreach := hs.tail trivial hstep
    simp only [step, hreader, resolvePending, hfuture, Option.some.injEq] at hstep
    -- the line is the first result on its way to the future
    have hfirst : (s.callbacks ++ [(c.id, reply)]).find? (fun callback => callback.1 = c.id) =
        some (c.id, reply) := by
      rw [List.find?_append, List.find?_eq_none.mpr (fun callback hmem => by
        simpa using hnone callback hmem), Option.none_or]
      exact List.find?_cons_of_pos (decide_eq_true rfl)
    have hwaiting : ∃ s₁, Reaches step Always s₀ s₁ ∧
        s₁.call = some ⟨c.id, c.expectType, .waiting none⟩ ∧
          s₁.callbacks = s.callbacks ++ [(c.id, reply)] := by
      obtain ⟨id, expectType, phase⟩ := c
      cases phase with
      | armed =>
        have hadvance : step s' .advance = some { s' with
            queued := s'.queued ++ [id], call := some ⟨id, expectType, .waiting none⟩ } := by
          rw [← hstep]
          simp only [step, hc, Option.bind_some, advance]
        refine ⟨_, hreach.tail trivial hadvance, rfl, ?_⟩
        rw [← hstep]
      | waiting result =>
        cases result with
        | none =>
          refine ⟨_, hreach, ?_, ?_⟩
          · rw [← hstep]
            exact hc
          · rw [← hstep]
        | some other => cases hun
      | entered => cases hun
      | typed => cases hun
      | leaving value => cases hun
      | cleared value => cases hun
    obtain ⟨s₁, hs₁, hc₁, hcallbacks₁⟩ := hwaiting
    obtain ⟨s₂, hs₂, hc₂⟩ := result_of_first hfirst hs₁ hc₁ hcallbacks₁
    obtain ⟨s₃, hs₃, hmem⟩ := returned_of_result hs₂ hc₂
    exact ⟨s₃, hs₃, fun hown => hwrong (hown c.id reply hmem)⟩
  | _ => exact absurd trivial hmeets

end

/-! ### A scan that times out -/

def startScan : List (Event Int) := [.enter "scan_result", .advance, .advance, .advance]

/-- The reader writes the command and goes on reading. -/
def sendScan : List (Event Int) := [.write true, .flushed]

/-- The reader takes the next line to the pending future. -/
def takeLine : List (Event Int) := [.readLine, .testPending, .testType, .takeFuture]

def finish : List (Event Int) := [.callback, .resume, .advance, .advance]

def answerFirst : Event Int := .answer 0 (.text "scan_result") 17

def firstReply : Reply Int := ⟨.text "scan_result", 17, 0⟩

def answeredScan : List (Event Int) := startScan ++ sendScan ++ [answerFirst] ++ takeLine ++ finish

/-- A scan that times out and is answered when the next one waits. -/
def lateScan : List (Event Int) :=
  startScan ++ sendScan ++ [.timeOut, .advance, .advance] ++ startScan ++
    [.readNothing] ++ sendScan ++ [answerFirst] ++ takeLine ++ finish

end Meshpoint.CompanionReplies
