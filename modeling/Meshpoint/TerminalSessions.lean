import Meshpoint.GpsdSource
import Meshpoint.GuardedRun

/-!
# Terminal sessions

Model of `src/api/terminal/pty_session.py` and `session_manager.py`, and of the frames of
`src/api/routes/terminal_routes.py`. The operating system answers every call through the arguments
of the operation; the server is a step function on the sessions that were ever spawned, each with
its place in the registry of the `SessionManager` and the connection that it serves.

A session is `Released` when its descriptor was closed once and its child reaped. Throughout a run
every session outside the registry is released, and no frame has ended one, exactly when no session
is torn down after its end was met and every frame fits (`terminal_released_iff`).
-/

namespace Meshpoint.TerminalSessions

open ByteCodec JsonText Raising MqttFormatter GpsdSource GuardedRun

/-! ### One session -/

/-- The child process as its parent sees it. -/
inductive Child where
  | running
  | zombie
  | reaped
deriving DecidableEq

/-- A `PtySession`, with the times that its descriptor was closed and its child. -/
structure Pty where
  closed : Bool
  closes : Nat
  child : Child
deriving DecidableEq

/-- `spawn`. -/
def Pty.spawned : Pty := ⟨false, 0, .running⟩

/-- The descriptor was closed exactly once and the child terminated and reaped. -/
def Pty.Released (p : Pty) : Prop := p.closes = 1 ∧ p.child = .reaped

instance (p : Pty) : Decidable p.Released := inferInstanceAs (Decidable (_ ∧ _))

/-- What `os.write` does. -/
inductive WriteResult where
  | sent (n : Nat)
  | eio
  | ebadf
  | failed

/-- What `os.read` does. -/
inductive ReadResult where
  | data (chunk : Bytes)
  | eof
  | eio
  | ebadf
  | failed

/-- What `select.select` does, and `os.read` after it. -/
inductive SelectResult where
  | ready (result : ReadResult)
  | timeout
  | failed

/-- `write`; `none` when it raises. -/
def Pty.write (p : Pty) (result : WriteResult) : Option Nat × Pty :=
  if p.closed then (some 0, p)
  else
    match result with
    | .sent n => (some n, p)
    | .eio => (some 0, { p with closed := true })
    | .ebadf => (some 0, { p with closed := true })
    | .failed => (none, p)

/-- `read_nonblocking`; `none` when it raises. -/
def Pty.readNonblocking (p : Pty) (result : SelectResult) : Option Bytes × Pty :=
  if p.closed then (some [], p)
  else
    match result with
    | .failed => (some [], { p with closed := true })
    | .timeout => (some [], p)
    | .ready (.data chunk) => (some chunk, p)
    | .ready .eof => (some [], { p with closed := true })
    | .ready .eio => (some [], { p with closed := true })
    | .ready .ebadf => (some [], { p with closed := true })
    | .ready .failed => (none, p)

/-- The rows and columns that `struct.pack("HHHH", ..)` takes. -/
def packs (n : Int) : Bool := 0 ≤ n && n ≤ 65535

/-- `resize`: whether it returns. A failing ioctl is logged. -/
def Pty.resize (p : Pty) (rows cols : Int) : Bool := p.closed || (packs rows && packs cols)

/-- `os.waitpid` on a child that does not run any more. -/
def Child.wait : Child → Child
  | .running => .running
  | _ => .reaped

/-- `is_alive`. -/
def Pty.isAlive (p : Pty) : Bool × Pty :=
  if p.closed then (false, p)
  else (p.child.wait == .running, { p with child := p.child.wait })

/-- How a child takes `SIGTERM`: whether it has exited by each poll of `waitpid`. -/
structure Termination where
  polls : Nat
  exited : Nat → Bool

/-- The polls of `terminate`, and whether one of them ended the loop. -/
def pollChild (exited : Nat → Bool) : Nat → Child → Bool × Child
  | 0, child => (false, child)
  | deadline + 1, child =>
    let child := if child = .running ∧ exited deadline then .zombie else child
    match child with
    | .running => pollChild exited deadline child
    | _ => (true, child.wait)

/-- `terminate`. -/
def Pty.terminate (p : Pty) (t : Termination) : Pty :=
  if p.closed then p
  else
    let (ended, child) := pollChild t.exited t.polls p.child
    -- `SIGKILL`, and a `waitpid` that blocks until the child has exited
    let child := if ended then child else .reaped
    { closed := true, closes := p.closes + 1, child := child }

theorem pollChild_reaped (exited : Nat → Bool) (deadline : Nat) (child : Child)
    (h : (pollChild exited deadline child).1 = true) :
    (pollChild exited deadline child).2 = .reaped := by
  induction deadline generalizing child with
  | zero => cases h
  | succ deadline ih =>
    unfold pollChild at h ⊢
    simp only at h ⊢
    split at h
    · rename_i hrunning
      simp only [hrunning] at h ⊢
      exact ih _ h
    · rename_i hnot
      revert hnot
      generalize (if child = .running ∧ exited deadline = true then Child.zombie else child) = c
      intro hnot
      rcases c with _ | _ | _
      · exact absurd rfl hnot
      · rfl
      · rfl

theorem Pty.terminate_of_open {p : Pty} (h : p.closed = false) (t : Termination) :
    p.terminate t = { closed := true, closes := p.closes + 1, child := .reaped } := by
  have hchild : (if (pollChild t.exited t.polls p.child).1 then
      (pollChild t.exited t.polls p.child).2 else .reaped) = Child.reaped := by
    split
    · rename_i hended
      exact pollChild_reaped _ _ _ hended
    · rfl
  simp only [Pty.terminate, h, hchild]
  rfl

theorem Pty.terminate_of_closed {p : Pty} (h : p.closed = true) (t : Termination) :
    p.terminate t = p := by
  rw [Pty.terminate, if_pos h]

theorem Pty.closed_terminate (p : Pty) (t : Termination) : (p.terminate t).closed = true := by
  by_cases h : p.closed = true
  · rw [terminate_of_closed h, h]
  · rw [terminate_of_open (by simpa using h)]

/-- What happens to a session between its start and its end. -/
inductive PtyOp where
  | write (result : WriteResult)
  | read (result : SelectResult)
  | resize (rows cols : Int)
  | isAlive
  /-- The child exits by itself. -/
  | exits

def Pty.apply (p : Pty) : PtyOp → Pty
  | .write result => (p.write result).2
  | .read result => (p.readNonblocking result).2
  | .resize _ _ => p
  | .isAlive => p.isAlive.2
  | .exits => { p with child := if p.child = .running then .zombie else p.child }

def PtyOp.meetsEnd : PtyOp → Bool
  | .write .eio => true
  | .write .ebadf => true
  | .read .failed => true
  | .read (.ready .eof) => true
  | .read (.ready .eio) => true
  | .read (.ready .ebadf) => true
  | _ => false

/-- A change that neither closes the descriptor nor takes a session back from its end. -/
structure Carries (p p' : Pty) : Prop where
  closes_eq : p'.closes = p.closes
  closed : p.closed = true → p'.closed = true
  reaped : p.child = .reaped → p'.child = .reaped

theorem Carries.refl (p : Pty) : Carries p p := ⟨rfl, id, id⟩

theorem Carries.released {p p' : Pty} (h : Carries p p') (hp : p.Released) : p'.Released :=
  ⟨h.closes_eq.trans hp.1, h.reaped hp.2⟩

theorem carries_write (p : Pty) (result : WriteResult) : Carries p (p.write result).2 := by
  unfold Pty.write
  by_cases h : p.closed = true
  · rw [if_pos h]
    exact .refl p
  · rw [if_neg h]
    cases result <;> exact ⟨rfl, fun hclosed => absurd hclosed h, id⟩

theorem carries_readNonblocking (p : Pty) (result : SelectResult) :
    Carries p (p.readNonblocking result).2 := by
  unfold Pty.readNonblocking
  by_cases h : p.closed = true
  · rw [if_pos h]
    exact .refl p
  · rw [if_neg h]
    split <;> exact ⟨rfl, fun hclosed => absurd hclosed h, id⟩

theorem carries_isAlive (p : Pty) : Carries p p.isAlive.2 := by
  unfold Pty.isAlive
  by_cases h : p.closed = true
  · rw [if_pos h]
    exact .refl p
  · rw [if_neg h]
    refine ⟨rfl, fun hclosed => absurd hclosed h, fun hreaped => ?_⟩
    simp only [hreaped]
    rfl

theorem carries_apply (p : Pty) (o : PtyOp) : Carries p (p.apply o) := by
  cases o with
  | write result => exact carries_write p result
  | read result => exact carries_readNonblocking p result
  | resize rows cols => exact .refl p
  | isAlive => exact carries_isAlive p
  | exits =>
    refine ⟨rfl, id, fun hreaped => ?_⟩
    simp [Pty.apply, hreaped]

/-- A session is marked as closed by the operation that finds the end of its terminal. -/
theorem closed_apply (p : Pty) (o : PtyOp) :
    (p.apply o).closed = (p.closed || o.meetsEnd) := by
  cases hclosed : p.closed
  · cases o with
    | write result => cases result <;> simp [Pty.apply, Pty.write, PtyOp.meetsEnd, hclosed]
    | read result =>
      rcases result with result | _ | _
      · cases result <;> simp [Pty.apply, Pty.readNonblocking, PtyOp.meetsEnd, hclosed]
      · simp [Pty.apply, Pty.readNonblocking, PtyOp.meetsEnd, hclosed]
      · simp [Pty.apply, Pty.readNonblocking, PtyOp.meetsEnd, hclosed]
    | resize rows cols => exact hclosed
    | isAlive => simp [Pty.apply, Pty.isAlive, PtyOp.meetsEnd, hclosed]
    | exits => exact hclosed
  · exact (carries_apply p o).closed hclosed

/-- Whether a session is released when it is terminated: nothing met the end of its terminal
    before. -/
theorem released_terminate_iff (ops : List PtyOp) (t : Termination) :
    ((ops.foldl Pty.apply Pty.spawned).terminate t).Released ↔
      ops.any PtyOp.meetsEnd = false := by
  have hrun : ∀ (ops : List PtyOp) (p : Pty), (ops.foldl Pty.apply p).closes = p.closes ∧
      (ops.foldl Pty.apply p).closed = (p.closed || ops.any PtyOp.meetsEnd) := by
    intro ops
    induction ops with
    | nil => exact fun p => ⟨rfl, by simp⟩
    | cons o ops ih =>
      intro p
      obtain ⟨hcloses, hclosed⟩ := ih (p.apply o)
      refine ⟨hcloses.trans (carries_apply p o).closes_eq, ?_⟩
      rw [List.foldl_cons, hclosed, closed_apply, List.any_cons, Bool.or_assoc]
  obtain ⟨hcloses, hclosed⟩ := hrun ops Pty.spawned
  cases hend : ops.any PtyOp.meetsEnd
  · rw [hend] at hclosed
    rw [Pty.terminate_of_open hclosed, hcloses]
    simp [Pty.Released, Pty.spawned]
  · rw [hend] at hclosed
    rw [Pty.terminate_of_closed hclosed, Pty.Released, hcloses]
    simp [Pty.spawned]

/-! ### Frames of the client -/

section Frames

variable {F : Type}

/-- `kind == name`. -/
def isKind (name : String) : Value F → Bool
  | .str s => s == name
  | _ => false

theorem isKind_exclusive {kind : Value F} (h : isKind "input" kind = true) :
    isKind "resize" kind = false := by
  cases kind with
  | str s =>
    have hs : s = "input" := by simpa [isKind] using h
    rw [hs]
    rfl
  | _ => rfl

variable [StationFloat F]

/-- `int(frame.get(key) or default)`. -/
def dimension (frame : Entries F) (key : String) (default : Int) : Except PyException Int :=
  intOf (if truthy (getValue frame key) then getValue frame key else .int default)

/-- `base64.b64decode(frame.get("data") or "")`; `none` when it raises. -/
def inputBytes (frame : Entries F) : Option Bytes :=
  if truthy (getValue frame "data") then
    match getValue frame "data" with
    | .str s => b64decode s
    | _ => none
  else b64decode ""

/-- One round of `_pump_ws_to_pty`, for the result of `json.loads` on the frame and that of
    `os.write`. -/
def handleFrame (loaded : Loaded F) (result : WriteResult) (p : Pty) : Except PyException Pty :=
  match loaded with
  | .malformed => .ok p
  | .refused e => .error e
  | .value (.dict frame) =>
    if isKind "input" (getValue frame "type") then
      match inputBytes frame with
      | some _ => .ok (p.write result).2
      | none => .ok p
    else if isKind "resize" (getValue frame "type") then do
      let rows ← dimension frame "rows" 40
      let cols ← dimension frame "cols" 120
      if p.resize rows cols then .ok p else .error .structError
    else .ok p
  | .value _ => .ok p

/-- The frame is taken by the loop: `json.loads` does not refuse it, and a resize has rows and
    columns that are numbers and, before the end of the terminal, that fit an unsigned short. -/
def frameFits (closed : Bool) (loaded : Loaded F) : Bool :=
  match loaded with
  | .refused _ => false
  | .value (.dict frame) =>
    if isKind "resize" (getValue frame "type") then
      match dimension frame "rows" 40, dimension frame "cols" 120 with
      | .ok rows, .ok cols => closed || (packs rows && packs cols)
      | _, _ => false
    else true
  | _ => true

/-- A frame that fits leaves the descriptor and the child alone, and any other ends the loop. -/
theorem handleFrame_spec (loaded : Loaded F) (result : WriteResult) (p : Pty) :
    (frameFits p.closed loaded = true ∧
      ∃ p', handleFrame loaded result p = .ok p' ∧ Carries p p') ∨
    (frameFits p.closed loaded = false ∧ ∃ e, handleFrame loaded result p = .error e) := by
  rcases loaded with _ | e | v
  · exact .inl ⟨rfl, p, rfl, .refl p⟩
  · exact .inr ⟨rfl, e, rfl⟩
  · cases v with
    | dict frame =>
      by_cases hinput : isKind "input" (getValue frame "type") = true
      · refine .inl ⟨by simp [frameFits, isKind_exclusive hinput], ?_⟩
        simp only [handleFrame, hinput, if_true]
        cases inputBytes frame with
        | none => exact ⟨p, rfl, .refl p⟩
        | some bytes => exact ⟨_, rfl, carries_write p result⟩
      · by_cases hresize : isKind "resize" (getValue frame "type") = true
        · simp only [handleFrame, frameFits, hinput, hresize, if_true]
          cases hrows : dimension frame "rows" 40 with
          | error e => exact .inr ⟨rfl, e, rfl⟩
          | ok rows =>
            cases hcols : dimension frame "cols" 120 with
            | error e => exact .inr ⟨rfl, e, rfl⟩
            | ok cols =>
              cases hfits : p.closed || (packs rows && packs cols)
              · exact .inr ⟨hfits, .structError, by
                  simp [Pty.resize, hfits, Bind.bind, Except.bind]⟩
              · exact .inl ⟨hfits, p, by
                  simp [Pty.resize, hfits, Bind.bind, Except.bind], .refl p⟩
        · exact .inl ⟨by simp [frameFits, hresize], p, by
            simp [handleFrame, hinput, hresize], .refl p⟩
    | _ => exact .inl ⟨rfl, p, rfl, .refl p⟩

end Frames

/-! ### The server -/

/-- A session that was spawned: whether it is in the registry, and whether its handler still
    serves the connection. -/
structure Session where
  pty : Pty
  registered : Bool
  connected : Bool
deriving DecidableEq

/-- The sessions in the order that they were spawned in, and whether a frame has ended one. -/
structure Server where
  sessions : List Session
  endedByFrame : Bool
deriving DecidableEq

def Server.empty : Server := ⟨[], false⟩

/-- `session_count`. -/
def sessionCount (sessions : List Session) : Nat :=
  weight (fun s => if s.registered then 1 else 0) sessions

/-- `SessionManager.destroy`, and what `shutdown` does with each session. -/
def Session.destroy (s : Session) (t : Termination) : Session :=
  { s with pty := if s.registered then s.pty.terminate t else s.pty, registered := false }

/-- The `finally` block of `terminal_websocket`. -/
def Session.disconnect (s : Session) (t : Termination) : Session :=
  { s.destroy t with connected := false }

inductive Event (F : Type) where
  /-- A client connects. -/
  | connect
  /-- An operation on a session, of the reader task or the shell itself. -/
  | operate (i : Nat) (o : PtyOp)
  /-- A frame of the client, with the result of the write that it may ask for and the answer of
      the child when the frame ends the session. -/
  | frame (i : Nat) (loaded : Loaded F) (result : WriteResult) (t : Termination)
  /-- The handler ends before its `try`: the audit log or the ready frame raised. -/
  | abandon (i : Nat)
  /-- The client disconnects, or the handler is cancelled. -/
  | disconnect (i : Nat) (t : Termination)
  | shutdown (ts : Nat → Termination)

section Server

variable {F : Type} [StationFloat F]

/-- One event; `none` when the session was not spawned or its handler has ended. -/
def step (maxSessions : Nat) (server : Server) : Event F → Option Server
  | .connect =>
    if maxSessions ≤ sessionCount server.sessions then some server
    else some { server with sessions := server.sessions ++ [⟨.spawned, true, true⟩] }
  | .operate i o => do
    let s ← server.sessions[i]?
    some { server with sessions := server.sessions.set i { s with pty := s.pty.apply o } }
  | .frame i loaded result t => do
    let s ← server.sessions[i]?
    if s.connected then
      match handleFrame loaded result s.pty with
      | .ok p => some { server with sessions := server.sessions.set i { s with pty := p } }
      | .error _ =>
        some { sessions := server.sessions.set i (s.disconnect t), endedByFrame := true }
    else none
  | .abandon i => do
    let s ← server.sessions[i]?
    if s.connected then
      some { server with sessions := server.sessions.set i { s with connected := false } }
    else none
  | .disconnect i t => do
    let s ← server.sessions[i]?
    if s.connected then
      some { server with sessions := server.sessions.set i (s.disconnect t) }
    else none
  | .shutdown ts =>
    some { server with sessions := server.sessions.mapIdx fun i s => s.destroy (ts i) }

/-- The session can be torn down: its end was not met while it was in the registry. -/
def Session.whole (s : Session) : Bool := !s.registered || !s.pty.closed

/-- No session is torn down after its end was met, and every frame fits. -/
def Fits (server : Server) : Event F → Bool
  | .frame i loaded _ _ => server.sessions[i]?.all fun s => frameFits s.pty.closed loaded
  | .disconnect i _ => server.sessions[i]?.all Session.whole
  | .shutdown _ => server.sessions.all Session.whole
  | _ => true

/-- What a session is in every state: in the registry its descriptor was never closed, and out of
    it no operation finds it open. -/
structure Session.Kept (s : Session) : Prop where
  unclosed : s.registered = true → s.pty.closes = 0
  marked : s.registered = false → s.pty.closed = true

structure Invariant (maxSessions : Nat) (server : Server) : Prop where
  kept : ∀ s ∈ server.sessions, s.Kept
  capped : sessionCount server.sessions ≤ maxSessions

/-- A session holds a descriptor or a child of the host. -/
def Session.live (s : Session) : Bool := s.registered || !decide s.pty.Released

/-- The resources of the sessions that were destroyed or shut down are released, at most
    `max_sessions` hold any, and no frame has ended a session. -/
structure Released (maxSessions : Nat) (server : Server) : Prop where
  released : ∀ s ∈ server.sessions, s.registered = false → s.pty.Released
  capped : weight (fun s => if s.live then 1 else 0) server.sessions ≤ maxSessions
  endedByFrame : server.endedByFrame = false

/-! ### What a session keeps -/

theorem Session.Kept.carry {s : Session} (h : s.Kept) {p : Pty} (hp : Carries s.pty p) :
    Session.Kept { s with pty := p } :=
  ⟨fun hreg => hp.closes_eq.trans (h.unclosed hreg), fun hreg => hp.closed (h.marked hreg)⟩

theorem Session.Kept.destroy {s : Session} (h : s.Kept) (t : Termination) :
    (s.destroy t).Kept := by
  refine ⟨fun hreg => absurd hreg (by simp [Session.destroy]), fun _ => ?_⟩
  unfold Session.destroy
  by_cases hreg : s.registered = true
  · simp only [hreg, if_true]
    exact Pty.closed_terminate s.pty t
  · simpa [hreg] using h.marked (by simpa using hreg)

theorem Session.Kept.released_destroy_iff {s : Session} (h : s.Kept)
    (hreleased : s.registered = false → s.pty.Released) (t : Termination) :
    (s.destroy t).pty.Released ↔ s.whole = true := by
  unfold Session.destroy Session.whole
  by_cases hreg : s.registered = true
  · have hcloses := h.unclosed hreg
    cases hclosed : s.pty.closed
    · simp [hreg, Pty.terminate_of_open hclosed, Pty.Released, hcloses]
    · simp [hreg, Pty.terminate_of_closed hclosed, Pty.Released, hcloses]
  · have hfalse : s.registered = false := by simpa using hreg
    simp [hfalse, hreleased hfalse]

theorem sessionCount_set_le {sessions : List Session} {i : Nat} {s s' : Session}
    (hs : sessions[i]? = some s) (hreg : s'.registered = true → s.registered = true) :
    sessionCount (sessions.set i s') ≤ sessionCount sessions := by
  have hset := weight_set (fun s : Session => if s.registered then 1 else 0) s' hs
  have hle : (if s'.registered then 1 else 0) ≤ if s.registered then 1 else 0 := by
    split
    · rw [if_pos (hreg ‹_›)]
    · exact Nat.zero_le _
  unfold sessionCount
  omega

theorem released_iff {maxSessions : Nat} {server : Server} (hI : Invariant maxSessions server) :
    Released maxSessions server ↔
      (∀ s ∈ server.sessions, s.registered = false → s.pty.Released) ∧
        server.endedByFrame = false := by
  constructor
  · exact fun h => ⟨h.released, h.endedByFrame⟩
  · rintro ⟨hreleased, hended⟩
    refine ⟨hreleased, (weight_mono fun s hs => ?_).trans hI.capped, hended⟩
    cases hreg : s.registered
    · simp [Session.live, hreg, hreleased s hs hreg]
    · simp [Session.live, hreg]

theorem set_spec {maxSessions : Nat} {server : Server} {i : Nat} {s s' : Session}
    (ended : Bool) (hI : Invariant maxSessions server) (hP : Released maxSessions server)
    (hs : server.sessions[i]? = some s) (hkept : s'.Kept)
    (hreg : s'.registered = true → s.registered = true) :
    Invariant maxSessions ⟨server.sessions.set i s', ended⟩ ∧
      (Released maxSessions ⟨server.sessions.set i s', ended⟩ ↔
        (s'.registered = false → s'.pty.Released) ∧ ended = false) := by
  have hI' : Invariant maxSessions ⟨server.sessions.set i s', ended⟩ := by
    refine ⟨fun x hx => ?_, (sessionCount_set_le hs hreg).trans hI.capped⟩
    rcases List.mem_or_eq_of_mem_set hx with hx | rfl
    · exact hI.kept x hx
    · exact hkept
  refine ⟨hI', ?_⟩
  rw [released_iff hI']
  refine and_congr_left fun _ => ⟨fun h => h s' ?_, fun h x hx => ?_⟩
  · exact List.mem_set (List.getElem?_eq_some_iff.mp hs).1 s'
  · rcases List.mem_or_eq_of_mem_set hx with hx | rfl
    · exact hP.released x hx
    · exact h

theorem connect_spec {maxSessions : Nat} {server : Server} (hI : Invariant maxSessions server)
    (hP : Released maxSessions server) (hroom : sessionCount server.sessions < maxSessions) :
    let server' : Server := { server with sessions := server.sessions ++ [⟨.spawned, true, true⟩] }
    Invariant maxSessions server' ∧ Released maxSessions server' := by
  intro server'
  have hmem : ∀ s ∈ server'.sessions, s ∈ server.sessions ∨ s = ⟨.spawned, true, true⟩ := by
    intro s hs
    simpa [server'] using hs
  have hcapped : sessionCount server'.sessions ≤ maxSessions := by
    have happend : sessionCount server'.sessions = sessionCount server.sessions + 1 := by
      simp [server', sessionCount]
    omega
  have hI' : Invariant maxSessions server' := by
    refine ⟨fun s hs => ?_, hcapped⟩
    rcases hmem s hs with hs | rfl
    · exact hI.kept s hs
    · exact ⟨fun _ => rfl, nofun⟩
  refine ⟨hI', (released_iff hI').mpr ⟨fun s hs => ?_, hP.endedByFrame⟩⟩
  rcases hmem s hs with hs | rfl
  · exact hP.released s hs
  · exact nofun

theorem shutdown_spec {maxSessions : Nat} {server : Server} (hI : Invariant maxSessions server)
    (hP : Released maxSessions server) (ts : Nat → Termination) :
    let server' : Server :=
      { server with sessions := server.sessions.mapIdx fun i s => s.destroy (ts i) }
    Invariant maxSessions server' ∧
      (Released maxSessions server' ↔ server.sessions.all Session.whole = true) := by
  intro server'
  have hmem : ∀ s ∈ server'.sessions, ∃ s₀ ∈ server.sessions, ∃ t, s = s₀.destroy t := by
    intro s hs
    obtain ⟨i, hi, rfl⟩ := List.mem_mapIdx.mp hs
    exact ⟨_, List.getElem_mem hi, ts i, rfl⟩
  have hempty : sessionCount server'.sessions = 0 := by
    refine List.sum_eq_zero fun n hn => ?_
    obtain ⟨s, hs, rfl⟩ := List.mem_map.mp hn
    obtain ⟨s₀, -, t, rfl⟩ := hmem s hs
    rfl
  have hI' : Invariant maxSessions server' := by
    refine ⟨fun s hs => ?_, hempty ▸ Nat.zero_le _⟩
    obtain ⟨s₀, hs₀, t, rfl⟩ := hmem s hs
    exact (hI.kept s₀ hs₀).destroy t
  refine ⟨hI', ?_⟩
  rw [released_iff hI', List.all_eq_true]
  constructor
  · rintro ⟨hreleased, -⟩ s hs
    obtain ⟨i, hi, rfl⟩ := List.getElem_of_mem hs
    have hdestroyed : server.sessions[i].destroy (ts i) ∈ server'.sessions :=
      List.mem_mapIdx.mpr ⟨i, hi, rfl⟩
    exact ((hI.kept _ hs).released_destroy_iff (hP.released _ hs) (ts i)).mp
      (hreleased _ hdestroyed rfl)
  · refine fun hwhole => ⟨fun s hs _ => ?_, hP.endedByFrame⟩
    obtain ⟨s₀, hs₀, t, rfl⟩ := hmem s hs
    exact ((hI.kept s₀ hs₀).released_destroy_iff (hP.released s₀ hs₀) t).mpr (hwhole s₀ hs₀)

theorem disconnect_spec {maxSessions : Nat} {server : Server} {i : Nat} {s : Session}
    (hI : Invariant maxSessions server) (hP : Released maxSessions server)
    (hs : server.sessions[i]? = some s) (t : Termination) (ended : Bool) :
    Invariant maxSessions ⟨server.sessions.set i (s.disconnect t), ended⟩ ∧
      (Released maxSessions ⟨server.sessions.set i (s.disconnect t), ended⟩ ↔
        s.whole = true ∧ ended = false) := by
  have hmem := List.mem_of_getElem? hs
  have hdestroy := (hI.kept s hmem).destroy t
  have hkept : (s.disconnect t).Kept := ⟨hdestroy.unclosed, hdestroy.marked⟩
  obtain ⟨hI', hP'⟩ := set_spec ended hI hP hs hkept nofun
  refine ⟨hI', hP'.trans (and_congr_left fun _ => ?_)⟩
  rw [← (hI.kept s hmem).released_destroy_iff (hP.released s hmem) t]
  exact ⟨fun h => h rfl, fun h _ => h⟩

theorem carry_spec {maxSessions : Nat} {server : Server} {i : Nat} {s : Session}
    (hI : Invariant maxSessions server) (hP : Released maxSessions server)
    (hs : server.sessions[i]? = some s) {p : Pty} (hp : Carries s.pty p) (connected : Bool) :
    let server' : Server :=
      { server with sessions := server.sessions.set i ⟨p, s.registered, connected⟩ }
    Invariant maxSessions server' ∧ Released maxSessions server' := by
  have hmem := List.mem_of_getElem? hs
  have hcarry := (hI.kept s hmem).carry hp
  have hkept : Session.Kept ⟨p, s.registered, connected⟩ := ⟨hcarry.unclosed, hcarry.marked⟩
  obtain ⟨hI', hP'⟩ := set_spec server.endedByFrame hI hP hs hkept id
  exact ⟨hI', hP'.mpr ⟨fun hreg => hp.released (hP.released s hmem hreg), hP.endedByFrame⟩⟩

/-- **One event.** It keeps the resources in order exactly when it fits. -/
theorem step_spec {maxSessions : Nat} {server server' : Server} {e : Event F}
    (hI : Invariant maxSessions server) (hP : Released maxSessions server)
    (h : step maxSessions server e = some server') :
    Invariant maxSessions server' ∧ (Released maxSessions server' ↔ Fits server e = true) := by
  cases e with
  | connect =>
    simp only [step] at h
    split at h
    · cases h
      exact ⟨hI, iff_of_true hP rfl⟩
    · rename_i hroom
      cases h
      obtain ⟨hI', hP'⟩ := connect_spec hI hP (Nat.lt_of_not_le hroom)
      exact ⟨hI', iff_of_true hP' rfl⟩
  | operate i o =>
    obtain ⟨s, hs, h⟩ := Option.bind_eq_some_iff.mp h
    cases h
    obtain ⟨hI', hP'⟩ := carry_spec hI hP hs (carries_apply s.pty o) s.connected
    exact ⟨hI', iff_of_true hP' rfl⟩
  | frame i loaded result t =>
    obtain ⟨s, hs, h⟩ := Option.bind_eq_some_iff.mp h
    have hfits : Fits server (.frame i loaded result t) = frameFits s.pty.closed loaded := by
      simp [Fits, hs]
    split at h
    · rcases handleFrame_spec loaded result s.pty with ⟨hfit, p, hp, hcarries⟩ | ⟨hfit, e, he⟩
      · rw [hp] at h
        cases h
        obtain ⟨hI', hP'⟩ := carry_spec hI hP hs hcarries s.connected
        exact ⟨hI', iff_of_true hP' (hfits.trans hfit)⟩
      · rw [he] at h
        cases h
        obtain ⟨hI', hP'⟩ := disconnect_spec hI hP hs t true
        refine ⟨hI', hP'.trans ?_⟩
        rw [hfits, hfit]
        simp
    · cases h
  | abandon i =>
    obtain ⟨s, hs, h⟩ := Option.bind_eq_some_iff.mp h
    split at h
    · cases h
      obtain ⟨hI', hP'⟩ := carry_spec hI hP hs (.refl s.pty) false
      exact ⟨hI', iff_of_true hP' rfl⟩
    · cases h
  | disconnect i t =>
    obtain ⟨s, hs, h⟩ := Option.bind_eq_some_iff.mp h
    split at h
    · cases h
      obtain ⟨hI', hP'⟩ := disconnect_spec hI hP hs t server.endedByFrame
      refine ⟨hI', hP'.trans ?_⟩
      simp [Fits, hs, hP.endedByFrame]
    · cases h
  | shutdown ts =>
    cases h
    exact shutdown_spec hI hP ts

/-- **Released sessions.** Throughout a run the sessions that were destroyed or shut down have
    their descriptor closed once and their child reaped, no more than `max_sessions` are live and
    no frame has ended one, exactly when every frame fits and no session is torn down after a
    read or a write has met its end. -/
theorem terminal_released_iff (maxSessions : Nat) (events : List (Event F)) {server : Server}
    (h : replay (step maxSessions) Always .empty events = some server) :
    Throughout (step maxSessions) (Released maxSessions) .empty events ↔
      replay (step maxSessions) (fun s e => Fits s e = true) .empty events = some server := by
  refine throughout_iff_replay (I := Invariant maxSessions) ?_ ?_ ?_ h
  · exact fun hI hP hstep => step_spec hI hP hstep
  · exact ⟨nofun, Nat.zero_le _⟩
  · exact ⟨nofun, Nat.zero_le _, rfl⟩

end Server

/-! ### Runs of the terminal -/

/-- A child that exits on `SIGTERM`. -/
def prompt : Termination := ⟨11, fun _ => true⟩

def resizeFrame (rows : Int) : Loaded WholeFloat :=
  .value (.dict (.ofList [("type", .str "resize"), ("rows", .int rows), ("cols", .int 80)]))

/-- `ls`, and a window of another size; then the client leaves. -/
def shortVisit : List (Event WholeFloat) :=
  [.connect,
    .frame 0 (.value (.dict (.ofList [("type", .str "input"), ("data", .str "bHMK")])))
      (.sent 3) prompt,
    .operate 0 (.read (.ready (.data (utf8 "notes.txt")))),
    .frame 0 (resizeFrame 24) (.sent 0) prompt, .disconnect 0 prompt]

theorem terminal_released_shortVisit :
    Throughout (step 4) (Released 4) .empty shortVisit := by
  have hrun : replay (step 4) Always .empty shortVisit =
      some ⟨[⟨⟨true, 1, .reaped⟩, false, false⟩], false⟩ := by decide +kernel
  exact (terminal_released_iff 4 shortVisit hrun).mpr (by decide +kernel)

/-- The user leaves the shell with `exit`: the reader finds the end of the terminal, and the client
    disconnects. -/
def exitedShell : List (Event WholeFloat) :=
  [.connect, .operate 0 .exits, .operate 0 (.read (.ready .eio)), .operate 0 .isAlive,
    .disconnect 0 prompt]

def tallWindow : List (Event WholeFloat) :=
  [.connect, .frame 0 (resizeFrame 70000) (.sent 0) prompt]

/-- After `exit` the descriptor stays open and the child a zombie, and a resize that does not fit
    ends the session. -/
theorem terminal_leaks_exitedShell :
    (replay (step 4) Always .empty exitedShell).map Server.sessions =
        some [⟨⟨true, 0, .zombie⟩, false, false⟩] ∧
      (replay (step 4) Always .empty tallWindow).map Server.endedByFrame = some true ∧
      ¬ Throughout (step 4) (Released 4) .empty exitedShell := by
  refine ⟨by decide +kernel, by decide +kernel, fun h => ?_⟩
  have hend : step 4 ⟨[⟨⟨true, 0, .zombie⟩, true, true⟩], false⟩
      (.disconnect (F := WholeFloat) 0 prompt) =
        some ⟨[⟨⟨true, 0, .zombie⟩, false, false⟩], false⟩ := rfl
  obtain ⟨-, h⟩ := h
  obtain ⟨-, h⟩ := h _ rfl
  obtain ⟨-, h⟩ := h _ rfl
  obtain ⟨-, h⟩ := h _ rfl
  obtain ⟨-, h⟩ := h _ rfl
  have hreleased := (h _ hend).released _ (List.mem_singleton.mpr rfl) rfl
  exact absurd hreleased (by decide)

end Meshpoint.TerminalSessions
