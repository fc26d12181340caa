import Meshpoint.ListFacts
import Mathlib.Data.List.Induction
import Mathlib.Algebra.Order.Field.Rat

/-!
# The message repository

Model of `save_sent` and `save_received` of
`src/storage/message_repository.py` over the `messages` table.  Row ids are the
`AUTOINCREMENT` ids, so a table carries the fact that its ids are distinct and
below the counter.

`save_received` looks for an existing row by `packet_id` alone and merges the
reception into the first one it finds.  The sender of a packet is not a column
(a broadcast is filed under its channel's conversation), so whose row a
reception was merged into is tracked beside the table: `Store.origin` says which
kind of call wrote a row, and `Store.merges` lists the merges.  The row found
under a packet id is the one the first call with that id wrote (`indexed_run`),
which decides exactly which call sequences keep every message's identity
(`keepsIdentity_run_iff`).
-/

namespace Meshpoint.MessageRepository

open ListFacts

/-- The `direction` column. -/
inductive Direction where
  | sent
  | received
  | overheard
deriving DecidableEq, Repr

/-- The columns of `messages` other than the row id. -/
structure Columns where
  direction : Direction
  text : String
  nodeId : String
  nodeName : String
  protocol : String
  channel : Int
  timestamp : String
  status : String
  packetId : String
  rssi : Option ℚ
  snr : Option ℚ
  rxCount : Nat
  attachments : Option String
deriving DecidableEq

structure Row extends Columns where
  id : Nat
deriving DecidableEq

/-- The `messages` table. -/
structure Table where
  rows : List Row
  lastRowId : Nat
  idsBounded : ∀ row ∈ rows, row.id ≤ lastRowId
  idsNodup : (rows.map Row.id).Nodup

namespace Table

def empty : Table := ⟨[], 0, by simp, by simp⟩

/-- `INSERT INTO messages`: the new row and the table with it. -/
def insert (table : Table) (columns : Columns) : Table where
  rows := table.rows ++ [{ columns with id := table.lastRowId + 1 }]
  lastRowId := table.lastRowId + 1
  idsBounded := number_le_append table.idsBounded rfl
  idsNodup := nodup_append_number table.idsBounded table.idsNodup rfl

/-- `UPDATE messages SET ... WHERE id = ?`. -/
def updateById (table : Table) (id : Nat) (f : Columns → Columns) : Table where
  rows := table.rows.map fun row =>
    if row.id = id then { f row.toColumns with id := row.id } else row
  lastRowId := table.lastRowId
  idsBounded := number_le_map (fun row => by split <;> rfl) table.idsBounded
  idsNodup := by
    rw [map_number_map fun row => by split <;> rfl]
    exact table.idsNodup

/-- `SELECT ... FROM messages WHERE packet_id = ?`, first row. -/
def findPacket (table : Table) (packetId : String) : Option Row :=
  table.rows.find? fun row => decide (row.packetId = packetId)

theorem findPacket_mem {table : Table} {packetId : String} {row : Row}
    (h : table.findPacket packetId = some row) : row ∈ table.rows ∧ row.packetId = packetId :=
  ⟨List.mem_of_find?_eq_some h, by simpa using List.find?_some h⟩

end Table

/-! ### The two save operations -/

/-- Arguments of `save_sent`. -/
structure SentArgs where
  text : String
  nodeId : String
  nodeName : String
  protocol : String
  channel : Int := 0
  packetId : String := ""
  status : String := "sent"
  attachments : Option String := none

/-- Arguments of `save_received`. -/
structure ReceivedArgs where
  text : String
  nodeId : String
  nodeName : String
  protocol : String
  channel : Int := 0
  packetId : String := ""
  direction : Direction := .received
  rssi : Option ℚ := none
  snr : Option ℚ := none
  attachments : Option String := none

/-- The row `save_sent` inserts. -/
def SentArgs.columns (args : SentArgs) (now : String) : Columns where
  direction := .sent
  text := args.text
  nodeId := args.nodeId
  nodeName := args.nodeName
  protocol := args.protocol
  channel := args.channel
  timestamp := now
  status := args.status
  packetId := args.packetId
  rssi := none
  snr := none
  rxCount := 1
  attachments := args.attachments

/-- The row `save_received` inserts. -/
def ReceivedArgs.columns (args : ReceivedArgs) (now : String) : Columns where
  direction := args.direction
  text := args.text
  nodeId := args.nodeId
  nodeName := args.nodeName
  protocol := args.protocol
  channel := args.channel
  timestamp := now
  status := "delivered"
  packetId := args.packetId
  rssi := args.rssi
  snr := args.snr
  rxCount := 1
  attachments := args.attachments

/-- `save_sent`: the table and the new row id. -/
def saveSent (table : Table) (args : SentArgs) (now : String) : Table × Nat :=
  (table.insert (args.columns now), table.lastRowId + 1)

/-- The signal of a reception replaces a weaker or missing one. -/
def betterSignal (rssi existing : Option ℚ) : Bool :=
  match rssi, existing with
  | none, _ => false
  | some _, none => true
  | some new, some old => decide (old < new)

/-- The columns a merge writes: the counter, and the signal when it is better. -/
def mergeColumns (args : ReceivedArgs) (existing : Columns) : Columns :=
  let newCount := (if existing.rxCount = 0 then 1 else existing.rxCount) + 1
  if betterSignal args.rssi existing.rssi then
    { existing with rssi := args.rssi, snr := args.snr, rxCount := newCount }
  else { existing with rxCount := newCount }

/-- The row `save_received` merges into, if any. -/
def mergeTarget (table : Table) (args : ReceivedArgs) : Option Row :=
  if args.packetId = "" then none else table.findPacket args.packetId

/-- `save_received`: the table, the row id and whether it was a duplicate. -/
def saveReceived (table : Table) (args : ReceivedArgs) (now : String) : Table × Nat × Bool :=
  match mergeTarget table args with
  | some existing => (table.updateById existing.id (mergeColumns args), existing.id, true)
  | none => (table.insert (args.columns now), table.lastRowId + 1, false)

theorem mergeColumns_frame (args : ReceivedArgs) (existing : Columns) :
    (mergeColumns args existing).text = existing.text ∧
      (mergeColumns args existing).packetId = existing.packetId := by
  unfold mergeColumns
  simp only
  split <;> exact ⟨rfl, rfl⟩

theorem mergeTarget_mem {table : Table} {args : ReceivedArgs} {row : Row}
    (h : mergeTarget table args = some row) :
    args.packetId ≠ "" ∧ row ∈ table.rows ∧ row.packetId = args.packetId := by
  unfold mergeTarget at h
  split at h
  · cases h
  · rename_i hne
    exact ⟨hne, Table.findPacket_mem h⟩

theorem mem_rows_updateById {table : Table} {id : Nat} {args : ReceivedArgs} {row : Row} :
    row ∈ (table.updateById id (mergeColumns args)).rows →
      ∃ old ∈ table.rows, row.id = old.id ∧ row.text = old.text ∧ row.packetId = old.packetId := by
  intro hrow
  obtain ⟨old, hold, rfl⟩ := List.mem_map.mp hrow
  have hframe := mergeColumns_frame args old.toColumns
  refine ⟨old, hold, ?_⟩
  split
  · exact ⟨rfl, hframe.1, hframe.2⟩
  · exact ⟨rfl, rfl, rfl⟩

theorem exists_rows_updateById {table : Table} (id : Nat) (args : ReceivedArgs) {old : Row}
    (hold : old ∈ table.rows) :
    ∃ row ∈ (table.updateById id (mergeColumns args)).rows,
      row.id = old.id ∧ row.text = old.text ∧ row.packetId = old.packetId := by
  have hframe := mergeColumns_frame args old.toColumns
  refine ⟨_, List.mem_map.mpr ⟨old, hold, rfl⟩, ?_⟩
  split
  · exact ⟨rfl, hframe.1, hframe.2⟩
  · exact ⟨rfl, rfl, rfl⟩

/-! ### Calls, and who wrote which row -/

/-- What wrote a row: our own outbox, or a reception from `sender`. -/
inductive Origin where
  | outbox
  | inbound (protocol sender : String)
deriving DecidableEq, Repr

/-- A call with the clock text it reads; a reception comes with the source id of
    the packet it reports, which the repository is not given. -/
inductive Call where
  | sent (args : SentArgs) (now : String)
  | received (args : ReceivedArgs) (sender : String) (now : String)

namespace Call

def origin : Call → Origin
  | .sent _ _ => .outbox
  | .received args sender _ => .inbound args.protocol sender

def packetId : Call → String
  | .sent args _ => args.packetId
  | .received args _ _ => args.packetId

def text : Call → String
  | .sent args _ => args.text
  | .received args _ _ => args.text

def columns : Call → Columns
  | .sent args now => args.columns now
  | .received args _ now => args.columns now

theorem columns_text (call : Call) : call.columns.text = call.text := by cases call <;> rfl

theorem columns_packetId (call : Call) : call.columns.packetId = call.packetId := by
  cases call <;> rfl

end Call

/-- A reception that was merged, the row it went into and what had written it. -/
structure Merge where
  args : ReceivedArgs
  sender : String
  row : Row
  origin : Option Origin

structure Store where
  table : Table
  origin : Nat → Option Origin
  history : List Call
  merges : List Merge

def Store.empty : Store := ⟨Table.empty, fun _ => none, [], []⟩

/-- Record that `call` inserted a row. -/
def Store.inserted (s : Store) (call : Call) : Store where
  table := s.table.insert call.columns
  origin := Function.update s.origin (s.table.lastRowId + 1) (some call.origin)
  history := s.history ++ [call]
  merges := s.merges

def step (s : Store) : Call → Store
  | .sent args now => s.inserted (.sent args now)
  | .received args sender now =>
    match mergeTarget s.table args with
    | none => s.inserted (.received args sender now)
    | some row =>
        { table := s.table.updateById row.id (mergeColumns args)
          origin := s.origin
          history := s.history ++ [.received args sender now]
          merges := s.merges ++ [⟨args, sender, row, s.origin row.id⟩] }

def run (calls : List Call) : Store := calls.foldl step Store.empty

theorem run_append_singleton (calls : List Call) (call : Call) :
    run (calls ++ [call]) = step (run calls) call := by
  simp [run]

theorem step_table (s : Store) (call : Call) :
    (step s call).table = match call with
      | .sent args now => (saveSent s.table args now).1
      | .received args _ now => (saveReceived s.table args now).1 := by
  cases call with
  | sent args now => rfl
  | received args sender now =>
    simp only [step, saveReceived]
    cases mergeTarget s.table args <;> rfl

/-- What a call can do: insert a row of its own, or, for a reception with a
    packet id the table holds, merge into the row found. -/
theorem step_cases (s : Store) (call : Call) :
    (step s call = s.inserted call ∧
      ∀ args sender now, call = .received args sender now → mergeTarget s.table args = none) ∨
    ∃ args sender now row, call = .received args sender now ∧
      mergeTarget s.table args = some row ∧
      step s call =
        { table := s.table.updateById row.id (mergeColumns args)
          origin := s.origin
          history := s.history ++ [call]
          merges := s.merges ++ [⟨args, sender, row, s.origin row.id⟩] } := by
  cases call with
  | sent args now =>
    exact Or.inl ⟨rfl, by intro args sender now h; cases h⟩
  | received args sender now =>
    cases htarget : mergeTarget s.table args with
    | none =>
      refine Or.inl ⟨by simp only [step, htarget], ?_⟩
      intro args' sender' now' h
      cases h
      exact htarget
    | some row =>
      exact Or.inr ⟨args, sender, now, row, rfl, htarget, by simp only [step, htarget]⟩

theorem step_history (s : Store) (call : Call) : (step s call).history = s.history ++ [call] := by
  rcases step_cases s call with ⟨h, -⟩ | ⟨_, _, _, _, -, -, h⟩
  · rw [h]
    rfl
  · rw [h]

theorem run_history (calls : List Call) : (run calls).history = calls := by
  induction calls using List.reverseRecOn with
  | nil => rfl
  | append_singleton calls call ih => rw [run_append_singleton, step_history, ih]

/-! ### The row a packet id finds -/

def firstUse (calls : List Call) (packetId : String) : Option Call :=
  calls.find? fun call => decide (call.packetId = packetId)

/-- Under a non-empty packet id the table holds a row exactly when a call with
    that id was made, and the first row found was written by the first of them. -/
def Indexed (s : Store) : Prop :=
  ∀ packetId, packetId ≠ "" →
    (s.table.findPacket packetId).map (fun row => s.origin row.id) =
      (firstUse s.history packetId).map fun call => some call.origin

theorem findPacket_updateById (table : Table) (id : Nat) (args : ReceivedArgs) (packetId : String) :
    ((table.updateById id (mergeColumns args)).findPacket packetId).map Row.id =
      (table.findPacket packetId).map Row.id := by
  simp only [Table.findPacket, Table.updateById]
  induction table.rows with
  | nil => rfl
  | cons row rows ih =>
    have hpid : (if row.id = id then { mergeColumns args row.toColumns with id := row.id }
        else row : Row).packetId = row.packetId := by
      split
      · exact (mergeColumns_frame args row.toColumns).2
      · rfl
    have hid : (if row.id = id then { mergeColumns args row.toColumns with id := row.id }
        else row : Row).id = row.id := by
      split <;> rfl
    simp only [List.map_cons, List.find?_cons, hpid]
    split
    · exact congrArg some hid
    · exact ih

theorem findPacket_insert (table : Table) (columns : Columns) (packetId : String) :
    (table.insert columns).findPacket packetId =
      (table.findPacket packetId).or
        (if columns.packetId = packetId then
          some { columns with id := table.lastRowId + 1 } else none) := by
  simp only [Table.findPacket, Table.insert, List.find?_append]
  congr 1
  by_cases h : columns.packetId = packetId <;> simp [h]

theorem firstUse_append (calls : List Call) (call : Call) (packetId : String) :
    firstUse (calls ++ [call]) packetId =
      (firstUse calls packetId).or (if call.packetId = packetId then some call else none) := by
  simp only [firstUse, List.find?_append]
  congr 1
  by_cases h : call.packetId = packetId <;> simp [h]

theorem Store.inserted_origin {s : Store} {call : Call} {row : Row} (hrow : row ∈ s.table.rows) :
    (s.inserted call).origin row.id = s.origin row.id := by
  have hlt := s.table.idsBounded row hrow
  exact Function.update_of_ne (by omega) _ _

theorem indexed_inserted {s : Store} (h : Indexed s) (call : Call) : Indexed (s.inserted call) := by
  intro packetId hne
  have hold := h packetId hne
  have hfind : (s.inserted call).table.findPacket packetId = _ :=
    findPacket_insert s.table call.columns packetId
  have huse : firstUse (s.inserted call).history packetId = _ :=
    firstUse_append s.history call packetId
  rw [hfind, huse, call.columns_packetId]
  cases hrow : s.table.findPacket packetId with
  | some row =>
    rw [hrow] at hold
    cases hfirst : firstUse s.history packetId with
    | none => rw [hfirst] at hold; cases hold
    | some first =>
      rw [hfirst] at hold
      simp only [Option.map_some, Option.some.injEq] at hold
      simp only [Option.some_or, Option.map_some, Option.some.injEq]
      rw [Store.inserted_origin (Table.findPacket_mem hrow).1]
      exact hold
  | none =>
    rw [hrow] at hold
    cases hfirst : firstUse s.history packetId with
    | some first => rw [hfirst] at hold; cases hold
    | none =>
      simp only [Option.none_or]
      by_cases hp : call.packetId = packetId
      · simp [hp, Store.inserted]
      · simp [hp]

theorem indexed_step {s : Store} (h : Indexed s) (call : Call) : Indexed (step s call) := by
  rcases step_cases s call with ⟨hs, -⟩ | ⟨args, sender, now, row, rfl, htarget, hs⟩
  · rw [hs]
    exact indexed_inserted h call
  · rw [hs]
    obtain ⟨-, hmem, hpid⟩ := mergeTarget_mem htarget
    intro packetId hne
    have hold := h packetId hne
    have hrows : ((s.table.updateById row.id (mergeColumns args)).findPacket packetId).map
        (fun row => s.origin row.id) = (s.table.findPacket packetId).map
          fun row => s.origin row.id := by
      have := congrArg (Option.map s.origin) (findPacket_updateById s.table row.id args packetId)
      rw [Option.map_map, Option.map_map] at this
      exact this
    simp only
    rw [hrows, firstUse_append, hold]
    cases hfirst : firstUse s.history packetId with
    | some first => rfl
    | none =>
      -- the merged reception's own id was already in use
      rw [hfirst] at hold
      have hother : ¬ (Call.received args sender now).packetId = packetId := by
        intro hp
        have hnone : s.table.findPacket packetId = none := by simpa using hold
        have := List.find?_eq_none.mp hnone row hmem
        simp only [decide_eq_true_eq] at this
        exact this (hpid.trans hp)
      simp [hother]

theorem indexed_run (calls : List Call) : Indexed (run calls) := by
  induction calls using List.reverseRecOn with
  | nil => intro packetId _; rfl
  | append_singleton calls call ih =>
    rw [run_append_singleton]
    exact indexed_step ih call

/-! ### Identity is kept -/

/-- Every merge went into a row of the same protocol, sender and packet id, and
    every call has a row of its own identity carrying a text of that identity
    (its own text, for a message we sent). -/
structure KeepsIdentity (s : Store) : Prop where
  merged : ∀ m ∈ s.merges, m.args.packetId ≠ "" ∧ m.row.packetId = m.args.packetId ∧
    m.origin = some (.inbound m.args.protocol m.sender)
  own : ∀ call ∈ s.history, ∃ row ∈ s.table.rows,
    s.origin row.id = some call.origin ∧ row.packetId = call.packetId ∧
    (call.origin = .outbox → row.text = call.text) ∧
    ∃ first ∈ s.history, first.origin = call.origin ∧ first.packetId = call.packetId ∧
      row.text = first.text

/-- A condition on the calls alone: whenever a reception carries a packet id, the
    first call that used the id was a reception from the same sender over the
    same protocol. -/
def FirstUseSameSender (calls : List Call) : Prop :=
  ∀ args sender now, Call.received args sender now ∈ calls → args.packetId ≠ "" →
    ∀ first ∈ firstUse calls args.packetId, first.origin = .inbound args.protocol sender

def Attributed (s : Store) : Prop :=
  ∀ row ∈ s.table.rows, ∃ call ∈ s.history,
    s.origin row.id = some call.origin ∧ row.packetId = call.packetId ∧ row.text = call.text

theorem attributed_inserted {s : Store} (h : Attributed s) (call : Call) :
    Attributed (s.inserted call) := by
  intro row hrow
  rcases List.mem_append.mp hrow with hold | hnew
  · obtain ⟨c, hc, horig, hid, htext⟩ := h row hold
    exact ⟨c, by simp [Store.inserted, hc], by rw [Store.inserted_origin hold]; exact horig,
      hid, htext⟩
  · rw [List.mem_singleton.mp hnew]
    exact ⟨call, by simp [Store.inserted], by simp [Store.inserted],
      call.columns_packetId, call.columns_text⟩

theorem attributed_step {s : Store} (h : Attributed s) (call : Call) : Attributed (step s call) := by
  rcases step_cases s call with ⟨hs, -⟩ | ⟨args, sender, now, row, rfl, -, hs⟩
  · rw [hs]
    exact attributed_inserted h call
  · rw [hs]
    intro r hr
    obtain ⟨old, hold, hrid, hrtext, hrpid⟩ := mem_rows_updateById hr
    obtain ⟨c, hc, horig, hid, htext⟩ := h old hold
    exact ⟨c, by simp [hc], by rw [hrid]; exact horig, hrpid.trans hid, hrtext.trans htext⟩

theorem attributed_run (calls : List Call) : Attributed (run calls) := by
  induction calls using List.reverseRecOn with
  | nil => intro row hrow; cases hrow
  | append_singleton calls call ih =>
    rw [run_append_singleton]
    exact attributed_step ih call

theorem keepsIdentity_inserted {s : Store} (h : KeepsIdentity s) (call : Call) :
    KeepsIdentity (s.inserted call) where
  merged := h.merged
  own := by
    intro c hc
    rcases List.mem_append.mp hc with hold | hnew
    · obtain ⟨row, hrow, horig, hid, hout, first, hf, hrest⟩ := h.own c hold
      exact ⟨row, by simp [Store.inserted, Table.insert, hrow],
        by rw [Store.inserted_origin hrow]; exact horig, hid, hout, first,
        by simp [Store.inserted, hf], hrest⟩
    · rw [List.mem_singleton.mp hnew]
      exact ⟨{ call.columns with id := s.table.lastRowId + 1 },
        by simp [Store.inserted, Table.insert], by simp [Store.inserted],
        call.columns_packetId, fun _ => call.columns_text, call,
        by simp [Store.inserted], rfl, rfl, call.columns_text⟩

theorem keepsIdentity_merged {s s' : Store} {args : ReceivedArgs} {sender now : String} {row : Row}
    (ha : Attributed s) (hk : KeepsIdentity s) (htarget : mergeTarget s.table args = some row)
    (horigin : s.origin row.id = some (.inbound args.protocol sender))
    (hs : s' =
      { table := s.table.updateById row.id (mergeColumns args)
        origin := s.origin
        history := s.history ++ [.received args sender now]
        merges := s.merges ++ [⟨args, sender, row, s.origin row.id⟩] }) : KeepsIdentity s' := by
  subst hs
  obtain ⟨hne, hmem, hpid⟩ := mergeTarget_mem htarget
  refine ⟨?_, ?_⟩
  · intro m hm
    rcases List.mem_append.mp hm with hold | hnew
    · exact hk.merged m hold
    · rw [List.mem_singleton.mp hnew]
      exact ⟨hne, hpid, horigin⟩
  · intro c hc
    rcases List.mem_append.mp hc with hold | hnew
    · obtain ⟨old, hold, horig, hid, hout, first, hf, hfo, hfp, hft⟩ := hk.own c hold
      obtain ⟨r, hr, hrid, hrtext, hrpid⟩ :=
        exists_rows_updateById row.id args hold
      exact ⟨r, hr, by rw [hrid]; exact horig, hrpid.trans hid,
        fun ho => hrtext.trans (hout ho), first, by simp [hf], hfo, hfp, hrtext.trans hft⟩
    · -- the merged reception: the row it found already carries its identity
      rw [List.mem_singleton.mp hnew]
      obtain ⟨r, hr, hrid, hrtext, hrpid⟩ :=
        exists_rows_updateById row.id args hmem
      obtain ⟨c', hc', horig', hid', htext'⟩ := ha row hmem
      have hco : c'.origin = .inbound args.protocol sender := by
        rw [horigin] at horig'
        exact (Option.some.inj horig').symm
      refine ⟨r, hr, by rw [hrid]; exact horigin, hrpid.trans hpid, ?_, c',
        by simp [hc'], hco, hid'.symm.trans hpid, hrtext.trans htext'⟩
      intro hcontra
      cases hcontra

theorem firstUseSameSender_of_append {calls : List Call} {call : Call}
    (h : FirstUseSameSender (calls ++ [call])) : FirstUseSameSender calls := by
  intro args sender now hmem hne first hfirst
  refine h args sender now (List.mem_append_left _ hmem) hne first ?_
  rw [firstUse_append, Option.mem_def.mp hfirst]
  rfl

theorem origin_mergeTarget {s : Store} {args : ReceivedArgs} {row : Row} (hi : Indexed s)
    (htarget : mergeTarget s.table args = some row) :
    ∃ first, firstUse s.history args.packetId = some first ∧ s.origin row.id = some first.origin := by
  obtain ⟨hne, -, -⟩ := mergeTarget_mem htarget
  have hfind : s.table.findPacket args.packetId = some row := by
    simpa [mergeTarget, hne] using htarget
  have hix := hi args.packetId hne
  rw [hfind] at hix
  cases hfirst : firstUse s.history args.packetId with
  | none => rw [hfirst] at hix; cases hix
  | some first =>
    rw [hfirst] at hix
    exact ⟨first, rfl, Option.some.inj hix⟩

theorem keepsIdentity_run (calls : List Call) (h : FirstUseSameSender calls) :
    KeepsIdentity (run calls) := by
  induction calls using List.reverseRecOn with
  | nil =>
    exact ⟨(by intro m hm; cases hm), (by intro c hc; cases hc)⟩
  | append_singleton calls call ih =>
    have hk := ih (firstUseSameSender_of_append h)
    rw [run_append_singleton]
    rcases step_cases (run calls) call with ⟨hs, -⟩ | ⟨args, sender, now, row, rfl, htarget, hs⟩
    · rw [hs]
      exact keepsIdentity_inserted hk call
    · obtain ⟨first, hfirst, horigin⟩ := origin_mergeTarget (indexed_run calls) htarget
      rw [run_history] at hfirst
      have hsame : first.origin = .inbound args.protocol sender := by
        refine h args sender now (by simp) (mergeTarget_mem htarget).1 first ?_
        rw [firstUse_append, hfirst]
        rfl
      exact keepsIdentity_merged (attributed_run calls) hk htarget (hsame ▸ horigin) hs

theorem step_merges {s : Store} (call : Call) {m : Merge} (hm : m ∈ s.merges) :
    m ∈ (step s call).merges := by
  rcases step_cases s call with ⟨hs, -⟩ | ⟨_, _, _, _, -, -, hs⟩
  · rw [hs]
    exact hm
  · rw [hs]
    exact List.mem_append_left _ hm

theorem firstUseSameSender_run (calls : List Call)
    (h : ∀ m ∈ (run calls).merges, m.origin = some (.inbound m.args.protocol m.sender)) :
    FirstUseSameSender calls := by
  induction calls using List.reverseRecOn with
  | nil => intro args sender now hmem; cases hmem
  | append_singleton calls call ih =>
    rw [run_append_singleton] at h
    have hprev := ih fun m hm => h m (step_merges call hm)
    intro args sender now hmem hne first hfirst
    rw [firstUse_append] at hfirst
    cases huse : firstUse calls args.packetId with
    | some used =>
      rw [huse] at hfirst
      obtain rfl : used = first := by simpa using hfirst
      rcases List.mem_append.mp hmem with hold | hnew
      · exact hprev args sender now hold hne used huse
      · -- the last call found the id in use, so it was merged
        obtain rfl := List.mem_singleton.mp hnew
        rcases step_cases (run calls) (.received args sender now) with
          ⟨-, hnone⟩ | ⟨args', sender', now', row, hcall, htarget, hs⟩
        · have hix := indexed_run calls args.packetId hne
          rw [run_history, huse] at hix
          have := hnone args sender now rfl
          simp only [mergeTarget, if_neg hne] at this
          rw [this] at hix
          cases hix
        · cases hcall
          obtain ⟨used', hused', horigin⟩ := origin_mergeTarget (indexed_run calls) htarget
          rw [run_history, huse] at hused'
          cases hused'
          rw [hs] at h
          have hmerge := h ⟨args, sender, row, (run calls).origin row.id⟩ (by simp)
          simp only at hmerge
          exact Option.some.inj (horigin.symm.trans hmerge)
    | none =>
      rw [huse] at hfirst
      rcases List.mem_append.mp hmem with hold | hnew
      · -- an earlier reception with this id would have been a use of it
        have := List.find?_eq_none.mp huse _ hold
        simp [Call.packetId] at this
      · obtain rfl := List.mem_singleton.mp hnew
        simp only [Call.packetId, if_true, Option.none_or, Option.mem_def,
          Option.some.injEq] at hfirst
        rw [← hfirst]
        rfl

/-- **Message dedup identity.**  A sequence of saves keeps every message's
    identity exactly when each packet id that a reception carries was first used
    by a reception from the same sender over the same protocol. -/
theorem keepsIdentity_run_iff (calls : List Call) :
    KeepsIdentity (run calls) ↔ FirstUseSameSender calls := by
  constructor
  · intro h
    exact firstUseSameSender_run calls fun m hm => (h.merged m hm).2.2
  · exact keepsIdentity_run calls

/-- Two nodes whose texts carry packet id `0000002a`: the second one is counted
    as another copy of the first and has no row. -/
theorem keepsIdentity_run_two_senders :
    ¬ KeepsIdentity (run
      [.received ⟨"on my way", "broadcast:meshtastic:0", "A", "meshtastic", 0, "0000002a",
          .received, none, none, none⟩ "aaaa0001" "12:00:00",
        .received ⟨"need help", "broadcast:meshtastic:0", "B", "meshtastic", 0, "0000002a",
          .received, none, none, none⟩ "bbbb0002" "12:00:05"]) := by
  intro h
  have hmerge := h.merged _ (List.mem_singleton.mpr rfl)
  exact absurd hmerge.2.2 (by decide)

end Meshpoint.MessageRepository
