import Meshpoint.GuardedRun
import Meshpoint.MessageRepository

/-!
# Receptions in their own tasks

`on_text_packet` of `src/api/server.py` starts one task for every received text,
and the task ends in `save_received`: a SELECT, an await, and then an INSERT or an
UPDATE whose values were computed from the row the SELECT returned.  All tasks
share one connection, so the database runs one statement at a time and a run is
an interleaving of the statements of the tasks.

An UPDATE writes what its own SELECT saw, not what the row holds by then.
`exclusive` is the condition on a SELECT under which both are the same: no other
reception of the message is between its SELECT and its write.
-/

namespace Meshpoint.ReceptionTasks

open GuardedRun MessageRepository

/-! ### Tasks -/

/-- Where a task is suspended in `save_received`. -/
inductive Phase where
  | entered
  | selected (existing : Option Row)
  | written
  | committed
deriving DecidableEq

/-- A reception on its way into the store; `sender` is the source id of its packet. -/
structure Task where
  args : ReceivedArgs
  sender : String
  phase : Phase

structure State where
  table : Table
  tasks : List Task

/-- One statement of one task, or a message of our own. -/
inductive Event where
  | enter (args : ReceivedArgs) (sender : String)
  | select (task : Nat)
  | write (task : Nat) (now : String)
  | commit (task : Nat)
  | sent (args : SentArgs) (now : String)

/-- The UPDATE: the counter and the better signal as the SELECT showed them. -/
def mergeUpdate (args : ReceivedArgs) (existing current : Columns) : Columns :=
  let newCount := (if existing.rxCount = 0 then 1 else existing.rxCount) + 1
  if betterSignal args.rssi existing.rssi then
    { current with rssi := args.rssi, snr := args.snr, rxCount := newCount }
  else { current with rxCount := newCount }

/-- The INSERT or UPDATE of a reception whose SELECT returned `existing`. -/
def writeReception (table : Table) (args : ReceivedArgs) (now : String) : Option Row → Table
  | some existing => table.updateById existing.id (mergeUpdate args existing.toColumns)
  | none => table.insert (args.columns now)

/-- Run one statement; `none` if no task waits for it. -/
def step (s : State) : Event → Option State
  | .enter args sender => some { s with tasks := s.tasks ++ [⟨args, sender, .entered⟩] }
  | .select task =>
    match s.tasks[task]? with
    | some ⟨args, sender, .entered⟩ =>
      some { s with tasks := s.tasks.set task ⟨args, sender, .selected (mergeTarget s.table args)⟩ }
    | _ => none
  | .write task now =>
    match s.tasks[task]? with
    | some ⟨args, sender, .selected existing⟩ =>
      some { table := writeReception s.table args now existing
             tasks := s.tasks.set task ⟨args, sender, .written⟩ }
    | _ => none
  | .commit task =>
    match s.tasks[task]? with
    | some ⟨args, sender, .written⟩ =>
      some { s with tasks := s.tasks.set task ⟨args, sender, .committed⟩ }
    | _ => none
  | .sent args now => some { s with table := (saveSent s.table args now).1 }

def initial (table : Table) : State := ⟨table, []⟩

theorem mergeUpdate_self (args : ReceivedArgs) (existing : Columns) :
    mergeUpdate args existing existing = mergeColumns args existing := rfl

theorem writeReception_mergeTarget (table : Table) (args : ReceivedArgs) (now : String) :
    (writeReception table args now (mergeTarget table args)).rows =
      (saveReceived table args now).1.rows := by
  unfold saveReceived
  cases htarget : mergeTarget table args with
  | none => rfl
  | some existing =>
    have hmem := (mergeTarget_mem htarget).2.1
    simp only [writeReception, Table.updateById]
    apply List.map_congr_left
    intro row hrow
    by_cases hid : row.id = existing.id
    · have hrow : row = existing := List.inj_on_of_nodup_map table.idsNodup hrow hmem hid
      rw [hrow, if_pos rfl, if_pos rfl, mergeUpdate_self]
    · rw [if_neg hid, if_neg hid]

/-! ### One message -/

/-- A message on the air: its packet id and who sent it. -/
structure Message where
  packetId : String
  sender : String

def rowsOf (table : Table) (packetId : String) : List Row :=
  table.rows.filter fun row => decide (row.packetId = packetId)

/-- The task is a reception of a packet with this id. -/
def Task.carries (packetId : String) (task : Task) : Bool := decide (task.args.packetId = packetId)

def Task.pending (task : Task) : Bool :=
  match task.phase with
  | .selected _ => true
  | _ => false

def Task.stored (task : Task) : Bool :=
  match task.phase with
  | .written | .committed => true
  | _ => false

/-- One for a reception of the packet id between its SELECT and its write. -/
def openOf (packetId : String) (task : Task) : Nat :=
  if task.carries packetId && task.pending then 1 else 0

/-- What a list of tasks has received under a packet id. -/
def receptions (packetId : String) (tasks : List Task) : List ReceivedArgs :=
  (tasks.filter (Task.carries packetId)).map Task.args

/-- What a list of tasks has received under a packet id and written. -/
def storedReceptions (packetId : String) (tasks : List Task) : List ReceivedArgs :=
  (tasks.filter fun task => task.carries packetId && task.stored).map Task.args

/-- `rssi` is the strongest signal among the reported ones, missing when none reported it. -/
def IsStrongest (rssi : Option ℚ) (reported : List (Option ℚ)) : Prop :=
  match rssi with
  | none => ∀ r ∈ reported, r = none
  | some v => some v ∈ reported ∧ ∀ w, some w ∈ reported → w ≤ v

/-- The table holds the given receptions of a packet id in one row with their number and
    their strongest signal, and no row without any. -/
def StoredOnce (table : Table) (packetId : String) (received : List ReceivedArgs) : Prop :=
  (received = [] ∧ rowsOf table packetId = []) ∨
    ∃ row, rowsOf table packetId = [row] ∧ 0 < received.length ∧
      row.rxCount = received.length ∧ IsStrongest row.rssi (received.map ReceivedArgs.rssi)

/-- The guard on a run: a packet id is used by its message only, and no reception of the
    message looks for the row while another one is between its SELECT and its write. -/
def exclusive (m : Message) (s : State) : Event → Prop
  | .enter args sender => args.packetId = m.packetId → sender = m.sender
  | .select task => ∀ t ∈ s.tasks[task]?, t.carries m.packetId = true →
      weight (openOf m.packetId) s.tasks = 0
  | .sent args _ => args.packetId ≠ m.packetId
  | .write _ _ => True
  | .commit _ => True

instance (m : Message) (s : State) : ∀ e, Decidable (exclusive m s e)
  | .enter _ _ => inferInstanceAs (Decidable (_ → _))
  | .select task =>
    match h : s.tasks[task]? with
    | none => isTrue (by intro t ht; rw [h] at ht; cases ht)
    | some t =>
      decidable_of_iff (t.carries m.packetId = true → weight (openOf m.packetId) s.tasks = 0)
        ⟨by
          intro hopen t' ht'
          rw [h] at ht'
          cases ht'
          exact hopen,
        fun hopen => hopen t h⟩
  | .sent _ _ => inferInstanceAs (Decidable (_ ≠ _))
  | .write _ _ | .commit _ => isTrue trivial

/-! ### The table -/

theorem findPacket_eq_head? (table : Table) (packetId : String) :
    table.findPacket packetId = (rowsOf table packetId).head? :=
  (List.head?_filter ..).symm

theorem rowsOf_insert (table : Table) (columns : Columns) (packetId : String) :
    rowsOf (table.insert columns) packetId = rowsOf table packetId ++
      if columns.packetId = packetId then [{ columns with id := table.lastRowId + 1 }] else [] := by
  unfold rowsOf Table.insert
  rw [List.filter_append]
  by_cases h : columns.packetId = packetId <;> simp [h]

theorem mergeUpdate_packetId (args : ReceivedArgs) (existing current : Columns) :
    (mergeUpdate args existing current).packetId = current.packetId := by
  unfold mergeUpdate
  simp only
  split <;> rfl

theorem rowsOf_updateById (table : Table) (id : Nat) (args : ReceivedArgs) (existing : Columns)
    (packetId : String) :
    rowsOf (table.updateById id (mergeUpdate args existing)) packetId =
      (rowsOf table packetId).map fun row =>
        if row.id = id then { mergeUpdate args existing row.toColumns with id := row.id }
        else row := by
  unfold rowsOf Table.updateById
  rw [List.filter_map]
  congr 1
  apply List.filter_congr
  intro row _
  simp only [Function.comp_apply]
  split
  · simp only [mergeUpdate_packetId]
  · rfl

theorem rowsOf_updateById_of_ne {table : Table} {packetId : String} {current : Row}
    (args : ReceivedArgs) (existing : Columns) (hmem : current ∈ table.rows)
    (hne : current.packetId ≠ packetId) :
    rowsOf (table.updateById current.id (mergeUpdate args existing)) packetId =
      rowsOf table packetId := by
  rw [rowsOf_updateById]
  conv_rhs => rw [← List.map_id (rowsOf table packetId)]
  apply List.map_congr_left
  intro row hrow
  obtain ⟨hrow, hpid⟩ := List.mem_filter.mp hrow
  rw [if_neg]
  · rfl
  · intro hid
    have hsame : row = current := List.inj_on_of_nodup_map table.idsNodup hrow hmem hid
    apply hne
    rw [← hsame]
    exact of_decide_eq_true hpid

/-! ### Tasks that move on -/

/-- What one task contributes to the stored receptions. -/
def contribution (packetId : String) (task : Task) : List ReceivedArgs :=
  if task.carries packetId && task.stored then [task.args] else []

theorem storedReceptions_set {packetId : String} {tasks : List Task} {i : Nat} {x : Task}
    (y : Task) (hx : tasks[i]? = some x) :
    ∃ rest, (storedReceptions packetId tasks).Perm (contribution packetId x ++ rest) ∧
      (storedReceptions packetId (tasks.set i y)).Perm (contribution packetId y ++ rest) := by
  obtain ⟨hlt, rfl⟩ := List.getElem?_eq_some_iff.mp hx
  have hcons : ∀ (t : Task) (rest : List Task), storedReceptions packetId (t :: rest) =
      contribution packetId t ++ storedReceptions packetId rest := by
    intro t rest
    unfold storedReceptions contribution
    rw [List.filter_cons]
    split <;> rfl
  refine ⟨storedReceptions packetId (tasks.eraseIdx i), ?_, ?_⟩
  · rw [← hcons]
    exact ((List.getElem_cons_eraseIdx_perm hlt).symm.filter _).map _
  · rw [← hcons]
    exact ((List.set_perm_cons_eraseIdx hlt y).filter _).map _

theorem storedOnce_of_perm {table : Table} {packetId : String} {l l' : List ReceivedArgs}
    (hperm : l.Perm l') (h : StoredOnce table packetId l) : StoredOnce table packetId l' := by
  rcases h with ⟨hnil, hrows⟩ | ⟨row, hrows, hpos, hcount, hrssi⟩
  · exact Or.inl ⟨List.perm_nil.mp (hnil ▸ hperm.symm), hrows⟩
  · refine Or.inr ⟨row, hrows, hperm.length_eq ▸ hpos, hperm.length_eq ▸ hcount, ?_⟩
    have hmem : ∀ r, r ∈ l'.map ReceivedArgs.rssi ↔ r ∈ l.map ReceivedArgs.rssi :=
      fun r => (hperm.map ReceivedArgs.rssi).mem_iff.symm
    unfold IsStrongest at hrssi ⊢
    cases hr : row.rssi with
    | none =>
      rw [hr] at hrssi
      intro r hmemr
      exact hrssi r ((hmem r).mp hmemr)
    | some v =>
      rw [hr] at hrssi
      exact ⟨(hmem _).mpr hrssi.1, fun w hw => hrssi.2 w ((hmem _).mp hw)⟩

theorem isStrongest_singleton (rssi : Option ℚ) : IsStrongest rssi [rssi] := by
  unfold IsStrongest
  cases rssi with
  | none => simp
  | some v =>
    constructor
    · simp
    · intro w hw
      rw [List.mem_singleton, Option.some.injEq] at hw
      exact le_of_eq hw

theorem isStrongest_cons {rssi kept : Option ℚ} {reported : List (Option ℚ)}
    (h : IsStrongest kept reported) :
    IsStrongest (if betterSignal rssi kept then rssi else kept) (rssi :: reported) := by
  cases rssi with
  | none =>
    rw [show betterSignal none kept = false by cases kept <;> rfl]
    cases kept with
    | none =>
      intro r hr
      rcases List.mem_cons.mp hr with rfl | hr
      · rfl
      · exact h r hr
    | some v =>
      constructor
      · exact List.mem_cons_of_mem _ h.1
      · intro w hw
        rcases List.mem_cons.mp hw with hw | hw
        · cases hw
        · exact h.2 w hw
  | some new =>
    cases kept with
    | none =>
      constructor
      · exact List.mem_cons_self
      · intro w hw
        rcases List.mem_cons.mp hw with hw | hw
        · cases hw
          exact le_refl _
        · cases h _ hw
    | some v =>
      by_cases hlt : v < new
      · rw [show betterSignal (some new) (some v) = true from decide_eq_true hlt]
        constructor
        · exact List.mem_cons_self
        · intro w hw
          rcases List.mem_cons.mp hw with hw | hw
          · cases hw
            exact le_refl _
          · exact le_trans (h.2 w hw) (le_of_lt hlt)
      · rw [show betterSignal (some new) (some v) = false from decide_eq_false hlt]
        constructor
        · exact List.mem_cons_of_mem _ h.1
        · intro w hw
          rcases List.mem_cons.mp hw with hw | hw
          · cases hw
            exact le_of_not_gt hlt
          · exact h.2 w hw

theorem storedOnce_write {table : Table} {args : ReceivedArgs} {received : List ReceivedArgs}
    (now : String) (h : StoredOnce table args.packetId received) :
    StoredOnce (writeReception table args now (table.findPacket args.packetId)) args.packetId
      (args :: received) := by
  refine Or.inr ?_
  rcases h with ⟨rfl, hrows⟩ | ⟨row, hrows, hpos, hcount, hrssi⟩
  · rw [findPacket_eq_head?, hrows]
    have hinsert : rowsOf (table.insert (args.columns now)) args.packetId =
        [{ args.columns now with id := table.lastRowId + 1 }] := by
      rw [rowsOf_insert, hrows, if_pos (show (args.columns now).packetId = args.packetId from rfl)]
      rfl
    exact ⟨_, hinsert, Nat.one_pos, rfl, isStrongest_singleton args.rssi⟩
  · rw [findPacket_eq_head?, hrows]
    have hupdate : rowsOf (table.updateById row.id (mergeUpdate args row.toColumns))
        args.packetId = [{ mergeUpdate args row.toColumns row.toColumns with id := row.id }] := by
      rw [rowsOf_updateById, hrows]
      simp
    have hfields : (mergeUpdate args row.toColumns row.toColumns).rxCount = row.rxCount + 1 ∧
        (mergeUpdate args row.toColumns row.toColumns).rssi =
          if betterSignal args.rssi row.rssi then args.rssi else row.rssi := by
      have hcounted : ¬ row.rxCount = 0 := by omega
      unfold mergeUpdate
      simp only [if_neg hcounted]
      cases hbetter : betterSignal args.rssi row.rssi <;> exact ⟨rfl, rfl⟩
    refine ⟨_, hupdate, Nat.succ_pos _, ?_, ?_⟩
    · rw [hfields.1, hcount]
      rfl
    · rw [hfields.2]
      exact isStrongest_cons hrssi

/-! ### Inversion of a step -/

theorem step_cases {s s' : State} {e : Event} (h : step s e = some s') :
    (∃ args sender, e = .enter args sender ∧
      s' = { s with tasks := s.tasks ++ [⟨args, sender, .entered⟩] }) ∨
    (∃ i args sender, e = .select i ∧ s.tasks[i]? = some ⟨args, sender, .entered⟩ ∧
      s' = { s with tasks := s.tasks.set i ⟨args, sender, .selected (mergeTarget s.table args)⟩ }) ∨
    (∃ i args sender existing now, e = .write i now ∧
      s.tasks[i]? = some ⟨args, sender, .selected existing⟩ ∧
      s' = { table := writeReception s.table args now existing
             tasks := s.tasks.set i ⟨args, sender, .written⟩ }) ∨
    (∃ i args sender, e = .commit i ∧ s.tasks[i]? = some ⟨args, sender, .written⟩ ∧
      s' = { s with tasks := s.tasks.set i ⟨args, sender, .committed⟩ }) ∨
    (∃ args now, e = .sent args now ∧ s' = { s with table := s.table.insert (args.columns now) }) := by
  cases e with
  | enter args sender => exact Or.inl ⟨args, sender, rfl, (Option.some.inj h).symm⟩
  | select i =>
    simp only [step] at h
    split at h
    · exact Or.inr (Or.inl ⟨i, _, _, rfl, ‹_›, (Option.some.inj h).symm⟩)
    · cases h
  | write i now =>
    simp only [step] at h
    split at h
    · exact Or.inr (Or.inr (Or.inl ⟨i, _, _, _, now, rfl, ‹_›, (Option.some.inj h).symm⟩))
    · cases h
  | commit i =>
    simp only [step] at h
    split at h
    · exact Or.inr (Or.inr (Or.inr (Or.inl ⟨i, _, _, rfl, ‹_›, (Option.some.inj h).symm⟩)))
    · cases h
  | sent args now => exact Or.inr (Or.inr (Or.inr (Or.inr ⟨args, now, rfl, (Option.some.inj h).symm⟩)))

/-! ### The invariant -/

/-- What every guarded run keeps: the finished receptions are in one row, the only
    reception between its SELECT and its write saw that row, and every row a SELECT
    returned is still there under its packet id. -/
structure Inv (m : Message) (s : State) : Prop where
  storedOnce : StoredOnce s.table m.packetId (storedReceptions m.packetId s.tasks)
  single : weight (openOf m.packetId) s.tasks ≤ 1
  fresh : ∀ t ∈ s.tasks, ∀ existing, t.phase = .selected existing →
    t.carries m.packetId = true → existing = s.table.findPacket m.packetId
  present : ∀ t ∈ s.tasks, ∀ row, t.phase = .selected (some row) →
    ∃ current ∈ s.table.rows, current.id = row.id ∧ current.packetId = t.args.packetId

theorem storedReceptions_set_of_eq {packetId : String} {tasks : List Task} {i : Nat} {x y : Task}
    (hx : tasks[i]? = some x) (h : contribution packetId x = contribution packetId y) :
    (storedReceptions packetId tasks).Perm (storedReceptions packetId (tasks.set i y)) := by
  obtain ⟨rest, hold, hnew⟩ := storedReceptions_set y hx
  exact (h ▸ hold).trans hnew.symm

theorem present_writeReception {table : Table} {args : ReceivedArgs} {now : String}
    {existing : Option Row} {old : Row} (h : old ∈ table.rows) :
    ∃ current ∈ (writeReception table args now existing).rows,
      current.id = old.id ∧ current.packetId = old.packetId := by
  cases existing with
  | none => exact ⟨old, List.mem_append_left _ h, rfl, rfl⟩
  | some row =>
    refine ⟨_, List.mem_map.mpr ⟨old, h, rfl⟩, ?_⟩
    split
    · exact ⟨rfl, mergeUpdate_packetId args row.toColumns old.toColumns⟩
    · exact ⟨rfl, rfl⟩

theorem inv_initial (m : Message) {table : Table} (hfresh : rowsOf table m.packetId = []) :
    Inv m (initial table) where
  storedOnce := Or.inl ⟨rfl, hfresh⟩
  single := Nat.zero_le 1
  fresh := by intro t ht; cases ht
  present := by intro t ht; cases ht

theorem inv_insert {m : Message} {s : State} (hi : Inv m s) {columns : Columns}
    (hne : columns.packetId ≠ m.packetId) :
    Inv m { s with table := s.table.insert columns } := by
  have hrows : rowsOf (s.table.insert columns) m.packetId = rowsOf s.table m.packetId := by
    rw [rowsOf_insert, if_neg hne, List.append_nil]
  constructor
  · unfold StoredOnce
    simp only [hrows]
    exact hi.storedOnce
  · exact hi.single
  · intro t ht existing hphase hcarries
    rw [hi.fresh t ht existing hphase hcarries, findPacket_eq_head?, findPacket_eq_head?]
    exact congrArg List.head? hrows.symm
  · intro t ht row hphase
    obtain ⟨current, hmem, hids⟩ := hi.present t ht row hphase
    exact ⟨current, List.mem_append_left _ hmem, hids⟩

theorem inv_enter {m : Message} {s : State} (hi : Inv m s) (args : ReceivedArgs) (sender : String) :
    Inv m { s with tasks := s.tasks ++ [⟨args, sender, .entered⟩] } := by
  have hnone : storedReceptions m.packetId (s.tasks ++ [⟨args, sender, .entered⟩]) =
      storedReceptions m.packetId s.tasks := by
    simp [storedReceptions, Task.stored]
  constructor
  · simp only [hnone]
    exact hi.storedOnce
  · have hopen : openOf m.packetId ⟨args, sender, .entered⟩ = 0 := by
      simp [openOf, Task.pending]
    simp only [weight_append, weight_cons, weight_nil, hopen, Nat.add_zero]
    exact hi.single
  · intro t ht existing hphase hcarries
    rcases List.mem_append.mp ht with ht | ht
    · exact hi.fresh t ht existing hphase hcarries
    · rw [List.mem_singleton.mp ht] at hphase
      cases hphase
  · intro t ht row hphase
    rcases List.mem_append.mp ht with ht | ht
    · exact hi.present t ht row hphase
    · rw [List.mem_singleton.mp ht] at hphase
      cases hphase

theorem inv_select {m : Message} {s : State} (hi : Inv m s) (hid : m.packetId ≠ "") {i : Nat}
    {args : ReceivedArgs} {sender : String} (hx : s.tasks[i]? = some ⟨args, sender, .entered⟩)
    (hguard : exclusive m s (.select i)) :
    Inv m { s with
      tasks := s.tasks.set i ⟨args, sender, .selected (mergeTarget s.table args)⟩ } := by
  have hsame : contribution m.packetId ⟨args, sender, .entered⟩ =
      contribution m.packetId ⟨args, sender, .selected (mergeTarget s.table args)⟩ := by
    simp [contribution, Task.stored]
  have hset := weight_set (openOf m.packetId)
    ⟨args, sender, .selected (mergeTarget s.table args)⟩ hx
  have hentered : openOf m.packetId ⟨args, sender, .entered⟩ = 0 := by
    simp [openOf, Task.pending]
  constructor
  · exact storedOnce_of_perm (storedReceptions_set_of_eq hx hsame) hi.storedOnce
  · by_cases hcarries : args.packetId = m.packetId
    · have hzero := hguard _ hx (decide_eq_true hcarries)
      have hone : openOf m.packetId ⟨args, sender, .selected (mergeTarget s.table args)⟩ ≤ 1 := by
        unfold openOf
        split <;> omega
      simp only
      omega
    · have hnew : openOf m.packetId ⟨args, sender, .selected (mergeTarget s.table args)⟩ = 0 := by
        simp [openOf, Task.carries, hcarries]
      have hold := hi.single
      simp only
      omega
  · intro t ht existing hphase hcarries
    rcases List.mem_or_eq_of_mem_set ht with ht | rfl
    · exact hi.fresh t ht existing hphase hcarries
    · cases hphase
      have hpid : args.packetId = m.packetId := of_decide_eq_true hcarries
      rw [mergeTarget, if_neg (hpid ▸ hid), hpid]
  · intro t ht row hphase
    rcases List.mem_or_eq_of_mem_set ht with ht | rfl
    · exact hi.present t ht row hphase
    · have htarget : mergeTarget s.table args = some row := by
        injection hphase
      obtain ⟨-, hmem, hpid⟩ := mergeTarget_mem htarget
      exact ⟨row, hmem, rfl, hpid⟩

theorem inv_write {m : Message} {s : State} (hi : Inv m s) {i : Nat} {args : ReceivedArgs}
    {sender now : String} {existing : Option Row}
    (hx : s.tasks[i]? = some ⟨args, sender, .selected existing⟩) :
    Inv m { table := writeReception s.table args now existing
            tasks := s.tasks.set i ⟨args, sender, .written⟩ } := by
  have hmem := List.mem_of_getElem? hx
  have hset := weight_set (openOf m.packetId) ⟨args, sender, .written⟩ hx
  have hclosed : openOf m.packetId ⟨args, sender, .written⟩ = 0 := by
    simp [openOf, Task.pending]
  have hpresent : ∀ t ∈ s.tasks.set i ⟨args, sender, .written⟩, ∀ row,
      t.phase = .selected (some row) →
      ∃ current ∈ (writeReception s.table args now existing).rows,
        current.id = row.id ∧ current.packetId = t.args.packetId := by
    intro t ht row hphase
    rcases List.mem_or_eq_of_mem_set ht with ht | rfl
    · obtain ⟨old, hold, hid, hpid⟩ := hi.present t ht row hphase
      obtain ⟨current, hcurrent, hid', hpid'⟩ := present_writeReception hold
      exact ⟨current, hcurrent, hid'.trans hid, hpid'.trans hpid⟩
    · cases hphase
  obtain ⟨rest, hold, hnew⟩ := storedReceptions_set ⟨args, sender, .written⟩ hx
  by_cases hcarries : args.packetId = m.packetId
  · -- a reception of the message: it saw the row there is, and nobody else is open
    have hopen : openOf m.packetId ⟨args, sender, .selected existing⟩ = 1 := by
      simp [openOf, Task.carries, Task.pending, hcarries]
    have hseen := hi.fresh _ hmem existing rfl (decide_eq_true hcarries)
    have hstored : StoredOnce (writeReception s.table args now existing) m.packetId
        (args :: storedReceptions m.packetId s.tasks) := by
      rw [hseen, ← hcarries]
      exact storedOnce_write now (hcarries ▸ hi.storedOnce)
    have hbefore : contribution m.packetId ⟨args, sender, .selected existing⟩ = [] := by
      simp [contribution, Task.stored]
    have hafter : contribution m.packetId ⟨args, sender, .written⟩ = [args] := by
      simp [contribution, Task.carries, Task.stored, hcarries]
    rw [hbefore, List.nil_append] at hold
    rw [hafter, List.singleton_append] at hnew
    have hsingle := hi.single
    constructor
    · exact storedOnce_of_perm ((hold.cons args).trans hnew.symm) hstored
    · simp only
      omega
    · intro t ht existing' hphase hcarries'
      have hle : openOf m.packetId t ≤ weight (openOf m.packetId)
          (s.tasks.set i ⟨args, sender, .written⟩) := le_weight _ ht
      have hone : openOf m.packetId t = 1 := by
        simp [openOf, hcarries', Task.pending, hphase]
      omega
    · exact hpresent
  · -- a reception of another packet id: the message's rows are as before
    have hrows : rowsOf (writeReception s.table args now existing) m.packetId =
        rowsOf s.table m.packetId := by
      cases existing with
      | none =>
        have hne : (args.columns now).packetId ≠ m.packetId := hcarries
        refine (rowsOf_insert ..).trans ?_
        rw [if_neg hne, List.append_nil]
      | some row =>
        obtain ⟨current, hcurrent, hid, hpid⟩ := hi.present _ hmem row rfl
        unfold writeReception
        simp only
        rw [← hid]
        exact rowsOf_updateById_of_ne args row.toColumns hcurrent (hpid ▸ hcarries)
    have hsame : contribution m.packetId ⟨args, sender, .selected existing⟩ =
        contribution m.packetId ⟨args, sender, .written⟩ := by
      simp [contribution, Task.carries, hcarries]
    have hsingle := hi.single
    constructor
    · have hstored := storedOnce_of_perm (storedReceptions_set_of_eq hx hsame) hi.storedOnce
      unfold StoredOnce at hstored ⊢
      simp only [hrows]
      exact hstored
    · simp only
      omega
    · intro t ht existing' hphase hcarries'
      rw [findPacket_eq_head?, hrows, ← findPacket_eq_head?]
      rcases List.mem_or_eq_of_mem_set ht with ht | rfl
      · exact hi.fresh t ht existing' hphase hcarries'
      · cases hphase
    · exact hpresent

theorem inv_commit {m : Message} {s : State} (hi : Inv m s) {i : Nat} {args : ReceivedArgs}
    {sender : String} (hx : s.tasks[i]? = some ⟨args, sender, .written⟩) :
    Inv m { s with tasks := s.tasks.set i ⟨args, sender, .committed⟩ } := by
  have hset := weight_set (openOf m.packetId) ⟨args, sender, .committed⟩ hx
  have hopen : openOf m.packetId ⟨args, sender, .committed⟩ = 0 := by
    simp [openOf, Task.pending]
  constructor
  · exact storedOnce_of_perm (storedReceptions_set_of_eq hx rfl) hi.storedOnce
  · have hold := hi.single
    simp only
    omega
  · intro t ht existing hphase hcarries
    rcases List.mem_or_eq_of_mem_set ht with ht | rfl
    · exact hi.fresh t ht existing hphase hcarries
    · cases hphase
  · intro t ht row hphase
    rcases List.mem_or_eq_of_mem_set ht with ht | rfl
    · exact hi.present t ht row hphase
    · cases hphase

theorem inv_step {m : Message} (hid : m.packetId ≠ "") {s s' : State} {e : Event} (hi : Inv m s)
    (hguard : exclusive m s e) (h : step s e = some s') : Inv m s' := by
  rcases step_cases h with ⟨args, sender, rfl, rfl⟩ | ⟨i, args, sender, rfl, hx, rfl⟩ |
    ⟨i, args, sender, existing, now, rfl, hx, rfl⟩ | ⟨i, args, sender, rfl, hx, rfl⟩ |
    ⟨args, now, rfl, rfl⟩
  · exact inv_enter hi args sender
  · exact inv_select hi hid hx hguard
  · exact inv_write hi hx
  · exact inv_commit hi hx
  · exact inv_insert hi hguard

theorem storedReceptions_of_committed {tasks : List Task} (packetId : String)
    (h : ∀ t ∈ tasks, t.phase = .committed) :
    storedReceptions packetId tasks = receptions packetId tasks := by
  unfold storedReceptions receptions
  congr 1
  apply List.filter_congr
  intro t ht
  simp [Task.stored, h t ht]

/-- **Receptions of one message.**  In every run in which no reception of the message
    looks for its row while another one is between its SELECT and its write, the
    receptions written so far are in one row that counts them and keeps the strongest
    signal; so are all of them once every task has finished. -/
theorem receptions_storedOnce (m : Message) (hid : m.packetId ≠ "") (table : Table)
    (hfresh : rowsOf table m.packetId = []) (s : State)
    (hrun : Reaches step (exclusive m) (initial table) s) :
    StoredOnce s.table m.packetId (storedReceptions m.packetId s.tasks) ∧
      ((∀ t ∈ s.tasks, t.phase = .committed) →
        StoredOnce s.table m.packetId (receptions m.packetId s.tasks)) := by
  have hinv : Inv m s := hrun.invariant (inv_initial m hfresh)
    fun s e s' hs hguard hstep => inv_step hid hs hguard hstep
  refine ⟨hinv.storedOnce, ?_⟩
  intro hdone
  rw [← storedReceptions_of_committed m.packetId hdone]
  exact hinv.storedOnce

/-- The text `0000002a` of node `aaaa0001`, heard with a given signal strength. -/
def onMyWay (rssi : ℚ) : ReceivedArgs :=
  ⟨"on my way", "broadcast:meshtastic:0", "A", "meshtastic", 0, "0000002a", .received, some rssi,
    some 5, none⟩

/-- Counters and signals of the rows under a packet id, and which tasks have finished. -/
def summary (packetId : String) (s : State) : List (Nat × Option ℚ) × List Bool :=
  ((rowsOf s.table packetId).map fun row => (row.rxCount, row.rssi),
    s.tasks.map fun t => decide (t.phase = .committed))

/-- Two copies one after the other: one row, counted twice, with the stronger signal. -/
theorem receptions_storedOnce_two :
    ∃ s, Reaches step (exclusive ⟨"0000002a", "aaaa0001"⟩) (initial Table.empty) s ∧
      summary "0000002a" s = ([(2, some (-70))], [true, true]) ∧
      StoredOnce s.table "0000002a" (storedReceptions "0000002a" s.tasks) := by
  obtain ⟨s, hrun, hsummary⟩ : ∃ s,
      Reaches step (exclusive ⟨"0000002a", "aaaa0001"⟩) (initial Table.empty) s ∧
        summary "0000002a" s = ([(2, some (-70))], [true, true]) :=
    exists_reaches_of_replay
      [.enter (onMyWay (-90)) "aaaa0001", .enter (onMyWay (-70)) "aaaa0001", .select 1,
        .write 1 "12:00:00", .select 0, .write 0 "12:00:01", .commit 0, .commit 1]
      (by decide +kernel)
  have hstored := receptions_storedOnce ⟨"0000002a", "aaaa0001"⟩ (by decide) Table.empty rfl s hrun
  exact ⟨s, hrun, hsummary, hstored.1⟩

/-- Two copies whose SELECTs both come before the first INSERT have two rows, each counted
    once, when both tasks have finished. -/
theorem two_rows_for_one_message :
    ∃ s, Reaches step Always (initial Table.empty) s ∧
      summary "0000002a" s = ([(1, some (-90)), (1, some (-70))], [true, true]) ∧
      ¬ StoredOnce s.table "0000002a" (receptions "0000002a" s.tasks) := by
  obtain ⟨s, hrun, hsummary⟩ : ∃ s, Reaches step Always (initial Table.empty) s ∧
      summary "0000002a" s = ([(1, some (-90)), (1, some (-70))], [true, true]) :=
    exists_reaches_of_replay
      [.enter (onMyWay (-90)) "aaaa0001", .enter (onMyWay (-70)) "aaaa0001", .select 0, .select 1,
        .write 0 "12:00:00", .write 1 "12:00:00", .commit 0, .commit 1]
      (by decide +kernel)
  refine ⟨s, hrun, hsummary, ?_⟩
  have hlength : (rowsOf s.table "0000002a").length = 2 := by
    simpa [summary] using congrArg (fun q => q.1.length) hsummary
  rintro (⟨-, hnone⟩ | ⟨row, hone, -⟩)
  · rw [hnone] at hlength
    cases hlength
  · rw [hone] at hlength
    cases hlength

end Meshpoint.ReceptionTasks
