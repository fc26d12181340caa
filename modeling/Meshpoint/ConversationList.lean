import Meshpoint.ConversationPaging
import Mathlib.Data.List.Dedup

/-!
# The list of conversations

`get_conversations`, `mark_read`, `delete_conversation` and `delete_all_messages` of
`message_repository.py`, over runs of these and of the two save operations.

An inbox is what the table is for: which conversations have messages, and how many of each are
unread.  After every run `get_conversations` lists the inbox (`getConversations_run`).
-/

namespace Meshpoint.ConversationList

open KeysetPaging MessageRepository
open ConversationPaging (time)

/-! ### The other operations on the table -/

/-- `UPDATE messages SET status = 'read' WHERE ...`. -/
def markReadRow (nodeId : String) (row : Row) : Row :=
  if row.nodeId = nodeId ∧ row.direction = .received ∧ row.status ≠ "read" then
    { row with status := "read" }
  else row

def markRead (table : Table) (nodeId : String) : Table where
  rows := table.rows.map (markReadRow nodeId)
  lastRowId := table.lastRowId
  idsBounded := ListFacts.number_le_map (fun row => by unfold markReadRow; split <;> rfl)
    table.idsBounded
  idsNodup := by
    rw [ListFacts.map_number_map fun row => by unfold markReadRow; split <;> rfl]
    exact table.idsNodup

/-- The table without a conversation, and how many messages it had. -/
def deleteConversation (table : Table) (nodeId : String) : Table × Nat :=
  ({ rows := table.rows.filter fun row => decide (row.nodeId ≠ nodeId)
     lastRowId := table.lastRowId
     idsBounded := fun row hrow => table.idsBounded row (List.mem_of_mem_filter hrow)
     idsNodup := table.idsNodup.sublist (List.filter_sublist.map _) },
    (table.rows.filter fun row => decide (row.nodeId = nodeId)).length)

def deleteAllMessages (table : Table) : Table × Nat :=
  ({ rows := []
     lastRowId := table.lastRowId
     idsBounded := fun _ hrow => absurd hrow List.not_mem_nil
     idsNodup := List.nodup_nil }, table.rows.length)

inductive Op where
  | save (call : Call)
  | markRead (nodeId : String)
  | deleteConversation (nodeId : String)
  | deleteAllMessages

def step (table : Table) : Op → Table
  | .save (.sent args now) => (saveSent table args now).1
  | .save (.received args _ now) => (saveReceived table args now).1
  | .markRead nodeId => markRead table nodeId
  | .deleteConversation nodeId => (deleteConversation table nodeId).1
  | .deleteAllMessages => (deleteAllMessages table).1

def run (ops : List Op) : Table := ops.foldl step Table.empty

/-! ### `get_conversations` -/

structure Conversation where
  nodeId : String
  nodeName : String
  protocol : String
  lastMessage : String
  lastTimestamp : String
  unreadCount : Nat
  isBroadcast : Bool

/-- `_truncate`. -/
def truncate (text : String) (maxLen : Nat) : String :=
  if text.length ≤ maxLen then text
  else String.ofList (text.toList.take (maxLen - 3)) ++ "..."

/-- What the `WHERE` clause lets through. -/
def isVisible (includeOverheard : Bool) (direction : Direction) : Bool :=
  includeOverheard || decide (direction ≠ .overheard)

def nodeOf (row : Row) : String := row.nodeId

def isUnread (row : Row) : Bool := decide (row.direction = .received ∧ row.status ≠ "read")

section

variable (order : Descending time) (includeOverheard : Bool)

def visibleRows (table : Table) : List Row :=
  table.rows.filter fun row => isVisible includeOverheard row.direction

/-- The rows that `GROUP BY` puts together. -/
def group (table : Table) (nodeId : String) : List Row :=
  (visibleRows includeOverheard table).filter fun row => decide (row.nodeId = nodeId)

/-- The name of the newest message that has one. -/
def shownName (table : Table) (nodeId : String) : String :=
  match order.sort (table.rows.filter fun row => decide (row.nodeId = nodeId ∧ row.nodeName ≠ ""))
    with
  | [] => nodeId
  | row :: _ => row.nodeName

/-- The columns that no aggregate stands around are those of the row with the greatest time. -/
def newestRows (table : Table) : List Row :=
  ((visibleRows includeOverheard table).map nodeOf).dedup.filterMap fun nodeId =>
    (order.sort (group includeOverheard table nodeId)).head?

def summary (table : Table) (newest : Row) : Conversation where
  nodeId := newest.nodeId
  nodeName := shownName order table newest.nodeId
  protocol := newest.protocol
  lastMessage := truncate newest.text 80
  lastTimestamp := newest.timestamp
  unreadCount := (group includeOverheard table newest.nodeId).countP isUnread
  isBroadcast := "broadcast:".toList.isPrefixOf newest.nodeId.toList

def getConversations (table : Table) : List Conversation :=
  (order.sort (newestRows order includeOverheard table)).map
    (summary order includeOverheard table)

end

/-! ### The inbox -/

/-- What an inbox knows of a message. -/
structure Held where
  nodeId : String
  packetId : String
  direction : Direction

structure Inbox where
  held : List Held := []
  unread : String → Nat := fun _ => 0

/-- A message comes in: a reception is new unless it has the packet id of a message held. -/
def Inbox.save (inbox : Inbox) : Call → Inbox
  | .sent args _ => { inbox with held := inbox.held ++ [⟨args.nodeId, args.packetId, .sent⟩] }
  | .received args _ _ =>
    if args.packetId ≠ "" ∧ args.packetId ∈ inbox.held.map Held.packetId then inbox
    else
      { held := inbox.held ++ [⟨args.nodeId, args.packetId, args.direction⟩]
        unread := if args.direction = .received then
            Function.update inbox.unread args.nodeId (inbox.unread args.nodeId + 1)
          else inbox.unread }

def Inbox.step (inbox : Inbox) : Op → Inbox
  | .save call => inbox.save call
  | .markRead nodeId => { inbox with unread := Function.update inbox.unread nodeId 0 }
  | .deleteConversation nodeId =>
    { held := inbox.held.filter fun message => decide (message.nodeId ≠ nodeId)
      unread := Function.update inbox.unread nodeId 0 }
  | .deleteAllMessages => {}

def inboxOf (ops : List Op) : Inbox := ops.foldl Inbox.step {}

/-! ### The table refines the inbox -/

def heldOf (row : Row) : Held := ⟨row.nodeId, row.packetId, row.direction⟩

def unreadOf (rows : List Row) (nodeId : String) : Nat :=
  rows.countP fun row => decide (row.nodeId = nodeId) && isUnread row

structure Refines (table : Table) (inbox : Inbox) : Prop where
  held : table.rows.map heldOf = inbox.held
  unread : ∀ nodeId, unreadOf table.rows nodeId = inbox.unread nodeId

section

variable {table : Table} {inbox : Inbox}

theorem Refines.insert (h : Refines table inbox) (columns : Columns) :
    Refines (table.insert columns)
      { held := inbox.held ++ [⟨columns.nodeId, columns.packetId, columns.direction⟩]
        unread := if columns.direction = .received ∧ columns.status ≠ "read" then
            Function.update inbox.unread columns.nodeId (inbox.unread columns.nodeId + 1)
          else inbox.unread } := by
  constructor
  · simp [Table.insert, h.held, heldOf]
  · intro nodeId
    have hcount := h.unread nodeId
    unfold unreadOf at hcount
    by_cases hnew : columns.direction = .received ∧ columns.status ≠ "read"
    · by_cases hnode : columns.nodeId = nodeId
      · subst hnode
        have hunread : isUnread { columns with id := table.lastRowId + 1 } = true :=
          decide_eq_true hnew
        simp [unreadOf, Table.insert, hnew, hunread, hcount]
      · simp [unreadOf, Table.insert, hnew, hnode, Ne.symm hnode, hcount]
    · have hread : isUnread { columns with id := table.lastRowId + 1 } = false :=
        decide_eq_false hnew
      simp [unreadOf, Table.insert, hnew, hread, hcount]

theorem mergeColumns_shown (args : ReceivedArgs) (existing : Columns) :
    (mergeColumns args existing).nodeId = existing.nodeId ∧
      (mergeColumns args existing).direction = existing.direction ∧
        (mergeColumns args existing).status = existing.status := by
  unfold mergeColumns
  simp only
  split <;> exact ⟨rfl, rfl, rfl⟩

/-- A merge changes nothing that is shown. -/
theorem Refines.merge (h : Refines table inbox) (id : Nat) (args : ReceivedArgs) :
    Refines (table.updateById id (mergeColumns args)) inbox := by
  constructor
  · rw [← h.held, Table.updateById, List.map_map]
    apply List.map_congr_left
    intro row _
    obtain ⟨hnode, hdirection, -⟩ := mergeColumns_shown args row.toColumns
    simp only [Function.comp_apply]
    split <;> simp [heldOf, hnode, hdirection, (mergeColumns_frame args row.toColumns).2]
  · intro nodeId
    rw [← h.unread, unreadOf, Table.updateById, List.countP_map]
    apply List.countP_congr
    intro row _
    obtain ⟨hnode, hdirection, hstatus⟩ := mergeColumns_shown args row.toColumns
    simp only [Function.comp_apply]
    split <;> simp [isUnread, hnode, hdirection, hstatus]

theorem Refines.mergeTarget_eq_none_iff (h : Refines table inbox) (args : ReceivedArgs) :
    mergeTarget table args = none ↔
      ¬ (args.packetId ≠ "" ∧ args.packetId ∈ inbox.held.map Held.packetId) := by
  rw [← h.held, List.map_map]
  unfold mergeTarget Table.findPacket
  split <;> simp_all [heldOf]

theorem Refines.save (h : Refines table inbox) (call : Call) :
    Refines (step table (.save call)) (inbox.save call) := by
  cases call with
  | sent args now =>
    simpa [SentArgs.columns, step, saveSent, Inbox.save] using h.insert (args.columns now)
  | received args sender now =>
    simp only [step, saveReceived, Inbox.save]
    cases htarget : mergeTarget table args with
    | none =>
      rw [if_neg ((h.mergeTarget_eq_none_iff args).mp htarget)]
      simpa [ReceivedArgs.columns] using h.insert (args.columns now)
    | some existing =>
      have hheld := mt (h.mergeTarget_eq_none_iff args).mpr (by simp [htarget])
      rw [if_pos (not_not.mp hheld)]
      exact h.merge existing.id args

theorem Refines.markRead (h : Refines table inbox) (nodeId : String) :
    Refines (markRead table nodeId)
      { inbox with unread := Function.update inbox.unread nodeId 0 } := by
  constructor
  · rw [← h.held, ConversationList.markRead, List.map_map]
    apply List.map_congr_left
    intro row _
    simp only [Function.comp_apply, markReadRow]
    split <;> rfl
  · intro other
    simp only [unreadOf, ConversationList.markRead, List.countP_map]
    by_cases hother : other = nodeId
    · subst hother
      rw [Function.update_self, List.countP_eq_zero]
      intro row _
      simp only [Function.comp_apply, markReadRow]
      split <;> simp_all [isUnread]
    · rw [Function.update_of_ne hother, ← h.unread, unreadOf]
      apply List.countP_congr
      intro row _
      simp only [Function.comp_apply, markReadRow]
      split
      · rename_i hread
        simp [hread.1, Ne.symm hother]
      · rfl

theorem Refines.deleteConversation (h : Refines table inbox) (nodeId : String) :
    Refines (deleteConversation table nodeId).1 (inbox.step (.deleteConversation nodeId)) := by
  constructor
  · simp only [ConversationList.deleteConversation, Inbox.step, ← h.held, List.filter_map]
    rfl
  · intro other
    simp only [unreadOf, ConversationList.deleteConversation, Inbox.step, List.countP_filter]
    by_cases hother : other = nodeId
    · subst hother
      rw [Function.update_self, List.countP_eq_zero]
      intro row _ hrow
      simp only [Bool.and_eq_true, decide_eq_true_iff] at hrow
      exact hrow.2 hrow.1.1
    · rw [Function.update_of_ne hother, ← h.unread, unreadOf]
      apply List.countP_congr
      intro row _
      by_cases hnode : row.nodeId = other
      · simp [hnode, hother]
      · simp [hnode]

theorem Refines.step (h : Refines table inbox) (op : Op) :
    Refines (step table op) (inbox.step op) := by
  cases op with
  | save call => exact h.save call
  | markRead nodeId => exact h.markRead nodeId
  | deleteConversation nodeId => exact h.deleteConversation nodeId
  | deleteAllMessages => exact ⟨rfl, fun _ => rfl⟩

theorem refines_run (ops : List Op) : Refines (run ops) (inboxOf ops) := by
  have h : ∀ {table inbox}, Refines table inbox →
      Refines (ops.foldl ConversationList.step table) (ops.foldl Inbox.step inbox) := by
    induction ops with
    | nil => exact id
    | cons op rest ih => exact fun hrefines => ih (hrefines.step op)
  exact h ⟨rfl, fun _ => rfl⟩

end

/-! ### What is listed -/

section

variable {order : Descending time} {includeOverheard : Bool} {table : Table}

theorem mem_group {nodeId : String} {row : Row} : row ∈ group includeOverheard table nodeId ↔
    row ∈ visibleRows includeOverheard table ∧ row.nodeId = nodeId := by
  simp [group]

/-- The newest row of a conversation, and every other one is as old at least. -/
theorem newest_of_head? {nodeId : String} {newest : Row}
    (h : (order.sort (group includeOverheard table nodeId)).head? = some newest) :
    newest ∈ visibleRows includeOverheard table ∧ newest.nodeId = nodeId ∧
      ∀ row ∈ group includeOverheard table nodeId, row.timestamp ≤ newest.timestamp := by
  obtain ⟨rest, hsort⟩ := List.head?_eq_some_iff.mp h
  have hmem : ∀ row, row ∈ newest :: rest ↔ row ∈ group includeOverheard table nodeId := by
    intro row
    rw [← hsort]
    exact (order.perm _).mem_iff
  have hsorted := order.sorted (group includeOverheard table nodeId)
  rw [hsort, List.pairwise_cons] at hsorted
  obtain ⟨hvisible, hnode⟩ := mem_group.mp ((hmem newest).mp List.mem_cons_self)
  refine ⟨hvisible, hnode, fun row hrow => ?_⟩
  rcases List.mem_cons.mp ((hmem row).mpr hrow) with rfl | hrest
  · exact le_refl _
  · exact hsorted.1 row hrest

/-- Each conversation that has a visible message has one newest row. -/
theorem map_nodeId_newestRows : (newestRows order includeOverheard table).map nodeOf =
    ((visibleRows includeOverheard table).map nodeOf).dedup := by
  rw [newestRows, List.map_filterMap]
  have hall : ∀ nodeId ∈ ((visibleRows includeOverheard table).map nodeOf).dedup,
      ((order.sort (group includeOverheard table nodeId)).head?.map nodeOf) =
        some nodeId := by
    intro nodeId hmem
    obtain ⟨row, hrow, hnode⟩ := List.mem_map.mp (List.mem_dedup.mp hmem)
    have hsome : (order.sort (group includeOverheard table nodeId)).head? ≠ none := by
      rw [Ne, List.head?_eq_none_iff]
      intro hnil
      have hgroup := (order.perm _).mem_iff.mpr (mem_group.mpr ⟨hrow, hnode⟩)
      rw [hnil] at hgroup
      exact List.not_mem_nil hgroup
    obtain ⟨newest, hnewest⟩ := Option.ne_none_iff_exists'.mp hsome
    rw [hnewest, Option.map_some, nodeOf, (newest_of_head? hnewest).2.1]
  rw [List.filterMap_congr hall, List.filterMap_some]

theorem map_nodeId_getConversations :
    ((getConversations order includeOverheard table).map Conversation.nodeId).Perm
      ((visibleRows includeOverheard table).map nodeOf).dedup := by
  rw [← @map_nodeId_newestRows order, getConversations, List.map_map]
  exact (order.perm _).map _

theorem unread_group (nodeId : String) :
    (group includeOverheard table nodeId).countP isUnread = unreadOf table.rows nodeId := by
  rw [group, visibleRows, List.filter_filter, List.countP_filter, unreadOf]
  apply List.countP_congr
  intro row _
  simp only [isUnread, isVisible, Bool.and_eq_true, Bool.or_eq_true, decide_eq_true_iff]
  constructor
  · rintro ⟨hunread, hnode, -⟩
    exact ⟨hnode, hunread⟩
  · rintro ⟨hnode, hunread⟩
    exact ⟨hunread, hnode, Or.inr (by simp [hunread.1])⟩

end

/-- **After every run the inbox is listed**: each conversation of a visible message once, with the
    number of its unread messages, the ones with the newest messages first. -/
theorem getConversations_run (order : Descending time) (includeOverheard : Bool) (ops : List Op) :
    ((getConversations order includeOverheard (run ops)).map Conversation.nodeId).Nodup ∧
    (∀ nodeId, (∃ c ∈ getConversations order includeOverheard (run ops), c.nodeId = nodeId) ↔
      ∃ message ∈ (inboxOf ops).held,
        message.nodeId = nodeId ∧ isVisible includeOverheard message.direction = true) ∧
    (∀ c ∈ getConversations order includeOverheard (run ops),
      c.unreadCount = (inboxOf ops).unread c.nodeId ∧
        ∃ newest ∈ group includeOverheard (run ops) c.nodeId,
          c.lastTimestamp = newest.timestamp ∧ c.lastMessage = truncate newest.text 80 ∧
            ∀ row ∈ group includeOverheard (run ops) c.nodeId,
              row.timestamp ≤ newest.timestamp) ∧
    (getConversations order includeOverheard (run ops)).Pairwise
      fun a b => b.lastTimestamp ≤ a.lastTimestamp := by
  have hrefines := refines_run ops
  have hnodes := @map_nodeId_getConversations order includeOverheard (run ops)
  refine ⟨hnodes.nodup_iff.mpr (List.nodup_dedup _), ?_, ?_, ?_⟩
  · intro nodeId
    rw [← List.mem_map, hnodes.mem_iff, List.mem_dedup, List.mem_map, ← hrefines.held]
    simp [visibleRows, heldOf, nodeOf, and_assoc, and_comm]
  · intro c hc
    obtain ⟨newest, hnewest, rfl⟩ := List.mem_map.mp hc
    obtain ⟨nodeId, -, hhead⟩ := List.mem_filterMap.mp ((order.perm _).mem_iff.mp hnewest)
    obtain ⟨hvisible, rfl, hall⟩ := newest_of_head? hhead
    exact ⟨(unread_group _).trans (hrefines.unread _), newest, mem_group.mpr ⟨hvisible, rfl⟩,
      rfl, rfl, hall⟩
  · rw [getConversations, List.pairwise_map]
    exact order.sorted _

end Meshpoint.ConversationList
