import Meshpoint.KeysetPaging
import Meshpoint.MessageRepository
import Mathlib.Data.String.Basic

/-!
# Conversations in pages

`MessageRepository.get_conversation` (`src/storage/message_repository.py`): the newest messages
of a conversation before a time, oldest first.  A reader that has a page asks for the one before
the oldest time on it.

`complete_conversation_iff`: the reader gets every message once and in order exactly when no
message has an empty time, which asks for the newest page again, and no boundary between two
full pages falls inside a group of messages of one time.
-/

namespace Meshpoint.ConversationPaging

open MessageRepository KeysetPaging

/-! ### The query -/

/-- `Message`. -/
structure Message (A : Type) where
  id : Nat
  direction : Direction
  text : String
  nodeId : String
  nodeName : String
  protocol : String
  channel : Int
  timestamp : String
  status : String
  packetId : String
  rssi : Option ℚ
  snr : Option ℚ
  rxCount : Nat
  attachments : Option A

section

variable {A : Type} (loads : String → Option A)

/-- `_row_to_message`; `loads` is `json.loads`, and `none` where that raises. -/
def rowToMessage (row : Row) : Message A where
  id := row.id
  direction := row.direction
  text := row.text
  nodeId := row.nodeId
  nodeName := row.nodeName
  protocol := row.protocol
  channel := row.channel
  timestamp := row.timestamp
  status := row.status
  packetId := row.packetId
  rssi := row.rssi
  snr := row.snr
  rxCount := if row.rxCount = 0 then 1 else row.rxCount
  attachments := row.attachments.bind fun raw => if raw = "" then none else loads raw

def time (row : Row) : String := row.timestamp

/-- `WHERE node_id = ?`. -/
def conversation (table : Table) (nodeId : String) : List Row :=
  table.rows.filter fun row => decide (row.nodeId = nodeId)

/-- `AND timestamp < ?`, which is left out where `before` is false. -/
def rowsBefore (rows : List Row) : Option String → List Row
  | none => rows
  | some before => if before = "" then rows else older time before rows

/-- `get_conversation`. -/
def getConversation (order : Descending time) (table : Table) (nodeId : String) (limit : Nat)
    (before : Option String) : List (Message A) :=
  let rows := (order.sort (rowsBefore (conversation table nodeId) before)).take limit
  (rows.map (rowToMessage loads)).reverse

/-- A reader that asks for the page before the oldest time of the last one, until a page is
    empty: the pages, newest first. -/
def readPages (order : Descending time) (table : Table) (nodeId : String) (limit : Nat) :
    (fuel : Nat) → (before : Option String) → Option (List (List (Message A)))
  | 0, _ => none
  | fuel + 1, before =>
    match getConversation loads order table nodeId limit before with
    | [] => some []
    | oldest :: later =>
      (readPages order table nodeId limit fuel (some oldest.timestamp)).map fun pages =>
        (oldest :: later) :: pages

/-- The reader gets every message of the conversation once and in order. -/
def CompleteConversation (order : Descending time) (table : Table) (nodeId : String)
    (limit : Nat) : Prop :=
  ∃ fuel pages, readPages loads order table nodeId limit fuel none = some pages ∧
    pages.reverse.flatten.Perm ((conversation table nodeId).map (rowToMessage loads)) ∧
    pages.reverse.flatten.Pairwise fun a b => a.timestamp ≤ b.timestamp

end

/-! ### Empty times -/

theorem empty_lt {s : String} (h : s ≠ "") : "" < s := by
  rw [String.lt_iff_toList_lt]
  cases hs : s.toList with
  | nil => exact absurd (String.toList_eq_nil_iff.mp hs) h
  | cons c rest => exact List.nil_lt_cons c rest

section

variable {A : Type} {loads : String → Option A} {order : Descending time} {table : Table}
  {nodeId : String} {limit : Nat}

theorem getConversation_eq (before : Option String) :
    getConversation loads order table nodeId limit before =
      (page order limit (rowsBefore (conversation table nodeId) before)).map (rowToMessage loads) :=
  List.map_reverse.symm

theorem readPages_of_empty (hlimit : 0 < limit) {row : Row} (hrow : row ∈ conversation table nodeId)
    (hempty : row.timestamp = "") : ∀ (fuel : Nat) (before : Option String),
    row ∈ rowsBefore (conversation table nodeId) before →
      readPages loads order table nodeId limit fuel before = none
  | 0, _, _ => rfl
  | fuel + 1, before, hmem => by
    rw [readPages, getConversation_eq]
    cases hpage : page order limit (rowsBefore (conversation table nodeId) before) with
    | nil =>
      rw [page_eq_nil_iff hlimit] at hpage
      rw [hpage] at hmem
      cases hmem
    | cons oldest later =>
      simp only [List.map_cons]
      rw [readPages_of_empty hlimit hrow hempty fuel _ ?_]
      · rfl
      · change row ∈ rowsBefore _ (some oldest.timestamp)
        rw [rowsBefore]
        split
        · exact hrow
        · rename_i hne
          refine List.mem_filter.mpr ⟨hrow, decide_eq_true ?_⟩
          rw [time, hempty]
          exact empty_lt hne

/-! ### Rows and messages -/

theorem mem_of_mem_rowsBefore {rows : List Row} {before : Option String} {row : Row}
    (h : row ∈ rowsBefore rows before) : row ∈ rows := by
  cases before with
  | none => exact h
  | some before =>
    rw [rowsBefore] at h
    split at h
    · exact h
    · exact List.mem_of_mem_filter h

/-- The rows before the oldest one of a page are those of the page's rows that are older. -/
theorem rowsBefore_oldest {rows : List Row} {before : Option String} (hbefore : before ≠ some "")
    {oldest : Row} (hmem : oldest ∈ rowsBefore rows before) (htime : oldest.timestamp ≠ "") :
    rowsBefore rows (some oldest.timestamp) =
      older time (time oldest) (rowsBefore rows before) := by
  rw [rowsBefore, if_neg htime]
  cases before with
  | none => rfl
  | some before =>
    have hne : before ≠ "" := fun hnil => hbefore (congrArg some hnil)
    rw [rowsBefore, if_neg hne] at hmem ⊢
    have hlt : time oldest < before := of_decide_eq_true (List.mem_filter.mp hmem).2
    unfold older
    rw [List.filter_filter]
    refine List.filter_congr fun row _ => ?_
    rw [Bool.eq_iff_iff, Bool.and_eq_true, decide_eq_true_iff, decide_eq_true_iff,
      decide_eq_true_iff]
    exact ⟨fun h => ⟨h, h.trans hlt⟩, fun h => h.1⟩

theorem readPages_eq (htimes : ∀ row ∈ conversation table nodeId, row.timestamp ≠ "") :
    ∀ (fuel : Nat) (before : Option String), before ≠ some "" →
      readPages loads order table nodeId limit fuel before =
        (walk order limit fuel (rowsBefore (conversation table nodeId) before)).map
          (List.map (List.map (rowToMessage loads)))
  | 0, _, _ => rfl
  | fuel + 1, before, hbefore => by
    rw [readPages, getConversation_eq, walk]
    cases hpage : page order limit (rowsBefore (conversation table nodeId) before) with
    | nil => rfl
    | cons oldest later =>
      have hmem := mem_of_page hpage
      have htime := htimes oldest (mem_of_mem_rowsBefore hmem)
      have hne : some oldest.timestamp ≠ some "" := fun h => htime (Option.some.inj h)
      simp only [List.map_cons]
      change (readPages loads order table nodeId limit fuel (some oldest.timestamp)).map _ = _
      rw [readPages_eq htimes fuel _ hne, rowsBefore_oldest hbefore hmem htime, Option.map_map,
        Option.map_map]
      rfl

theorem nodup_conversation : ((conversation table nodeId).map Row.id).Nodup :=
  table.idsNodup.sublist (List.filter_sublist.map Row.id)

theorem perm_map_iff {rows : List Row} (hrows : ∀ row ∈ rows, row ∈ conversation table nodeId) :
    (rows.map (rowToMessage loads)).Perm ((conversation table nodeId).map (rowToMessage loads)) ↔
      rows.Perm (conversation table nodeId) := by
  constructor
  · intro hperm
    have hids : (rows.map Row.id).Perm ((conversation table nodeId).map Row.id) := by
      have h := hperm.map Message.id
      rw [List.map_map, List.map_map] at h
      exact h
    have hnodup : rows.Nodup := List.Nodup.of_map _ (hids.nodup_iff.mpr nodup_conversation)
    refine (List.subperm_of_subset hnodup hrows).perm_of_length_le ?_
    rw [← List.length_map (f := Row.id), ← hids.length_eq, List.length_map]
  · intro hperm
    exact hperm.map _

theorem completeConversation_iff_complete
    (htimes : ∀ row ∈ conversation table nodeId, row.timestamp ≠ "") :
    CompleteConversation loads order table nodeId limit ↔
      Complete order limit (conversation table nodeId) := by
  have hread : ∀ fuel, readPages loads order table nodeId limit fuel none =
      (walk order limit fuel (conversation table nodeId)).map
        (List.map (List.map (rowToMessage loads))) :=
    fun fuel => readPages_eq htimes fuel none (by simp)
  have hflatten : ∀ pages : List (List Row),
      (pages.map (List.map (rowToMessage loads))).reverse.flatten =
        pages.reverse.flatten.map (rowToMessage loads) := by
    intro pages
    rw [← List.map_reverse, List.map_flatten]
  have hmem : ∀ fuel pages, walk order limit fuel (conversation table nodeId) = some pages →
      ∀ row ∈ pages.reverse.flatten, row ∈ conversation table nodeId := by
    intro fuel pages hwalk row hrow
    exact mem_of_mem_walk fuel hwalk row ((List.reverse_perm pages).flatten.mem_iff.mp hrow)
  constructor
  · rintro ⟨fuel, messages, hmessages, hperm, hsorted⟩
    rw [hread] at hmessages
    obtain ⟨pages, hwalk, rfl⟩ := Option.map_eq_some_iff.mp hmessages
    rw [hflatten] at hperm hsorted
    rw [List.pairwise_map] at hsorted
    exact ⟨fuel, pages, hwalk, (perm_map_iff (hmem fuel pages hwalk)).mp hperm, hsorted⟩
  · rintro ⟨fuel, pages, hwalk, hperm, hsorted⟩
    refine ⟨fuel, pages.map (List.map (rowToMessage loads)), ?_, ?_, ?_⟩
    · rw [hread, hwalk]
      rfl
    · rw [hflatten]
      exact (perm_map_iff (hmem fuel pages hwalk)).mpr hperm
    · rw [hflatten, List.pairwise_map]
      exact hsorted

theorem times_of_complete (hlimit : 0 < limit)
    (hcomplete : CompleteConversation loads order table nodeId limit) :
    ∀ row ∈ conversation table nodeId, row.timestamp ≠ "" := by
  intro row hrow hempty
  obtain ⟨fuel, pages, hread, -⟩ := hcomplete
  rw [readPages_of_empty hlimit hrow hempty fuel none hrow] at hread
  cases hread

/-- **Conversations.**  Paging returns every message once and in order exactly when all have
    times and no boundary between full pages falls inside a group of one time. -/
theorem complete_conversation_iff (hlimit : 0 < limit) :
    CompleteConversation loads order table nodeId limit ↔
      (∀ row ∈ conversation table nodeId, row.timestamp ≠ "") ∧
        Unsplit time limit (conversation table nodeId) := by
  constructor
  · intro hcomplete
    have htimes := times_of_complete hlimit hcomplete
    exact ⟨htimes, (complete_iff hlimit _).mp
      ((completeConversation_iff_complete htimes).mp hcomplete)⟩
  · rintro ⟨htimes, hunsplit⟩
    exact (completeConversation_iff_complete htimes).mpr ((complete_iff hlimit _).mpr hunsplit)

end

/-! ### Two messages of one time -/

def textAt (timestamp text : String) : Columns where
  direction := .received
  text := text
  nodeId := "!00000001"
  nodeName := "Base"
  protocol := "meshtastic"
  channel := 0
  timestamp := timestamp
  status := "delivered"
  packetId := ""
  rssi := none
  snr := none
  rxCount := 1
  attachments := none

def threeTexts : Table :=
  ((Table.empty.insert (textAt "2026-01-01T00:00:00+00:00" "one")).insert
    (textAt "2026-01-01T00:00:00+00:00" "two")).insert (textAt "2026-01-01T00:00:05+00:00" "three")

/-- Three messages fit one page. -/
theorem complete_conversation_threeTexts :
    CompleteConversation (fun text => some text) (Descending.stable time) threeTexts "!00000001"
      3 := by
  refine (complete_conversation_iff (by decide)).mpr ⟨by decide +kernel, ?_⟩
  intro row _ n hn
  have hpos : 0 < n := by
    by_contra hzero
    rw [Nat.eq_zero_of_not_pos hzero, Nat.zero_mul] at hn
    exact absurd hn (Nat.not_lt_zero _)
  have hthree : (conversation threeTexts "!00000001").length = 3 := by decide +kernel
  have hle : notOlder time (conversation threeTexts "!00000001") (time row) ≤ 3 :=
    hthree ▸ List.countP_le_length
  omega

/-- Pages of two: the first ends between the two messages of one second. -/
theorem threeTexts_lost :
    ¬ CompleteConversation (fun text => some text) (Descending.stable time) threeTexts
      "!00000001" 2 := by
  intro hcomplete
  have htimes := times_of_complete (by decide) hcomplete
  have hunsplit := (complete_iff (by decide) _).mp
    ((completeConversation_iff_complete htimes).mp hcomplete)
  have hsplit : ∃ row ∈ conversation threeTexts "!00000001",
      newer time (conversation threeTexts "!00000001") (time row) < 1 * 2 ∧
        1 * 2 < notOlder time (conversation threeTexts "!00000001") (time row) := by
    decide +kernel
  obtain ⟨row, hrow, hnewer, hmore⟩ := hsplit
  exact absurd (hunsplit row hrow 1 hnewer) (not_le.mpr hmore)

end Meshpoint.ConversationPaging
