import Meshpoint.GuardedRun
import Meshpoint.KeysetPaging
import Meshpoint.PacketTable

/-!
# Neighbour reports and capture sources

Runs of `insert` and `insert_neighbour_report` (`src/storage/packet_repository.py`) and what
`get_latest_capture_source` (`src/storage/node_repository.py`) answers in between, with the
choice of a radio that `TxService` (`src/transmit/tx_service.py`) makes of the answer.

What should be stored is the list `State.kept`: every received packet, and of each repeater's
reports on a node the latest.  `reports_replay_iff` says exactly which runs keep the table equal
to it and the answers those of the received packets: a report deletes the rows that match a
`LIKE` pattern, and its own row counts as a packet without a capture source.
-/

namespace Meshpoint.NeighbourReports

open JsonText PacketTable KeysetPaging GuardedRun

/-! ### Queries -/

section

variable {F : Type}

def time (row : Columns F) : String := row.timestamp

def rowsFrom (rows : List (Columns F)) (nodeId : String) : List (Columns F) :=
  rows.filter fun row => decide (row.sourceId = nodeId)

/-- `get_latest_capture_source`. -/
def getLatestCaptureSource (order : Descending (time (F := F))) (rows : List (Columns F))
    (nodeId : String) : Option String :=
  (order.sort (rowsFrom rows nodeId)).head?.bind Columns.captureSource

/-- A companion or a stick that may send. -/
structure SendSource where
  name : String
  connected : Bool

/-- `_resolve_meshcore_send_source` and `_resolve_serial_send_source`, for the node's stored id:
    the connected source of that name, if there is one. -/
def resolveSendSource (sources : List SendSource) (order : Descending (time (F := F)))
    (rows : List (Columns F)) (lookupId : String) : Option SendSource :=
  (getLatestCaptureSource order rows lookupId).bind fun sourceName =>
    if sourceName = "" then none
    else sources.find? fun source => decide (source.name = sourceName) && source.connected

end

/-! ### Runs -/

inductive Op (F : Type) where
  | insert (packet : Packet F) (channel : Option (Channel F)) (timestamp : String)
  | report (repeaterKey nodeId : String) (snr : Option F) (lastHeard : String)

section

variable {F : Type} [FloatText F]

def Op.row : Op F → Columns F
  | .insert packet channel timestamp => packetColumns packet channel timestamp
  | .report repeaterKey nodeId snr lastHeard => reportColumns repeaterKey nodeId snr lastHeard

omit [FloatText F] in
def Op.pair : Op F → Option (String × String)
  | .insert _ _ _ => none
  | .report repeaterKey nodeId _ _ => some (repeaterKey, nodeId)

/-- The table, and what should be in it. -/
structure State (F : Type) where
  table : Table F
  kept : List (Op F)

def State.empty : State F := ⟨Table.empty, []⟩

def apply (table : Table F) : Op F → Table F
  | .insert packet channel timestamp => insertPacket table packet channel timestamp
  | .report repeaterKey nodeId snr lastHeard =>
    insertNeighbourReport table repeaterKey nodeId snr lastHeard

omit [FloatText F] in
/-- A report takes the place of the earlier one of its repeater on its node. -/
def supersede (kept : List (Op F)) (op : Op F) : List (Op F) :=
  (kept.filter fun old => decide (op.pair = none ∨ old.pair ≠ op.pair)) ++ [op]

def step (s : State F) (op : Op F) : Option (State F) :=
  some ⟨apply s.table op, supersede s.kept op⟩

omit [FloatText F] in
def received (kept : List (Op F)) : List (Op F) := kept.filter fun op => op.pair.isNone

/-! ### The property -/

/-- The capture source of a latest packet from the node, or none without one. -/
def IsLatest (rows : List (Columns F)) (nodeId : String) (source : Option String) : Prop :=
  rowsFrom rows nodeId = [] ∧ source = none ∨
    ∃ row ∈ rowsFrom rows nodeId, (∀ other ∈ rowsFrom rows nodeId, time other ≤ time row) ∧
      source = row.captureSource

/-- The table is what should be stored, and the answers are those of the received packets. -/
structure Faithful (s : State F) : Prop where
  rows : s.table.columns = s.kept.map Op.row
  sources : ∀ (order : Descending (time (F := F))) nodeId,
    IsLatest ((received s.kept).map Op.row) nodeId
      (getLatestCaptureSource order s.table.columns nodeId)

/-- A report is about a node from which no packet was received, or a packet was received later
    than it says. -/
def Outdated (kept : List (Op F)) (nodeId lastHeard : String) : Prop :=
  (∃ op ∈ received kept, op.row.sourceId = nodeId) →
    ∃ op ∈ received kept, op.row.sourceId = nodeId ∧ lastHeard < op.row.timestamp

/-- A report deletes the row of its pair only and is older than a packet received from the node;
    a node's first packet is newer than the reports on it. -/
def Harmless (s : State F) : Op F → Prop
  | .insert packet channel timestamp =>
    (∃ op ∈ received s.kept, op.row.sourceId = packet.sourceId) ∨
      ∀ op ∈ s.kept, op.pair.isSome = true → op.row.sourceId = packet.sourceId →
        op.row.timestamp < (Op.insert packet channel timestamp).row.timestamp
  | .report repeaterKey nodeId _ lastHeard =>
    (∀ op ∈ s.kept, op.pair ≠ some (repeaterKey, nodeId) →
      deletes repeaterKey nodeId op.row.packetId = false) ∧ Outdated s.kept nodeId lastHeard

end

/-! ### What is kept -/

section

variable {F : Type} {kept : List (Op F)} {op old : Op F}

theorem mem_received : op ∈ received kept ↔ op ∈ kept ∧ op.pair = none := by
  unfold received
  rw [List.mem_filter, Option.isNone_iff_eq_none]

theorem mem_supersede :
    old ∈ supersede kept op ↔
      old ∈ kept ∧ (op.pair = none ∨ old.pair ≠ op.pair) ∨ old = op := by
  unfold supersede
  rw [List.mem_append, List.mem_filter, decide_eq_true_iff, List.mem_singleton]

theorem supersede_of_received (h : op.pair = none) : supersede kept op = kept ++ [op] := by
  unfold supersede
  congr 1
  rw [List.filter_eq_self]
  intro old _
  exact decide_eq_true (Or.inl h)

/-- What is kept of a run: the received packets, and the reports that no later one of their
    repeater on their node follows. -/
theorem mem_kept_iff (ops : List (Op F)) :
    op ∈ ops.foldl supersede [] ↔ ∃ before after, ops = before ++ op :: after ∧
      (op.pair = none ∨ ∀ later ∈ after, later.pair ≠ op.pair) := by
  induction ops using List.reverseRecOn with
  | nil =>
    refine iff_of_false List.not_mem_nil ?_
    rintro ⟨before, after, h, -⟩
    exact absurd (congrArg List.length h) (by simp)
  | append_singleton ops new ih =>
    rw [List.foldl_append, List.foldl_cons, List.foldl_nil, mem_supersede, ih]
    constructor
    · rintro (⟨⟨before, after, rfl, hlast⟩, hstays⟩ | rfl)
      · refine ⟨before, after ++ [new], by rw [List.append_assoc]; rfl, ?_⟩
        by_cases hnone : op.pair = none
        · exact Or.inl hnone
        · refine Or.inr ?_
          intro later hlater
          rcases List.mem_append.mp hlater with hold | hnew
          · exact hlast.resolve_left hnone later hold
          · rw [List.mem_singleton.mp hnew]
            rcases hstays with hreceived | hother
            · exact fun hsame => hnone (hsame.symm.trans hreceived)
            · exact hother.symm
      · exact ⟨ops, [], rfl, Or.inr fun later hlater => absurd hlater List.not_mem_nil⟩
    · rintro ⟨before, after, hsplit, hlast⟩
      rcases List.eq_nil_or_concat after with rfl | ⟨between, last, rfl⟩
      · exact Or.inr (List.singleton_inj.mp (List.append_inj_right' hsplit rfl)).symm
      · rw [List.concat_eq_append, ← List.cons_append, ← List.append_assoc] at hsplit
        obtain ⟨rfl, hnew⟩ := List.append_inj' hsplit rfl
        obtain rfl := List.singleton_inj.mp hnew
        refine Or.inl ⟨⟨before, between, rfl, ?_⟩, ?_⟩
        · exact hlast.imp_right fun h later hlater => h later (by simp [hlater])
        · rcases hlast with hnone | hother
          · by_cases hreceived : new.pair = none
            · exact Or.inl hreceived
            · exact Or.inr fun hsame => hreceived (hsame.symm.trans hnone)
          · exact Or.inr (hother new (by simp)).symm

theorem pairwise_kept (ops : List (Op F)) :
    (ops.foldl supersede []).Pairwise fun a b => a.pair = none ∨ a.pair ≠ b.pair := by
  induction ops using List.reverseRecOn with
  | nil => exact List.Pairwise.nil
  | append_singleton ops new ih =>
    rw [List.foldl_append, List.foldl_cons, List.foldl_nil]
    unfold supersede
    rw [List.pairwise_append]
    refine ⟨ih.filter _, List.pairwise_singleton _ _, ?_⟩
    intro old hold last hlast
    rw [List.mem_singleton.mp hlast]
    rcases of_decide_eq_true (List.mem_filter.mp hold).2 with hnone | hother
    · by_cases hreceived : old.pair = none
      · exact Or.inl hreceived
      · exact Or.inr fun hsame => hreceived (hsame.trans hnone)
    · exact Or.inr hother

theorem received_supersede_report (h : op.pair ≠ none) :
    ∀ old, old ∈ received (supersede kept op) ↔ old ∈ received kept := by
  intro old
  rw [mem_received, mem_received, mem_supersede]
  constructor
  · rintro ⟨⟨hold, -⟩ | rfl, hnone⟩
    · exact ⟨hold, hnone⟩
    · exact absurd hnone h
  · rintro ⟨hold, hnone⟩
    exact ⟨Or.inl ⟨hold, Or.inr fun hsame => h (hsame.symm.trans hnone)⟩, hnone⟩

end

section

variable {F : Type} [FloatText F] {s : State F}

theorem captureSource_row (op : Op F) : op.row.captureSource = none ↔ op.pair ≠ none := by
  cases op with
  | insert packet channel timestamp =>
    refine iff_of_false ?_ (fun h => h rfl)
    intro h
    cases h
  | report repeaterKey nodeId snr lastHeard =>
    refine iff_of_true rfl ?_
    intro h
    cases h

omit [FloatText F] in
theorem mem_rowsFrom {rows : List (Columns F)} {nodeId : String} {row : Columns F} :
    row ∈ rowsFrom rows nodeId ↔ row ∈ rows ∧ row.sourceId = nodeId := by
  unfold rowsFrom
  rw [List.mem_filter, decide_eq_true_iff]

/-! ### Answers -/

/-- Every report on a node from which packets were received is older than one of these. -/
def Clear (kept : List (Op F)) : Prop :=
  ∀ op ∈ kept, op.pair ≠ none → Outdated kept op.row.sourceId op.row.timestamp

theorem exists_op_of_head (hrows : s.table.columns = s.kept.map Op.row)
    {order : Descending (time (F := F))} {nodeId : String} {row : Columns F}
    (hhead : (order.sort (rowsFrom s.table.columns nodeId)).head? = some row) :
    ∃ op ∈ s.kept, op.row = row ∧ op.row.sourceId = nodeId ∧
      ∀ other ∈ s.kept, other.row.sourceId = nodeId → other.row.timestamp ≤ row.timestamp := by
  obtain ⟨hmem, hgreatest⟩ := order.le_head hhead
  rw [mem_rowsFrom, hrows] at hmem
  obtain ⟨op, hop, rfl⟩ := List.mem_map.mp hmem.1
  refine ⟨op, hop, rfl, hmem.2, ?_⟩
  intro other hother hsource
  refine hgreatest other.row (mem_rowsFrom.mpr ⟨?_, hsource⟩)
  rw [hrows]
  exact List.mem_map_of_mem hother

theorem isLatest_of_clear (hrows : s.table.columns = s.kept.map Op.row) (hclear : Clear s.kept)
    (order : Descending (time (F := F))) (nodeId : String) :
    IsLatest ((received s.kept).map Op.row) nodeId
      (getLatestCaptureSource order s.table.columns nodeId) := by
  have hreceived : ∀ row, row ∈ rowsFrom ((received s.kept).map Op.row) nodeId →
      ∃ op ∈ received s.kept, op.row = row ∧ op.row.sourceId = nodeId := by
    intro row hrow
    rw [mem_rowsFrom] at hrow
    obtain ⟨op, hop, rfl⟩ := List.mem_map.mp hrow.1
    exact ⟨op, hop, rfl, hrow.2⟩
  unfold getLatestCaptureSource
  cases hhead : (order.sort (rowsFrom s.table.columns nodeId)).head? with
  | none =>
    refine Or.inl ⟨?_, rfl⟩
    rw [Descending.head_eq_none_iff] at hhead
    rw [List.eq_nil_iff_forall_not_mem] at hhead ⊢
    intro row hrow
    obtain ⟨op, hop, rfl, hsource⟩ := hreceived row hrow
    refine hhead op.row (mem_rowsFrom.mpr ⟨?_, hsource⟩)
    rw [hrows]
    exact List.mem_map_of_mem (mem_received.mp hop).1
  | some row =>
    obtain ⟨op, hop, rfl, hsource, hgreatest⟩ := exists_op_of_head hrows hhead
    by_cases hpair : op.pair = none
    · refine Or.inr ⟨op.row, ?_, ?_, rfl⟩
      · exact mem_rowsFrom.mpr ⟨List.mem_map_of_mem (mem_received.mpr ⟨hop, hpair⟩), hsource⟩
      · intro other hother
        obtain ⟨op', hop', rfl, hsource'⟩ := hreceived other hother
        exact hgreatest op' (mem_received.mp hop').1 hsource'
    · refine Or.inl ⟨?_, (captureSource_row op).mpr hpair⟩
      rw [List.eq_nil_iff_forall_not_mem]
      intro other hother
      obtain ⟨op', hop', rfl, hsource'⟩ := hreceived other hother
      obtain ⟨later, hlater, hfrom, hlt⟩ := hclear op hop hpair
        ⟨op', hop', hsource'.trans hsource.symm⟩
      have hle := hgreatest later (mem_received.mp hlater).1 (hfrom.trans hsource)
      exact absurd hlt (not_lt.mpr hle)

theorem clear_of_isLatest (hrows : s.table.columns = s.kept.map Op.row)
    (hsources : ∀ (order : Descending (time (F := F))) nodeId,
      IsLatest ((received s.kept).map Op.row) nodeId
        (getLatestCaptureSource order s.table.columns nodeId)) : Clear s.kept := by
  intro op hop hpair hreceived
  by_contra hnone
  obtain ⟨packet, hpacket, hfrom⟩ := hreceived
  let order : Descending (time (F := F)) :=
    Descending.favoring time fun row => row.captureSource.isNone
  have hopRow : op.row ∈ rowsFrom s.table.columns op.row.sourceId := by
    refine mem_rowsFrom.mpr ⟨?_, rfl⟩
    rw [hrows]
    exact List.mem_map_of_mem hop
  obtain ⟨row, hhead⟩ : ∃ row,
      (order.sort (rowsFrom s.table.columns op.row.sourceId)).head? = some row := by
    rw [← Option.ne_none_iff_exists', Ne, Descending.head_eq_none_iff]
    exact List.ne_nil_of_mem hopRow
  obtain ⟨head, hheadMem, rfl, hheadFrom, -⟩ := exists_op_of_head hrows hhead
  have hreport : head.row.captureSource = none := by
    by_contra hsome
    have hheadReceived : head ∈ received s.kept := by
      refine mem_received.mpr ⟨hheadMem, ?_⟩
      by_contra hne
      exact hsome ((captureSource_row head).mpr hne)
    have hle : time head.row ≤ time op.row := by
      refine not_lt.mp fun hlt => hnone ⟨head, hheadReceived, hheadFrom, hlt⟩
    have hfavored := Descending.head_favoring hhead hopRow
      (Option.isNone_iff_eq_none.mpr ((captureSource_row op).mpr hpair)) hle
    exact hsome (Option.isNone_iff_eq_none.mp hfavored)
  have hanswer : getLatestCaptureSource order s.table.columns op.row.sourceId = none := by
    unfold getLatestCaptureSource
    rw [hhead, Option.bind_some, hreport]
  have hlatest := hsources order op.row.sourceId
  rw [hanswer] at hlatest
  rcases hlatest with ⟨hnil, -⟩ | ⟨row, hrow, -, hnull⟩
  · have hmem : packet.row ∈ rowsFrom ((received s.kept).map Op.row) op.row.sourceId :=
      mem_rowsFrom.mpr ⟨List.mem_map_of_mem hpacket, hfrom⟩
    rw [hnil] at hmem
    cases hmem
  · obtain ⟨op', hop', rfl⟩ := List.mem_map.mp (mem_rowsFrom.mp hrow).1
    exact (captureSource_row op').mp hnull.symm (mem_received.mp hop').2

theorem faithful_iff_clear : Faithful s ↔ s.table.columns = s.kept.map Op.row ∧ Clear s.kept := by
  constructor
  · rintro ⟨hrows, hsources⟩
    exact ⟨hrows, clear_of_isLatest hrows hsources⟩
  · rintro ⟨hrows, hclear⟩
    exact ⟨hrows, isLatest_of_clear hrows hclear⟩

/-! ### One step -/

/-- A report leaves the other rows alone exactly when its pattern matches none of them. -/
theorem rows_report_iff (hrows : s.table.columns = s.kept.map Op.row) (repeaterKey nodeId : String)
    (snr : Option F) (lastHeard : String) :
    (apply s.table (.report repeaterKey nodeId snr lastHeard)).columns =
        (supersede s.kept (.report repeaterKey nodeId snr lastHeard)).map Op.row ↔
      ∀ op ∈ s.kept, op.pair ≠ some (repeaterKey, nodeId) →
        deletes repeaterKey nodeId op.row.packetId = false := by
  have hown : ∀ op ∈ s.kept, (!deletes repeaterKey nodeId op.row.packetId) = true →
      op.pair ≠ some (repeaterKey, nodeId) := by
    rintro op - hkept hpair
    cases op with
    | insert packet channel timestamp => cases hpair
    | report repeaterKey' nodeId' snr' lastHeard' =>
      cases hpair
      rw [Op.row, deletes_reportColumns] at hkept
      cases hkept
  have hdeleted : (apply s.table (.report repeaterKey nodeId snr lastHeard)).columns =
      (s.kept.filter fun op => !deletes repeaterKey nodeId op.row.packetId).map Op.row ++
        [reportColumns repeaterKey nodeId snr lastHeard] := by
    rw [apply, insertNeighbourReport, Table.columns_insert, Table.columns_keepWhere, hrows,
      List.filter_map]
    rfl
  have hkept : (supersede s.kept (.report repeaterKey nodeId snr lastHeard)).map Op.row =
      (s.kept.filter fun op => decide (op.pair ≠ some (repeaterKey, nodeId))).map Op.row ++
        [reportColumns repeaterKey nodeId snr lastHeard] := by
    unfold supersede
    rw [List.map_append]
    congr 2
    refine List.filter_congr fun op _ => ?_
    rw [Bool.eq_iff_iff, decide_eq_true_iff, decide_eq_true_iff]
    exact or_iff_right (Option.some_ne_none _)
  rw [hdeleted, hkept, List.append_cancel_right_eq]
  constructor
  · intro hsame op hop hpair
    have hsub : (s.kept.filter fun op => !deletes repeaterKey nodeId op.row.packetId) =
        (s.kept.filter fun op => decide (op.pair ≠ some (repeaterKey, nodeId))).filter
          fun op => !deletes repeaterKey nodeId op.row.packetId := by
      rw [List.filter_filter]
      refine List.filter_congr fun op hop => ?_
      rw [Bool.eq_iff_iff, Bool.and_eq_true, decide_eq_true_iff]
      exact ⟨fun h => ⟨h, hown op hop h⟩, fun h => h.1⟩
    have hlength := congrArg List.length hsame
    rw [List.length_map, List.length_map, hsub, List.length_filter_eq_length_iff] at hlength
    have hstays := hlength op (List.mem_filter.mpr ⟨hop, decide_eq_true hpair⟩)
    rwa [Bool.not_eq_true'] at hstays
  · intro hnone
    congr 1
    refine List.filter_congr fun op hop => ?_
    rw [Bool.eq_iff_iff, decide_eq_true_iff]
    refine ⟨hown op hop, fun hpair => ?_⟩
    rw [hnone op hop hpair]
    rfl

theorem clear_report_iff (hclear : Clear s.kept) (repeaterKey nodeId : String) (snr : Option F)
    (lastHeard : String) :
    Clear (supersede s.kept (.report repeaterKey nodeId snr lastHeard)) ↔
      Outdated s.kept nodeId lastHeard := by
  have hsame := @received_supersede_report F s.kept (.report repeaterKey nodeId snr lastHeard)
    (by simp [Op.pair])
  have houtdated : ∀ node t,
      Outdated (supersede s.kept (.report repeaterKey nodeId snr lastHeard)) node t ↔
        Outdated s.kept node t := by
    intro node t
    unfold Outdated
    simp only [hsame]
  constructor
  · intro hafter
    exact (houtdated nodeId lastHeard).mp (hafter (.report repeaterKey nodeId snr lastHeard)
      (mem_supersede.mpr (Or.inr rfl)) (by simp [Op.pair]))
  · intro hnew op hop hpair
    rw [houtdated]
    rcases mem_supersede.mp hop with ⟨hold, -⟩ | rfl
    · exact hclear op hold hpair
    · exact hnew

theorem clear_insert_iff (hclear : Clear s.kept) (packet : Packet F) (channel : Option (Channel F))
    (timestamp : String) :
    Clear (supersede s.kept (.insert packet channel timestamp)) ↔
      Harmless s (.insert packet channel timestamp) := by
  have hreceived : ∀ op, op ∈ received (s.kept ++ [Op.insert packet channel timestamp]) ↔
      op ∈ received s.kept ∨ op = .insert packet channel timestamp := by
    intro op
    rw [mem_received, mem_received, List.mem_append, List.mem_singleton]
    constructor
    · rintro ⟨hold | rfl, hnone⟩
      · exact Or.inl ⟨hold, hnone⟩
      · exact Or.inr rfl
    · rintro (⟨hold, hnone⟩ | rfl)
      · exact ⟨Or.inl hold, hnone⟩
      · exact ⟨Or.inr rfl, rfl⟩
  rw [supersede_of_received rfl]
  constructor
  · intro hafter
    refine or_iff_not_imp_left.mpr ?_
    intro hfirst op hop hpair hfrom
    obtain ⟨later, hlater, hsource, hlt⟩ := hafter op (List.mem_append_left _ hop)
      (Option.isSome_iff_ne_none.mp hpair)
      ⟨.insert packet channel timestamp, (hreceived _).mpr (Or.inr rfl), hfrom.symm⟩
    rcases (hreceived later).mp hlater with hold | rfl
    · exact absurd ⟨later, hold, hsource.trans hfrom⟩ hfirst
    · exact hlt
  · rintro hharmless op hop hpair ⟨packet', hpacket', hfrom⟩
    have hold : op ∈ s.kept := by
      rcases List.mem_append.mp hop with hold | hnew
      · exact hold
      · rw [List.mem_singleton.mp hnew] at hpair
        exact absurd rfl hpair
    have hbefore : (∃ old ∈ received s.kept, old.row.sourceId = op.row.sourceId) →
        ∃ later ∈ received (s.kept ++ [Op.insert packet channel timestamp]),
          later.row.sourceId = op.row.sourceId ∧ op.row.timestamp < later.row.timestamp := by
      intro hex
      obtain ⟨later, hlater, hfacts⟩ := hclear op hold hpair hex
      exact ⟨later, (hreceived later).mpr (Or.inl hlater), hfacts⟩
    rcases (hreceived packet').mp hpacket' with hreceivedOld | rfl
    · exact hbefore ⟨packet', hreceivedOld, hfrom⟩
    · rcases hharmless with ⟨earlier, hearlier, hsource⟩ | hnewer
      · exact hbefore ⟨earlier, hearlier, hsource.trans hfrom⟩
      · exact ⟨_, hpacket', hfrom, hnewer op hold (Option.isSome_iff_ne_none.mpr hpair) hfrom.symm⟩

theorem faithful_step_iff (hfaithful : Faithful s) {op : Op F} {s' : State F}
    (hstep : step s op = some s') : Faithful s' ↔ Harmless s op := by
  obtain ⟨hrows, hclear⟩ := faithful_iff_clear.mp hfaithful
  cases hstep
  rw [faithful_iff_clear]
  cases op with
  | insert packet channel timestamp =>
    have hwritten : (apply s.table (.insert packet channel timestamp)).columns =
        (supersede s.kept (.insert packet channel timestamp)).map Op.row := by
      rw [supersede_of_received rfl, apply, insertPacket, Table.columns_insert, hrows,
        List.map_append]
      rfl
    rw [and_iff_right hwritten]
    exact clear_insert_iff hclear packet channel timestamp
  | report repeaterKey nodeId snr lastHeard =>
    exact and_congr (rows_report_iff hrows repeaterKey nodeId snr lastHeard)
      (clear_report_iff hclear repeaterKey nodeId snr lastHeard)

instance (kept : List (Op F)) (nodeId lastHeard : String) :
    Decidable (Outdated kept nodeId lastHeard) := inferInstanceAs (Decidable (_ → _))

instance (s : State F) : ∀ op, Decidable (Harmless s op)
  | .insert _ _ _ => inferInstanceAs (Decidable (_ ∨ _))
  | .report _ _ _ _ => inferInstanceAs (Decidable (_ ∧ _))

/-! ### Runs -/

theorem faithful_empty : Faithful (State.empty : State F) := by
  refine faithful_iff_clear.mpr ⟨rfl, ?_⟩
  intro op hop
  cases hop

theorem exists_replay_always (s : State F) (ops : List (Op F)) :
    ∃ s', replay step Always s ops = some s' := by
  induction ops generalizing s with
  | nil => exact ⟨s, rfl⟩
  | cons op rest ih =>
    obtain ⟨s', hs'⟩ := ih ⟨apply s.table op, supersede s.kept op⟩
    refine ⟨s', ?_⟩
    rw [replay, if_pos (show Always s op from trivial), step, Option.bind_some, hs']

theorem kept_of_replay {guard : State F → Op F → Prop} [∀ s op, Decidable (guard s op)]
    (ops : List (Op F)) {s s' : State F} (h : replay step guard s ops = some s') :
    s'.kept = ops.foldl supersede s.kept := by
  induction ops generalizing s with
  | nil =>
    cases h
    rfl
  | cons op rest ih =>
    rw [replay] at h
    split at h
    · exact ih h
    · cases h

/-- **Neighbour reports.**  After every operation of a run the table holds the received packets
    and the latest report of each pair, and the answers are those of the received packets,
    exactly when every operation is harmless in the state it meets. -/
theorem reports_replay_iff (ops : List (Op F)) :
    Throughout step Faithful State.empty ops ↔
      ∃ s', replay step Harmless State.empty ops = some s' := by
  have hguard : ∀ {s : State F} {op : Op F} {s' : State F}, True → Faithful s →
      step s op = some s' → True ∧ (Faithful s' ↔ Harmless s op) :=
    fun _ hfaithful hstep => ⟨trivial, faithful_step_iff hfaithful hstep⟩
  constructor
  · intro hthroughout
    obtain ⟨s', hs'⟩ := exists_replay_always State.empty ops
    exact ⟨s', (throughout_iff_replay (I := fun _ => True) hguard trivial faithful_empty hs').mp
      hthroughout⟩
  · rintro ⟨s', hs'⟩
    exact (throughout_iff_replay (I := fun _ => True) hguard trivial faithful_empty
      (replay_mono (fun _ _ _ => trivial) hs')).mpr hs'

/-- In a faithful state a reply goes to the connected source that a latest received packet
    came through, if there is one. -/
theorem resolveSendSource_of_faithful (hfaithful : Faithful s) {sources : List SendSource}
    {order : Descending (time (F := F))} {lookupId : String} {source : SendSource}
    (h : resolveSendSource sources order s.table.columns lookupId = some source) :
    source.connected = true ∧ ∃ op ∈ received s.kept, op.row.sourceId = lookupId ∧
      op.row.captureSource = some source.name := by
  obtain ⟨name, hname, hfound⟩ := Option.bind_eq_some_iff.mp h
  split at hfound
  · cases hfound
  · have hmeets := List.find?_some hfound
    rw [Bool.and_eq_true, decide_eq_true_iff] at hmeets
    refine ⟨hmeets.2, ?_⟩
    rcases hfaithful.sources order lookupId with ⟨-, hnone⟩ | ⟨row, hrow, -, hsource⟩
    · rw [hname] at hnone
      cases hnone
    · rw [mem_rowsFrom] at hrow
      obtain ⟨op, hop, rfl⟩ := List.mem_map.mp hrow.1
      refine ⟨op, hop, hrow.2, ?_⟩
      rw [← hsource, hname, hmeets.1]

end

/-! ### A report on a node that was heard -/

def advert : Packet WholeFloat where
  packetId := "5f3c2a1b"
  sourceId := "cafe01"
  destinationId := "broadcast"
  protocol := .meshcore
  packetType := .nodeinfo
  captureSource := "meshcore_usb_433"
  timestamp := 0

/-- The advert, and a repeater that heard the same contact five minutes later. -/
def advertThenReport : List (Op WholeFloat) :=
  [.insert advert none "2026-01-01T12:00:00+00:00",
    .report "beef02" "cafe01" (some ⟨7⟩) "2026-01-01T12:05:00+00:00"]

/-- The report has the latest row, and no capture source. -/
theorem advertThenReport_notFaithful : ¬ Throughout step Faithful State.empty advertThenReport := by
  rintro ⟨-, hrest⟩
  obtain ⟨hone, hlast⟩ := hrest _ rfl
  have htwo : Faithful _ := hlast _ rfl
  have hharmless := (faithful_step_iff hone rfl).mp htwo
  exact absurd hharmless (by decide +kernel)

end Meshpoint.NeighbourReports
