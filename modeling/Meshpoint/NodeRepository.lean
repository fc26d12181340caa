import Mathlib.Data.String.Basic
import Mathlib.Data.List.Sort
import Mathlib.Data.List.Induction
import Meshpoint.OrderedDict

/-!
# The node repository

Model of `upsert` and `upsert_from_neighbour_report` of
`src/storage/node_repository.py`, and of `insert`, `insert_neighbour_report` and
`cleanup_old` of `src/storage/packet_repository.py`.

Timestamps are the stored texts; the texts of UTC times are ordered as the times.
`upsert` overwrites `last_heard`, a neighbour report takes a maximum over the packet
rows that retention has left, and neither reads the stored value.
`keepsLastHeard_run_iff` says which sequences of calls never lose what was heard.
-/

namespace Meshpoint.NodeRepository

/-! ### The tables -/

/-- The columns of `nodes` other than the key. -/
structure Columns (F : Type) where
  longName : Option String := none
  shortName : Option String := none
  hardwareModel : Option String := none
  firmwareVersion : Option String := none
  protocol : String := "meshtastic"
  role : Option String := none
  publicKey : Option String := none
  latitude : Option F := none
  longitude : Option F := none
  altitude : Option F := none
  lastHeard : String
  firstSeen : String
  packetCount : Nat := 0

structure Node (F : Type) extends Columns F where
  nodeId : String

/-- The columns of `packets` that the modelled statements read. -/
structure PacketRow where
  id : Nat
  packetId : String
  sourceId : String
  timestamp : String

structure Database (F : Type) where
  nodes : OrderedDict String (Columns F)
  packets : List PacketRow
  lastRowId : Nat

def Database.empty {F : Type} : Database F := ⟨OrderedDict.empty, [], 0⟩

/-! ### `LIKE` -/

/-- Some suffix of the text meets `p`. -/
def anySuffix (p : List Char → Bool) : List Char → Bool
  | [] => p []
  | c :: cs => p (c :: cs) || anySuffix p cs

/-- `LIKE`: `%` is any text, `_` any character, and letters match in either case. -/
def like : List Char → List Char → Bool
  | [], text => text.isEmpty
  | p :: ps, text =>
    if p = '%' then anySuffix (like ps) text
    else
      match text with
      | [] => false
      | c :: cs => (decide (p = '_') || decide (p.toLower = c.toLower)) && like ps cs

theorem anySuffix_isEmpty (text : List Char) : anySuffix (like []) text = true := by
  induction text with
  | nil => rfl
  | cons c cs ih =>
    rw [anySuffix, ih]
    exact Bool.or_true _

theorem like_percent (ps text : List Char) :
    like ('%' :: ps) text = anySuffix (like ps) text := by
  cases text <;> rfl

theorem like_literal_cons {p : Char} (hp : p ≠ '%') (ps : List Char) (c : Char) (cs : List Char) :
    like (p :: ps) (c :: cs) =
      ((decide (p = '_') || decide (p.toLower = c.toLower)) && like ps cs) := by
  rw [like.eq_def]
  exact if_neg hp

theorem like_literal_nil {p : Char} (hp : p ≠ '%') (ps : List Char) : like (p :: ps) [] = false := by
  rw [like.eq_def]
  exact if_neg hp

theorem anySuffix_mono {p q : List Char → Bool} (h : ∀ text, p text = true → q text = true)
    {text : List Char} (hany : anySuffix p text = true) : anySuffix q text = true := by
  induction text with
  | nil => exact h [] hany
  | cons c cs ih =>
    rw [anySuffix, Bool.or_eq_true] at hany ⊢
    rcases hany with hhead | htail
    · exact Or.inl (h _ hhead)
    · exact Or.inr (ih htail)

theorem like_append {p q text : List Char} (h : like (p ++ q) text = true) :
    like (p ++ ['%']) text = true := by
  induction p generalizing text with
  | nil =>
    rw [List.nil_append, like_percent]
    exact anySuffix_isEmpty text
  | cons c ps ih =>
    rw [List.cons_append] at h ⊢
    by_cases hany : c = '%'
    · rw [hany, like_percent] at h ⊢
      exact anySuffix_mono (fun _ => ih) h
    · cases text with
      | nil =>
        rw [like_literal_nil hany] at h
        cases h
      | cons d ds =>
        rw [like_literal_cons hany, Bool.and_eq_true] at h ⊢
        exact ⟨h.1, ih h.2⟩

/-! ### The packet table -/

/-- The rows a neighbour report does not count: those that reports themselves, or an import
    of contacts, have written. -/
def isSynthetic (packetId : String) : Bool :=
  like "nb:%".toList packetId.toList || like "meshcoredb:%".toList packetId.toList

section

variable {F : Type}

/-- `PacketRepository.insert`, of the columns kept here. -/
def insert (db : Database F) (packetId sourceId timestamp : String) : Database F :=
  { db with
    packets := db.packets ++ [⟨db.lastRowId + 1, packetId, sourceId, timestamp⟩]
    lastRowId := db.lastRowId + 1 }

/-- `insert_neighbour_report`. -/
def insertNeighbourReport (db : Database F) (repeaterKey nodeId lastHeard : String) :
    Database F :=
  let tag := "nb:" ++ repeaterKey ++ ":" ++ nodeId ++ ":"
  insert
    { db with
      packets := db.packets.filter fun row =>
        !like (tag ++ "%").toList row.packetId.toList }
    (tag ++ lastHeard) nodeId lastHeard

/-- `cleanup_old`: the oldest rows beyond `max_retained` go, by time and then by id. -/
def cleanupOld (db : Database F) (maxRetained : Int) : Database F :=
  if (db.packets.length : Int) ≤ maxRetained then db
  else
    let oldest := db.packets.insertionSort fun a b => a.timestamp ≤ b.timestamp
    let excess := oldest.take ((db.packets.length : Int) - maxRetained).toNat
    { db with packets := db.packets.filter fun row => !(excess.map PacketRow.id).contains row.id }

/-! ### The node table -/

/-- `COALESCE`. -/
def coalesce {α : Type} (new old : Option α) : Option α := new.or old

def blank (name : Option String) : Bool := name.all fun text => decide (text = "")

/-- `LOWER`. -/
def lower (text : String) : String := text.map Char.toLower

/-- The name is the placeholder a report has given. -/
def isPlaceholder (nodeId : String) (name : Option String) : Bool :=
  name.any fun text => decide (lower text = lower nodeId)

/-- `long_name` after an upsert. -/
def mergedName (nodeId : String) (new old : Columns F) : Option String :=
  if blank new.longName then old.longName
  else if new.protocol = "meshtastic" then new.longName
  else if blank old.longName then new.longName
  else if old.protocol = "meshcore" ∧ isPlaceholder nodeId old.longName then new.longName
  else old.longName

/-- What `ON CONFLICT` of `upsert` makes of a stored row. -/
def mergedColumns (nodeId : String) (new old : Columns F) : Columns F where
  longName := mergedName nodeId new old
  shortName := coalesce new.shortName old.shortName
  hardwareModel := coalesce new.hardwareModel old.hardwareModel
  firmwareVersion := coalesce new.firmwareVersion old.firmwareVersion
  protocol := old.protocol
  role := coalesce new.role old.role
  publicKey := coalesce new.publicKey old.publicKey
  latitude := coalesce new.latitude old.latitude
  longitude := coalesce new.longitude old.longitude
  altitude := coalesce new.altitude old.altitude
  lastHeard := new.lastHeard
  firstSeen := old.firstSeen
  packetCount := old.packetCount + 1

def upsert (db : Database F) (node : Node F) : Database F :=
  { db with
    nodes := db.nodes.set node.nodeId
      (match db.nodes.get? node.nodeId with
      | none => node.toColumns
      | some old => mergedColumns node.nodeId node.toColumns old) }

/-- A retained packet that the node itself was heard with. -/
def HeardPacket (nodeId : String) (row : PacketRow) : Prop :=
  row.sourceId = nodeId ∧ isSynthetic row.packetId = false

instance (nodeId : String) (row : PacketRow) : Decidable (HeardPacket nodeId row) :=
  inferInstanceAs (Decidable (_ ∧ _))

/-- `SELECT MAX(p.timestamp) FROM packets ...`. -/
def lastRetained (db : Database F) (nodeId : String) : Option String :=
  ((db.packets.filter fun row => decide (HeardPacket nodeId row)).map PacketRow.timestamp).max?

/-- `last_heard` of a stored node after a report. -/
def reportedLastHeard (db : Database F) (nodeId lastHeard : String) : String :=
  max lastHeard ((lastRetained db nodeId).getD lastHeard)

/-- What `ON CONFLICT` of `upsert_from_neighbour_report` makes of a stored row. -/
def reportedColumns (db : Database F) (nodeId lastHeard : String) (old : Columns F) : Columns F :=
  { old with
    longName :=
      if blank old.longName || isPlaceholder nodeId old.longName then some nodeId
      else old.longName
    lastHeard := reportedLastHeard db nodeId lastHeard }

def upsertFromNeighbourReport (db : Database F) (nodeId lastHeard : String) : Database F :=
  { db with
    nodes := db.nodes.set nodeId
      (match db.nodes.get? nodeId with
      | none =>
        { longName := some nodeId, protocol := "meshcore", lastHeard := lastHeard
          firstSeen := lastHeard }
      | some old => reportedColumns db nodeId lastHeard old) }

/-! ### Runs -/

inductive Op (F : Type) where
  | upsert (node : Node F)
  | upsertFromNeighbourReport (nodeId lastHeard : String)
  | insert (packetId sourceId timestamp : String)
  | insertNeighbourReport (repeaterKey nodeId lastHeard : String)
  | cleanupOld (maxRetained : Int)

def step (db : Database F) : Op F → Database F
  | .upsert node => upsert db node
  | .upsertFromNeighbourReport nodeId lastHeard => upsertFromNeighbourReport db nodeId lastHeard
  | .insert packetId sourceId timestamp => insert db packetId sourceId timestamp
  | .insertNeighbourReport repeaterKey nodeId lastHeard =>
    insertNeighbourReport db repeaterKey nodeId lastHeard
  | .cleanupOld maxRetained => cleanupOld db maxRetained

def run (ops : List (Op F)) : Database F := ops.foldl step Database.empty

/-- The stored `last_heard` of a node. -/
def lastHeard (db : Database F) (nodeId : String) : Option String :=
  (db.nodes.get? nodeId).map Columns.lastHeard

/-- The times a node was really heard at: those of its own packets and updates. -/
def heardAt (nodeId : String) : Op F → Option String
  | .upsert node => if node.nodeId = nodeId then some node.lastHeard else none
  | .insert packetId sourceId timestamp =>
    if sourceId = nodeId ∧ isSynthetic packetId = false then some timestamp else none
  | _ => none

def heardTimes (nodeId : String) (ops : List (Op F)) : List String :=
  ops.filterMap (heardAt nodeId)

/-- `last_heard` never goes backwards between two moments of a run, and after a report on a
    stored node it is not before any time the node was really heard. -/
structure KeepsLastHeard (ops : List (Op F)) : Prop where
  nonDecreasing : ∀ before later after, ops = before ++ later ++ after →
    ∀ nodeId t, lastHeard (run before) nodeId = some t →
      ∃ t', lastHeard (run (before ++ later)) nodeId = some t' ∧ t ≤ t'
  reportKeepsHeard : ∀ before nodeId reported after,
    ops = before ++ .upsertFromNeighbourReport nodeId reported :: after →
      ∀ stored, lastHeard (run before) nodeId = some stored → ∀ t ∈ heardTimes nodeId before,
        ∃ t', lastHeard (run (before ++ [.upsertFromNeighbourReport nodeId reported])) nodeId =
          some t' ∧ t ≤ t'

/-- A time that a report does not lose: it is not after the reported one, or not after a
    packet of the node that retention has left. -/
def Covered (db : Database F) (nodeId reported t : String) : Prop :=
  t ≤ reported ∨ ∃ row ∈ db.packets, HeardPacket nodeId row ∧ t ≤ row.timestamp

/-- The guard on a call after the calls `before`: an update is not older than the stored
    time, and a report on a stored node loses neither that time nor any the node was heard at. -/
def MeetsGuard (before : List (Op F)) : Op F → Prop
  | .upsert node => ∀ stored, lastHeard (run before) node.nodeId = some stored →
      stored ≤ node.lastHeard
  | .upsertFromNeighbourReport nodeId reported =>
    ∀ stored, lastHeard (run before) nodeId = some stored →
      Covered (run before) nodeId reported stored ∧
        ∀ t ∈ heardTimes nodeId before, Covered (run before) nodeId reported t
  | _ => True

theorem run_append (before later : List (Op F)) :
    run (before ++ later) = later.foldl step (run before) := by
  rw [run, List.foldl_append]
  rfl

theorem run_append_singleton (before : List (Op F)) (op : Op F) :
    run (before ++ [op]) = step (run before) op := by
  rw [run_append]
  rfl

/-! ### What a call does to `last_heard` -/

@[simp] theorem lastHeard_insert (db : Database F) (packetId sourceId timestamp nodeId : String) :
    lastHeard (insert db packetId sourceId timestamp) nodeId = lastHeard db nodeId := rfl

@[simp] theorem lastHeard_insertNeighbourReport (db : Database F)
    (repeaterKey reportedId heard nodeId : String) :
    lastHeard (insertNeighbourReport db repeaterKey reportedId heard) nodeId =
      lastHeard db nodeId := rfl

@[simp] theorem lastHeard_cleanupOld (db : Database F) (maxRetained : Int) (nodeId : String) :
    lastHeard (cleanupOld db maxRetained) nodeId = lastHeard db nodeId := by
  unfold cleanupOld
  split <;> rfl

theorem lastHeard_set (db : Database F) (key nodeId : String) (columns : Columns F) :
    lastHeard { db with nodes := db.nodes.set key columns } nodeId =
      if key = nodeId then some columns.lastHeard else lastHeard db nodeId := by
  unfold lastHeard
  rw [OrderedDict.get?_set]
  split <;> rfl

theorem lastHeard_upsert (db : Database F) (node : Node F) (nodeId : String) :
    lastHeard (upsert db node) nodeId =
      if node.nodeId = nodeId then some node.lastHeard else lastHeard db nodeId := by
  rw [upsert, lastHeard_set]
  cases db.nodes.get? node.nodeId <;> rfl

theorem lastHeard_report (db : Database F) (reportedId heard nodeId : String) :
    lastHeard (upsertFromNeighbourReport db reportedId heard) nodeId =
      if reportedId = nodeId then
        some (if (lastHeard db reportedId).isSome then reportedLastHeard db reportedId heard
          else heard)
      else lastHeard db nodeId := by
  rw [upsertFromNeighbourReport, lastHeard_set]
  unfold lastHeard
  cases db.nodes.get? reportedId <;> rfl

theorem le_reportedLastHeard_iff (db : Database F) (nodeId heard t : String) :
    t ≤ reportedLastHeard db nodeId heard ↔ Covered db nodeId heard t := by
  have hmem : ∀ u, u ∈ (db.packets.filter fun row => decide (HeardPacket nodeId row)).map
      PacketRow.timestamp ↔ ∃ row ∈ db.packets, HeardPacket nodeId row ∧ row.timestamp = u := by
    intro u
    simp [and_assoc]
  unfold Covered reportedLastHeard
  rw [le_max_iff]
  apply or_congr_right'
  intro hlater
  unfold lastRetained
  cases hmax : ((db.packets.filter fun row => decide (HeardPacket nodeId row)).map
      PacketRow.timestamp).max? with
  | none =>
    rw [List.max?_eq_none_iff] at hmax
    rw [Option.getD_none]
    constructor
    · intro h
      exact absurd h hlater
    · rintro ⟨row, hrow, hheard, -⟩
      have hin := (hmem row.timestamp).mpr ⟨row, hrow, hheard, rfl⟩
      rw [hmax] at hin
      cases hin
  | some newest =>
    obtain ⟨hnewest, hall⟩ := List.max?_eq_some_iff.mp hmax
    rw [Option.getD_some]
    constructor
    · intro h
      obtain ⟨row, hrow, hheard, rfl⟩ := (hmem newest).mp hnewest
      exact ⟨row, hrow, hheard, h⟩
    · rintro ⟨row, hrow, hheard, hle⟩
      exact le_trans hle (hall _ ((hmem _).mpr ⟨row, hrow, hheard, rfl⟩))

/-! ### One call -/

/-- What `KeepsLastHeard` asks of the call after `before`. -/
structure StepKeeps (before : List (Op F)) (op : Op F) : Prop where
  nonDecreasing : ∀ nodeId t, lastHeard (run before) nodeId = some t →
    ∃ t', lastHeard (run (before ++ [op])) nodeId = some t' ∧ t ≤ t'
  reportKeepsHeard : ∀ nodeId reported, op = .upsertFromNeighbourReport nodeId reported →
    ∀ stored, lastHeard (run before) nodeId = some stored → ∀ t ∈ heardTimes nodeId before,
      ∃ t', lastHeard (run (before ++ [op])) nodeId = some t' ∧ t ≤ t'

theorem stepKeeps_of_frame {before : List (Op F)} {op : Op F}
    (hframe : ∀ nodeId, lastHeard (step (run before) op) nodeId = lastHeard (run before) nodeId)
    (hop : ∀ nodeId reported, op ≠ .upsertFromNeighbourReport nodeId reported) :
    StepKeeps before op := by
  constructor
  · intro nodeId t ht
    rw [run_append_singleton, hframe]
    exact ⟨t, ht, le_refl t⟩
  · intro nodeId reported hreport
    exact absurd hreport (hop nodeId reported)

theorem stepKeeps_upsert_iff (before : List (Op F)) (node : Node F) :
    StepKeeps before (.upsert node) ↔ MeetsGuard before (.upsert node) := by
  have hstep : ∀ nodeId, lastHeard (run (before ++ [.upsert node])) nodeId =
      if node.nodeId = nodeId then some node.lastHeard else lastHeard (run before) nodeId := by
    intro nodeId
    rw [run_append_singleton, step, lastHeard_upsert]
  constructor
  · intro h stored hstored
    obtain ⟨t', ht', hle⟩ := h.nonDecreasing _ _ hstored
    rw [hstep, if_pos rfl] at ht'
    rw [Option.some.inj ht']
    exact hle
  · intro h
    constructor
    · intro nodeId t ht
      rw [hstep]
      by_cases hnode : node.nodeId = nodeId
      · subst hnode
        exact ⟨node.lastHeard, if_pos rfl, h t ht⟩
      · rw [if_neg hnode]
        exact ⟨t, ht, le_refl t⟩
    · intro nodeId reported hreport
      cases hreport

theorem stepKeeps_report_iff (before : List (Op F)) (reportedId reported : String) :
    StepKeeps before (.upsertFromNeighbourReport reportedId reported) ↔
      MeetsGuard before (.upsertFromNeighbourReport reportedId reported) := by
  have hstep : ∀ nodeId,
      lastHeard (run (before ++ [.upsertFromNeighbourReport reportedId reported])) nodeId =
        if reportedId = nodeId then
          some (if (lastHeard (run before) reportedId).isSome then
            reportedLastHeard (run before) reportedId reported else reported)
        else lastHeard (run before) nodeId := by
    intro nodeId
    rw [run_append_singleton, step, lastHeard_report]
  -- on a stored node the new time is the maximum
  have hstored : ∀ stored, lastHeard (run before) reportedId = some stored → ∀ t,
      (∃ t', lastHeard (run (before ++ [.upsertFromNeighbourReport reportedId reported]))
        reportedId = some t' ∧ t ≤ t') ↔ Covered (run before) reportedId reported t := by
    intro stored hstored t
    rw [hstep, if_pos rfl, hstored, Option.isSome_some, if_pos rfl]
    simp only [Option.some.injEq, exists_eq_left']
    exact le_reportedLastHeard_iff _ _ _ _
  constructor
  · intro h stored hrow
    constructor
    · exact (hstored stored hrow stored).mp (h.nonDecreasing _ _ hrow)
    · intro t ht
      exact (hstored stored hrow t).mp (h.reportKeepsHeard _ _ rfl stored hrow t ht)
  · intro h
    constructor
    · intro nodeId t ht
      by_cases hnode : reportedId = nodeId
      · subst hnode
        exact (hstored t ht t).mpr (h t ht).1
      · rw [hstep, if_neg hnode]
        exact ⟨t, ht, le_refl t⟩
    · intro nodeId reported' hreport stored hrow t ht
      cases hreport
      exact (hstored stored hrow t).mpr ((h stored hrow).2 t ht)

theorem stepKeeps_iff (before : List (Op F)) (op : Op F) :
    StepKeeps before op ↔ MeetsGuard before op := by
  cases op with
  | upsert node => exact stepKeeps_upsert_iff before node
  | upsertFromNeighbourReport nodeId reported => exact stepKeeps_report_iff before nodeId reported
  | insert packetId sourceId timestamp =>
    refine iff_of_true (stepKeeps_of_frame (fun _ => rfl) ?_) trivial
    intro nodeId reported h
    cases h
  | insertNeighbourReport repeaterKey nodeId heard =>
    refine iff_of_true (stepKeeps_of_frame (fun _ => rfl) ?_) trivial
    intro nodeId reported h
    cases h
  | cleanupOld maxRetained =>
    refine iff_of_true (stepKeeps_of_frame (fun _ => lastHeard_cleanupOld ..) ?_) trivial
    intro nodeId reported h
    cases h

/-! ### Runs -/

theorem lastHeard_le_of_steps {before : List (Op F)} (later : List (Op F))
    (hsteps : ∀ done op rest, later = done ++ op :: rest → StepKeeps (before ++ done) op)
    {nodeId t : String} (ht : lastHeard (run before) nodeId = some t) :
    ∃ t', lastHeard (run (before ++ later)) nodeId = some t' ∧ t ≤ t' := by
  induction later using List.reverseRecOn with
  | nil =>
    rw [List.append_nil]
    exact ⟨t, ht, le_refl t⟩
  | append_singleton later op ih =>
    obtain ⟨t₁, ht₁, hle₁⟩ := ih (by
      intro done op' rest hsplit
      apply hsteps done op' (rest ++ [op])
      rw [hsplit, List.append_assoc, List.cons_append])
    obtain ⟨t₂, ht₂, hle₂⟩ := (hsteps later op [] rfl).nonDecreasing _ _ ht₁
    rw [← List.append_assoc]
    exact ⟨t₂, ht₂, le_trans hle₁ hle₂⟩

/-- **`last_heard` over a run.**  A sequence of calls keeps what was heard exactly when each
    of its calls meets the guard. -/
theorem keepsLastHeard_run_iff (ops : List (Op F)) :
    KeepsLastHeard ops ↔ ∀ before op after, ops = before ++ op :: after → MeetsGuard before op := by
  constructor
  · intro h before op after hsplit
    rw [← stepKeeps_iff]
    constructor
    · intro nodeId t ht
      exact h.nonDecreasing before [op] after (by rw [hsplit]; simp) nodeId t ht
    · intro nodeId reported hop
      subst hop
      exact h.reportKeepsHeard before nodeId reported after hsplit
  · intro h
    constructor
    · intro before later after hsplit nodeId t ht
      apply lastHeard_le_of_steps later ?_ ht
      intro done op rest hlater
      rw [stepKeeps_iff]
      apply h (before ++ done) op (rest ++ after)
      rw [hsplit, hlater]
      simp
    · intro before nodeId reported after hsplit
      exact ((stepKeeps_iff before _).mpr (h before _ after hsplit)).reportKeepsHeard _ _ rfl

/-! ### Without retention -/

theorem mem_packets_insertNeighbourReport {db : Database F} {row : PacketRow}
    {repeaterKey reportedId heard nodeId : String} (hrow : row ∈ db.packets)
    (hheard : HeardPacket nodeId row) :
    row ∈ (insertNeighbourReport db repeaterKey reportedId heard).packets := by
  have hkept : like ("nb:" ++ repeaterKey ++ ":" ++ reportedId ++ ":" ++ "%").toList
      row.packetId.toList = false := by
    rw [Bool.eq_false_iff]
    intro hlike
    simp only [String.toList_append, List.append_assoc] at hlike
    have hsynthetic : isSynthetic row.packetId = true := by
      unfold isSynthetic
      rw [Bool.or_eq_true]
      exact Or.inl (like_append hlike)
    rw [hheard.2] at hsynthetic
    cases hsynthetic
  apply List.mem_append_left
  rw [List.mem_filter, hkept]
  exact ⟨hrow, rfl⟩

theorem mem_packets_step {db : Database F} {op : Op F} {row : PacketRow} {nodeId : String}
    (hop : ∀ maxRetained, op ≠ .cleanupOld maxRetained) (hrow : row ∈ db.packets)
    (hheard : HeardPacket nodeId row) : row ∈ (step db op).packets := by
  cases op with
  | upsert node => exact hrow
  | upsertFromNeighbourReport reportedId heard => exact hrow
  | insert packetId sourceId timestamp => exact List.mem_append_left _ hrow
  | insertNeighbourReport repeaterKey reportedId heard =>
    exact mem_packets_insertNeighbourReport hrow hheard
  | cleanupOld maxRetained => exact absurd rfl (hop maxRetained)

theorem covered_of_insert {ops : List (Op F)}
    (hops : ∀ op ∈ ops, ∀ maxRetained, op ≠ .cleanupOld maxRetained)
    {packetId nodeId t : String} (hgenuine : isSynthetic packetId = false)
    (hinsert : .insert packetId nodeId t ∈ ops) (reported : String) :
    Covered (run ops) nodeId reported t := by
  right
  have hrow : ∃ row ∈ (run ops).packets, HeardPacket nodeId row ∧ row.timestamp = t := by
    induction ops using List.reverseRecOn with
    | nil => cases hinsert
    | append_singleton ops op ih =>
      rw [run_append_singleton]
      rcases List.mem_append.mp hinsert with hinsert | hlast
      · obtain ⟨row, hrow, hheard, ht⟩ :=
          ih (fun op hop => hops op (List.mem_append_left _ hop)) hinsert
        have hop := hops op (List.mem_append_right _ (List.mem_singleton.mpr rfl))
        exact ⟨row, mem_packets_step hop hrow hheard, hheard, ht⟩
      · rw [List.mem_singleton] at hlast
        subst hlast
        exact ⟨_, List.mem_append_right _ (List.mem_singleton.mpr rfl), ⟨rfl, hgenuine⟩, rfl⟩
  obtain ⟨row, hrow, hheard, rfl⟩ := hrow
  exact ⟨row, hrow, hheard, le_refl _⟩

end

/-! ### A report after retention -/

/-- A node heard at ten, its packet pruned, then reported at nine. -/
def prunedThenReported : List (Op Int) :=
  [.insert "4f2a01" "a1b2" "2025-03-01T10:00:00+00:00",
    .upsert { nodeId := "a1b2", lastHeard := "2025-03-01T10:00:00+00:00"
              firstSeen := "2025-03-01T10:00:00+00:00", protocol := "meshcore" },
    .cleanupOld 0,
    .upsertFromNeighbourReport "a1b2" "2025-03-01T09:00:00+00:00"]

/-- The report lowers `last_heard` below the time the node was heard at. -/
theorem not_keepsLastHeard_prunedThenReported :
    lastHeard (run (prunedThenReported.take 3)) "a1b2" = some "2025-03-01T10:00:00+00:00" ∧
      lastHeard (run prunedThenReported) "a1b2" = some "2025-03-01T09:00:00+00:00" ∧
      ¬ KeepsLastHeard prunedThenReported := by
  have hbefore : lastHeard (run (prunedThenReported.take 3)) "a1b2" =
      some "2025-03-01T10:00:00+00:00" := by
    decide
  have hafter : lastHeard (run prunedThenReported) "a1b2" = some "2025-03-01T09:00:00+00:00" := by
    decide
  refine ⟨hbefore, hafter, ?_⟩
  intro h
  obtain ⟨t', ht', hle⟩ :=
    h.nonDecreasing (prunedThenReported.take 3) (prunedThenReported.drop 3) [] rfl "a1b2" _ hbefore
  rw [List.take_append_drop, hafter] at ht'
  cases ht'
  revert hle
  decide

end Meshpoint.NodeRepository
