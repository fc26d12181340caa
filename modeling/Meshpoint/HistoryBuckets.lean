import Mathlib
import Meshpoint.ListFacts

/-!
# Bucketed history

`bucket_seconds` (`src/storage/time_bucket.py`) and the two queries that group the history of
a node by it: `TelemetryRepository.get_history` and `PacketRepository.get_signal_history`.
The rows are grouped by the quotient of their epoch seconds and the width, the groups are put
in the order of their first rows, and `LIMIT` keeps the first ones.

`Meets` is the purpose of the grouping: a bounded number of points in order, every row in one
bucket, and the newest row in one that is returned.  `keepsNewest_iff` says that it is met
exactly when the rows touch no more windows of the width than the limit.
-/

namespace Meshpoint.HistoryBuckets

open ListFacts

/-! ### Width -/

/-- What the database and the floats make of a time.  Times are microseconds since the epoch,
    and the stored texts of UTC times are in their order. -/
structure Timekeeping where
  /-- `CAST(strftime('%s', timestamp) AS INTEGER)`. -/
  seconds : Int → Int
  monotone : Monotone seconds
  /-- `int(span / limit)`, the span in seconds. -/
  spanQuotient : (span : Int) → (limit : Nat) → Int

/-- `bucket_seconds`, for the times of the rows that match.  `hoursQuotient` is
    `int((hours * 3600) / limit)`. -/
def bucketSeconds (time : Timekeeping) (times : List Int) (limit : Nat) (hoursQuotient : Int) :
    Int :=
  match times.min?, times.max? with
  | some lo, some hi =>
    if 0 < hi - lo then max 60 (time.spanQuotient (hi - lo) (max limit 1)) else max 60 hoursQuotient
  | _, _ => max 60 hoursQuotient

theorem bucketSeconds_pos (time : Timekeeping) (times : List Int) (limit : Nat)
    (hoursQuotient : Int) : 60 ≤ bucketSeconds time times limit hoursQuotient := by
  unfold bucketSeconds
  split
  · split
    · exact le_max_left 60 _
    · exact le_max_left 60 _
  · exact le_max_left 60 _

/-! ### Queries -/

/-- A stored sample with the columns `C`. -/
structure Row (C V : Type) where
  nodeId : String
  timestamp : Int
  value : C → Option V

structure Bucket (C V : Type) where
  number : Int
  rows : List (Row C V)

structure Point (C V : Type) where
  timestamp : Int
  value : C → Option V

section

variable {C V : Type}

/-- The bucket of a row; SQL division cuts off towards zero. -/
def bucketOf (time : Timekeeping) (width : Int) (row : Row C V) : Int :=
  (time.seconds row.timestamp).tdiv width

/-- `GROUP BY`. -/
def buckets (time : Timekeeping) (width : Int) (rows : List (Row C V)) : List (Bucket C V) :=
  (rows.map (bucketOf time width)).dedup.map fun number =>
    ⟨number, rows.filter fun row => bucketOf time width row = number⟩

/-- `MIN(timestamp)` and the averages of a bucket, which is not empty. -/
def Bucket.point (avg : List V → Option V) (bucket : Bucket C V) : Point C V where
  timestamp := ((bucket.rows.map Row.timestamp).min?).getD 0
  value column := avg (bucket.rows.filterMap fun row => row.value column)

/-- `ORDER BY timestamp ASC LIMIT ?`. -/
def firstPoints (limit : Nat) (points : List (Point C V)) : List (Point C V) :=
  (points.mergeSort fun a b => decide (a.timestamp ≤ b.timestamp)).take limit

/-- The bound that `hours` puts on the times, with `int((hours * 3600) / limit)`. -/
structure Window where
  since : Int
  hoursQuotient : Int

def bucketed (time : Timekeeping) (avg : List V → Option V) (rows : List (Row C V)) (limit : Nat)
    (hoursQuotient : Int) : List (Point C V) :=
  let width := bucketSeconds time (rows.map Row.timestamp) limit hoursQuotient
  firstPoints limit ((buckets time width rows).map (Bucket.point avg))

def plain (rows : List (Row C V)) (limit : Nat) : List (Point C V) :=
  firstPoints limit (rows.map fun row => ⟨row.timestamp, row.value⟩)

end

inductive TelemetryColumn where
  | batteryLevel
  | voltage
  | temperature
  | humidity
  | barometricPressure
  | channelUtilization
  | airUtilTx
  | uptimeSeconds
deriving DecidableEq

/-- The columns of `packets` that the signal history reads. -/
inductive SignalColumn where
  | rssi
  | snr
deriving DecidableEq

section

variable {V : Type} (time : Timekeeping) (avg : List V → Option V)

/-- `WHERE node_id = ? AND timestamp >= ?`. -/
def telemetryRows (table : List (Row TelemetryColumn V)) (nodeId : String) (since : Int) :
    List (Row TelemetryColumn V) :=
  table.filter fun row => decide (row.nodeId = nodeId ∧ since ≤ row.timestamp)

/-- `WHERE source_id = ? AND rssi IS NOT NULL AND timestamp >= ?`. -/
def signalRows (table : List (Row SignalColumn V)) (sourceId : String) (since : Int) :
    List (Row SignalColumn V) :=
  table.filter fun row =>
    decide (row.nodeId = sourceId ∧ (row.value .rssi).isSome = true ∧ since ≤ row.timestamp)

/-- `TelemetryRepository.get_history`. -/
def getHistory (table : List (Row TelemetryColumn V)) (nodeId : String) (limit : Nat) :
    Option Window → List (Point TelemetryColumn V)
  | some window => bucketed time avg (telemetryRows table nodeId window.since) limit
      window.hoursQuotient
  | none => plain (table.filter fun row => decide (row.nodeId = nodeId)) limit

/-- `PacketRepository.get_signal_history`. -/
def getSignalHistory (table : List (Row SignalColumn V)) (sourceId : String) (limit : Nat) :
    Option Window → List (Point SignalColumn V)
  | some window => bucketed time avg (signalRows table sourceId window.since) limit
      window.hoursQuotient
  | none => plain (table.filter fun row =>
      decide (row.nodeId = sourceId ∧ (row.value .rssi).isSome = true)) limit

end

/-! ### The property -/

section

variable {C V : Type} (time : Timekeeping) (avg : List V → Option V)

def bucketsOf (rows : List (Row C V)) (limit : Nat) (hoursQuotient : Int) : List (Bucket C V) :=
  buckets time (bucketSeconds time (rows.map Row.timestamp) limit hoursQuotient) rows

/-- How many windows of the bucket width, counted from the epoch, the rows touch. -/
def windowsTouched (rows : List (Row C V)) (limit : Nat) (hoursQuotient : Int) : Nat :=
  let width := bucketSeconds time (rows.map Row.timestamp) limit hoursQuotient
  (rows.map (bucketOf time width)).dedup.length

/-- A query keeps the newest sample: what it returns of the rows that match. -/
structure Meets (rows : List (Row C V)) (limit : Nat) (hoursQuotient : Int)
    (points : List (Point C V)) : Prop where
  bounded : points.length ≤ limit
  ordered : points.Pairwise fun a b => a.timestamp ≤ b.timestamp
  partitioned : ∀ row ∈ rows, ∃! bucket,
    bucket ∈ bucketsOf time rows limit hoursQuotient ∧ row ∈ bucket.rows
  newest : ∀ row ∈ rows, (∀ other ∈ rows, other.timestamp ≤ row.timestamp) →
    ∃ bucket ∈ bucketsOf time rows limit hoursQuotient,
      row ∈ bucket.rows ∧ bucket.point avg ∈ points

end

/-! ### Buckets -/

section

variable {C V : Type} {time : Timekeeping} {width : Int} {rows : List (Row C V)}

theorem mem_buckets_iff {bucket : Bucket C V} :
    bucket ∈ buckets time width rows ↔
      (∃ row ∈ rows, bucketOf time width row = bucket.number) ∧
        bucket.rows = rows.filter fun row => bucketOf time width row = bucket.number := by
  unfold buckets
  rw [List.mem_map]
  constructor
  · rintro ⟨number, hnumber, rfl⟩
    exact ⟨List.mem_map.mp (List.mem_dedup.mp hnumber), rfl⟩
  · rintro ⟨hrow, hrows⟩
    refine ⟨bucket.number, List.mem_dedup.mpr (List.mem_map.mpr hrow), ?_⟩
    rw [← hrows]

theorem mem_rows_iff {bucket : Bucket C V} (h : bucket ∈ buckets time width rows) {row : Row C V} :
    row ∈ bucket.rows ↔ row ∈ rows ∧ bucketOf time width row = bucket.number := by
  rw [(mem_buckets_iff.mp h).2, List.mem_filter, decide_eq_true_iff]

theorem existsUnique_bucket {row : Row C V} (hrow : row ∈ rows) :
    ∃! bucket, bucket ∈ buckets time width rows ∧ row ∈ bucket.rows := by
  refine ⟨⟨bucketOf time width row,
    rows.filter fun other => bucketOf time width other = bucketOf time width row⟩, ?_, ?_⟩
  · have hmem : (⟨bucketOf time width row, rows.filter fun other =>
        bucketOf time width other = bucketOf time width row⟩ : Bucket C V) ∈
        buckets time width rows := mem_buckets_iff.mpr ⟨⟨row, hrow, rfl⟩, rfl⟩
    exact ⟨hmem, (mem_rows_iff hmem).mpr ⟨hrow, rfl⟩⟩
  · rintro bucket ⟨hbucket, hin⟩
    have hnumber := ((mem_rows_iff hbucket).mp hin).2
    have hrows := (mem_buckets_iff.mp hbucket).2
    cases bucket
    simp only at hnumber hrows
    rw [hrows, hnumber]

theorem exists_first (avg : List V → Option V) {bucket : Bucket C V}
    (h : bucket ∈ buckets time width rows) :
    ∃ row ∈ rows, bucketOf time width row = bucket.number ∧
      (bucket.point avg).timestamp = row.timestamp := by
  obtain ⟨⟨row, hrow, hnumber⟩, -⟩ := mem_buckets_iff.mp h
  have hmem := (mem_rows_iff h).mpr ⟨hrow, hnumber⟩
  obtain ⟨first, hfirst⟩ : ∃ first, (bucket.rows.map Row.timestamp).min? = some first := by
    rw [← Option.isSome_iff_exists, List.isSome_min?_iff]
    exact List.ne_nil_of_mem (List.mem_map_of_mem hmem)
  obtain ⟨found, hfound, htime⟩ := List.mem_map.mp (List.min?_mem hfirst)
  obtain ⟨hfoundRow, hfoundNumber⟩ := (mem_rows_iff h).mp hfound
  refine ⟨found, hfoundRow, hfoundNumber, ?_⟩
  rw [Bucket.point, hfirst, Option.getD_some, htime]

theorem bucketOf_mono (hwidth : 0 < width) {row row' : Row C V}
    (h : row.timestamp ≤ row'.timestamp) :
    bucketOf time width row ≤ bucketOf time width row' :=
  Int.tdiv_le_tdiv hwidth (time.monotone h)

theorem eq_of_number {bucket bucket' : Bucket C V} (h : bucket ∈ buckets time width rows)
    (h' : bucket' ∈ buckets time width rows) (hnumber : bucket.number = bucket'.number) :
    bucket = bucket' := by
  have hrows := (mem_buckets_iff.mp h).2
  have hrows' := (mem_buckets_iff.mp h').2
  cases bucket
  cases bucket'
  simp only at hnumber hrows hrows'
  rw [hrows, hrows', hnumber]

theorem point_lt_of_number_lt (avg : List V → Option V) (hwidth : 0 < width)
    {bucket bucket' : Bucket C V} (h : bucket ∈ buckets time width rows)
    (h' : bucket' ∈ buckets time width rows) (hnumber : bucket.number < bucket'.number) :
    (bucket.point avg).timestamp < (bucket'.point avg).timestamp := by
  obtain ⟨row, -, hrow, htime⟩ := exists_first avg h
  obtain ⟨row', -, hrow', htime'⟩ := exists_first avg h'
  rw [htime, htime']
  by_contra hnot
  have hback : bucketOf time width row' ≤ bucketOf time width row :=
    bucketOf_mono hwidth (not_lt.mp hnot)
  omega

theorem nodup_points (avg : List V → Option V) (hwidth : 0 < width) :
    (((buckets time width rows).map (Bucket.point avg)).map Point.timestamp).Nodup := by
  have hnumbers : ((buckets time width rows).map Bucket.number).Nodup := by
    unfold buckets
    rw [List.map_map]
    change ((rows.map (bucketOf time width)).dedup.map id).Nodup
    rw [List.map_id]
    exact List.nodup_dedup _
  rw [List.map_map]
  refine List.Nodup.map_on ?_ (List.Nodup.of_map _ hnumbers)
  intro bucket h bucket' h' hsame
  apply eq_of_number h h'
  rcases lt_trichotomy bucket.number bucket'.number with hlt | heq | hgt
  · exact absurd hsame (point_lt_of_number_lt avg hwidth h h' hlt).ne
  · exact heq
  · exact absurd hsame (point_lt_of_number_lt avg hwidth h' h hgt).ne'

end

/-! ### Points in order -/

/-- In an increasing list the greatest item is among the first ones exactly when all are. -/
theorem mem_take_iff_of_greatest {α : Type} {f : α → Int} {l : List α}
    (hsorted : l.Pairwise fun a b => f a < f b) {last : α} (hmem : last ∈ l)
    (hlast : ∀ x ∈ l, f x ≤ f last) (n : Nat) : last ∈ l.take n ↔ l.length ≤ n := by
  constructor
  · intro htake
    by_contra hlong
    have hdrop : l.drop n ≠ [] := by
      intro hnil
      exact hlong (List.drop_eq_nil_iff.mp hnil)
    obtain ⟨x, hx⟩ := List.exists_mem_of_ne_nil _ hdrop
    rw [← List.take_append_drop n l, List.pairwise_append] at hsorted
    have hlt := hsorted.2.2 last htake x hx
    have hle := hlast x (List.mem_of_mem_drop hx)
    omega
  · intro hshort
    rw [List.take_of_length_le hshort]
    exact hmem

section

variable {C V : Type}

def inOrder (points : List (Point C V)) : List (Point C V) :=
  points.mergeSort fun a b => decide (a.timestamp ≤ b.timestamp)

theorem pairwise_inOrder (points : List (Point C V)) :
    (inOrder points).Pairwise fun a b => a.timestamp ≤ b.timestamp :=
  pairwise_mergeSort_key Point.timestamp points

theorem strictly_inOrder {points : List (Point C V)}
    (hnodup : (points.map Point.timestamp).Nodup) :
    (inOrder points).Pairwise fun a b => a.timestamp < b.timestamp := by
  have hperm := (List.mergeSort_perm points fun a b => decide (a.timestamp ≤ b.timestamp)).map
    Point.timestamp
  have hdistinct := List.pairwise_map.mp (hperm.nodup_iff.mpr hnodup)
  exact (pairwise_inOrder points).imp₂ (fun _ _ hle hne => lt_of_le_of_ne hle hne) hdistinct

end

/-! ### The newest row -/

section

variable {C V : Type} {time : Timekeeping} {width : Int} {rows : List (Row C V)}

theorem exists_newest (hrows : rows ≠ []) :
    ∃ row ∈ rows, ∀ other ∈ rows, other.timestamp ≤ row.timestamp := by
  obtain ⟨last, hlast⟩ : ∃ last, (rows.map Row.timestamp).max? = some last := by
    rw [← Option.isSome_iff_exists, List.isSome_max?_iff]
    exact fun h => hrows (List.map_eq_nil_iff.mp h)
  obtain ⟨hmem, hgreatest⟩ := List.max?_eq_some_iff.mp hlast
  obtain ⟨row, hrow, rfl⟩ := List.mem_map.mp hmem
  exact ⟨row, hrow, fun other hother => hgreatest _ (List.mem_map_of_mem hother)⟩

theorem point_le_newest (avg : List V → Option V) (hwidth : 0 < width) {row : Row C V}
    (hnewest : ∀ other ∈ rows, other.timestamp ≤ row.timestamp) {bucket : Bucket C V}
    (hbucket : bucket ∈ buckets time width rows) (hin : row ∈ bucket.rows) :
    ∀ point ∈ inOrder ((buckets time width rows).map (Bucket.point avg)),
      point.timestamp ≤ (bucket.point avg).timestamp := by
  intro point hpoint
  obtain ⟨other, hother, rfl⟩ := List.mem_map.mp (List.mem_mergeSort.mp hpoint)
  obtain ⟨⟨first, hfirst, hnumber⟩, -⟩ := mem_buckets_iff.mp hother
  have hle : other.number ≤ bucket.number := by
    rw [← hnumber, ← ((mem_rows_iff hbucket).mp hin).2]
    exact bucketOf_mono hwidth (hnewest first hfirst)
  rcases hle.eq_or_lt with heq | hlt
  · rw [eq_of_number hother hbucket heq]
  · exact (point_lt_of_number_lt avg hwidth hother hbucket hlt).le

end

section

variable {C V : Type} (time : Timekeeping) (avg : List V → Option V)

/-- **Bucketed queries.**  The newest row is kept exactly when the rows touch no more windows
    than the limit. -/
theorem meets_bucketed_iff (rows : List (Row C V)) (limit : Nat) (hoursQuotient : Int) :
    Meets time avg rows limit hoursQuotient (bucketed time avg rows limit hoursQuotient) ↔
      windowsTouched time rows limit hoursQuotient ≤ limit := by
  have hwidth : 0 < bucketSeconds time (rows.map Row.timestamp) limit hoursQuotient :=
    lt_of_lt_of_le (by decide) (bucketSeconds_pos time _ limit hoursQuotient)
  have hanswer : bucketed time avg rows limit hoursQuotient =
      (inOrder ((bucketsOf time rows limit hoursQuotient).map (Bucket.point avg))).take limit := rfl
  have hlength : (inOrder ((bucketsOf time rows limit hoursQuotient).map
      (Bucket.point avg))).length = windowsTouched time rows limit hoursQuotient := by
    unfold inOrder bucketsOf buckets
    rw [List.length_mergeSort, List.length_map, List.length_map]
    rfl
  have hnodup : (((bucketsOf time rows limit hoursQuotient).map (Bucket.point avg)).map
      Point.timestamp).Nodup := nodup_points avg hwidth
  have hsorted := strictly_inOrder hnodup
  have htaken : ∀ row ∈ rows, (∀ other ∈ rows, other.timestamp ≤ row.timestamp) →
      ∀ bucket ∈ bucketsOf time rows limit hoursQuotient, row ∈ bucket.rows →
        (bucket.point avg ∈ bucketed time avg rows limit hoursQuotient ↔
          windowsTouched time rows limit hoursQuotient ≤ limit) := by
    intro row hrow hnewest bucket hbucket hin
    rw [hanswer, ← hlength]
    exact mem_take_iff_of_greatest hsorted
      (List.mem_mergeSort.mpr (List.mem_map_of_mem hbucket))
      (point_le_newest avg hwidth hnewest hbucket hin) limit
  constructor
  · rintro ⟨-, -, -, hmeets⟩
    by_cases hrows : rows = []
    · subst hrows
      exact Nat.zero_le limit
    · obtain ⟨row, hrow, hnewest⟩ := exists_newest hrows
      obtain ⟨bucket, hbucket, hin, hpoint⟩ := hmeets row hrow hnewest
      exact (htaken row hrow hnewest bucket hbucket hin).mp hpoint
  · intro hfew
    refine ⟨?_, ?_, fun row hrow => existsUnique_bucket hrow, ?_⟩
    · rw [hanswer]
      exact List.length_take_le _ _
    · rw [hanswer]
      exact (pairwise_inOrder _).sublist (List.take_sublist _ _)
    · intro row hrow hnewest
      have hone : ∃! bucket, bucket ∈ bucketsOf time rows limit hoursQuotient ∧
          row ∈ bucket.rows := existsUnique_bucket hrow
      obtain ⟨bucket, ⟨hbucket, hin⟩, -⟩ := hone
      exact ⟨bucket, hbucket, hin, (htaken row hrow hnewest bucket hbucket hin).mpr hfew⟩

end

section

variable {V : Type} (time : Timekeeping) (avg : List V → Option V)

/-- **Histories.**  The telemetry and the signal history keep the newest sample exactly when
    the samples touch no more windows than the limit. -/
theorem keepsNewest_iff (window : Window) (limit : Nat) :
    (∀ (table : List (Row TelemetryColumn V)) (nodeId : String),
      Meets time avg (telemetryRows table nodeId window.since) limit window.hoursQuotient
          (getHistory time avg table nodeId limit (some window)) ↔
        windowsTouched time (telemetryRows table nodeId window.since) limit
          window.hoursQuotient ≤ limit) ∧
    ∀ (table : List (Row SignalColumn V)) (sourceId : String),
      Meets time avg (signalRows table sourceId window.since) limit window.hoursQuotient
          (getSignalHistory time avg table sourceId limit (some window)) ↔
        windowsTouched time (signalRows table sourceId window.since) limit
          window.hoursQuotient ≤ limit := by
  constructor
  · intro table nodeId
    exact meets_bucketed_iff time avg _ limit window.hoursQuotient
  · intro table sourceId
    exact meets_bucketed_iff time avg _ limit window.hoursQuotient

end

/-! ### Three samples a minute apart -/

def exactTime : Timekeeping where
  seconds time := time / 1000000
  monotone := fun _ _ h => Int.ediv_le_ediv (by decide) h
  spanQuotient span limit := span / (1000000 * limit)

def batteryReading (second level : Int) : Row TelemetryColumn Int where
  nodeId := "!00000001"
  timestamp := second * 1000000
  value column := if column = .batteryLevel then some level else none

/-- Readings half a minute after three full minutes. -/
def threeReadings : List (Row TelemetryColumn Int) :=
  [batteryReading 30 80, batteryReading 90 79, batteryReading 150 78]

/-- Two points of a minute each are asked for, and the rows touch three minutes. -/
theorem threeReadings_dropNewest :
    ¬ Meets exactTime List.head? (telemetryRows threeReadings "!00000001" 0) 2 1800
      (getHistory exactTime List.head? threeReadings "!00000001" 2 (some ⟨0, 1800⟩)) := by
  intro h
  have hfew := (meets_bucketed_iff exactTime List.head? _ 2 1800).mp h
  exact absurd hfew (by decide +kernel)

end Meshpoint.HistoryBuckets
