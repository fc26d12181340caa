import Meshpoint.JsonText
import Meshpoint.KeyedMerge
import Meshpoint.ListFacts
import Meshpoint.PyText
import Mathlib.Algebra.Ring.Int.Defs
import Mathlib.Data.Finset.Option
import Mathlib.Data.Finset.Sort
import Mathlib.Data.Prod.Lex
import Mathlib.Data.String.Basic

/-!
# Topology graph

`assemble_graph` makes a graph from three kinds of rows: the hops of traceroutes, the nodes
heard directly and the neighbours of a repeater. Every pair of nodes has one edge a kind, into
which its sightings are merged.

`wellFormed_graphOf` is what holds of every graph, `sameShape_graphOf` what the order of the rows
leaves alone, and `graphOf_eq` says when the order is without any effect.
-/

namespace Meshpoint.TopologyGraph

open JsonText KeyedMerge ListFacts PyText

/-! ### Rows -/

/-- Edges whose newest sighting is older than this render dashed. -/
def STALE_DAYS : Nat := 7

/-- What is used of the language: lower-casing, reading JSON, `round(x, 1)` and the truth of
    a number. -/
structure Runtime (F : Type) where
  casing : Casing
  loads : String → Option (Value F)
  round1 : F → F
  truthy : F → Bool

structure TracerouteRow where
  sourceId : Option String
  decodedPayload : Option String
  timestamp : Option String

structure DirectRow (F : Type) where
  sourceId : Option String
  protocol : Option String
  cnt : Int
  lastSeen : Option String
  avgRssi : Option F
  avgSnr : Option F

structure NeighbourRow (F : Type) where
  anchor : Option String := none
  sourceId : Option String
  cnt : Int
  lastSeen : Option String
  avgSnr : Option F

structure RosterRow (F : Type) where
  nodeId : Option String
  longName : Option String
  shortName : Option String
  protocol : Option String
  role : Option String
  latitude : Option F
  longitude : Option F

structure Rows (F : Type) where
  traceroutes : List TracerouteRow
  directs : List (DirectRow F)
  neighbours : List (NeighbourRow F)
  roster : List (RosterRow F)

/-- `text or default`. -/
def orText (text : Option String) (default : String) : String :=
  match text with
  | none => default
  | some text => if text = "" then default else text

/-- `text or None`. -/
def orNone (text : Option String) : Option String := text.filter fun text => text ≠ ""

inductive Kind where
  | route
  | direct
  | neighbour
deriving DecidableEq, Repr

def Kind.text : Kind → String
  | .route => "route"
  | .direct => "direct"
  | .neighbour => "neighbour"

/-- One call of `add_edge` with the protocol hints set after it. -/
structure Sighting (F : Type) where
  a : String
  b : String
  kind : Kind
  lastSeen : Option String
  count : Int
  snr : Option F
  rssi : Option F
  hints : List (String × String)

/-! ### Sightings -/

section

variable {F : Type} (R : Runtime F)

/-- `_norm`. -/
def norm (nodeId : Option String) : String := R.casing.lower (strip (nodeId.getD ""))

def truthyValue : Value F → Bool
  | .null => false
  | .bool b => b
  | .int n => n ≠ 0
  | .float x => R.truthy x
  | .str s => s ≠ ""
  | .list .nil => false
  | .list (.cons _ _) => true
  | .dict entries => !entries.isEmpty

/-- `_norm` of a hop; `none` where it raises. -/
def normHop : Value F → Option String
  | .str s => some (norm R (some s))
  | value => if truthyValue R value then none else some (norm R none)

def normHops : Values F → Option (List String)
  | .nil => some []
  | .cons head tail => do
    let hop ← normHop R head
    let hops ← normHops tail
    return hop :: hops

/-- The nodes along the route of a row, blank ones left out; `none` where it raises. -/
def chain (row : TracerouteRow) : Option (List String) :=
  match R.loads (orText row.decodedPayload "{}") with
  | none => some []
  | some (.dict payload) =>
    match payload.get? "route" with
    | some (.list (.cons head tail)) =>
      (normHops R (.cons head tail)).map fun route =>
        (norm R row.sourceId :: route).filter fun h => h ≠ ""
    | _ => some []
  | some _ => none

def routeSightings (row : TracerouteRow) : Option (List (Sighting F)) :=
  (chain R row).map fun chain =>
    (chain.zip chain.tail).map fun (a, b) =>
      { a, b, kind := .route, lastSeen := row.timestamp, count := 1, snr := none, rssi := none,
        hints := [(a, "meshtastic"), (b, "meshtastic")] }

def directSighting (selfNodeId : String) (row : DirectRow F) : Sighting F :=
  let src := norm R row.sourceId
  { a := selfNodeId, b := src, kind := .direct, lastSeen := row.lastSeen, count := row.cnt,
    snr := row.avgSnr.map R.round1, rssi := row.avgRssi.map R.round1,
    hints := [(src, orText row.protocol "meshtastic")] }

def neighbourSighting (anchorNodeId : Option String) (row : NeighbourRow F) :
    Option (Sighting F) :=
  let own := norm R row.anchor
  let anchor := if own = "" then anchorNodeId.getD "" else own
  if anchor = "" then none
  else
    let src := norm R row.sourceId
    some { a := anchor, b := src, kind := .neighbour, lastSeen := row.lastSeen, count := row.cnt,
           snr := row.avgSnr.map R.round1, rssi := none,
           hints := [(src, "meshcore"), (anchor, "meshcore")] }

/-- The three loops; `none` where one of them raises. -/
def sightings (rows : Rows F) (selfNodeId anchorNodeId : Option String) :
    Option (List (Sighting F)) := do
  let routes ← rows.traceroutes.mapM (routeSightings R)
  let directs := match orNone selfNodeId with
    | none => []
    | some selfNodeId => rows.directs.map (directSighting R selfNodeId)
  return routes.flatten ++ directs ++ rows.neighbours.filterMap (neighbourSighting R anchorNodeId)

/-! ### Edges and hints -/

structure Edge (F : Type) where
  a : String
  b : String
  kind : Kind
  count : Int
  lastSeen : Option String
  snr : Option F
  rssi : Option F
deriving DecidableEq

/-- `add_edge` goes on with the sighting: both ends are there and differ. -/
def Sighting.contributes (s : Sighting F) : Bool :=
  norm R (some s.a) ≠ "" && norm R (some s.b) ≠ "" && norm R (some s.a) ≠ norm R (some s.b)

/-- `last_seen and (not cur["last_seen"] or last_seen > cur["last_seen"])`. -/
def later (cur lastSeen : Option String) : Bool :=
  match orNone lastSeen, orNone cur with
  | none, _ => false
  | some _, none => true
  | some new, some old => old < new

/-- `add_edge` past its guard. -/
def edgeRule : Rule (Sighting F) (String × String × Kind) (Edge F) where
  key s := (min (norm R (some s.a)) (norm R (some s.b)),
    max (norm R (some s.a)) (norm R (some s.b)), s.kind)
  enter
    | none, s =>
      { a := min (norm R (some s.a)) (norm R (some s.b))
        b := max (norm R (some s.a)) (norm R (some s.b))
        kind := s.kind, count := s.count, lastSeen := s.lastSeen, snr := s.snr, rssi := s.rssi }
    | some cur, s =>
      if later cur.lastSeen s.lastSeen then
        { cur with
          count := cur.count + s.count
          lastSeen := s.lastSeen
          snr := s.snr.or cur.snr
          rssi := s.rssi.or cur.rssi }
      else { cur with count := cur.count + s.count }

/-- `node_proto_hint.setdefault`. -/
def hintRule : Rule (String × String) String String where
  key := Prod.fst
  enter v hint := v.getD hint.2

/-- `{_norm(r["node_id"]): r for r in roster_rows}`. -/
def rosterRule : Rule (RosterRow F) String (RosterRow F) where
  key row := norm R row.nodeId
  enter _ row := row

def contributing (seen : List (Sighting F)) : List (Sighting F) :=
  seen.filter (Sighting.contributes R)

def edgesOf (seen : List (Sighting F)) : OrderedDict (String × String × Kind) (Edge F) :=
  (edgeRule R).collect (contributing R seen)

def hintsOf (seen : List (Sighting F)) : OrderedDict String String :=
  hintRule.collect (seen.flatMap Sighting.hints)

/-! ### The graph -/

structure Node (F : Type) where
  id : String
  name : Option String
  protocol : Option String
  role : Option String
  lat : Option F
  lon : Option F
  isSelf : Bool
  isAnchor : Bool

structure Counts where
  nodes : Nat
  edges : Nat
  route : Nat
  direct : Nat
  neighbour : Nat
deriving DecidableEq, Repr

structure Graph (F : Type) where
  available : Bool
  generatedAt : String
  staleDays : Nat
  counts : Counts
  nodes : List (Node F)
  edges : List (Edge F)

/-- `node_ids`. -/
def nodeIds (edges : List (Edge F)) (selfNodeId : Option String) : Finset String :=
  (edges.flatMap fun e => [e.a, e.b]).toFinset ∪ (orNone selfNodeId).toFinset

/-- The latitude and longitude of a roster row unless one of them is missing or 0. -/
def position (info : RosterRow F) : Option F × Option F :=
  if info.latitude.any R.truthy && info.longitude.any R.truthy then
    (info.latitude, info.longitude)
  else (none, none)

def nodeEntry (roster : OrderedDict String (RosterRow F)) (hints : OrderedDict String String)
    (selfNodeId : Option String) (selfName : String) (anchorNodeId : Option String)
    (nid : String) : Node F :=
  let info := roster.get? nid
  let name := info.bind fun info => (orNone info.longName).or (orNone info.shortName)
  let place := (info.map (position R)).getD (none, none)
  { id := nid
    name := if some nid = selfNodeId ∧ name = none then some selfName else name
    protocol := (info.bind fun info => orNone info.protocol).or (hints.get? nid)
    role := info.bind RosterRow.role
    lat := place.1
    lon := place.2
    isSelf := some nid = selfNodeId
    isAnchor := some nid = anchorNodeId }

/-- The key `edge_list` is sorted by. -/
def Edge.sortKey (e : Edge F) : String ×ₗ (String ×ₗ String) :=
  toLex (e.a, toLex (e.b, e.kind.text))

def sortEdges (edges : List (Edge F)) : List (Edge F) :=
  edges.mergeSort fun e f => decide (e.sortKey ≤ f.sortKey)

def countEdges (edges : List (Edge F)) (kind : Kind) : Nat :=
  edges.countP fun e => e.kind = kind

/-- The part of `assemble_graph` behind the loops. -/
def graphOf (roster : List (RosterRow F)) (seen : List (Sighting F)) (selfNodeId : Option String)
    (selfName : String) (anchorNodeId : Option String) (generatedAt : String) : Graph F :=
  let edges := (edgesOf R seen).values
  let nodes := ((nodeIds edges selfNodeId).sort).map
    (nodeEntry R ((rosterRule R).collect roster) (hintsOf seen) selfNodeId selfName anchorNodeId)
  let edgeList := sortEdges edges
  { available := true
    generatedAt := generatedAt
    staleDays := STALE_DAYS
    counts :=
      { nodes := nodes.length
        edges := edgeList.length
        route := countEdges edgeList .route
        direct := countEdges edgeList .direct
        neighbour := countEdges edgeList .neighbour }
    nodes := nodes
    edges := edgeList }

def assembleGraph (rows : Rows F) (selfNodeId : Option String) (selfName : String)
    (anchorNodeId : Option String) (generatedAt : String) : Option (Graph F) :=
  (sightings R rows selfNodeId anchorNodeId).map fun seen =>
    graphOf R rows.roster seen selfNodeId selfName anchorNodeId generatedAt

/-! ### What an edge merges -/

/-- A time to compare by: a missing one is before all others. -/
def timeOf (lastSeen : Option String) : WithBot String := orNone lastSeen

def Sighting.time (s : Sighting F) : WithBot String := timeOf s.lastSeen

theorem later_iff (cur lastSeen : Option String) :
    later cur lastSeen = true ↔ timeOf cur < timeOf lastSeen := by
  rw [later, timeOf, timeOf]
  cases hnew : orNone lastSeen with
  | none => exact iff_of_false Bool.false_ne_true not_lt_bot
  | some new =>
    cases hold : orNone cur with
    | none => exact ⟨fun _ => WithBot.bot_lt_coe new, fun _ => rfl⟩
    | some old =>
      rw [decide_eq_true_iff]
      exact WithBot.coe_lt_coe.symm

def Edge.key (e : Edge F) : String × String × Kind := (e.a, e.b, e.kind)

def mergeEdge (e : Edge F) (s : Sighting F) : Edge F := (edgeRule R).enter (some e) s

theorem key_mergeEdge (e : Edge F) (s : Sighting F) : (mergeEdge R e s).key = e.key := by
  simp only [mergeEdge, edgeRule, Edge.key]
  split <;> rfl

theorem count_mergeEdge (e : Edge F) (s : Sighting F) :
    (mergeEdge R e s).count = e.count + s.count := by
  simp only [mergeEdge, edgeRule]
  split <;> rfl

theorem lastSeen_mergeEdge (e : Edge F) (s : Sighting F) : (mergeEdge R e s).lastSeen =
    if later e.lastSeen s.lastSeen then s.lastSeen else e.lastSeen := by
  simp only [mergeEdge, edgeRule]
  split <;> rfl

theorem snr_mergeEdge (e : Edge F) (s : Sighting F) : (mergeEdge R e s).snr =
    if later e.lastSeen s.lastSeen then s.snr.or e.snr else e.snr := by
  simp only [mergeEdge, edgeRule]
  split <;> rfl

theorem rssi_mergeEdge (e : Edge F) (s : Sighting F) : (mergeEdge R e s).rssi =
    if later e.lastSeen s.lastSeen then s.rssi.or e.rssi else e.rssi := by
  simp only [mergeEdge, edgeRule]
  split <;> rfl

theorem foldl_mergeEdge {V : Type} {field : Edge F → Option V} {value : Sighting F → Option V}
    (hfield : ∀ e s, field (mergeEdge R e s) =
      if later e.lastSeen s.lastSeen then (value s).or (field e) else field e)
    (seen : List (Sighting F)) (e : Edge F) :
    (timeOf (seen.foldl (mergeEdge R) e).lastSeen, field (seen.foldl (mergeEdge R) e)) =
      seen.foldl (advance Sighting.time value) (timeOf e.lastSeen, field e) := by
  induction seen generalizing e with
  | nil => rfl
  | cons s rest ih =>
    rw [List.foldl_cons, List.foldl_cons, ih, hfield, lastSeen_mergeEdge]
    congr 1
    by_cases hlater : later e.lastSeen s.lastSeen = true
    · have hlt : (timeOf e.lastSeen, field e).1 < s.time := (later_iff _ _).mp hlater
      rw [if_pos hlater, if_pos hlater, advance, if_pos hlt]
      rfl
    · have hnot : ¬ (timeOf e.lastSeen, field e).1 < s.time :=
        fun hlt => hlater ((later_iff _ _).mpr hlt)
      rw [if_neg hlater, if_neg hlater, advance, if_neg hnot]

theorem key_foldl_mergeEdge (seen : List (Sighting F)) (e : Edge F) :
    (seen.foldl (mergeEdge R) e).key = e.key := by
  induction seen generalizing e with
  | nil => rfl
  | cons s rest ih => rw [List.foldl_cons, ih, key_mergeEdge]

theorem count_foldl_mergeEdge (seen : List (Sighting F)) (e : Edge F) :
    (seen.foldl (mergeEdge R) e).count = e.count + (seen.map Sighting.count).sum := by
  induction seen generalizing e with
  | nil => simp
  | cons s rest ih =>
    rw [List.foldl_cons, ih, count_mergeEdge, List.map_cons, List.sum_cons, add_assoc]

theorem summary_edgeRule (s : Sighting F) (rest : List (Sighting F)) :
    (edgeRule R).summary (s :: rest) =
      some (rest.foldl (mergeEdge R) ((edgeRule R).enter none s)) :=
  (edgeRule R).summary_cons s rest

variable {R}

/-- Whatever their order, the sightings of one edge give it their key, their count and their
    latest time. -/
theorem summary_shape {seen : List (Sighting F)} {e : Edge F} {top : Sighting F}
    (he : (edgeRule R).summary seen = some e) {key : String × String × Kind}
    (hkey : ∀ s ∈ seen, (edgeRule R).key s = key) (hmem : top ∈ seen)
    (htop : ∀ s ∈ seen, s.time ≤ top.time) :
    e.key = key ∧ e.count = (seen.map Sighting.count).sum ∧ timeOf e.lastSeen = top.time := by
  cases seen with
  | nil => exact absurd hmem List.not_mem_nil
  | cons s rest =>
    rw [summary_edgeRule, Option.some.injEq] at he
    subst he
    refine ⟨?_, ?_, ?_⟩
    · rw [key_foldl_mergeEdge]
      exact hkey s List.mem_cons_self
    · rw [count_foldl_mergeEdge, List.map_cons, List.sum_cons]
      rfl
    · have hfold := congrArg Prod.fst
        (foldl_mergeEdge R (snr_mergeEdge R) rest ((edgeRule R).enter none s))
      obtain ⟨last, hlast, hle, htime, -⟩ :=
        @foldl_advance_spec _ _ _ _ Sighting.time Sighting.snr rest s
      exact (hfold.trans htime).trans (le_antisymm (htop last hlast) (hle top hmem))

/-- The latest sightings agree, and say nothing only where no sighting says anything. -/
structure SettledEdge (seen : List (Sighting F)) : Prop where
  snr : Settled Sighting.time Sighting.snr seen
  rssi : Settled Sighting.time Sighting.rssi seen
  lastSeen : Settled Sighting.time (fun s => some s.lastSeen) seen

theorem summary_settled {seen : List (Sighting F)} {top : Sighting F}
    {key : String × String × Kind} (hkey : ∀ s ∈ seen, (edgeRule R).key s = key)
    (hsettled : SettledEdge seen) (hmem : top ∈ seen) (htop : ∀ s ∈ seen, s.time ≤ top.time) :
    (edgeRule R).summary seen = some ⟨key.1, key.2.1, key.2.2, (seen.map Sighting.count).sum,
      top.lastSeen, top.snr, top.rssi⟩ := by
  cases hseen : (edgeRule R).summary seen with
  | none =>
    rw [Rule.summary_eq_none_iff] at hseen
    exact absurd hmem (hseen ▸ List.not_mem_nil)
  | some e =>
    obtain ⟨hekey, hcount, -⟩ := summary_shape hseen hkey hmem htop
    cases seen with
    | nil => exact absurd hmem List.not_mem_nil
    | cons s rest =>
      rw [summary_edgeRule, Option.some.injEq] at hseen
      have hsnr := foldl_mergeEdge R (snr_mergeEdge R) rest ((edgeRule R).enter none s)
      have hrssi := foldl_mergeEdge R (rssi_mergeEdge R) rest ((edgeRule R).enter none s)
      have hlast := @foldl_mergeEdge F R _ (fun e => some e.lastSeen) (fun s => some s.lastSeen)
        (fun e s => by rw [lastSeen_mergeEdge]; split <;> rfl) rest ((edgeRule R).enter none s)
      rw [hseen] at hsnr hrssi hlast
      have h1 := congrArg Prod.snd (hsnr.trans (foldl_advance hsettled.snr hmem htop))
      have h2 := congrArg Prod.snd (hrssi.trans (foldl_advance hsettled.rssi hmem htop))
      have h3 := congrArg Prod.snd (hlast.trans (foldl_advance hsettled.lastSeen hmem htop))
      obtain ⟨a, b, kind, count, lastSeen, snr, rssi⟩ := e
      cases hekey
      cases hcount
      cases h1
      cases h2
      cases h3
      rfl

/-! ### Every graph is well formed -/

variable {seen : List (Sighting F)}

theorem key_of_get? {key : String × String × Kind} {e : Edge F}
    (h : (edgesOf R seen).get? key = some e) : e.key = key := by
  refine (edgeRule R).forall_values_collect (p := fun key e => e.key = key) ?_ h
  intro s _ v hv
  cases v with
  | none => rfl
  | some cur => exact (key_mergeEdge R cur s).trans (hv cur rfl)

theorem map_key_values : (edgesOf R seen).values.map Edge.key = (edgesOf R seen).keys := by
  rw [OrderedDict.values, OrderedDict.keys, List.map_map]
  apply List.map_congr_left
  rintro ⟨key, e⟩ hmem
  exact key_of_get? ((edgesOf R seen).get?_eq_some_iff.mpr hmem)

theorem nodup_keys_values : ((edgesOf R seen).values.map Edge.key).Nodup := by
  rw [map_key_values]
  exact (edgesOf R seen).nodupKeys

theorem ends_lt {e : Edge F} (h : e ∈ (edgesOf R seen).values) : e.a < e.b := by
  have hkey : e.key ∈ (edgesOf R seen).keys := by
    rw [← map_key_values]
    exact List.mem_map_of_mem h
  obtain ⟨s, hs, hsame⟩ := (edgeRule R).mem_keys_collect.mp hkey
  rw [contributing, List.mem_filter, Sighting.contributes] at hs
  simp only [Bool.and_eq_true, decide_eq_true_eq] at hs
  have ha : min (norm R (some s.a)) (norm R (some s.b)) = e.a := congrArg Prod.fst hsame
  have hb : max (norm R (some s.a)) (norm R (some s.b)) = e.b :=
    congrArg (fun key => key.2.1) hsame
  rw [← ha, ← hb]
  exact min_lt_max.mpr hs.2.2

theorem perm_sortEdges (edges : List (Edge F)) : (sortEdges edges).Perm edges :=
  List.mergeSort_perm edges _

theorem pairwise_sortEdges (edges : List (Edge F)) :
    (sortEdges edges).Pairwise fun e f => e.sortKey ≤ f.sortKey :=
  pairwise_mergeSort_key Edge.sortKey edges

/-- No loops, one edge for two nodes and a kind, listed ends, and counts that add up to those
    of the contributing sightings. -/
structure WellFormed (R : Runtime F) (seen : List (Sighting F)) (graph : Graph F) : Prop where
  noLoops : ∀ e ∈ graph.edges, e.a ≠ e.b
  onePerPair : graph.edges.Pairwise fun e f =>
    ¬ (e.kind = f.kind ∧ (e.a = f.a ∧ e.b = f.b ∨ e.a = f.b ∧ e.b = f.a))
  endpoints : ∀ e ∈ graph.edges, (∃ node ∈ graph.nodes, node.id = e.a) ∧
    ∃ node ∈ graph.nodes, node.id = e.b
  total : (graph.edges.map Edge.count).sum =
    ((seen.filter (Sighting.contributes R)).map Sighting.count).sum

section

variable (roster : List (RosterRow F)) (seen) (selfNodeId : Option String) (selfName : String)
  (anchorNodeId : Option String) (generatedAt : String)

theorem mem_edges_graphOf {e : Edge F} :
    e ∈ (graphOf R roster seen selfNodeId selfName anchorNodeId generatedAt).edges ↔
      e ∈ (edgesOf R seen).values :=
  (perm_sortEdges _).mem_iff

theorem exists_node_graphOf {id : String} :
    (∃ node ∈ (graphOf R roster seen selfNodeId selfName anchorNodeId generatedAt).nodes,
      node.id = id) ↔ id ∈ nodeIds (edgesOf R seen).values selfNodeId := by
  simp only [graphOf, List.mem_map, Finset.mem_sort]
  constructor
  · rintro ⟨node, ⟨nid, hnid, rfl⟩, rfl⟩
    exact hnid
  · intro hid
    exact ⟨_, ⟨id, hid, rfl⟩, rfl⟩

theorem wellFormed_graphOf : WellFormed R seen
    (graphOf R roster seen selfNodeId selfName anchorNodeId generatedAt) where
  noLoops e he := (ends_lt ((mem_edges_graphOf seen roster _ _ _ _).mp he)).ne
  onePerPair := by
    have hkeys : (edgesOf R seen).values.Pairwise fun e f => e.key ≠ f.key :=
      List.pairwise_map.mp nodup_keys_values
    refine ((perm_sortEdges _).symm.pairwise hkeys Ne.symm).imp_of_mem ?_
    intro e f he hf hne
    have helt := ends_lt ((perm_sortEdges _).mem_iff.mp he)
    have hflt := ends_lt ((perm_sortEdges _).mem_iff.mp hf)
    rintro ⟨hkind, ⟨ha, hb⟩ | ⟨ha, hb⟩⟩
    · exact hne (by rw [Edge.key, Edge.key, ha, hb, hkind])
    · rw [ha, hb] at helt
      exact absurd helt hflt.asymm
  endpoints e he := by
    rw [mem_edges_graphOf] at he
    have hmem : ∀ id ∈ [e.a, e.b], id ∈ nodeIds (edgesOf R seen).values selfNodeId := by
      intro id hid
      rw [nodeIds, Finset.mem_union, List.mem_toFinset, List.mem_flatMap]
      exact Or.inl ⟨e, he, hid⟩
    constructor
    · exact (exists_node_graphOf seen roster _ _ _ _).mpr (hmem e.a (by simp))
    · exact (exists_node_graphOf seen roster _ _ _ _).mpr (hmem e.b (by simp))
  total := by
    have hsum := @Rule.sum_collect _ _ _ _ (edgeRule R) ℤ _ Sighting.count Edge.count
      (fun s => rfl) (count_mergeEdge R) (contributing R seen)
    rw [contributing] at hsum
    rw [← hsum]
    exact ((perm_sortEdges _).map Edge.count).sum_eq

end

/-! ### The order of the rows -/

structure Rows.Perm (rows rows' : Rows F) : Prop where
  traceroutes : rows.traceroutes.Perm rows'.traceroutes
  directs : rows.directs.Perm rows'.directs
  neighbours : rows.neighbours.Perm rows'.neighbours
  roster : rows.roster.Perm rows'.roster

theorem sightings_perm {rows rows' : Rows F} (h : rows.Perm rows')
    {selfNodeId anchorNodeId : Option String}
    (hseen : sightings R rows selfNodeId anchorNodeId = some seen) :
    ∃ seen', sightings R rows' selfNodeId anchorNodeId = some seen' ∧ seen.Perm seen' := by
  obtain ⟨routes, hroutes, hseen⟩ := Option.bind_eq_some_iff.mp hseen
  cases hseen
  obtain ⟨routes', hroutes', hperm⟩ := mapM_perm h.traceroutes hroutes
  refine ⟨_, by rw [sightings, hroutes']; rfl, ?_⟩
  refine (hperm.flatten.append ?_).append (h.neighbours.filterMap _)
  cases orNone selfNodeId with
  | none => exact List.Perm.refl _
  | some selfNodeId => exact h.directs.map _

def ofKey (R : Runtime F) (seen : List (Sighting F)) (key : String × String × Kind) :
    List (Sighting F) :=
  (contributing R seen).filter fun s => decide ((edgeRule R).key s = key)

theorem get?_edgesOf (seen : List (Sighting F)) (key : String × String × Kind) :
    (edgesOf R seen).get? key = (edgeRule R).summary (ofKey R seen key) :=
  (edgeRule R).get?_collect _ key

theorem key_of_mem_ofKey {key : String × String × Kind} :
    ∀ s ∈ ofKey R seen key, (edgeRule R).key s = key :=
  fun _ h => of_decide_eq_true (List.mem_filter.mp h).2

theorem exists_latest (h : seen ≠ []) : ∃ top ∈ seen, ∀ s ∈ seen, s.time ≤ top.time := by
  cases seen with
  | nil => exact absurd rfl h
  | cons s rest =>
    obtain ⟨top, hmem, htop, -⟩ := @foldl_advance_spec _ _ _ _ Sighting.time Sighting.snr rest s
    exact ⟨top, hmem, htop⟩

theorem settled_perm {V : Type} {value : Sighting F → Option V} {seen' : List (Sighting F)}
    (hperm : seen.Perm seen') (h : Settled Sighting.time value seen) :
    Settled Sighting.time value seen' := by
  intro x hx htop y hy
  exact h x (hperm.mem_iff.mpr hx) (fun z hz => htop z (hperm.mem_iff.mp hz)) y
    (hperm.mem_iff.mpr hy)

/-- What the order of the sightings leaves alone in an edge. -/
def Edge.shape (e : Edge F) : (String × String × Kind) × Int × WithBot String :=
  (e.key, e.count, timeOf e.lastSeen)

def sortKeyOf (key : String × String × Kind) : String ×ₗ (String ×ₗ String) :=
  toLex (key.1, toLex (key.2.1, key.2.2.text))

theorem sortKeyOf_injective : Function.Injective sortKeyOf := by
  rintro ⟨a, b, kind⟩ ⟨a', b', kind'⟩ h
  have hpair := congrArg ofLex h
  simp only [sortKeyOf, ofLex_toLex, Prod.mk.injEq, EmbeddingLike.apply_eq_iff_eq] at hpair
  obtain ⟨rfl, rfl, hkind⟩ := hpair
  cases kind <;> cases kind' <;> first | rfl | exact absurd hkind (by decide)

/-- Edges with different keys that agree under a view of them, up to their order, agree under it
    once they are sorted. -/
theorem map_sortEdges_eq {β : Type} {f : Edge F → β} {key : β → String × String × Kind}
    (hf : ∀ e, key (f e) = e.key) {edges edges' : List (Edge F)}
    (hnodup : (edges.map Edge.key).Nodup) (hperm : (edges.map f).Perm (edges'.map f)) :
    (sortEdges edges).map f = (sortEdges edges').map f := by
  have hsorted : ∀ edges : List (Edge F), ((sortEdges edges).map f).Pairwise fun x y =>
      sortKeyOf (key x) ≤ sortKeyOf (key y) := by
    intro edges
    rw [List.pairwise_map]
    refine (pairwise_sortEdges edges).imp ?_
    intro e e' hle
    rw [hf, hf]
    exact hle
  have hkeys : ((edges.map f).map key).Nodup := by
    rw [List.map_map]
    rwa [show key ∘ f = Edge.key from funext hf]
  have hleft := (perm_sortEdges edges).map f
  have hright := (perm_sortEdges edges').map f
  apply List.Perm.eq_of_pairwise _ (hsorted edges) (hsorted edges')
    ((hleft.trans hperm).trans hright.symm)
  intro x y hx hy hxy hyx
  apply List.inj_on_of_nodup_map hkeys (hleft.mem_iff.mp hx)
    (hperm.mem_iff.mpr (hright.mem_iff.mp hy))
  exact sortKeyOf_injective (le_antisymm hxy hyx)

section

variable {seen' : List (Sighting F)} (hperm : seen.Perm seen')
include hperm

theorem perm_ofKey (key : String × String × Kind) : (ofKey R seen key).Perm (ofKey R seen' key) :=
  (hperm.filter _).filter _

theorem mem_keys_edgesOf (key : String × String × Kind) :
    key ∈ (edgesOf R seen).keys ↔ key ∈ (edgesOf R seen').keys := by
  have hmem : ∀ s, s ∈ contributing R seen ↔ s ∈ contributing R seen' :=
    fun s => (hperm.filter _).mem_iff
  rw [edgesOf, edgesOf, Rule.mem_keys_collect, Rule.mem_keys_collect]
  simp only [hmem]

theorem nodeIds_perm (selfNodeId : Option String) :
    nodeIds (edgesOf R seen).values selfNodeId = nodeIds (edgesOf R seen').values selfNodeId := by
  have hends : ∀ (seen : List (Sighting F)) (id : String),
      id ∈ (edgesOf R seen).values.flatMap (fun e => [e.a, e.b]) ↔
        ∃ key ∈ (edgesOf R seen).keys, id = key.1 ∨ id = key.2.1 := by
    intro seen id
    rw [← map_key_values, List.mem_flatMap]
    simp [Edge.key]
  ext id
  rw [nodeIds, nodeIds, Finset.mem_union, Finset.mem_union, List.mem_toFinset, List.mem_toFinset,
    hends, hends]
  simp only [mem_keys_edgesOf hperm]

theorem get?_shape (key : String × String × Kind) :
    ((edgesOf R seen).get? key).map Edge.shape = ((edgesOf R seen').get? key).map Edge.shape := by
  have hkeyed := perm_ofKey (R := R) hperm key
  rw [get?_edgesOf, get?_edgesOf]
  cases he : (edgeRule R).summary (ofKey R seen key) with
  | none =>
    rw [Rule.summary_eq_none_iff] at he
    rw [he] at hkeyed
    rw [List.nil_perm.mp hkeyed]
    rfl
  | some e =>
    have hne : ofKey R seen key ≠ [] := by
      intro hnil
      rw [hnil] at he
      cases he
    obtain ⟨top, hmem, htop⟩ := exists_latest hne
    cases he' : (edgeRule R).summary (ofKey R seen' key) with
    | none =>
      rw [Rule.summary_eq_none_iff] at he'
      rw [he'] at hkeyed
      exact absurd (List.perm_nil.mp hkeyed) hne
    | some e' =>
      obtain ⟨hkey, hcount, htime⟩ := summary_shape he key_of_mem_ofKey hmem htop
      obtain ⟨hkey', hcount', htime'⟩ := summary_shape he' key_of_mem_ofKey
        (hkeyed.mem_iff.mp hmem) fun s hs => htop s (hkeyed.mem_iff.mpr hs)
      have hsum := (hkeyed.map Sighting.count).sum_eq
      simp only [Option.map_some, Edge.shape, hkey, hcount, htime, hkey', hcount', htime', hsum]

theorem get?_settled {key : String × String × Kind} (hsettled : SettledEdge (ofKey R seen key)) :
    (edgesOf R seen).get? key = (edgesOf R seen').get? key := by
  have hkeyed := perm_ofKey (R := R) hperm key
  rw [get?_edgesOf, get?_edgesOf]
  by_cases hnil : ofKey R seen key = []
  · rw [hnil] at hkeyed ⊢
    rw [List.nil_perm.mp hkeyed]
  · obtain ⟨top, hmem, htop⟩ := exists_latest hnil
    have hsettled' : SettledEdge (ofKey R seen' key) :=
      ⟨settled_perm hkeyed hsettled.snr, settled_perm hkeyed hsettled.rssi,
        settled_perm hkeyed hsettled.lastSeen⟩
    rw [summary_settled key_of_mem_ofKey hsettled hmem htop,
      summary_settled key_of_mem_ofKey hsettled' (hkeyed.mem_iff.mp hmem)
        fun s hs => htop s (hkeyed.mem_iff.mpr hs),
      (hkeyed.map Sighting.count).sum_eq]

end

/-- What the order of the rows leaves alone in a graph: the nodes, and the edges with their
    counts and latest times. -/
structure SameShape (graph graph' : Graph F) : Prop where
  nodes : graph.nodes.map (fun node => (node.id, node.isSelf, node.isAnchor)) =
    graph'.nodes.map fun node => (node.id, node.isSelf, node.isAnchor)
  edges : graph.edges.map Edge.shape = graph'.edges.map Edge.shape
  counts : graph.counts = graph'.counts

/-- The latest sightings of each edge agree, the hints for a node without a protocol of its own
    do, and no two rows of the roster are about one node. -/
structure OrderFree (R : Runtime F) (roster : List (RosterRow F)) (seen : List (Sighting F)) :
    Prop where
  edges : ∀ key, SettledEdge (ofKey R seen key)
  hints : ∀ hint ∈ seen.flatMap Sighting.hints, ∀ other ∈ seen.flatMap Sighting.hints,
    hint.1 = other.1 →
      (∀ row ∈ roster, norm R row.nodeId = other.1 → orNone row.protocol = none) →
        hint.2 = other.2
  roster : ∀ row ∈ roster, ∀ other ∈ roster, norm R row.nodeId = norm R other.nodeId →
    row = other

theorem countEdges_eq {edges edges' : List (Edge F)}
    (h : edges.map Edge.shape = edges'.map Edge.shape) (kind : Kind) :
    countEdges edges kind = countEdges edges' kind := by
  have hcount : ∀ edges : List (Edge F), countEdges edges kind =
      (edges.map Edge.shape).countP fun shape => shape.1.2.2 = kind := by
    intro edges
    rw [List.countP_map]
    rfl
  rw [hcount, hcount, h]

theorem get?_roster {roster : List (RosterRow F)} (h : OrderFree R roster seen)
    {row : RosterRow F} (hrow : row ∈ roster) :
    ((rosterRule R).collect roster).get? (norm R row.nodeId) = some row := by
  rw [Rule.get?_collect, (rosterRule R).summary_const, if_neg]
  · intro hnil
    exact List.filter_eq_nil_iff.mp hnil row hrow (decide_eq_true rfl)
  · intro other hother _ _
    rw [List.mem_filter, decide_eq_true_eq] at hother
    exact h.roster other hother.1 row hrow hother.2

section

variable {seen' : List (Sighting F)} {roster roster' : List (RosterRow F)}
  (hperm : seen.Perm seen')
  (selfNodeId : Option String) (selfName : String) (anchorNodeId : Option String)
  (generatedAt : String)
include hperm

theorem sameShape_graphOf : SameShape
    (graphOf R roster seen selfNodeId selfName anchorNodeId generatedAt)
    (graphOf R roster' seen' selfNodeId selfName anchorNodeId generatedAt) := by
  have hids := nodeIds_perm (R := R) hperm selfNodeId
  have hedges : (sortEdges (edgesOf R seen).values).map Edge.shape =
      (sortEdges (edgesOf R seen').values).map Edge.shape :=
    @map_sortEdges_eq F _ Edge.shape Prod.fst (fun _ => rfl) _ _ nodup_keys_values
      (Rule.perm_map_values (get?_shape hperm))
  have hlength := congrArg List.length hedges
  rw [List.length_map, List.length_map] at hlength
  refine ⟨?_, hedges, ?_⟩
  · simp only [graphOf, List.map_map, hids]
    rfl
  · simp only [graphOf, List.length_map, hids, hlength, countEdges_eq hedges]

theorem graphOf_eq (hroster : roster.Perm roster') (h : OrderFree R roster seen) :
    graphOf R roster seen selfNodeId selfName anchorNodeId generatedAt =
      graphOf R roster' seen' selfNodeId selfName anchorNodeId generatedAt := by
  have hvalues : ((edgesOf R seen).values.map id).Perm ((edgesOf R seen').values.map id) := by
    apply Rule.perm_map_values
    intro key
    rw [get?_settled hperm (h.edges key)]
  have hedges : sortEdges (edgesOf R seen).values = sortEdges (edgesOf R seen').values := by
    have hsorted := @map_sortEdges_eq F _ id Edge.key (fun _ => rfl) _ _ nodup_keys_values hvalues
    rwa [List.map_id, List.map_id] at hsorted
  have hrows : ∀ nid, ((rosterRule R).collect roster).get? nid =
      ((rosterRule R).collect roster').get? nid := by
    intro nid
    refine @Rule.get?_collect_perm _ _ _ _ (rosterRule R) _ _ hroster nid id ?_
    intro row hrow other hother hkey hkey' _ _
    exact h.roster row hrow other hother (hkey.trans hkey'.symm)
  have hnodes : nodeEntry R ((rosterRule R).collect roster) (hintsOf seen) selfNodeId selfName
      anchorNodeId = nodeEntry R ((rosterRule R).collect roster') (hintsOf seen') selfNodeId
      selfName anchorNodeId := by
    funext nid
    have hprotocol : ((((rosterRule R).collect roster).get? nid).bind
        fun info => orNone info.protocol).or ((hintsOf seen).get? nid) =
        ((((rosterRule R).collect roster).get? nid).bind
          fun info => orNone info.protocol).or ((hintsOf seen').get? nid) := by
      cases hinfo : (((rosterRule R).collect roster).get? nid).bind
          fun info => orNone info.protocol with
      | some protocol => rfl
      | none =>
        rw [Option.none_or, Option.none_or]
        refine @Rule.get?_collect_perm _ _ _ _ hintRule _ _ (hperm.flatMap_right _) nid Prod.snd ?_
        intro hint hhint other hother hkey hkey' v hv
        have hsame := h.hints hint hhint other hother (hkey.trans hkey'.symm) ?_
        · cases v with
          | none => exact hsame
          | some w => exact hv w rfl
        · intro row hrow hid
          rw [← hid.trans hkey', get?_roster h hrow] at hinfo
          exact hinfo
    simp only [nodeEntry, ← hrows, hprotocol]
  simp only [graphOf, hedges, nodeIds_perm hperm, hnodes]

end

/-! ### The graph of any rows -/

def hopList : Values F → List (Value F)
  | .nil => []
  | .cons head tail => head :: hopList tail

/-- A hop that `_norm` takes: a text, or a value that counts as false. -/
def ReadableHop (R : Runtime F) (hop : Value F) : Prop :=
  (∃ text, hop = .str text) ∨ truthyValue R hop = false

/-- A payload that is no JSON is skipped; one that is JSON has to be a dictionary, and the hops
    of its route have to be readable. -/
def Readable (R : Runtime F) (row : TracerouteRow) : Prop :=
  ∀ payload, R.loads (orText row.decodedPayload "{}") = some payload →
    ∃ entries, payload = .dict entries ∧
      ∀ hops, entries.get? "route" = some (.list hops) → ∀ hop ∈ hopList hops, ReadableHop R hop

theorem isSome_normHop (hop : Value F) : (normHop R hop).isSome ↔ ReadableHop R hop := by
  cases hop with
  | str text => simp [normHop, ReadableHop]
  | _ => simp [normHop, ReadableHop]

theorem isSome_normHops (hops : Values F) :
    (normHops R hops).isSome ↔ ∀ hop ∈ hopList hops, ReadableHop R hop := by
  induction hops using Values.induction with
  | nil => simp [normHops, hopList]
  | cons head tail ih =>
    rw [hopList, List.forall_mem_cons, ← isSome_normHop, ← ih, normHops]
    cases normHop R head <;> cases normHops R tail <;> simp

theorem isSome_chain (row : TracerouteRow) : (chain R row).isSome ↔ Readable R row := by
  rw [chain, Readable]
  cases hloads : R.loads (orText row.decodedPayload "{}") with
  | none => simp
  | some payload =>
    cases payload with
    | dict entries =>
      cases hroute : entries.get? "route" with
      | none => simp [hroute]
      | some route =>
        cases route with
        | list hops =>
          cases hops with
          | nil => simp [hroute, hopList]
          | cons head tail =>
            have hhops := isSome_normHops (R := R) (.cons head tail)
            simp [hroute, hhops]
        | _ => simp [hroute]
    | _ => simp

/-- The graph of any rows: there is one unless a payload cannot be read, it is well formed, and
    the order of the rows has no effect on its shape, and none at all where the newest sightings
    of an edge agree, the hints do and the roster has a node once. -/
theorem assembleGraph_spec (R : Runtime F) (rows : Rows F) (selfNodeId : Option String)
    (selfName : String) (anchorNodeId : Option String) (generatedAt : String) :
    ((assembleGraph R rows selfNodeId selfName anchorNodeId generatedAt).isSome ↔
      ∀ row ∈ rows.traceroutes, Readable R row) ∧
    ∀ seen, sightings R rows selfNodeId anchorNodeId = some seen →
      ∃ graph, assembleGraph R rows selfNodeId selfName anchorNodeId generatedAt = some graph ∧
        WellFormed R seen graph ∧
        ∀ rows' : Rows F, rows.Perm rows' →
          ∃ graph', assembleGraph R rows' selfNodeId selfName anchorNodeId generatedAt =
              some graph' ∧
            SameShape graph graph' ∧ (OrderFree R rows.roster seen → graph = graph') := by
  constructor
  · have hroutes : (sightings R rows selfNodeId anchorNodeId).isSome ↔
        ∀ row ∈ rows.traceroutes, (routeSightings R row).isSome := by
      rw [← isSome_mapM, sightings]
      cases rows.traceroutes.mapM (routeSightings R) <;> simp
    rw [assembleGraph, Option.isSome_map, hroutes]
    simp only [routeSightings, Option.isSome_map, isSome_chain]
  · intro seen hseen
    refine ⟨_, by rw [assembleGraph, hseen]; rfl, wellFormed_graphOf seen _ _ _ _ _, ?_⟩
    intro rows' hrows
    obtain ⟨seen', hseen', hperm⟩ := sightings_perm hrows hseen
    refine ⟨_, by rw [assembleGraph, hseen']; rfl, sameShape_graphOf hperm _ _ _ _, ?_⟩
    exact graphOf_eq hperm _ _ _ _ hrows.roster

end

/-! ### Rows whose order matters -/

/-- Integers for numbers, and texts of which only the empty list is JSON. -/
def plainRuntime : Runtime ℤ :=
  ⟨Casing.ascii, fun text => if text = "[]" then some (.list .nil) else none, id,
    fun n => decide (n ≠ 0)⟩

/-- A sighting with a signal, and a newer one without. -/
def withSignal : NeighbourRow ℤ := ⟨none, some "n1", 1, some "2026-07-01T00:00:00", some 5⟩

def withoutSignal : NeighbourRow ℤ := ⟨none, some "n1", 1, some "2026-07-09T00:00:00", none⟩

def starGraph (neighbours : List (NeighbourRow ℤ)) : Option (Graph ℤ) :=
  assembleGraph plainRuntime ⟨[], [], neighbours, []⟩ none "box" (some "rep") "now"

theorem edges_starGraph (neighbours : List (NeighbourRow ℤ)) (e : Edge ℤ)
    (h : (sightings plainRuntime ⟨[], [], neighbours, []⟩ none (some "rep")).map
      (fun seen => (edgesOf plainRuntime seen).values) = some [e]) :
    (starGraph neighbours).map Graph.edges = some [e] := by
  obtain ⟨seen, hseen, hedges⟩ := Option.map_eq_some_iff.mp h
  rw [starGraph, assembleGraph, hseen, Option.map_some, Option.map_some, Option.some.injEq]
  simp only [graphOf, hedges, sortEdges, List.mergeSort_singleton]

/-- The order of two rows decides whether their edge has a signal; and a payload that is a list
    leaves no graph at all. -/
theorem snr_depends_on_order :
    [withSignal, withoutSignal].Perm [withoutSignal, withSignal] ∧
      (starGraph [withSignal, withoutSignal]).map (fun graph => graph.edges.map Edge.snr) =
        some [some 5] ∧
      (starGraph [withoutSignal, withSignal]).map (fun graph => graph.edges.map Edge.snr) =
        some [none] ∧
      (assembleGraph plainRuntime ⟨[⟨some "aa", some "[]", none⟩], [], [], []⟩ none "box" none
        "now").isNone := by
  refine ⟨List.Perm.swap _ _ _, ?_, ?_, rfl⟩
  · have h := edges_starGraph [withSignal, withoutSignal]
      ⟨"n1", "rep", .neighbour, 2, some "2026-07-09T00:00:00", some 5, none⟩ (by decide +kernel)
    rw [← Function.comp_def, ← Option.map_map, h]
    rfl
  · have h := edges_starGraph [withoutSignal, withSignal]
      ⟨"n1", "rep", .neighbour, 2, some "2026-07-09T00:00:00", none, none⟩ (by decide +kernel)
    rw [← Function.comp_def, ← Option.map_map, h]
    rfl

end Meshpoint.TopologyGraph
