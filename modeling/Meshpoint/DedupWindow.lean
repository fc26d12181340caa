import Meshpoint.RelayManager
import Meshpoint.SlidingWindow

/-!
# The window of the filter of seen packets

Sequences of calls of `is_duplicate` (`src/relay/dedup_filter.py`), against what they are for: a
packet is a duplicate if it was presented within the window before, as long as fewer than
`max_entries` other new packets have come since (`Presented`).  The filter keeps the time of a
packet's first presentation and does not renew it, and it knows a packet by the text
`source:packet`; `lawful_iff` says in which sequences every answer is right all the same.
-/

namespace Meshpoint.DedupWindow

open RelayManager SlidingWindow

/-! ### Calls and answers -/

/-- A call of `is_duplicate`. -/
structure Call where
  now : ℚ
  sourceId : String
  packetId : String
deriving DecidableEq

/-- A call with its answer. -/
structure Sighting where
  call : Call
  duplicate : Bool
deriving DecidableEq

def Call.key (c : Call) : String := c.sourceId ++ ":" ++ c.packetId

def SamePair (a b : Call) : Prop := a.sourceId = b.sourceId ∧ a.packetId = b.packetId

instance (a b : Call) : Decidable (SamePair a b) := inferInstanceAs (Decidable (_ ∧ _))

/-- The answers to calls, newest first, and the filter they leave. -/
def answered (filter : DeduplicationFilter) :
    List Call → List Sighting × DeduplicationFilter
  | [] => ([], filter)
  | c :: earlier =>
    let (log, filter) := answered filter earlier
    let (duplicate, filter) := filter.isDuplicate c.now c.sourceId c.packetId
    (⟨c, duplicate⟩ :: log, filter)

/-- The clock does not go back; calls are newest first. -/
def InOrder (calls : List Call) : Prop :=
  calls.Pairwise fun later earlier => earlier.now ≤ later.now

instance (calls : List Call) : Decidable (InOrder calls) :=
  inferInstanceAs (Decidable (calls.Pairwise _))

/-! ### The answers there should be -/

section

variable (maxEntries : Nat) (ttl : ℚ)

/-- A sighting with `sought`, less than `ttl` before `c`, after which fewer than `room` with
    `counted` have come. -/
def Within (sought counted : Sighting → Bool) (c : Call) (room : Nat) (log : List Sighting) :
    Prop :=
  ∃ i < log.length, ∃ b ∈ log[i]?,
    sought b = true ∧ c.now < b.call.now + ttl ∧ (log.take i).countP counted < room

instance (sought counted : Sighting → Bool) (c : Call) (room : Nat) (log : List Sighting) :
    Decidable (Within ttl sought counted c room log) :=
  inferInstanceAs (Decidable (∃ i < log.length, ∃ b ∈ log[i]?, _))

/-- The packet was presented within the window, and fewer than `maxEntries` other new packets
    have come since. -/
def Presented (log : List Sighting) (c : Call) : Prop :=
  Within ttl (fun b => decide (SamePair b.call c))
    (fun x => !x.duplicate && !decide (SamePair x.call c)) c maxEntries log

instance (log : List Sighting) (c : Call) : Decidable (Presented maxEntries ttl log c) :=
  inferInstanceAs (Decidable (Within ..))

def lawful : List Call → List Sighting
  | [] => []
  | c :: earlier =>
    let log := lawful earlier
    ⟨c, decide (Presented maxEntries ttl log c)⟩ :: log

/-- A presentation of the text `source:packet` that was new lies within the window. -/
def NewWithin (log : List Sighting) (c : Call) : Prop :=
  Within ttl (fun b => !b.duplicate && decide (b.call.key = c.key)) (fun x => !x.duplicate) c
    maxEntries log

instance (log : List Sighting) (c : Call) : Decidable (NewWithin maxEntries ttl log c) :=
  inferInstanceAs (Decidable (Within ..))

/-- A packet that was presented within the window was new within the window. -/
def Steady (log : List Sighting) (c : Call) : Prop :=
  Presented maxEntries ttl log c → NewWithin maxEntries ttl log c

/-- No other packet of the same text was new within the window, unless the packet itself was
    presented there. -/
def Apart (log : List Sighting) (c : Call) : Prop :=
  NewWithin maxEntries ttl log c → Presented maxEntries ttl log c

/-- Every call is steady and apart from what came before it. -/
def Meets : List Call → Prop
  | [] => True
  | c :: earlier =>
    Meets earlier ∧ Steady maxEntries ttl (lawful maxEntries ttl earlier) c ∧
      Apart maxEntries ttl (lawful maxEntries ttl earlier) c

instance (log : List Sighting) (c : Call) : Decidable (Steady maxEntries ttl log c) :=
  inferInstanceAs (Decidable (_ → _))

instance (log : List Sighting) (c : Call) : Decidable (Apart maxEntries ttl log c) :=
  inferInstanceAs (Decidable (_ → _))

instance decidableMeets : ∀ calls : List Call, Decidable (Meets maxEntries ttl calls)
  | [] => inferInstanceAs (Decidable True)
  | c :: earlier =>
    haveI := decidableMeets earlier
    inferInstanceAs (Decidable (Meets maxEntries ttl earlier ∧
      Steady maxEntries ttl (lawful maxEntries ttl earlier) c ∧ _))

end

/-! ### What a window holds -/

section

variable {ttl t : ℚ} {sought counted : Sighting → Bool} {c : Call} {room : Nat}
  {log : List Sighting} {x : Sighting}

theorem not_within_nil : ¬ Within ttl sought counted c room [] := by
  rintro ⟨i, hi, -⟩
  exact Nat.not_lt_zero i hi

theorem within_cons :
    Within ttl sought counted c room (x :: log) ↔
      (sought x = true ∧ c.now < x.call.now + ttl ∧ 0 < room) ∨
        Within ttl sought counted c (room - if counted x then 1 else 0) log := by
  constructor
  · rintro ⟨i, hi, b, hb, hsought, hyoung, hroom⟩
    cases i with
    | zero =>
      cases hb
      exact Or.inl ⟨hsought, hyoung, hroom⟩
    | succ i =>
      refine Or.inr ⟨i, Nat.lt_of_succ_lt_succ hi, b, hb, hsought, hyoung, ?_⟩
      rw [List.take_succ_cons, List.countP_cons] at hroom
      omega
  · rintro (⟨hsought, hyoung, hroom⟩ | ⟨i, hi, b, hb, hsought, hyoung, hroom⟩)
    · exact ⟨0, Nat.zero_lt_succ _, x, rfl, hsought, hyoung, hroom⟩
    · refine ⟨i + 1, Nat.succ_lt_succ hi, b, hb, hsought, hyoung, ?_⟩
      rw [List.take_succ_cons, List.countP_cons]
      omega

theorem not_within_zero : ¬ Within ttl sought counted c 0 log := by
  rintro ⟨i, -, b, -, -, -, hroom⟩
  exact Nat.not_lt_zero _ hroom

theorem not_within_of_expired (hold : ¬ c.now < t + ttl) (huntil : ∀ b ∈ log, b.call.now ≤ t) :
    ¬ Within ttl sought counted c room log := by
  rintro ⟨i, -, b, hb, -, hyoung, -⟩
  have hle := huntil b (List.mem_of_getElem? hb)
  exact hold (hyoung.trans_le (add_le_add hle le_rfl))

end

/-! ### What the table holds -/

/-- Nothing in the log is later than `t`. -/
def Until (log : List Sighting) (t : ℚ) : Prop := ∀ x ∈ log, x.call.now ≤ t

def Falling (log : List Sighting) : Prop := log.Pairwise fun x y => y.call.now ≤ x.call.now

/-- The newest new sightings, up to the first whose time is up at `t` and to the cap. -/
def live (maxEntries : Nat) (ttl t : ℚ) (log : List Sighting) : List Sighting :=
  ((log.filter fun x => !x.duplicate).takeWhile fun x =>
    decide (t < x.call.now + ttl)).take maxEntries

def entry (x : Sighting) : String × ℚ := (x.call.key, x.call.now)

section

variable {maxEntries : Nat} {ttl t : ℚ} {c : Call} {log : List Sighting} {x : Sighting}

theorem live_cons_of_duplicate (h : x.duplicate = true) :
    live maxEntries ttl t (x :: log) = live maxEntries ttl t log := by
  unfold live
  rw [List.filter_cons_of_neg (by simp [h])]

theorem live_cons_of_young (h : x.duplicate = false) (hyoung : t < x.call.now + ttl) :
    live (maxEntries + 1) ttl t (x :: log) = x :: live maxEntries ttl t log := by
  unfold live
  rw [List.filter_cons_of_pos (by simp [h]), List.takeWhile_cons_of_pos (by simp [hyoung])]
  rfl

theorem live_cons_of_expired (h : x.duplicate = false) (hold : ¬ t < x.call.now + ttl) :
    live maxEntries ttl t (x :: log) = [] := by
  unfold live
  rw [List.filter_cons_of_pos (by simp [h]), List.takeWhile_cons_of_neg (by simp [hold])]
  exact List.take_nil

theorem live_zero : live 0 ttl t log = [] := rfl

theorem exists_live_iff (hfalling : Falling log) :
    (∃ b ∈ live maxEntries ttl c.now log, b.call.key = c.key) ↔
      NewWithin maxEntries ttl log c := by
  induction log generalizing maxEntries with
  | nil =>
    constructor
    · rintro ⟨b, hb, -⟩
      have hnil : live maxEntries ttl c.now [] = [] := List.take_nil
      rw [hnil] at hb
      cases hb
    · intro h
      exact absurd h not_within_nil
  | cons x log ih =>
    unfold Falling at hfalling
    rw [List.pairwise_cons] at hfalling
    have ih := fun n => @ih n hfalling.2
    unfold NewWithin at ih ⊢
    rw [within_cons]
    cases hx : x.duplicate with
    | true =>
      rw [live_cons_of_duplicate hx, ih]
      simp
    | false =>
      cases maxEntries with
      | zero =>
        rw [live_zero, Nat.zero_sub]
        simp [not_within_zero]
      | succ room =>
        by_cases hyoung : c.now < x.call.now + ttl
        · rw [live_cons_of_young hx hyoung, List.exists_mem_cons_iff, ih]
          simp [hyoung]
        · rw [live_cons_of_expired hx hyoung]
          simp [hyoung, not_within_of_expired hyoung hfalling.1]

/-- The log and the filter that answered it. -/
structure Inv (maxEntries : Nat) (ttl : ℚ) (log : List Sighting) (filter : DeduplicationFilter) :
    Prop where
  cap : filter.maxEntries = maxEntries
  window : filter.ttl = ttl
  falling : Falling log
  size : filter.seen.items.length ≤ maxEntries
  sorted : filter.seen.items.Pairwise fun a b => a.2 ≤ b.2
  past : ∀ t, Until log t → ∀ e ∈ filter.seen.items, e.2 ≤ t
  table : ∀ t, Until log t →
    (filter.evictExpired t).seen.items.reverse = (live maxEntries ttl t log).map entry

theorem inv_init : Inv maxEntries ttl [] { maxEntries := maxEntries, ttl := ttl } where
  cap := rfl
  window := rfl
  falling := List.Pairwise.nil
  size := Nat.zero_le _
  sorted := List.Pairwise.nil
  past := fun _ _ e he => absurd he List.not_mem_nil
  table := fun _ _ => by simp [live, DeduplicationFilter.evictExpired, OrderedDict.dropWhile]

theorem takeWhile_live {u : ℚ} (hle : u ≤ t) :
    (live maxEntries ttl u log).takeWhile (fun x => decide (t < x.call.now + ttl)) =
      live maxEntries ttl t log := by
  unfold live
  rw [← List.take_takeWhile, List.takeWhile_takeWhile]
  congr 2
  funext x
  apply decide_eq_decide.mpr
  rw [decide_eq_true_iff, decide_eq_true_iff]
  exact ⟨fun h => h.1, fun h => ⟨h, hle.trans_lt h⟩⟩

theorem takeWhile_take_live {u : ℚ} (h : x.duplicate = false) (hle : u ≤ t) :
    ((x :: live maxEntries ttl u log).take maxEntries).takeWhile
        (fun x => decide (t < x.call.now + ttl)) = live maxEntries ttl t (x :: log) := by
  cases maxEntries with
  | zero => rfl
  | succ room =>
    rw [List.take_succ_cons]
    by_cases hyoung : t < x.call.now + ttl
    · have hroom : (live (room + 1) ttl u log).take room = live room ttl u log := by
        unfold live
        rw [List.take_take, Nat.min_eq_left (Nat.le_succ room)]
      rw [List.takeWhile_cons_of_pos (by simp [hyoung]), hroom, takeWhile_live hle,
        live_cons_of_young h hyoung]
    · rw [List.takeWhile_cons_of_neg (by simp [hyoung]), live_cons_of_expired h hyoung]

theorem reverse_evictExpired {filter : DeduplicationFilter}
    (hsorted : filter.seen.items.Pairwise fun a b => a.2 ≤ b.2) (t : ℚ) :
    (filter.evictExpired t).seen.items.reverse =
      filter.seen.items.reverse.takeWhile fun e => decide (t < e.2 + filter.ttl) := by
  have holder : filter.seen.items.Pairwise fun a b =>
      decide (b.2 ≤ t - filter.ttl) = true → decide (a.2 ≤ t - filter.ttl) = true := by
    apply hsorted.imp
    intro a b hab hb
    exact decide_eq_true (hab.trans (of_decide_eq_true hb))
  refine (reverse_dropWhile holder).trans ?_
  congr 1
  funext e
  rw [← decide_not]
  apply decide_eq_decide.mpr
  rw [not_le, sub_lt_iff_lt_add]

theorem takeWhile_entries (xs : List Sighting) :
    (xs.map entry).takeWhile (fun e => decide (t < e.2 + ttl)) =
      (xs.takeWhile fun x => decide (t < x.call.now + ttl)).map entry :=
  List.takeWhile_map

/-! ### One call -/

variable {filter : DeduplicationFilter}

theorem Inv.evictExpired (h : Inv maxEntries ttl log filter) (now : ℚ) :
    (filter.evictExpired now).seen.items.length ≤ maxEntries ∧
      (filter.evictExpired now).seen.items.Pairwise (fun a b => a.2 ≤ b.2) ∧
      ∀ t, Until log t → ∀ e ∈ (filter.evictExpired now).seen.items, e.2 ≤ t := by
  have hsub : (filter.evictExpired now).seen.items.Sublist filter.seen.items :=
    List.dropWhile_sublist _
  refine ⟨hsub.length_le.trans h.size, h.sorted.sublist hsub, ?_⟩
  intro t ht e he
  exact h.past t ht e (hsub.subset he)

/-- The table knows the packet when a presentation of its text was new within the window. -/
theorem Inv.known_iff (h : Inv maxEntries ttl log filter) (huntil : Until log c.now) :
    c.key ∈ (filter.evictExpired c.now).seen.keys ↔ NewWithin maxEntries ttl log c := by
  rw [← exists_live_iff h.falling]
  unfold OrderedDict.keys
  rw [← List.mem_reverse, ← List.map_reverse, h.table c.now huntil, List.map_map, List.mem_map]
  rfl

theorem Inv.isDuplicate_iff (h : Inv maxEntries ttl log filter) (huntil : Until log c.now) :
    (filter.isDuplicate c.now c.sourceId c.packetId).1 = true ↔ NewWithin maxEntries ttl log c := by
  rw [← h.known_iff huntil]
  unfold DeduplicationFilter.isDuplicate
  simp only
  cases hget : (filter.evictExpired c.now).seen.get? (c.sourceId ++ ":" ++ c.packetId) with
  | some time =>
    refine iff_of_true rfl ?_
    by_contra hmiss
    have hnone := (OrderedDict.get?_eq_none_iff _).mpr hmiss
    unfold Call.key at hnone
    rw [hget] at hnone
    cases hnone
  | none => exact iff_of_false Bool.false_ne_true ((OrderedDict.get?_eq_none_iff _).mp hget)

theorem until_cons {d : Bool} : Until (⟨c, d⟩ :: log) t ↔ c.now ≤ t ∧ Until log t :=
  List.forall_mem_cons

theorem Inv.call (h : Inv maxEntries ttl log filter) (huntil : Until log c.now) :
    Inv maxEntries ttl
      (⟨c, (filter.isDuplicate c.now c.sourceId c.packetId).1⟩ :: log)
      (filter.isDuplicate c.now c.sourceId c.packetId).2 := by
  obtain ⟨hsize, hsorted, hpast⟩ := h.evictExpired c.now
  have hfalling : ∀ d, Falling (⟨c, d⟩ :: log) :=
    fun _ => List.pairwise_cons.mpr ⟨huntil, h.falling⟩
  unfold DeduplicationFilter.isDuplicate
  simp only
  cases hget : (filter.evictExpired c.now).seen.get? (c.sourceId ++ ":" ++ c.packetId) with
  | some time =>
    refine ⟨h.cap, h.window, hfalling true, hsize, hsorted, ?_, ?_⟩
    · intro t ht
      exact hpast t (until_cons.mp ht).2
    · intro t ht
      obtain ⟨hle, ht⟩ := until_cons.mp ht
      rw [reverse_evictExpired hsorted, h.table c.now huntil]
      change List.takeWhile (fun e : String × ℚ => decide (t < e.2 + filter.ttl)) _ = _
      rw [h.window, takeWhile_entries, takeWhile_live hle, live_cons_of_duplicate rfl]
  | none =>
    have hfresh :=
      OrderedDict.items_set_of_not_mem _ c.now ((OrderedDict.get?_eq_none_iff _).mp hget)
    let grown :=
      (filter.evictExpired c.now).seen.items ++ [(c.sourceId ++ ":" ++ c.packetId, c.now)]
    have hitems : (DeduplicationFilter.enforceMaxSize { filter.evictExpired c.now with
        seen := (filter.evictExpired c.now).seen.set (c.sourceId ++ ":" ++ c.packetId) c.now
          }).seen.items = grown.drop (grown.length - maxEntries) := by
      change List.drop (_ - (filter.evictExpired c.now).maxEntries) _ = _
      have hcap : (filter.evictExpired c.now).maxEntries = maxEntries := h.cap
      rw [hcap, hfresh]
    have hgrown : grown.Pairwise fun a b => a.2 ≤ b.2 := by
      rw [List.pairwise_append]
      refine ⟨hsorted, List.pairwise_singleton _ _, ?_⟩
      intro a ha b hb
      rw [List.mem_singleton] at hb
      subst hb
      exact hpast c.now huntil a ha
    refine ⟨h.cap, h.window, hfalling false, ?_, ?_, ?_, ?_⟩
    · rw [hitems, List.length_drop]
      omega
    · rw [hitems]
      exact hgrown.sublist (List.drop_sublist _ _)
    · intro t ht e he
      obtain ⟨hle, ht⟩ := until_cons.mp ht
      rw [hitems] at he
      have hmem := List.mem_of_mem_drop he
      rw [List.mem_append, List.mem_singleton] at hmem
      rcases hmem with hmem | rfl
      · exact hpast t ht e hmem
      · exact hle
    · intro t ht
      obtain ⟨hle, -⟩ := until_cons.mp ht
      have hdropped := hgrown.sublist (List.drop_sublist (grown.length - maxEntries) _)
      rw [← hitems] at hdropped
      rw [reverse_evictExpired hdropped, hitems]
      change List.takeWhile (fun e : String × ℚ => decide (t < e.2 + filter.ttl)) _ = _
      have hnew : grown.reverse = entry ⟨c, false⟩ :: (live maxEntries ttl c.now log).map entry := by
        rw [List.reverse_append, h.table c.now huntil]
        rfl
      rw [h.window, ← List.take_reverse, hnew, ← List.map_cons, ← List.map_take, takeWhile_entries,
        takeWhile_take_live rfl hle]

end

/-! ### Sequences of calls -/

section

variable {maxEntries : Nat} {ttl : ℚ} {calls : List Call}

theorem until_answered (filter : DeduplicationFilter) {t : ℚ} (h : ∀ c ∈ calls, c.now ≤ t) :
    Until (answered filter calls).1 t := by
  induction calls with
  | nil => exact List.forall_mem_nil _
  | cons c earlier ih =>
    rw [List.forall_mem_cons] at h
    exact until_cons.mpr ⟨h.1, ih h.2⟩

theorem inv_answered (h : InOrder calls) :
    Inv maxEntries ttl (answered { maxEntries := maxEntries, ttl := ttl } calls).1
      (answered { maxEntries := maxEntries, ttl := ttl } calls).2 := by
  induction calls with
  | nil => exact inv_init
  | cons c earlier ih =>
    unfold InOrder at h
    rw [List.pairwise_cons] at h
    exact (ih h.2).call (until_answered _ h.1)

theorem answers_cons_iff {c : Call} {earlier : List Call} (h : InOrder (c :: earlier)) :
    (answered { maxEntries := maxEntries, ttl := ttl } (c :: earlier)).1 =
        lawful maxEntries ttl (c :: earlier) ↔
      (answered { maxEntries := maxEntries, ttl := ttl } earlier).1 =
          lawful maxEntries ttl earlier ∧
        (NewWithin maxEntries ttl (lawful maxEntries ttl earlier) c ↔
          Presented maxEntries ttl (lawful maxEntries ttl earlier) c) := by
  unfold InOrder at h
  rw [List.pairwise_cons] at h
  have hinv : Inv maxEntries ttl _ _ := inv_answered h.2
  have hiff := hinv.isDuplicate_iff (until_answered _ h.1)
  change Sighting.mk c _ :: _ = Sighting.mk c _ :: _ ↔ _
  rw [List.cons.injEq, Sighting.mk.injEq, eq_self_iff_true, true_and, and_comm]
  apply and_congr_right
  intro hlog
  rw [hlog] at hiff
  refine Bool.eq_iff_iff.trans ?_
  rw [decide_eq_true_iff, ← hiff]
  exact Iff.rfl

theorem answers_eq_iff (h : InOrder calls) :
    (answered { maxEntries := maxEntries, ttl := ttl } calls).1 = lawful maxEntries ttl calls ↔
      Meets maxEntries ttl calls := by
  induction calls with
  | nil => exact iff_of_true rfl trivial
  | cons c earlier ih =>
    rw [answers_cons_iff h, ih (List.Pairwise.of_cons h)]
    exact and_congr_right fun _ => ⟨fun h => ⟨h.mpr, h.mp⟩, fun h => ⟨h.2, h.1⟩⟩

end

/-- **The window.**  In every sequence of calls the table keeps its cap and the order of time;
    and every answer is the one there should be exactly when every call is steady and apart
    from the ones before it. -/
theorem lawful_iff (maxEntries : Nat) (ttl : ℚ) {calls : List Call} (h : InOrder calls) :
    let run := answered { maxEntries := maxEntries, ttl := ttl } calls
    run.2.seen.items.length ≤ maxEntries ∧ run.2.seen.items.Pairwise (fun a b => a.2 ≤ b.2) ∧
      (run.1 = lawful maxEntries ttl calls ↔ Meets maxEntries ttl calls) := by
  have hinv : Inv maxEntries ttl _ _ := inv_answered h
  exact ⟨hinv.size, hinv.sorted, answers_eq_iff h⟩

def call (now : ℚ) : Call := ⟨now, "!a1b2c3d4", "0000001f"⟩

theorem lawful_iff_spread :
    InOrder [call 700, call 100, call 0] ∧ Meets 10000 300 [call 700, call 100, call 0] ∧
      (answered { maxEntries := 10000, ttl := 300 } [call 700, call 100, call 0]).1 =
        lawful 10000 300 [call 700, call 100, call 0] := by
  have horder : InOrder [call 700, call 100, call 0] := by decide
  have hmeets : Meets 10000 300 [call 700, call 100, call 0] := by decide +kernel
  exact ⟨horder, hmeets, (lawful_iff 10000 300 horder).2.2.mpr hmeets⟩

/-- A packet heard every 200 s is taken for a new one at 400 s. -/
theorem heard_again_is_new :
    InOrder [call 400, call 200, call 0] ∧
      (answered { maxEntries := 10000, ttl := 300 } [call 400, call 200, call 0]).1 =
        [⟨call 400, false⟩, ⟨call 200, true⟩, ⟨call 0, false⟩] ∧
      (answered { maxEntries := 10000, ttl := 300 } [call 400, call 200, call 0]).1 ≠
        lawful 10000 300 [call 400, call 200, call 0] := by
  decide +kernel

end Meshpoint.DedupWindow
