import Meshpoint.ListFacts
import Mathlib.Data.List.Induction

/-!
# Merging the captures of several sources

Model of `CaptureCoordinator` (`capture_coordinator.py`): `start`, `stop`, the task of each source
and the consumer of `packets`, in every order in which the event loop can run them.  A source
whose start fails has no task.

What comes out was read of the sources in that order, and nothing that is read is lost exactly when
the consumer keeps up (`run_merges`).
-/

namespace Meshpoint.CaptureCoordinator

variable {S C : Type}

inductive Consumer where
  /-- It has what was yielded last. -/
  | processing
  /-- It is in `wait_for`. -/
  | waiting
  | ended
deriving DecidableEq

structure Coordinator (S C : Type) where
  running : Bool := false
  tasks : List S := []
  queue : List (S × C) := []
  consumer : Consumer := .processing
  yielded : List (S × C) := []

inductive Event (S C : Type) where
  /-- `start` and `stop` set `_running`. -/
  | start
  | stop
  /-- A source has started, and its task is made. -/
  | started (source : S)
  | captured (source : S) (capture : C)
  /-- A source has no more captures, raises, or its task is cancelled. -/
  | finished (source : S)
  /-- The consumer comes back for the next capture, or its wait has timed out. -/
  | resume
  | get

/-- `asyncio.Queue.full`. -/
def isFull (maxQueueSize : Int) (queue : List (S × C)) : Prop :=
  0 < maxQueueSize ∧ maxQueueSize ≤ queue.length

instance (maxQueueSize : Int) (queue : List (S × C)) : Decidable (isFull maxQueueSize queue) :=
  inferInstanceAs (Decidable (_ ∧ _))

variable [DecidableEq S]

def step (maxQueueSize : Int) (c : Coordinator S C) : Event S C → Coordinator S C
  | .start => { c with running := true }
  | .stop => { c with running := false }
  | .started source => { c with tasks := source :: c.tasks }
  | .captured source capture =>
    if source ∉ c.tasks then c
    else if !c.running then { c with tasks := c.tasks.erase source }
    else if isFull maxQueueSize c.queue then c
    else { c with queue := c.queue ++ [(source, capture)] }
  | .finished source => { c with tasks := c.tasks.erase source }
  | .resume =>
    if c.consumer = .ended then c
    else { c with consumer := if c.running then .waiting else .ended }
  | .get =>
    match c.consumer, c.queue with
    | .waiting, next :: rest =>
      { c with queue := rest, consumer := .processing, yielded := c.yielded ++ [next] }
    | _, _ => c

def run (maxQueueSize : Int) (events : List (Event S C)) : Coordinator S C :=
  events.foldl (step maxQueueSize) {}

/-! ### What is read of the sources -/

/-- What the task of a source reads at an event. -/
def reads (c : Coordinator S C) : Event S C → List (S × C)
  | .captured source capture =>
    if source ∈ c.tasks ∧ c.running = true then [(source, capture)] else []
  | _ => []

/-- What the tasks read in a run, from the last event back. -/
def readUpTo (maxQueueSize : Int) : List (Event S C) → List (S × C)
  | [] => []
  | event :: before =>
    readUpTo maxQueueSize before ++ reads (run maxQueueSize before.reverse) event

/-- What the tasks read while the coordinator ran, in order. -/
def read (maxQueueSize : Int) (events : List (Event S C)) : List (S × C) :=
  readUpTo maxQueueSize events.reverse

/-- Whenever a capture is read, fewer than `maxQueueSize` of those before it wait. -/
def KeepsUp (maxQueueSize : Int) (events : List (Event S C)) : Prop :=
  ∀ before event after, events = before ++ event :: after →
    reads (run maxQueueSize before) event ≠ [] → 0 < maxQueueSize →
      ((read maxQueueSize before).length : Int) <
        (run maxQueueSize before).yielded.length + maxQueueSize

/-- The rounds of a consumer that finds so many captures. -/
def rounds (waiting : Nat) : List (Event S C) :=
  (List.replicate waiting [Event.resume, Event.get]).flatten

section

variable {maxQueueSize : Int} {c : Coordinator S C}

/-- What comes out and what waits. -/
def Coordinator.stream (c : Coordinator S C) : List (S × C) := c.yielded ++ c.queue

omit [DecidableEq S] in
theorem Coordinator.length_stream (c : Coordinator S C) :
    c.stream.length = c.yielded.length + c.queue.length := List.length_append

/-- A step adds to the stream what it reads, unless the queue is full. -/
theorem stream_step (maxQueueSize : Int) (c : Coordinator S C) (event : Event S C) :
    (step maxQueueSize c event).stream =
      c.stream ++ if isFull maxQueueSize c.queue then [] else reads c event := by
  cases event with
  | captured source capture =>
    by_cases htask : source ∈ c.tasks
    · by_cases hrunning : c.running = true
      · by_cases hfull : isFull maxQueueSize c.queue <;>
          simp [step, htask, hrunning, hfull, reads, Coordinator.stream]
      · simp [step, htask, hrunning, reads, Coordinator.stream]
    · simp [step, htask, reads]
  | get =>
    obtain ⟨running, tasks, queue, consumer, yielded⟩ := c
    rcases consumer <;> rcases queue <;> simp [step, reads, Coordinator.stream]
  | resume =>
    simp only [step]
    split <;> simp [reads, Coordinator.stream]
  | _ => simp [step, reads, Coordinator.stream]

theorem run_append (maxQueueSize : Int) (events : List (Event S C)) (more : List (Event S C)) :
    run maxQueueSize (events ++ more) = more.foldl (step maxQueueSize) (run maxQueueSize events) :=
  List.foldl_append

theorem read_append_singleton (maxQueueSize : Int) (events : List (Event S C))
    (event : Event S C) : read maxQueueSize (events ++ [event]) =
      read maxQueueSize events ++ reads (run maxQueueSize events) event := by
  simp [read, readUpTo]

theorem keepsUp_append_singleton (events : List (Event S C)) (event : Event S C) :
    KeepsUp maxQueueSize (events ++ [event]) ↔ KeepsUp maxQueueSize events ∧
      (reads (run maxQueueSize events) event ≠ [] → 0 < maxQueueSize →
        ((read maxQueueSize events).length : Int) <
          (run maxQueueSize events).yielded.length + maxQueueSize) :=
  ListFacts.forall_splits_append_singleton

/-- Nothing is lost exactly when the consumer keeps up; else something is missing. -/
theorem stream_run (maxQueueSize : Int) (events : List (Event S C)) :
    (run maxQueueSize events).stream.Sublist (read maxQueueSize events) ∧
      ((run maxQueueSize events).stream = read maxQueueSize events ↔
        KeepsUp maxQueueSize events) := by
  induction events using List.reverseRecOn with
  | nil => simp [run, read, readUpTo, KeepsUp, Coordinator.stream]
  | append_singleton events event ih =>
    obtain ⟨hsub, hiff⟩ := ih
    rw [run_append, List.foldl_cons, List.foldl_nil, stream_step, read_append_singleton,
      keepsUp_append_singleton, ← hiff]
    have hlength := (run maxQueueSize events).length_stream
    by_cases hreads : reads (run maxQueueSize events) event = []
    · simpa [hreads] using hsub
    by_cases hfull : isFull maxQueueSize (run maxQueueSize events).queue
    · rw [if_pos hfull, List.append_nil]
      refine ⟨hsub.trans (List.sublist_append_left _ _), iff_of_false ?_ ?_⟩
      · intro heq
        have hle := hsub.length_le
        rw [heq, List.length_append] at hle
        have hpos := List.length_pos_iff.mpr hreads
        omega
      · rintro ⟨heq, hroom⟩
        have hlt := hroom hreads hfull.1
        rw [← heq, hlength] at hlt
        have hle := hfull.2
        push_cast at hlt
        omega
    · rw [if_neg hfull]
      refine ⟨hsub.append (List.Sublist.refl _), ?_⟩
      rw [List.append_left_inj]
      refine (and_iff_left_of_imp fun heq _ hpos => ?_).symm
      rw [← heq, hlength]
      have hroom : ¬ (maxQueueSize ≤ (run maxQueueSize events).queue.length) := fun hle =>
        hfull ⟨hpos, hle⟩
      push_cast
      omega

/-- The queue holds no more than it may. -/
theorem length_queue_step (hpos : 0 < maxQueueSize) (h : (c.queue.length : Int) ≤ maxQueueSize)
    (event : Event S C) : ((step maxQueueSize c event).queue.length : Int) ≤ maxQueueSize := by
  cases event with
  | captured source capture =>
    simp only [step]
    split
    · exact h
    · split
      · exact h
      · split
        · exact h
        · rename_i hroom
          have hlt : ¬ (maxQueueSize ≤ c.queue.length) := fun hle => hroom ⟨hpos, hle⟩
          simp only [List.length_append, List.length_singleton]
          omega
  | get =>
    obtain ⟨running, tasks, queue, consumer, yielded⟩ := c
    rcases consumer <;> rcases queue <;> simp_all [step]
    omega
  | resume =>
    simp only [step]
    split <;> exact h
  | _ => exact h

theorem length_queue_run (hpos : 0 < maxQueueSize) (events : List (Event S C)) :
    ((run maxQueueSize events).queue.length : Int) ≤ maxQueueSize := by
  induction events using List.reverseRecOn with
  | nil => exact Int.le_of_lt hpos
  | append_singleton events event ih =>
    rw [run_append]
    exact length_queue_step hpos ih event

/-! ### The end of a run -/

/-- What a coordinator that is stopped can still yield. -/
def Coordinator.left (c : Coordinator S C) : Nat := if c.consumer = .waiting then 1 else 0

theorem yielded_step_stopped (h : c.running = false) {event : Event S C}
    (hevent : event ≠ .start) :
    (step maxQueueSize c event).running = false ∧
      (step maxQueueSize c event).yielded.length + (step maxQueueSize c event).left ≤
        c.yielded.length + c.left := by
  obtain ⟨running, tasks, queue, consumer, yielded⟩ := c
  obtain rfl : running = false := h
  cases event with
  | start => exact absurd rfl hevent
  | captured source capture =>
    simp only [step]
    split <;> simp [Coordinator.left]
  | get => rcases consumer <;> rcases queue <;> simp [step, Coordinator.left]
  | resume => rcases consumer <;> simp [step, Coordinator.left]
  | _ => exact ⟨rfl, Nat.le_refl _⟩

theorem yielded_stopped (h : c.running = false) {after : List (Event S C)}
    (hafter : Event.start ∉ after) :
    (after.foldl (step maxQueueSize) c).yielded.length ≤ c.yielded.length + c.left := by
  induction after generalizing c with
  | nil => exact Nat.le_add_right _ _
  | cons event rest ih =>
    obtain ⟨hevent, hrest⟩ := not_or.mp (mt List.mem_cons.mpr hafter)
    obtain ⟨hstopped, hle⟩ := @yielded_step_stopped S C _ maxQueueSize c h event (Ne.symm hevent)
    exact Nat.le_trans (ih hstopped hrest) hle

theorem stream_rounds (hrunning : c.running = true) (hconsumer : c.consumer ≠ .ended) :
    ((rounds c.queue.length).foldl (step maxQueueSize) c).yielded = c.stream := by
  obtain ⟨running, tasks, queue, consumer, yielded⟩ := c
  obtain rfl : running = true := hrunning
  induction queue generalizing consumer yielded with
  | nil => simp [rounds, Coordinator.stream]
  | cons next rest ih =>
    have hround := ih .processing (yielded ++ [next]) (by simp)
    simp only [rounds, List.length_cons, List.replicate_succ, List.flatten_cons,
      List.foldl_append, List.foldl_cons, List.foldl_nil]
    simpa [step, rounds, hconsumer, Coordinator.stream] using hround

end

/-- **Every run merges its sources.**  What was yielded and what waits was read in that order, all
    of it exactly when the consumer keeps up; the queue stays within its bound; while the
    coordinator runs, a consumer that comes back gets what waits; and once it is stopped, it yields
    one capture more at most. -/
theorem run_merges (maxQueueSize : Int) (events : List (Event S C)) :
    ((run maxQueueSize events).stream.Sublist (read maxQueueSize events) ∧
      ((run maxQueueSize events).stream = read maxQueueSize events ↔
        KeepsUp maxQueueSize events)) ∧
    (0 < maxQueueSize → ((run maxQueueSize events).queue.length : Int) ≤ maxQueueSize) ∧
    ((run maxQueueSize events).running = true → (run maxQueueSize events).consumer ≠ .ended →
      (run maxQueueSize (events ++ rounds (run maxQueueSize events).queue.length)).yielded =
        (run maxQueueSize events).stream) ∧
    ∀ after, Event.start ∉ after →
      (run maxQueueSize (events ++ .stop :: after)).yielded.length ≤
        (run maxQueueSize events).yielded.length + 1 := by
  refine ⟨stream_run maxQueueSize events, fun hpos => length_queue_run hpos events, ?_, ?_⟩
  · intro hrunning hconsumer
    rw [run_append]
    exact stream_rounds hrunning hconsumer
  · intro after hafter
    rw [run_append, List.foldl_cons]
    have hleft : (step maxQueueSize (run maxQueueSize events) .stop).left ≤ 1 := by
      unfold Coordinator.left
      split <;> simp
    apply Nat.le_trans (yielded_stopped rfl hafter)
    exact Nat.add_le_add_left hleft _

end Meshpoint.CaptureCoordinator
