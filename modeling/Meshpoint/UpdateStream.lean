import Mathlib.Data.List.Induction

/-!
# The stream of an update

Model of `stream_update` (`streaming.py`).  The chain of an update runs in a thread, which posts
its events to the event loop; the generator takes them from its queue until the thread is done and
the queue is empty.

However the thread, the loop and the reader of the stream interleave, the stream has every event
of the chain once and in order, its result comes last, and it ends (`run_streams`).
-/

namespace Meshpoint.UpdateStream

/-- What the thread posts with `call_soon_threadsafe`. -/
inductive Callback (E : Type) where
  | put (event : E)
  /-- The future of `run_in_executor` is resolved: the chain returned, or raised. -/
  | done (returned : Bool)

/-- A line of the stream. -/
inductive Line (E R : Type) where
  | started
  | step (event : E)
  | result (result : R)
  | updateFinishedWithoutResult

/-- Where the generator stands. -/
inductive Phase where
  | fresh
  | announced
  | polling
  | returned
  | raised

structure Stream (E R : Type) where
  phase : Phase := .fresh
  lines : List (Line E R) := []
  queue : List E := []
  /-- The future of the executor, once it is done. -/
  task : Option Bool := none
  /-- The callbacks that the loop has not run. -/
  ready : List (Callback E) := []
  holder : Option R := none
  running : Bool := false
  /-- The events of the chain so far. -/
  posted : List E := []

/-- What happens next. -/
inductive Event (E R : Type) where
  /-- The chain calls `on_step`. -/
  | post (event : E)
  /-- The chain returns its result, or raises. -/
  | finish (result : Option R)
  /-- The loop runs its oldest callback. -/
  | callback
  /-- The generator goes on. -/
  | resume

variable {E R : Type}

namespace Stream

/-- The generator after `queue.get()` has an event or the time is over. -/
def poll (s : Stream E R) : Stream E R :=
  match s.queue with
  | event :: rest => { s with queue := rest, lines := s.lines ++ [.step event] }
  | [] =>
    match s.task with
    | none => s
    | some false => { s with phase := .raised }
    | some true =>
      match s.holder with
      | some result => { s with phase := .returned, lines := s.lines ++ [.result result] }
      | none =>
        { s with phase := .returned, lines := s.lines ++ [.updateFinishedWithoutResult] }

def step (s : Stream E R) : Event E R → Stream E R
  | .post event =>
    if s.running then { s with ready := s.ready ++ [.put event], posted := s.posted ++ [event] }
    else s
  | .finish result =>
    if s.running then
      { s with running := false, holder := result, ready := s.ready ++ [.done result.isSome] }
    else s
  | .callback =>
    match s.ready with
    | [] => s
    | .put event :: rest => { s with ready := rest, queue := s.queue ++ [event] }
    | .done returned :: rest => { s with ready := rest, task := some returned }
  | .resume =>
    match s.phase with
    | .fresh => { s with phase := .announced, lines := [.started] }
    | .announced => { s with phase := .polling, running := true }
    | .polling => s.poll
    | .returned | .raised => s

def runFrom (s : Stream E R) (events : List (Event E R)) : Stream E R := events.foldl step s

end Stream

open UpdateStream.Stream

/-- The states of a stream. -/
inductive Shape : Stream E R → Prop where
  | fresh : Shape {}
  | announced : Shape { phase := .announced, lines := [.started] }
  | running (sent queue pending : List E) : Shape
      { phase := .polling, lines := .started :: sent.map .step, queue, running := true
        ready := pending.map .put, posted := sent ++ queue ++ pending }
  | ending (sent queue pending : List E) (holder : Option R) : Shape
      { phase := .polling, lines := .started :: sent.map .step, queue, holder
        ready := pending.map .put ++ [.done holder.isSome], posted := sent ++ queue ++ pending }
  | drained (sent queue : List E) (holder : Option R) : Shape
      { phase := .polling, lines := .started :: sent.map .step, queue, holder
        task := some holder.isSome, posted := sent ++ queue }
  | returned (sent : List E) (result : R) : Shape
      { phase := .returned, lines := .started :: sent.map .step ++ [.result result]
        task := some true, holder := some result, posted := sent }
  | raised (sent : List E) : Shape
      { phase := .raised, lines := .started :: sent.map .step, task := some false, posted := sent }

theorem shape_drained_resume (sent queue : List E) (holder : Option R) :
    Shape (step { phase := .polling, lines := .started :: sent.map .step, queue, holder
                  task := some holder.isSome, posted := sent ++ queue } .resume) := by
  cases queue with
  | cons event rest => simpa [step, poll] using Shape.drained (sent ++ [event]) rest holder
  | nil =>
    cases holder with
    | none => simpa [step, poll] using Shape.raised (R := R) sent
    | some result => simpa [step, poll] using Shape.returned sent result

theorem shape_step {s : Stream E R} (h : Shape s) (event : Event E R) : Shape (s.step event) := by
  cases h with
  | fresh => cases event <;> first | exact Shape.fresh | exact Shape.announced
  | announced =>
    cases event <;> first | exact Shape.announced | exact Shape.running [] [] []
  | running sent queue pending =>
    cases event with
    | post event => simpa [step] using Shape.running sent queue (pending ++ [event])
    | finish result => simpa [step] using Shape.ending sent queue pending result
    | callback =>
      cases pending with
      | nil => exact Shape.running sent queue []
      | cons event pending => simpa [step] using Shape.running sent (queue ++ [event]) pending
    | resume =>
      cases queue with
      | nil => exact Shape.running sent [] pending
      | cons event rest => simpa [step, poll] using Shape.running (sent ++ [event]) rest pending
  | ending sent queue pending holder =>
    cases event with
    | post event => exact Shape.ending sent queue pending holder
    | finish result => exact Shape.ending sent queue pending holder
    | callback =>
      cases pending with
      | nil => simpa [step] using Shape.drained sent queue holder
      | cons event pending =>
        simpa [step] using Shape.ending sent (queue ++ [event]) pending holder
    | resume =>
      cases queue with
      | nil => exact Shape.ending sent [] pending holder
      | cons event rest =>
        simpa [step, poll] using Shape.ending (sent ++ [event]) rest pending holder
  | drained sent queue holder =>
    cases event with
    | post event => exact Shape.drained sent queue holder
    | finish result => exact Shape.drained sent queue holder
    | callback => exact Shape.drained sent queue holder
    | resume => exact shape_drained_resume sent queue holder
  | returned sent result => cases event <;> exact Shape.returned sent result
  | raised sent => cases event <;> exact Shape.raised sent

theorem runFrom_append (s : Stream E R) (first second : List (Event E R)) :
    runFrom s (first ++ second) = runFrom (runFrom s first) second :=
  List.foldl_append

theorem shape_run (events : List (Event E R)) : Shape (runFrom {} events) := by
  induction events using List.reverseRecOn with
  | nil => exact Shape.fresh
  | append_singleton events event ih =>
    rw [runFrom_append]
    exact shape_step ih event

/-! ### The end of a stream -/

/-- The generator has ended. -/
def Ended (s : Stream E R) : Prop := s.phase = .returned ∨ s.phase = .raised

theorem ended_step {s : Stream E R} (h : Ended s) : Ended (s.step .resume) := by
  rcases h with h | h <;> simp [Ended, step, h]

theorem ended_resumes {s : Stream E R} (h : Ended s) (rounds : Nat) :
    Ended (runFrom s (List.replicate rounds .resume)) := by
  induction rounds generalizing s with
  | zero => exact h
  | succ rounds ih => exact ih (ended_step h)

/-- Once the thread is done, a round for each event and one more end the stream. -/
theorem ended_drained (sent queue : List E) (holder : Option R) {rounds : Nat}
    (hrounds : queue.length < rounds) :
    Ended (runFrom
      { phase := .polling, lines := .started :: sent.map .step, queue, holder
        task := some holder.isSome, posted := sent ++ queue }
      (List.replicate rounds .resume)) := by
  obtain ⟨rounds, rfl⟩ := Nat.exists_eq_add_of_lt hrounds
  rw [Nat.add_right_comm, ← List.replicate_append_replicate, runFrom_append]
  apply ended_resumes
  clear hrounds
  induction queue generalizing sent with
  | nil => cases holder <;> simp [Ended, runFrom, step, poll]
  | cons event rest ih =>
    simpa [runFrom, step, poll, List.replicate_succ] using ih (sent ++ [event])

theorem callbacks_ending (sent queue pending : List E) (holder : Option R) :
    runFrom { phase := .polling, lines := .started :: sent.map .step, queue, holder
              ready := pending.map .put ++ [.done holder.isSome]
              posted := sent ++ queue ++ pending }
        (List.replicate (pending.length + 1) .callback) =
      { phase := .polling, lines := .started :: sent.map .step, queue := queue ++ pending, holder
        task := some holder.isSome, posted := sent ++ (queue ++ pending) } := by
  induction pending generalizing queue with
  | nil => simp [runFrom, step]
  | cons event pending ih => simpa [runFrom, step, List.replicate_succ] using ih (queue ++ [event])

/-- What a reader of the stream relies on. -/
structure Faithful (s : Stream E R) : Prop where
  hasResult : .updateFinishedWithoutResult ∉ s.lines
  polling : s.phase = .polling → s.lines <+: .started :: s.posted.map .step
  returned : s.phase = .returned → ∃ result, s.holder = some result ∧
    s.lines = .started :: s.posted.map .step ++ [.result result]
  raised : s.phase = .raised → s.holder = none ∧ s.lines = .started :: s.posted.map .step
  /-- When the chain is over, its callbacks and a round for each event and one more end the
      stream. -/
  ends : s.phase = .polling → s.running = false →
    Ended (runFrom s (List.replicate s.ready.length .callback ++
      List.replicate (s.posted.length + 1) .resume))

theorem faithful_of_shape {s : Stream E R} (h : Shape s) : Faithful s := by
  have hprefix : ∀ sent rest : List E,
      (Line.started (R := R) :: sent.map .step) <+: .started :: (sent ++ rest).map .step := by
    intro sent rest
    exact ⟨rest.map .step, by simp⟩
  cases h with
  | fresh => constructor <;> simp
  | announced => constructor <;> simp
  | returned sent result => constructor <;> simp
  | raised sent => constructor <;> simp
  | running sent queue pending =>
    constructor <;> simp only [reduceCtorEq, false_implies, forall_const, Bool.true_eq_false]
    · simp
    · rw [List.append_assoc]
      exact hprefix sent (queue ++ pending)
  | ending sent queue pending holder =>
    constructor <;> simp only [reduceCtorEq, false_implies, forall_const]
    · simp
    · rw [List.append_assoc]
      exact hprefix sent (queue ++ pending)
    · rw [runFrom_append, List.length_append, List.length_map, List.length_singleton,
        callbacks_ending]
      apply ended_drained
      simp only [List.length_append]
      omega
  | drained sent queue holder =>
    constructor <;> simp only [reduceCtorEq, false_implies, forall_const]
    · simp
    · exact hprefix sent queue
    · apply ended_drained
      simp only [List.length_append]
      omega

/-- **Every run streams its chain.** -/
theorem run_streams (events : List (Event E R)) : Faithful (runFrom {} events) :=
  faithful_of_shape (shape_run events)

end Meshpoint.UpdateStream
