import Meshpoint.CaptureCoordinator
import Meshpoint.PipelineLoop

/-!
# From the sources to the tables

The consumer of `CaptureCoordinator.packets` is the loop of `PipelineCoordinator._run_pipeline`
(`coordinator.py`).  It processes a capture before it comes back for the next one, breaks off when
the station has been stopped, and its handler stands outside of it.  Here the two are one system,
in every order of its events.
-/

namespace Meshpoint.StationPipeline

open Raising MqttFormatter PipelineLoop
open CaptureCoordinator (Coordinator)

/-- Where the task of the pipeline stands. -/
inductive Loop where
  | running
  /-- It broke off: the station had been stopped. -/
  | left
  | raised
deriving DecidableEq

/-- The station with its queue.  A capture comes with what its processing will meet. -/
structure System (S F : Type) where
  capture : Coordinator S (Reception F) := {}
  running : Bool := true
  station : Station F
  loop : Loop := .running
  /-- The captures that the loop processed, and the requests that were served meanwhile. -/
  taken : List (PipelineLoop.Event F) := []

inductive Event (S F : Type) where
  | capture (event : CaptureCoordinator.Event S (Reception F))
  /-- `PipelineCoordinator.stop` sets `_running`. -/
  | stop
  | putLorawan (devices : List (LorawanFrames.LoRaWANDeviceEntry F))

variable {S F : Type} [DecidableEq S] [StationFloat F]

/-- `_process_capture` in the loop. -/
def process (lib : Libraries F) (system : System S F) (r : Reception F) : System S F :=
  match PipelineLoop.step lib system.station (.capture r) with
  | .ok station => { system with station, taken := system.taken ++ [.capture r] }
  | .error _ => { system with loop := .raised, taken := system.taken ++ [.capture r] }

/-- The body of the loop. -/
def take (lib : Libraries F) (system : System S F) (r : Reception F) : System S F :=
  if system.running then process lib system r else { system with loop := .left }

def advance (maxQueueSize : Int) (system : System S F)
    (event : CaptureCoordinator.Event S (Reception F)) : System S F :=
  { system with capture := CaptureCoordinator.step maxQueueSize system.capture event }

def consume (lib : Libraries F) (maxQueueSize : Int) (system : System S F) : System S F :=
  match system.capture.consumer, system.capture.queue with
  | .waiting, (_, r) :: _ => take lib (advance maxQueueSize system .get) r
  | _, _ => system

def step (lib : Libraries F) (maxQueueSize : Int) (system : System S F) :
    Event S F → System S F
  | .capture .get => if system.loop = .running then consume lib maxQueueSize system else system
  | .capture .resume =>
    if system.loop = .running then advance maxQueueSize system .resume else system
  | .capture event => advance maxQueueSize system event
  | .stop => { system with running := false }
  | .putLorawan devices =>
    match PipelineLoop.step lib system.station (.putLorawan devices) with
    | .ok station =>
      if system.loop = .running then
        { system with station, taken := system.taken ++ [.putLorawan devices] }
      else { system with station }
    | .error _ => system

def runFrom (lib : Libraries F) (maxQueueSize : Int) (system : System S F)
    (events : List (Event S F)) : System S F :=
  events.foldl (step lib maxQueueSize) system

/-- A station that has been started. -/
def run (lib : Libraries F) (maxQueueSize : Int) (s₀ : Station F) (events : List (Event S F)) :
    System S F :=
  runFrom lib maxQueueSize { station := s₀ } events

/-- The captures among what the loop was there for. -/
def captures (taken : List (PipelineLoop.Event F)) : List (Reception F) :=
  taken.filterMap fun
    | .capture r => some r
    | .putLorawan _ => none

/-- What happens to the queue. -/
def queueEvents (events : List (Event S F)) :
    List (CaptureCoordinator.Event S (Reception F)) :=
  events.filterMap fun
    | .capture event => some event
    | _ => none

/-! ### What holds in every state -/

/-- The loop has taken what the queue yielded, all but the capture at which it broke off, and
    raised at the last of it or nowhere. -/
structure Sound (lib : Libraries F) (s₀ : Station F) (system : System S F) : Prop where
  running : system.loop = .running →
    drain (PipelineLoop.step lib) s₀ system.taken = (system.station, system.taken.length)
  raises : (drain (PipelineLoop.step lib) s₀ system.taken).2 = system.taken.length ↔
    system.loop ≠ .raised
  yields : system.loop ≠ .left →
    captures system.taken = system.capture.yielded.map Prod.snd
  left : system.loop = .left →
    ∃ r, captures system.taken ++ [r] = system.capture.yielded.map Prod.snd

section

variable {lib : Libraries F} {maxQueueSize : Int} {s₀ : Station F} {system : System S F}

omit [StationFloat F] in
theorem captures_append_capture (taken : List (PipelineLoop.Event F)) (r : Reception F) :
    captures (taken ++ [.capture r]) = captures taken ++ [r] := by
  simp [captures]

omit [StationFloat F] in
theorem captures_append_put (taken : List (PipelineLoop.Event F))
    (devices : List (LorawanFrames.LoRaWANDeviceEntry F)) :
    captures (taken ++ [.putLorawan devices]) = captures taken := by
  simp [captures]

omit [DecidableEq S] in
/-- What happens outside of the loop is nothing to it, as long as it is not given a capture. -/
theorem Sound.of_yielded (h : Sound lib s₀ system) {capture : Coordinator S (Reception F)}
    (hyielded : capture.yielded = system.capture.yielded) :
    Sound lib s₀ { system with capture } where
  running := h.running
  raises := h.raises
  yields := by
    rw [hyielded]
    exact h.yields
  left := by
    rw [hyielded]
    exact h.left

omit [DecidableEq S] in
theorem Sound.process (h : Sound lib s₀ system) (hloop : system.loop = .running)
    {capture : Coordinator S (Reception F)} {source : S} {r : Reception F}
    (hyielded : capture.yielded = system.capture.yielded ++ [(source, r)]) :
    Sound lib s₀ (process lib { system with capture } r) := by
  have htaken := h.running hloop
  have hyields : captures (system.taken ++ [.capture r]) = capture.yielded.map Prod.snd := by
    rw [captures_append_capture, hyielded, List.map_append, h.yields (by simp [hloop])]
    rfl
  unfold StationPipeline.process
  have hall := drain_append htaken [.capture r]
  cases hstep : PipelineLoop.step lib system.station (.capture r) with
  | ok station =>
    simp only [drain, hstep] at hall ⊢
    refine ⟨fun _ => by simp [hall], ?_, fun _ => hyields, by simp [hloop]⟩
    simp [hall, hloop]
  | error e =>
    simp only [drain, hstep] at hall ⊢
    refine ⟨by simp, ?_, fun _ => hyields, by simp⟩
    simp [hall]

omit [DecidableEq S] in
theorem Sound.take (h : Sound lib s₀ system) (hloop : system.loop = .running)
    {capture : Coordinator S (Reception F)} {source : S} {r : Reception F}
    (hyielded : capture.yielded = system.capture.yielded ++ [(source, r)]) :
    Sound lib s₀ (take lib { system with capture } r) := by
  unfold StationPipeline.take
  split
  · exact h.process hloop hyielded
  · refine ⟨by simp, ?_, by simp, fun _ => ⟨r, ?_⟩⟩
    · simp [h.running hloop]
    · simp [h.yields (by simp [hloop]), hyielded]

omit [StationFloat F] in
/-- The queue yields only what the loop asks for. -/
theorem yielded_step (maxQueueSize : Int) (c : Coordinator S (Reception F))
    {event : CaptureCoordinator.Event S (Reception F)} (hevent : event ≠ .get) :
    (CaptureCoordinator.step maxQueueSize c event).yielded = c.yielded := by
  cases event with
  | get => exact absurd rfl hevent
  | captured source capture =>
    simp only [CaptureCoordinator.step]
    split_ifs <;> rfl
  | resume =>
    simp only [CaptureCoordinator.step]
    split <;> rfl
  | _ => rfl

theorem Sound.consume (h : Sound lib s₀ system) (hloop : system.loop = .running) :
    Sound lib s₀ (consume lib maxQueueSize system) := by
  unfold StationPipeline.consume
  rcases hconsumer : system.capture.consumer with _ | _ | _
  · exact h
  · rcases hqueue : system.capture.queue with _ | ⟨⟨source, r⟩, rest⟩
    · exact h
    · have hyielded : (CaptureCoordinator.step maxQueueSize system.capture .get).yielded =
          system.capture.yielded ++ [(source, r)] := by
        simp [CaptureCoordinator.step, hconsumer, hqueue]
      exact h.take hloop hyielded
  · exact h

theorem Sound.step (h : Sound lib s₀ system) (event : Event S F) :
    Sound lib s₀ (step lib maxQueueSize system event) := by
  rcases event with event | _ | devices
  · by_cases hget : event = .get
    · subst hget
      by_cases hloop : system.loop = .running
      · simpa [StationPipeline.step, hloop] using h.consume hloop
      · simpa [StationPipeline.step, hloop] using h
    · have hadvance := h.of_yielded (yielded_step maxQueueSize system.capture hget)
      cases event with
      | get => exact absurd rfl hget
      | resume =>
        simp only [StationPipeline.step]
        split
        · exact hadvance
        · exact h
      | _ => exact hadvance
  · exact ⟨h.running, h.raises, h.yields, h.left⟩
  · simp only [StationPipeline.step]
    cases hstep : PipelineLoop.step lib system.station (.putLorawan devices) with
    | error e => exact h
    | ok station =>
      by_cases hloop : system.loop = .running
      · have hall := drain_append (h.running hloop) [.putLorawan devices]
        have hyields := h.yields (by simp [hloop])
        simp only [drain, hstep] at hall
        simp only [hloop, if_true]
        refine ⟨fun _ => by simp [hall], ?_, fun _ => ?_, by simp⟩
        · simp [hall]
        · rwa [captures_append_put]
      · simp only [hloop, if_false]
        exact ⟨fun hrunning => absurd hrunning hloop, h.raises, h.yields, h.left⟩

theorem sound_runFrom (h : Sound lib s₀ system) (events : List (Event S F)) :
    Sound lib s₀ (runFrom lib maxQueueSize system events) := by
  induction events generalizing system with
  | nil => exact h
  | cons event rest ih => exact ih (h.step event)

theorem sound_run (lib : Libraries F) (maxQueueSize : Int) (s₀ : Station F)
    (events : List (Event S F)) : Sound lib s₀ (run lib maxQueueSize s₀ events) := by
  apply sound_runFrom
  refine ⟨fun _ => rfl, ?_, fun _ => rfl, by simp⟩
  simp [drain]

/-- A loop that has ended does not take anything, and does not run again. -/
theorem ended_step (h : system.loop ≠ .running) (event : Event S F) :
    (step lib maxQueueSize system event).loop = system.loop ∧
      (step lib maxQueueSize system event).taken = system.taken := by
  rcases event with event | _ | devices
  · cases event <;> simp [step, advance, h]
  · exact ⟨rfl, rfl⟩
  · simp only [step]
    cases PipelineLoop.step lib system.station (.putLorawan devices) <;> simp [h]

theorem ended_runFrom (h : system.loop ≠ .running) (events : List (Event S F)) :
    (runFrom lib maxQueueSize system events).taken = system.taken := by
  induction events generalizing system with
  | nil => rfl
  | cons event rest ih =>
    obtain ⟨hloop, htaken⟩ := @ended_step S F _ _ lib maxQueueSize system h event
    exact (ih (by rwa [hloop])).trans htaken

theorem running_of_step {event : Event S F}
    (h : (step lib maxQueueSize system event).loop = .running) : system.loop = .running := by
  by_contra hended
  rw [(ended_step hended event).1] at h
  exact hended h

/-- Until the loop ends, the queue meets what it would meet by itself. -/
theorem capture_step {event : Event S F}
    (h : (step lib maxQueueSize system event).loop = .running) :
    (step lib maxQueueSize system event).capture =
      (queueEvents [event]).foldl (CaptureCoordinator.step maxQueueSize) system.capture := by
  have hloop := running_of_step h
  rcases event with event | _ | devices
  · cases event with
    | get =>
      simp only [step, hloop, if_true, consume, queueEvents] at h ⊢
      rcases hconsumer : system.capture.consumer with _ | _ | _
      · simp [CaptureCoordinator.step, hconsumer]
      · rcases hqueue : system.capture.queue with _ | ⟨⟨source, r⟩, rest⟩
        · simp [CaptureCoordinator.step, hconsumer, hqueue]
        · simp only [take, process]
          split_ifs
          · cases PipelineLoop.step lib (advance maxQueueSize system .get).station (.capture r) <;>
              rfl
          · rfl
      · simp [CaptureCoordinator.step, hconsumer]
    | _ => simp [step, hloop, advance, queueEvents]
  · rfl
  · simp only [step, hloop, if_true, queueEvents]
    cases PipelineLoop.step lib system.station (.putLorawan devices) <;> rfl

theorem capture_runFrom {events : List (Event S F)}
    (h : (runFrom lib maxQueueSize system events).loop = .running) :
    (runFrom lib maxQueueSize system events).capture =
      (queueEvents events).foldl (CaptureCoordinator.step maxQueueSize) system.capture := by
  induction events using List.reverseRecOn with
  | nil => rfl
  | append_singleton events event ih =>
    rw [runFrom, List.foldl_append] at h ⊢
    have hstep := capture_step h
    change _ = (queueEvents [event]).foldl _ (runFrom lib maxQueueSize system events).capture
      at hstep
    rw [ih (running_of_step h)] at hstep
    rw [queueEvents, List.filterMap_append, List.foldl_append]
    exact hstep

end

end Meshpoint.StationPipeline
