import Meshpoint.GuardedRun

/-!
# The broadcast scheduler

Model of `src/transmit/broadcast_interval.py`: `BroadcastIntervalController` and its
`run_loop`, cut at the places where the loop awaits.  Between two awaits the loop takes
its own steps; while it awaits, the interval may be set and a broadcast may be sent by
hand (`broadcast_now` of `src/transmit/nodeinfo_broadcaster.py`).  The clock is read in
microseconds and does not go back.

The log has the calls of `on_due`, the waits and the broadcasts that were sent, newest
first.
-/

namespace Meshpoint.BroadcastSchedule

open GuardedRun

/-! ### The controller -/

def INTERVAL_DISABLED : Int := 0
def INTERVAL_MIN_MINUTES : Int := 5
def INTERVAL_MAX_MINUTES : Int := 1440

def clampIntervalMinutes (value : Int) : Int :=
  if value = INTERVAL_DISABLED then INTERVAL_DISABLED
  else if value < 0 then INTERVAL_DISABLED
  else if value < INTERVAL_MIN_MINUTES then INTERVAL_MIN_MINUTES
  else if INTERVAL_MAX_MINUTES < value then INTERVAL_MAX_MINUTES
  else value

/-- Delays and intervals are in seconds, times in microseconds. -/
structure Controller where
  startupDelay : Int
  interval : Int
  intervalChanged : Bool
  startedAt : Option Int
  lastSentAt : Option Int
deriving DecidableEq

/-- `timedelta(seconds=n)`. -/
def seconds (n : Int) : Int := n * 1000000

namespace Controller

/-- `__init__`. -/
def new (startupDelaySeconds intervalSeconds : Int) : Controller :=
  ⟨max 0 startupDelaySeconds, intervalSeconds, false, none, none⟩

def markSent (c : Controller) (now : Int) : Controller := { c with lastSentAt := some now }

def begin (c : Controller) (now : Int) : Controller := { c with startedAt := some now }

def setInterval (c : Controller) (minutes now : Int) : Controller :=
  let interval := clampIntervalMinutes minutes * 60
  { c with
    interval := interval
    startedAt :=
      if 0 < interval ∧ c.lastSentAt = none ∧ c.startedAt ≠ none then
        some (now - seconds c.startupDelay)
      else c.startedAt
    intervalChanged := true }

def isDueNow (c : Controller) (now : Int) : Bool :=
  if c.interval = 0 then false
  else
    match c.lastSentAt with
    | none => true
    | some t => t + seconds c.interval ≤ now

/-- `_sleep_until_next`, in microseconds. -/
def sleepUntilNext (c : Controller) (now : Int) : Int :=
  if c.interval = 0 then 0
  else
    match c.lastSentAt with
    | none => seconds c.interval
    | some t => max 0 (t + seconds c.interval - now)

end Controller

/-! ### The loop -/

/-- Where `run_loop` is. -/
inductive Pc where
  /-- Before the startup delay. -/
  | start
  /-- In the startup delay. -/
  | startup
  /-- At the head of the `while`. -/
  | head
  /-- Waiting for the interval to be set. -/
  | paused
  /-- In `on_due`. -/
  | due
  /-- Back from `on_due`. -/
  | returned
  /-- Not due, before the sleep is computed. -/
  | rest
  | sleeping
  | ended
deriving DecidableEq

inductive Entry where
  /-- `on_due` is called, with the interval of that time. -/
  | due (interval : Int)
  /-- The loop waits, for at most so many microseconds. -/
  | wait (timeout : Option Int)
  /-- `on_due` sent a broadcast. -/
  | sent (now : Int)
  /-- A broadcast was sent by hand. -/
  | triggered (now : Int)
deriving DecidableEq

/-- The controller with its loop; `now` is the last reading of the clock. -/
structure State where
  schedule : Controller
  running : Bool
  now : Int
  pc : Pc
  log : List Entry
deriving DecidableEq

def initial (schedule : Controller) (now : Int) : State := ⟨schedule, true, now, .start, []⟩

/-- What `on_due` comes to. -/
inductive Outcome where
  | sent
  | unsent
  | raised
deriving DecidableEq

/-- What `send_nodeinfo` comes to. -/
inductive SendOutcome where
  | returned (success : Bool)
  | raised
deriving DecidableEq

/-- `NodeInfoBroadcaster.broadcast_now`, which is its `on_due` as well. -/
def broadcastNow : SendOutcome → Outcome
  | .returned true => .sent
  | .returned false => .unsent
  | .raised => .unsent

/-- An event; `tick` is how much later the clock is read. -/
inductive Event where
  /-- The loop goes on to its next await. -/
  | run (tick : Nat)
  /-- A wait is over. -/
  | wake
  /-- `on_due` returns. -/
  | finish (outcome : Outcome) (tick : Nat)
  | setInterval (minutes : Int) (tick : Nat)
  /-- `broadcast_now` is called by hand. -/
  | trigger (send : SendOutcome) (tick : Nat)
  /-- `is_running` turns false. -/
  | halt
  /-- The task is cancelled. -/
  | cancel
deriving DecidableEq

namespace State

def awaits (s : State) : Bool :=
  match s.pc with
  | .start | .startup | .paused | .due | .sleeping | .ended => true
  | .head | .returned | .rest => false

/-- `self._interval_changed.clear()` before a wait. -/
def waiting (s : State) (pc : Pc) (timeout : Option Int) : State :=
  { s with
    schedule := { s.schedule with intervalChanged := false }
    pc := pc
    log := .wait timeout :: s.log }

def read (s : State) (tick : Nat) : State := { s with now := s.now + tick }

def sleep (s : State) : State :=
  let remaining := s.schedule.sleepUntilNext s.now
  if remaining ≤ 0 then
    { s with schedule := { s.schedule with intervalChanged := false }, pc := .head }
  else s.waiting .sleeping (some remaining)

/-- The head of the `while`. -/
def loop (s : State) : State :=
  if s.running = false then { s with pc := .ended }
  else if s.schedule.interval = 0 then s.waiting .paused none
  else if s.schedule.isDueNow s.now then
    { s with pc := .due, log := .due s.schedule.interval :: s.log }
  else { s with pc := .rest }

def run (s : State) (tick : Nat) : Option State :=
  match s.pc with
  | .start =>
    if 0 < s.schedule.startupDelay then
      some (s.waiting .startup (some (seconds s.schedule.startupDelay)))
    else some { s with pc := .head }
  | .head => some (s.read tick).loop
  | .returned =>
    if s.running = false then some { s with pc := .ended } else some (s.read tick).sleep
  | .rest => some (s.read tick).sleep
  | _ => none

/-- The end of a wait: its time is over, or the interval was set. -/
def wake (s : State) : Option State :=
  match s.pc with
  | .startup | .sleeping => some { s with pc := .head }
  | .paused => if s.schedule.intervalChanged then some { s with pc := .head } else none
  | _ => none

def finish (s : State) (outcome : Outcome) (tick : Nat) : Option State :=
  match s.pc, outcome with
  | .due, .sent =>
    let s := s.read tick
    some
      { s with
        schedule := s.schedule.markSent s.now
        pc := .returned
        log := .sent s.now :: s.log }
  | .due, .unsent => some { s with pc := .returned }
  | .due, .raised => some { s with pc := .ended }
  | _, _ => none

def trigger (s : State) (send : SendOutcome) (tick : Nat) : State :=
  let s := s.read tick
  match broadcastNow send with
  | .sent => { s with schedule := s.schedule.markSent s.now, log := .triggered s.now :: s.log }
  | _ => s

end State

def step (s : State) : Event → Option State
  | .run tick => s.run tick
  | .wake => s.wake
  | .finish outcome tick => s.finish outcome tick
  | .setInterval minutes tick =>
    if s.awaits then
      some { s.read tick with schedule := s.schedule.setInterval minutes (s.read tick).now }
    else none
  | .trigger send tick => if s.awaits then some (s.trigger send tick) else none
  | .halt => if s.awaits then some { s with running := false } else none
  | .cancel => if s.awaits then some { s with pc := .ended } else none

/-! ### What a log says -/

/-- A wait without a timeout, or with a positive one. -/
def Entry.Lasts : Entry → Prop
  | .wait none => True
  | .wait (some timeout) => 0 < timeout
  | _ => False

def Entry.sentAt : Entry → Option Int
  | .sent t | .triggered t => some t
  | _ => none

/-- Every entry, with the log before it, is in `Q`. -/
def Each (Q : Entry → List Entry → Prop) (log : List Entry) : Prop :=
  ∀ newer e older, log = newer ++ e :: older → Q e older

/-- A lasting wait since the last call of `on_due`. -/
def Rested (log : List Entry) : Prop :=
  ∀ between i older, log = between ++ .due i :: older → ∃ e ∈ between, e.Lasts

/-- The last success of the loop, if no trigger came after it, is at least the interval of the
    last call of `on_due` before `t`. -/
def Answers (t : Int) (log : List Entry) : Prop :=
  ∀ between t₁ older, log = between ++ .sent t₁ :: older → (∀ e ∈ between, e.sentAt = none) →
    ∃ i rest, between = .due i :: rest ∧ t₁ + seconds i ≤ t

/-- A lasting wait between any two calls of `on_due`. -/
def Spaced : List Entry → Prop := Each fun e older => ∀ i, e = .due i → Rested older

/-- Two successes with no trigger between are the interval of the call apart. -/
def Apart : List Entry → Prop := Each fun e older => ∀ t, e = .sent t → Answers t older

theorem each_nil (Q : Entry → List Entry → Prop) : Each Q [] := by
  intro newer e older h
  simp at h

theorem each_cons {Q : Entry → List Entry → Prop} {x : Entry} {log : List Entry} :
    Each Q (x :: log) ↔ Q x log ∧ Each Q log := by
  constructor
  · intro h
    refine ⟨h [] x log rfl, ?_⟩
    intro newer e older hlog
    exact h (x :: newer) e older (by rw [hlog, List.cons_append])
  · rintro ⟨hx, hlog⟩ newer e older h
    cases newer with
    | nil =>
      cases h
      exact hx
    | cons y newer =>
      cases h
      exact hlog newer e older rfl

theorem rested_nil : Rested [] := by
  intro between i older h
  simp at h

theorem rested_of_lasts {e : Entry} (log : List Entry) (he : e.Lasts) : Rested (e :: log) := by
  intro between i older h
  cases between with
  | nil =>
    cases h
    exact he.elim
  | cons x between =>
    cases h
    exact ⟨e, List.mem_cons_self, he⟩

theorem rested_cons {e : Entry} {log : List Entry} (hdue : ∀ i, e ≠ .due i) (he : ¬ e.Lasts) :
    Rested (e :: log) ↔ Rested log := by
  constructor
  · intro h between i older hlog
    obtain ⟨x, hx, hlasts⟩ := h (e :: between) i older (by rw [hlog, List.cons_append])
    rcases List.mem_cons.mp hx with rfl | hx
    · exact absurd hlasts he
    · exact ⟨x, hx, hlasts⟩
  · intro h between i older hlog
    cases between with
    | nil =>
      cases hlog
      exact absurd rfl (hdue i)
    | cons x between =>
      cases hlog
      obtain ⟨y, hy, hlasts⟩ := h between i older rfl
      exact ⟨y, List.mem_cons_of_mem _ hy, hlasts⟩

theorem rested_of_sentAt {e : Entry} {t : Int} (log : List Entry) (he : e.sentAt = some t) :
    Rested (e :: log) ↔ Rested log := by
  cases e with
  | due i => cases he
  | wait timeout => cases he
  | sent t => exact rested_cons (by simp) id
  | triggered t => exact rested_cons (by simp) id

theorem not_rested_due (i : Int) (log : List Entry) : ¬ Rested (.due i :: log) := by
  intro h
  obtain ⟨e, he, -⟩ := h [] i log rfl
  cases he

theorem answers_of_sentAt {t : Int} (t₁ : Int) {log : List Entry} (h : Answers t log) :
    Answers t (.triggered t₁ :: log) := by
  intro between t₀ older hlog hnone
  cases between with
  | nil => cases hlog
  | cons x between =>
    cases hlog
    cases hnone _ List.mem_cons_self

def lastSent (log : List Entry) : Option Int := log.findSome? Entry.sentAt

theorem lastSent_of_split {between older : List Entry} {t : Int}
    (hnone : ∀ e ∈ between, e.sentAt = none) :
    lastSent (between ++ .sent t :: older) = some t := by
  have hbetween : between.findSome? Entry.sentAt = none := List.findSome?_eq_none_iff.mpr hnone
  simp only [lastSent, List.findSome?_append, hbetween, Option.none_or, List.findSome?_cons,
    Entry.sentAt]

theorem answers_due {t i : Int} {log : List Entry}
    (h : ∀ t₁, lastSent log = some t₁ → t₁ + seconds i ≤ t) : Answers t (.due i :: log) := by
  intro between t₁ older hlog hnone
  cases between with
  | nil => cases hlog
  | cons x between =>
    cases hlog
    refine ⟨i, between, rfl, h t₁ (lastSent_of_split ?_)⟩
    intro e he
    exact hnone e (List.mem_cons_of_mem _ he)

/-! ### Successes are apart -/

theorem Answers.mono {t t' : Int} {log : List Entry} (h : Answers t log) (htt' : t ≤ t') :
    Answers t' log := by
  intro between t₁ older hlog hnone
  obtain ⟨i, rest, hbetween, ht⟩ := h between t₁ older hlog hnone
  exact ⟨i, rest, hbetween, ht.trans htt'⟩

/-- What every step keeps. -/
structure Inv (s : State) : Prop where
  apart : Apart s.log
  last : ∀ t, lastSent s.log = some t → s.schedule.lastSentAt = some t
  answers : s.pc = .due → Answers s.now s.log
  called : s.pc = .due ∨ s.pc = .returned → ¬ Rested s.log

theorem inv_initial (schedule : Controller) (now : Int) : Inv (initial schedule now) where
  apart := each_nil _
  last := by
    intro t h
    cases h
  answers := by
    intro h
    cases h
  called := by
    rintro (h | h) <;> cases h

theorem Inv.keep {s s' : State} (h : Inv s) (hlog : s'.log = s.log)
    (hlast : s'.schedule.lastSentAt = s.schedule.lastSentAt) (hnow : s.now ≤ s'.now)
    (hpc : s'.pc = s.pc ∨ s'.pc ≠ .due ∧ s'.pc ≠ .returned) : Inv s' where
  apart := by
    rw [hlog]
    exact h.apart
  last := by
    rw [hlog, hlast]
    exact h.last
  answers := by
    intro hdue
    rcases hpc with hpc | hpc
    · rw [hlog]
      exact (h.answers (hpc ▸ hdue)).mono hnow
    · exact absurd hdue hpc.1
  called := by
    intro hcalled
    rcases hpc with hpc | hpc
    · rw [hlog]
      exact h.called (hpc ▸ hcalled)
    · rcases hcalled with hcalled | hcalled
      · exact absurd hcalled hpc.1
      · exact absurd hcalled hpc.2

theorem apart_cons_of_ne {e : Entry} {log : List Entry} (he : ∀ t, e ≠ .sent t) (h : Apart log) :
    Apart (e :: log) :=
  each_cons.mpr ⟨fun t ht => absurd ht (he t), h⟩

theorem spaced_cons_of_ne {e : Entry} {log : List Entry} (he : ∀ i, e ≠ .due i)
    (h : Spaced log) : Spaced (e :: log) :=
  each_cons.mpr ⟨fun i hi => absurd hi (he i), h⟩

theorem Inv.waiting {s : State} (h : Inv s) {pc : Pc} (timeout : Option Int)
    (hpc : pc ≠ .due ∧ pc ≠ .returned) : Inv (s.waiting pc timeout) where
  apart := apart_cons_of_ne (by simp) h.apart
  last := h.last
  answers := fun hdue => absurd hdue hpc.1
  called := fun hcalled => (hcalled.elim hpc.1 hpc.2).elim

theorem Inv.read {s : State} (h : Inv s) (tick : Nat) : Inv (s.read tick) :=
  h.keep rfl rfl (Int.le_add_of_nonneg_right (Int.natCast_nonneg tick)) (Or.inl rfl)

theorem Inv.goto {s : State} (h : Inv s) {pc : Pc} (hpc : pc ≠ .due ∧ pc ≠ .returned) :
    Inv { s with pc := pc } :=
  h.keep rfl rfl le_rfl (Or.inr hpc)

theorem Inv.sleep {s : State} (h : Inv s) : Inv s.sleep := by
  simp only [State.sleep]
  split
  · exact h.keep rfl rfl le_rfl (Or.inr (by simp))
  · exact h.waiting _ (by simp)

theorem Inv.loop {s : State} (h : Inv s) : Inv s.loop := by
  simp only [State.loop]
  split
  · exact h.goto (by simp)
  split
  · exact h.waiting none (by simp)
  split
  · rename_i hzero hdue
    refine ⟨apart_cons_of_ne (by simp) h.apart, h.last, fun _ => answers_due ?_,
      fun _ => not_rested_due _ _⟩
    intro t₁ ht₁
    rw [Controller.isDueNow, if_neg hzero, h.last t₁ ht₁] at hdue
    exact of_decide_eq_true hdue
  · exact h.goto (by simp)

theorem Inv.run {s s' : State} {tick : Nat} (h : Inv s) (hrun : s.run tick = some s') :
    Inv s' := by
  simp only [State.run] at hrun
  split at hrun
  · split at hrun <;> cases hrun
    · exact h.waiting _ (by simp)
    · exact h.goto (by simp)
  · cases hrun
    exact (h.read tick).loop
  · split at hrun <;> cases hrun
    · exact h.goto (by simp)
    · exact (h.read tick).sleep
  · cases hrun
    exact (h.read tick).sleep
  · cases hrun

theorem Inv.wake {s s' : State} (h : Inv s) (hwake : s.wake = some s') : Inv s' := by
  simp only [State.wake] at hwake
  split at hwake
  · cases hwake
    exact h.goto (by simp)
  · cases hwake
    exact h.goto (by simp)
  · split at hwake <;> cases hwake
    exact h.goto (by simp)
  · cases hwake

theorem Inv.markSent {s : State} (h : Inv s) {e : Entry} {pc : Pc} (he : e.sentAt = some s.now)
    (happart : Apart (e :: s.log)) (hanswers : pc = .due → Answers s.now (e :: s.log))
    (hpc : pc = .due ∨ pc = .returned → s.pc = .due ∨ s.pc = .returned) :
    Inv { s with schedule := s.schedule.markSent s.now, pc := pc, log := e :: s.log } where
  apart := happart
  last := by
    intro t ht
    rw [lastSent, List.findSome?_cons, he] at ht
    exact ht
  answers := hanswers
  called := by
    intro hcalled
    have hlog := h.called (hpc hcalled)
    exact fun hrested => hlog ((rested_of_sentAt s.log he).mp hrested)

theorem Inv.finish {s s' : State} {outcome : Outcome} {tick : Nat} (h : Inv s)
    (hfinish : s.finish outcome tick = some s') : Inv s' := by
  simp only [State.finish] at hfinish
  split at hfinish
  · rename_i hpc
    cases hfinish
    refine (h.read tick).markSent rfl ?_ (by simp) fun _ => Or.inl hpc
    refine each_cons.mpr ⟨?_, h.apart⟩
    intro t ht
    cases ht
    exact (h.read tick).answers hpc
  · rename_i hpc
    cases hfinish
    exact ⟨h.apart, h.last, fun hdue => absurd hdue (by simp), fun _ => h.called (Or.inl hpc)⟩
  · cases hfinish
    exact h.goto (by simp)
  · cases hfinish

theorem Inv.trigger {s : State} (h : Inv s) (send : SendOutcome) (tick : Nat) :
    Inv (s.trigger send tick) := by
  simp only [State.trigger]
  split
  · refine (h.read tick).markSent rfl ?_ ?_ id
    · exact apart_cons_of_ne (by simp) h.apart
    · intro hpc
      exact answers_of_sentAt _ ((h.read tick).answers hpc)
  · exact h.read tick

theorem inv_step {s s' : State} {e : Event} (h : Inv s) (hstep : step s e = some s') : Inv s' := by
  cases e with
  | run tick => exact h.run hstep
  | wake => exact h.wake hstep
  | finish outcome tick => exact h.finish hstep
  | setInterval minutes tick =>
    obtain ⟨-, hs'⟩ := Option.ite_none_right_eq_some.mp hstep
    cases hs'
    exact (h.read tick).keep rfl rfl le_rfl (Or.inl rfl)
  | trigger send tick =>
    obtain ⟨-, hs'⟩ := Option.ite_none_right_eq_some.mp hstep
    cases hs'
    exact h.trigger send tick
  | halt =>
    obtain ⟨-, hs'⟩ := Option.ite_none_right_eq_some.mp hstep
    cases hs'
    exact h.keep rfl rfl le_rfl (Or.inl rfl)
  | cancel =>
    obtain ⟨-, hs'⟩ := Option.ite_none_right_eq_some.mp hstep
    cases hs'
    exact h.goto (by simp)

/-! ### The loop rests -/

/-- The interval is positive and nothing was sent yet, or it has not passed since the last
    success. -/
def Controller.pending (c : Controller) (now : Int) : Bool :=
  match c.lastSentAt with
  | none => 0 < c.interval
  | some t => now < t + seconds c.interval

/-- Where the loop goes on after `on_due`, the next broadcast is pending or the interval is 0. -/
def Rests (s : State) : Event → Prop
  | .run tick =>
    s.pc = .returned → s.running = true →
      s.schedule.interval = 0 ∨ s.schedule.pending (s.now + tick) = true
  | _ => True

instance (s : State) : (e : Event) → Decidable (Rests s e)
  | .run tick =>
    inferInstanceAs (Decidable (s.pc = .returned → s.running = true →
      s.schedule.interval = 0 ∨ s.schedule.pending (s.now + tick) = true))
  | .wake | .finish .. | .setInterval .. | .trigger .. | .halt | .cancel => isTrue trivial

theorem sleepUntilNext_pos_iff {c : Controller} {now : Int} (hzero : c.interval ≠ 0) :
    0 < c.sleepUntilNext now ↔ c.pending now = true := by
  simp only [Controller.sleepUntilNext, Controller.pending, if_neg hzero]
  cases c.lastSentAt with
  | none =>
    rw [decide_eq_true_iff]
    simp only [seconds]
    omega
  | some t =>
    rw [decide_eq_true_iff]
    simp only [seconds]
    omega

theorem isDueNow_of_not_pending {c : Controller} {now later : Int} (hzero : c.interval ≠ 0)
    (hpending : c.pending now ≠ true) (hlater : now ≤ later) : c.isDueNow later = true := by
  simp only [Controller.isDueNow, if_neg hzero]
  simp only [Controller.pending] at hpending
  cases hlast : c.lastSentAt with
  | none => rfl
  | some t =>
    rw [hlast] at hpending
    have hpast : t + seconds c.interval ≤ now := not_lt.mp fun h => hpending (decide_eq_true h)
    exact decide_eq_true (hpast.trans hlater)

/-- Where the loop comes to its next wait, or call, without one since the last call. -/
def State.Resting (s : State) : Prop :=
  match s.pc with
  | .due | .returned | .ended => True
  | .head => Rested s.log ∨ s.schedule.interval = 0
  | .start | .startup | .paused | .rest | .sleeping => Rested s.log

structure Calm (s : State) : Prop where
  spaced : Spaced s.log
  resting : s.Resting

theorem State.Resting.of_rested {s : State} (h : Rested s.log) : s.Resting := by
  simp only [State.Resting]
  split
  · trivial
  · trivial
  · trivial
  · exact Or.inl h
  all_goals exact h

theorem calm_initial (schedule : Controller) (now : Int) : Calm (initial schedule now) :=
  ⟨each_nil _, State.Resting.of_rested rested_nil⟩

theorem Calm.waiting {s : State} (h : Calm s) (pc : Pc) {timeout : Option Int}
    (htimeout : ∀ n, timeout = some n → 0 < n) : Calm (s.waiting pc timeout) where
  spaced := spaced_cons_of_ne (by simp) h.spaced
  resting := by
    refine State.Resting.of_rested (rested_of_lasts _ ?_)
    cases timeout with
    | none => trivial
    | some n => exact htimeout n rfl

theorem Calm.read {s : State} (h : Calm s) (tick : Nat) : Calm (s.read tick) :=
  ⟨h.spaced, h.resting⟩

theorem Calm.sleep {s : State} (h : Calm s)
    (hrests : Rested s.log ∨ s.schedule.interval = 0 ∨ 0 < s.schedule.sleepUntilNext s.now) :
    Calm s.sleep := by
  simp only [State.sleep]
  split
  · rename_i hremaining
    refine ⟨h.spaced, ?_⟩
    rcases hrests with hrested | hzero | hpos
    · exact State.Resting.of_rested hrested
    · exact Or.inr hzero
    · omega
  · rename_i hremaining
    refine h.waiting .sleeping ?_
    intro n hn
    cases hn
    omega

theorem Calm.loop {s : State} (h : Calm s) (hrests : Rested s.log ∨ s.schedule.interval = 0) :
    Calm s.loop := by
  simp only [State.loop]
  split
  · exact ⟨h.spaced, trivial⟩
  split
  · exact h.waiting .paused (by simp)
  rename_i hzero
  have hrested := hrests.resolve_right hzero
  split
  · exact ⟨each_cons.mpr ⟨fun _ _ => hrested, h.spaced⟩, trivial⟩
  · exact ⟨h.spaced, hrested⟩

theorem Calm.run {s s' : State} {tick : Nat} (h : Calm s) (hrests : Rests s (.run tick))
    (hrun : s.run tick = some s') : Calm s' := by
  have hresting := h.resting
  simp only [State.run] at hrun
  simp only [State.Resting] at hresting
  split at hrun
  · rename_i hpc
    rw [hpc] at hresting
    split at hrun <;> cases hrun
    · rename_i hdelay
      refine h.waiting .startup ?_
      intro n hn
      cases hn
      simp only [seconds]
      omega
    · exact ⟨h.spaced, Or.inl hresting⟩
  · rename_i hpc
    rw [hpc] at hresting
    cases hrun
    exact (h.read tick).loop hresting
  · rename_i hpc
    split at hrun <;> cases hrun
    · exact ⟨h.spaced, trivial⟩
    · rename_i hrunning
      refine (h.read tick).sleep (Or.inr ?_)
      have hrests := hrests hpc (by simpa using hrunning)
      by_cases hzero : s.schedule.interval = 0
      · exact Or.inl hzero
      · exact Or.inr ((sleepUntilNext_pos_iff hzero).mpr (hrests.resolve_left hzero))
  · rename_i hpc
    rw [hpc] at hresting
    cases hrun
    exact (h.read tick).sleep (Or.inl hresting)
  · cases hrun

theorem Calm.wake {s s' : State} (h : Calm s) (hwake : s.wake = some s') : Calm s' := by
  have hresting := h.resting
  simp only [State.wake] at hwake
  simp only [State.Resting] at hresting
  split at hwake
  · rename_i hpc
    rw [hpc] at hresting
    cases hwake
    exact ⟨h.spaced, Or.inl hresting⟩
  · rename_i hpc
    rw [hpc] at hresting
    cases hwake
    exact ⟨h.spaced, Or.inl hresting⟩
  · rename_i hpc
    rw [hpc] at hresting
    split at hwake <;> cases hwake
    exact ⟨h.spaced, Or.inl hresting⟩
  · cases hwake

theorem Calm.finish {s s' : State} {outcome : Outcome} {tick : Nat} (h : Calm s)
    (hfinish : s.finish outcome tick = some s') : Calm s' := by
  simp only [State.finish] at hfinish
  split at hfinish <;> cases hfinish
  · exact ⟨spaced_cons_of_ne (by simp) h.spaced, trivial⟩
  · exact ⟨h.spaced, trivial⟩
  · exact ⟨h.spaced, trivial⟩

theorem State.Resting.of_awaits {s s' : State} (h : s.Resting) (hawaits : s.awaits = true)
    (hpc : s'.pc = s.pc) (hlog : Rested s.log → Rested s'.log) : s'.Resting := by
  simp only [State.Resting, State.awaits, hpc] at *
  cases hs : s.pc <;> simp only [hs] at * <;> first | trivial | exact hlog h

theorem Calm.trigger {s : State} (h : Calm s) (hawaits : s.awaits = true) (send : SendOutcome)
    (tick : Nat) : Calm (s.trigger send tick) := by
  simp only [State.trigger]
  split
  · refine ⟨spaced_cons_of_ne (by simp) h.spaced, h.resting.of_awaits hawaits rfl ?_⟩
    exact (rested_of_sentAt s.log rfl).mpr
  · exact h.read tick

theorem calm_step {s s' : State} {e : Event} (h : Calm s) (hrests : Rests s e)
    (hstep : step s e = some s') : Calm s' := by
  cases e with
  | run tick => exact h.run hrests hstep
  | wake => exact h.wake hstep
  | finish outcome tick => exact h.finish hstep
  | setInterval minutes tick =>
    obtain ⟨hawaits, hs'⟩ := Option.ite_none_right_eq_some.mp hstep
    cases hs'
    exact ⟨h.spaced, h.resting.of_awaits hawaits rfl id⟩
  | trigger send tick =>
    obtain ⟨hawaits, hs'⟩ := Option.ite_none_right_eq_some.mp hstep
    cases hs'
    exact h.trigger hawaits send tick
  | halt =>
    obtain ⟨hawaits, hs'⟩ := Option.ite_none_right_eq_some.mp hstep
    cases hs'
    exact ⟨h.spaced, h.resting.of_awaits hawaits rfl id⟩
  | cancel =>
    obtain ⟨-, hs'⟩ := Option.ite_none_right_eq_some.mp hstep
    cases hs'
    exact ⟨h.spaced, trivial⟩

/-! ### The loop spins -/

theorem step_head {s s' : State} {e : Event} (hpc : s.pc = .head) (h : step s e = some s') :
    ∃ tick : Nat, s' = (s.read tick).loop := by
  cases e with
  | run tick =>
    simp only [step, State.run, hpc, Option.some.injEq] at h
    exact ⟨tick, h.symm⟩
  | _ => simp [step, State.wake, State.finish, State.awaits, hpc] at h

theorem spins {s s' : State} {e : Event} (h : Inv s) (hrests : ¬ Rests s e)
    (hstep : step s e = some s') :
    (∃ e', (step s' e').isSome) ∧ ∀ e' s'', step s' e' = some s'' → ¬ Spaced s''.log := by
  cases e with
  | run tick =>
    simp only [Rests, Classical.not_imp, not_or] at hrests
    obtain ⟨hpc, hrunning, hzero, hpending⟩ := hrests
    have hsleep : ¬ 0 < s.schedule.sleepUntilNext (s.now + tick) := by
      rwa [sleepUntilNext_pos_iff hzero]
    simp only [step, State.run, hpc, hrunning, reduceCtorEq, if_false, State.sleep, State.read,
      if_pos (not_lt.mp hsleep), Option.some.injEq] at hstep
    subst hstep
    refine ⟨⟨.run 0, rfl⟩, ?_⟩
    intro e' s'' hstep'
    obtain ⟨tick', rfl⟩ := step_head rfl hstep'
    have hdue : s.schedule.isDueNow (s.now + tick + tick') = true :=
      isDueNow_of_not_pending hzero hpending (by omega)
    have hcall : Controller.isDueNow { s.schedule with intervalChanged := false }
        (s.now + tick + tick') = true := hdue
    simp only [State.loop, State.read, reduceCtorEq, if_false, hzero, hcall, if_true]
    intro hspaced
    exact h.called (Or.inr hpc) ((each_cons.mp hspaced).1 _ rfl)
  | _ => exact absurd trivial hrests

/-- **The loop spins exactly where nothing is pending.**  In every run whose steps meet the
    guard, two calls of `on_due` have a lasting wait between, and two successes with no trigger
    between are the interval apart; the latter is so in every run, and a step that does not meet
    the guard is followed by a call of `on_due` with no wait since the last one. -/
theorem spaced_where_rests (schedule : Controller) (now : Int) :
    (∀ s, Reaches step Rests (initial schedule now) s → Spaced s.log ∧ Apart s.log) ∧
      ∀ s, Reaches step Always (initial schedule now) s →
        Apart s.log ∧
          ∀ e s', step s e = some s' → ¬ Rests s e →
            (∃ e', (step s' e').isSome) ∧
              ∀ e' s'', step s' e' = some s'' → ¬ Spaced s''.log := by
  constructor
  · intro s hs
    have hinv : Inv s :=
      hs.invariant (inv_initial schedule now) fun _ _ _ h _ hstep => inv_step h hstep
    have hcalm : Calm s :=
      hs.invariant (calm_initial schedule now) fun _ _ _ h hrests hstep =>
        calm_step h hrests hstep
    exact ⟨hcalm.spaced, hinv.apart⟩
  · intro s hs
    have hinv : Inv s :=
      hs.invariant (inv_initial schedule now) fun _ _ _ h _ hstep => inv_step h hstep
    refine ⟨hinv.apart, ?_⟩
    intro e s' hstep hrests
    exact spins hinv hrests hstep

/-- The broadcaster as it is started with no startup delay and an interval of five minutes. -/
def fiveMinutes : Controller := (Controller.new 0 300).begin 0

/-- Two successes, five minutes apart. -/
theorem spaced_where_rests_five_minutes :
    ∃ log, log = [.sent 302000000, .due 300, .wait (some 300000000), .sent 1000000, .due 300] ∧
      Spaced log ∧ Apart log := by
  have hreplay : (replay step Rests (initial fiveMinutes 0) [.run 0, .run 0,
      .finish .sent 1000000, .run 0, .wake, .run 300000000, .finish .sent 1000000]).map
        State.log =
      some [.sent 302000000, .due 300, .wait (some 300000000), .sent 1000000, .due 300] := by
    decide
  obtain ⟨s, hs, hlog⟩ := exists_reaches_of_replay _ hreplay
  exact ⟨s.log, hlog, (spaced_where_rests fiveMinutes 0).1 s hs⟩

/-- A broadcast that fails five minutes after a success is tried again with no wait. -/
theorem failed_broadcast_spins :
    ∃ s, Reaches step Always (initial fiveMinutes 0) s ∧ ¬ Spaced s.log := by
  have hreplay : (replay step Always (initial fiveMinutes 0) [.run 0, .run 0,
      .finish .sent 1000000, .run 0, .wake, .run 300000000, .finish .unsent 0, .run 0,
      .run 0]).map State.log =
      some [.due 300, .due 300, .wait (some 300000000), .sent 1000000, .due 300] := by
    decide
  obtain ⟨s, hs, hlog⟩ := exists_reaches_of_replay _ hreplay
  refine ⟨s, hs, ?_⟩
  rw [hlog]
  intro hspaced
  exact not_rested_due 300 _ ((each_cons.mp hspaced).1 300 rfl)

end Meshpoint.BroadcastSchedule
