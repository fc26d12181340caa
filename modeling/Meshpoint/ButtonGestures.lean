import Mathlib.Tactic.Linarith

/-!
# The gestures of the user button

`ButtonController` polls the button: a short press adverts on its release, a long one restarts
the service while it is held. Times are the exact readings of the clock in seconds, and an
effect is what one `_tick` calls, the LED's blinks included.

`gestures_spec` accounts for the effects of every sequence of samples run by run.
-/

namespace Meshpoint.ButtonGestures

def DEBOUNCE_S : ℚ := 1 / 20
def WARN_AFTER_S : ℚ := 1 / 2

structure ButtonController where
  holdTimeS : ℚ := 3
  advertCooldownS : ℚ := 30
  /-- An LED is wired for feedback. -/
  led : Bool := false

/-- The fields `_tick` reads and sets. -/
structure State where
  armed : Bool := false
  pressedAt : Option ℚ := none
  longFired : Bool := false
  cooldownUntil : ℚ := 0

structure Sample where
  pressed : Bool
  now : ℚ

inductive Effect where
  | onLongPress
  | onShortPress
  | flash (pattern : String) (seconds : ℚ)
  deriving DecidableEq

variable (c : ButtonController)

def flash (pattern : String) (seconds : ℚ) : List Effect :=
  if c.led then [.flash pattern seconds] else []

def shortPress (s : State) (now : ℚ) : State × List Effect :=
  if now < s.cooldownUntil then (s, flash c "off" 1)
  else ({ s with cooldownUntil := now + c.advertCooldownS },
    flash c "fast" (1 / 2) ++ [.onShortPress])

def tick (s : State) (x : Sample) : State × List Effect :=
  if s.armed = false then
    -- held at startup: everything is ignored until a release is seen
    if x.pressed then (s, []) else ({ s with armed := true }, [])
  else if x.pressed then
    match s.pressedAt with
    | none => ({ s with pressedAt := some x.now, longFired := false }, [])
    | some start =>
      if s.longFired then (s, [])
      else if c.holdTimeS ≤ x.now - start then ({ s with longFired := true }, [.onLongPress])
      else if WARN_AFTER_S ≤ x.now - start then (s, flash c "fast" (3 / 10))
      else (s, [])
  else
    match s.pressedAt with
    | none => (s, [])
    | some start =>
      let idle := { s with pressedAt := none, longFired := false }
      if s.longFired = false ∧ DEBOUNCE_S ≤ x.now - start then shortPress c idle x.now
      else (idle, [])

def afterFrom (s : State) (samples : List Sample) : State :=
  samples.foldl (fun s x => (tick c s x).1) s

def after (samples : List Sample) : State := afterFrom c {} samples

/-- What each of `samples` calls, from a state on. -/
def effects : State → List Sample → List (List Effect)
  | _, [] => []
  | s, x :: samples => (tick c s x).2 :: effects (tick c s x).1 samples

def restarts (es : List (List Effect)) : Nat := es.flatten.count .onLongPress
def adverts (es : List (List Effect)) : Nat := es.flatten.count .onShortPress

theorem after_append (samples later : List Sample) :
    after c (samples ++ later) = afterFrom c (after c samples) later :=
  List.foldl_append

@[simp] theorem restarts_cons (e : List Effect) (es : List (List Effect)) :
    restarts (e :: es) = e.count .onLongPress + restarts es := by
  simp [restarts]

@[simp] theorem adverts_cons (e : List Effect) (es : List (List Effect)) :
    adverts (e :: es) = e.count .onShortPress + adverts es := by
  simp [adverts]

/-! ### Runs of pressed samples -/

/-- `run` is a maximal run of pressed samples, and the button has been released before it. -/
structure MaximalRun (before run later : List Sample) : Prop where
  ne_nil : run ≠ []
  pressed : ∀ x ∈ run, x.pressed = true
  released_before : ∃ x ∈ before.getLast?, x.pressed = false
  released_after : ∀ x ∈ later.head?, x.pressed = false

/-- The sample comes at least the hold time after the first of the run. -/
def HeldAt (run : List Sample) (x : Sample) : Prop :=
  ∃ first ∈ run.head?, c.holdTimeS ≤ x.now - first.now

/-- What a maximal run fires: its own samples, and the release that ends it. -/
structure RunFires (before run later : List Sample) : Prop where
  restart_once : restarts (effects c (after c before) run) ≤ 1
  restart_iff : restarts (effects c (after c before) run) = 1 ↔ ∃ x ∈ run.tail, HeldAt c run x
  restart_iff_of_pos : 0 < c.holdTimeS →
    (restarts (effects c (after c before) run) = 1 ↔ ∃ x ∈ run, HeldAt c run x)
  no_restart_on_release : restarts (effects c (after c (before ++ run)) (later.take 1)) = 0
  no_advert_while_held : adverts (effects c (after c before) run) = 0
  advert_once : adverts (effects c (after c (before ++ run)) (later.take 1)) ≤ 1
  not_both : restarts (effects c (after c before) run) = 0 ∨
    adverts (effects c (after c (before ++ run)) (later.take 1)) = 0

/-! ### One tick -/

/-- Nothing is pressed before the button is armed, and nothing has fired unless it is. -/
structure Consistent (s : State) : Prop where
  unarmed : s.armed = false → s.pressedAt = none
  idle : s.pressedAt = none → s.longFired = false

/-- The state of a button that is not pressed and has been released before. -/
def Idle (s : State) : Prop := s.armed = true ∧ s.pressedAt = none ∧ s.longFired = false

@[simp] theorem count_restart_flash (pattern : String) (seconds : ℚ) :
    (flash c pattern seconds).count .onLongPress = 0 := by
  unfold flash
  split <;> simp

@[simp] theorem count_advert_flash (pattern : String) (seconds : ℚ) :
    (flash c pattern seconds).count .onShortPress = 0 := by
  unfold flash
  split <;> simp

theorem shortPress_cases (s : State) (now : ℚ) :
    (s.cooldownUntil ≤ now ∧
      (shortPress c s now).1 = { s with cooldownUntil := now + c.advertCooldownS } ∧
      (shortPress c s now).2.count .onLongPress = 0 ∧
      (shortPress c s now).2.count .onShortPress = 1) ∨
    ((shortPress c s now).1 = s ∧
      (shortPress c s now).2.count .onLongPress = 0 ∧
      (shortPress c s now).2.count .onShortPress = 0) := by
  unfold shortPress
  split
  · right
    simp
  · left
    rename_i hnow
    refine ⟨not_lt.mp hnow, rfl, ?_, ?_⟩ <;> simp [List.count_append]

theorem tick_first {s : State} (hs : Idle s) {x : Sample} (hx : x.pressed = true) :
    tick c s x = ({ s with pressedAt := some x.now, longFired := false }, []) := by
  obtain ⟨harmed, hpressed, -⟩ := hs
  simp [tick, harmed, hpressed, hx]

/-- A pressed sample of a run under way restarts when it is the first to be held long enough,
    and never adverts. -/
theorem tick_held {s : State} (harmed : s.armed = true) {start : ℚ}
    (hstart : s.pressedAt = some start) {x : Sample} (hx : x.pressed = true) :
    (tick c s x).1 =
        { s with longFired := s.longFired || decide (c.holdTimeS ≤ x.now - start) } ∧
      (tick c s x).2.count .onLongPress =
        (if s.longFired = false ∧ c.holdTimeS ≤ x.now - start then 1 else 0) ∧
      (tick c s x).2.count .onShortPress = 0 := by
  obtain ⟨armed, pressedAt, longFired, cooldownUntil⟩ := s
  subst harmed hstart
  cases longFired with
  | true => simp [tick, hx]
  | false =>
    by_cases hheld : c.holdTimeS ≤ x.now - start
    · simp [tick, hx, hheld]
    · by_cases hwarn : WARN_AFTER_S ≤ x.now - start
      · simp [tick, hx, hheld, hwarn]
      · simp [tick, hx, hheld, hwarn]

/-- A released sample leaves an idle state. It restarts nothing, and it adverts at most once,
    at the end of a run that has not restarted and after the cooldown. -/
theorem tick_released {s : State} (hs : Consistent s) {x : Sample} (hx : x.pressed = false) :
    Idle (tick c s x).1 ∧
      (tick c s x).2.count .onLongPress = 0 ∧
      ((tick c s x).2.count .onShortPress = 0 ∧
          (tick c s x).1.cooldownUntil = s.cooldownUntil ∨
        (tick c s x).2.count .onShortPress = 1 ∧ s.longFired = false ∧
          s.pressedAt ≠ none ∧ s.cooldownUntil ≤ x.now ∧
          (tick c s x).1.cooldownUntil = x.now + c.advertCooldownS) := by
  cases harmed : s.armed with
  | false =>
    have hpressed := hs.unarmed harmed
    have hlong := hs.idle hpressed
    simp [tick, harmed, hx, Idle, hpressed, hlong]
  | true =>
    cases hpressed : s.pressedAt with
    | none =>
      have hlong := hs.idle hpressed
      simp [tick, harmed, hx, Idle, hpressed, hlong]
    | some start =>
      by_cases hshort : s.longFired = false ∧ DEBOUNCE_S ≤ x.now - start
      · have htick : tick c s x =
            shortPress c { s with pressedAt := none, longFired := false } x.now := by
          simp [tick, harmed, hx, hpressed, hshort]
        rw [htick]
        rcases shortPress_cases c { s with pressedAt := none, longFired := false } x.now with
          ⟨hnow, hstate, hrestart, hadvert⟩ | ⟨hstate, hrestart, hadvert⟩
        · rw [hstate]
          refine ⟨⟨harmed, rfl, rfl⟩, hrestart, Or.inr ⟨hadvert, hshort.1, ?_, hnow, rfl⟩⟩
          simp
        · rw [hstate]
          exact ⟨⟨harmed, rfl, rfl⟩, hrestart, Or.inl ⟨hadvert, rfl⟩⟩
      · have htick : tick c s x = ({ s with pressedAt := none, longFired := false }, []) := by
          simp [tick, harmed, hx, hpressed, hshort]
        rw [htick]
        exact ⟨⟨harmed, rfl, rfl⟩, rfl, Or.inl ⟨rfl, rfl⟩⟩

theorem Idle.consistent {s : State} (h : Idle s) : Consistent s where
  unarmed := fun hun => by rw [h.1] at hun; cases hun
  idle := fun _ => h.2.2

theorem tick_unarmed {s : State} (harmed : s.armed = false) {x : Sample}
    (hx : x.pressed = true) : tick c s x = (s, []) := by
  simp [tick, harmed, hx]

theorem Consistent.tick {s : State} (hs : Consistent s) (x : Sample) :
    Consistent (tick c s x).1 := by
  cases hx : x.pressed with
  | false => exact (tick_released c hs hx).1.consistent
  | true =>
    cases harmed : s.armed with
    | false =>
      rw [tick_unarmed c harmed hx]
      exact hs
    | true =>
      cases hpressed : s.pressedAt with
      | none =>
        rw [tick_first c ⟨harmed, hpressed, hs.idle hpressed⟩ hx]
        exact ⟨fun h => absurd (harmed.symm.trans h) (by decide), fun h => nomatch h⟩
      | some start =>
        rw [(tick_held c harmed hpressed hx).1]
        refine ⟨fun h => absurd (harmed.symm.trans h) (by decide), fun h => ?_⟩
        exact absurd (hpressed.symm.trans h) (by simp)

/-! ### Runs -/

theorem consistent_afterFrom {s : State} (hs : Consistent s) (samples : List Sample) :
    Consistent (afterFrom c s samples) := by
  induction samples generalizing s with
  | nil => exact hs
  | cons x samples ih => exact ih (hs.tick c x)

theorem consistent_after (samples : List Sample) : Consistent (after c samples) :=
  consistent_afterFrom c ⟨fun _ => rfl, fun _ => rfl⟩ samples

theorem idle_after {before : List Sample} (h : ∃ x ∈ before.getLast?, x.pressed = false) :
    Idle (after c before) := by
  obtain ⟨x, hx, hreleased⟩ := h
  obtain ⟨samples, rfl⟩ := List.getLast?_eq_some_iff.mp hx
  rw [after_append]
  exact (tick_released c (consistent_after c samples) hreleased).1

/-- **What a run under way fires.**  It restarts once if it has not before and one of its
    samples is held long enough, and it remembers that it did. -/
theorem effects_held {start : ℚ} {xs : List Sample} (hxs : ∀ x ∈ xs, x.pressed = true)
    {s : State} (harmed : s.armed = true) (hstart : s.pressedAt = some start) :
    afterFrom c s xs = { s with
        longFired := s.longFired || xs.any fun x => decide (c.holdTimeS ≤ x.now - start) } ∧
      restarts (effects c s xs) =
        (if s.longFired = false ∧ ∃ x ∈ xs, c.holdTimeS ≤ x.now - start then 1 else 0) ∧
      adverts (effects c s xs) = 0 := by
  induction xs generalizing s with
  | nil => simp [afterFrom, effects, restarts, adverts]
  | cons x xs ih =>
    have hx := hxs x List.mem_cons_self
    obtain ⟨hstate, hrestart, hadvert⟩ := tick_held c harmed hstart hx
    obtain ⟨ihState, ihRestarts, ihAdverts⟩ :=
      ih (fun y hy => hxs y (List.mem_cons_of_mem _ hy)) (s := (tick c s x).1)
        (by rw [hstate]; exact harmed) (by rw [hstate]; exact hstart)
    refine ⟨?_, ?_, ?_⟩
    · change afterFrom c (tick c s x).1 xs = _
      rw [ihState, hstate]
      simp [Bool.or_assoc]
    · change restarts ((tick c s x).2 :: effects c (tick c s x).1 xs) = _
      rw [restarts_cons, hrestart, ihRestarts, hstate]
      cases hlong : s.longFired with
      | true => simp
      | false =>
        by_cases hheld : c.holdTimeS ≤ x.now - start
        · simp [hheld]
        · simp [hheld]
    · change adverts ((tick c s x).2 :: effects c (tick c s x).1 xs) = _
      rw [adverts_cons, hadvert, ihAdverts]

/-- **Before the first release.**  Pressed samples at startup call nothing. -/
theorem effects_unarmed {s : State} (harmed : s.armed = false) {held : List Sample}
    (hheld : ∀ x ∈ held, x.pressed = true) : ∀ es ∈ effects c s held, es = [] := by
  induction held with
  | nil => intro es hes; cases hes
  | cons x held ih =>
    have htick := tick_unarmed c harmed (hheld x List.mem_cons_self)
    intro es hes
    rcases List.mem_cons.mp hes with rfl | hes
    · rw [htick]
    · rw [htick] at hes
      exact ih (fun y hy => hheld y (List.mem_cons_of_mem _ hy)) es hes

theorem afterFrom_unarmed {s : State} (harmed : s.armed = false) {held : List Sample}
    (hheld : ∀ x ∈ held, x.pressed = true) : afterFrom c s held = s := by
  induction held with
  | nil => rfl
  | cons x held ih =>
    change afterFrom c (tick c s x).1 held = s
    rw [tick_unarmed c harmed (hheld x List.mem_cons_self)]
    exact ih fun y hy => hheld y (List.mem_cons_of_mem _ hy)

theorem tick_idle {s : State} (hs : Idle s) {x : Sample} (hx : x.pressed = false) :
    tick c s x = (s, []) := by
  obtain ⟨harmed, hpressed, -⟩ := hs
  simp [tick, harmed, hpressed, hx]

theorem runFires {before run later : List Sample} (h : MaximalRun before run later) :
    RunFires c before run later := by
  have hidle := idle_after c h.released_before
  obtain ⟨first, rest, rfl⟩ := List.exists_cons_of_ne_nil h.ne_nil
  have hfirst := tick_first c hidle (h.pressed first List.mem_cons_self)
  have hrun : restarts (effects c (after c before) (first :: rest)) =
      (if ∃ x ∈ rest, c.holdTimeS ≤ x.now - first.now then 1 else 0) ∧
      adverts (effects c (after c before) (first :: rest)) = 0 ∧
      (after c (before ++ first :: rest)).longFired =
        rest.any fun x => decide (c.holdTimeS ≤ x.now - first.now) := by
    obtain ⟨hstate, hrestarts, hadverts⟩ :=
      effects_held c (fun x hx => h.pressed x (List.mem_cons_of_mem _ hx))
        (s := { after c before with pressedAt := some first.now, longFired := false })
        hidle.1 rfl
    rw [after_append]
    simp only [effects, afterFrom, List.foldl_cons, hfirst, restarts_cons, adverts_cons] at *
    simp [hstate, hrestarts, hadverts]
  obtain ⟨hrestarts, hadverts, hlong⟩ := hrun
  have hrelease : restarts (effects c (after c (before ++ first :: rest)) (later.take 1)) = 0 ∧
      adverts (effects c (after c (before ++ first :: rest)) (later.take 1)) ≤ 1 ∧
      ((∃ x ∈ rest, c.holdTimeS ≤ x.now - first.now) →
        adverts (effects c (after c (before ++ first :: rest)) (later.take 1)) = 0) := by
    cases later with
    | nil => simp [effects, restarts, adverts]
    | cons y later =>
      obtain ⟨-, hrestart, hadvert⟩ :=
        tick_released c (consistent_after c (before ++ first :: rest))
          (h.released_after y (by simp))
      simp only [List.take_succ_cons, List.take_zero, effects, restarts_cons, adverts_cons]
      refine ⟨by simp [hrestart, restarts], ?_, fun hheld => ?_⟩
      · rcases hadvert with ⟨hnone, -⟩ | ⟨hone, -⟩
        · simp [hnone, adverts]
        · simp [hone, adverts]
      · rcases hadvert with ⟨hnone, -⟩ | ⟨-, hfired, -⟩
        · simp [hnone, adverts]
        · rw [hlong] at hfired
          simp only [List.any_eq_false, decide_eq_true_eq] at hfired
          obtain ⟨x, hx, hhold⟩ := hheld
          exact absurd hhold (hfired x hx)
  have hheldAt : ∀ x, HeldAt c (first :: rest) x ↔ c.holdTimeS ≤ x.now - first.now := by
    intro x
    simp [HeldAt]
  refine ⟨?_, ?_, fun hpos => ?_, hrelease.1, hadverts, hrelease.2.1, ?_⟩
  · rw [hrestarts]
    split <;> omega
  · rw [hrestarts]
    simp [hheldAt]
  · rw [hrestarts]
    simp [hheldAt, not_le.mpr hpos]
  · by_cases hheld : ∃ x ∈ rest, c.holdTimeS ≤ x.now - first.now
    · exact Or.inr (hrelease.2.2 hheld)
    · left
      rw [hrestarts, if_neg hheld]

/-! ### The cooldown -/

/-- One tick leaves the cooldown alone, or it adverts after its end and starts the next one. -/
theorem tick_cooldown {s : State} (hs : Consistent s) (x : Sample) :
    (Effect.onShortPress ∉ (tick c s x).2 ∧ (tick c s x).1.cooldownUntil = s.cooldownUntil) ∨
      (s.cooldownUntil ≤ x.now ∧
        (tick c s x).1.cooldownUntil = x.now + c.advertCooldownS) := by
  cases hx : x.pressed with
  | false =>
    rcases (tick_released c hs hx).2.2 with ⟨hnone, hsame⟩ | ⟨-, -, -, hnow, hnext⟩
    · exact Or.inl ⟨List.count_eq_zero.mp hnone, hsame⟩
    · exact Or.inr ⟨hnow, hnext⟩
  | true =>
    left
    cases harmed : s.armed with
    | false =>
      rw [tick_unarmed c harmed hx]
      simp
    | true =>
      cases hpressed : s.pressedAt with
      | none =>
        rw [tick_first c ⟨harmed, hpressed, hs.idle hpressed⟩ hx]
        simp
      | some start =>
        obtain ⟨hstate, -, hadvert⟩ := tick_held c harmed hpressed hx
        exact ⟨List.count_eq_zero.mp hadvert, by rw [hstate]⟩

theorem cooldown_afterFrom {s : State} (hs : Consistent s) {start : ℚ}
    (hstart : start + c.advertCooldownS ≤ s.cooldownUntil) {samples : List Sample}
    (hsamples : ∀ x ∈ samples, start ≤ x.now) :
    start + c.advertCooldownS ≤ (afterFrom c s samples).cooldownUntil := by
  induction samples generalizing s with
  | nil => exact hstart
  | cons x samples ih =>
    refine ih (hs.tick c x) ?_ (fun y hy => hsamples y (List.mem_cons_of_mem _ hy))
    have hx := hsamples x List.mem_cons_self
    rcases tick_cooldown c hs x with ⟨-, hsame⟩ | ⟨-, hnext⟩
    · rw [hsame]
      exact hstart
    · rw [hnext]
      linarith

theorem cooldown_between {before between : List Sample} {x y : Sample}
    (hbetween : ∀ z ∈ between, x.now ≤ z.now)
    (hx : Effect.onShortPress ∈ (tick c (after c before) x).2)
    (hy : Effect.onShortPress ∈ (tick c (after c (before ++ x :: between)) y).2) :
    c.advertCooldownS ≤ y.now - x.now := by
  have hsecond : (after c (before ++ x :: between)).cooldownUntil ≤ y.now := by
    rcases tick_cooldown c (consistent_after c _) y with ⟨hnone, -⟩ | ⟨hnow, -⟩
    · exact absurd hy hnone
    · exact hnow
  have hfirst : (tick c (after c before) x).1.cooldownUntil = x.now + c.advertCooldownS := by
    rcases tick_cooldown c (consistent_after c before) x with ⟨hnone, -⟩ | ⟨-, hnext⟩
    · exact absurd hx hnone
    · exact hnext
  have hkept : x.now + c.advertCooldownS ≤
      (after c (before ++ x :: between)).cooldownUntil := by
    rw [after_append]
    exact cooldown_afterFrom c ((consistent_after c before).tick c x) hfirst.ge hbetween
  linarith

/-! ### Every sequence of samples -/

/-- What a sequence of samples fires. -/
structure GesturesSound (samples : List Sample) : Prop where
  before_release : ∀ held later, samples = held ++ later → (∀ x ∈ held, x.pressed = true) →
    ∀ es ∈ effects c {} held, es = []
  first_release : ∀ held x later, samples = held ++ x :: later →
    (∀ y ∈ held, y.pressed = true) → x.pressed = false → (tick c (after c held) x).2 = []
  runs : ∀ before run later, samples = before ++ run ++ later → MaximalRun before run later →
    RunFires c before run later
  between_runs : ∀ before x y later, samples = before ++ x :: y :: later →
    x.pressed = false → y.pressed = false → (tick c (after c (before ++ [x])) y).2 = []
  cooldown : ∀ before x between y later, samples = before ++ x :: between ++ y :: later →
    Effect.onShortPress ∈ (tick c (after c before) x).2 →
    Effect.onShortPress ∈ (tick c (after c (before ++ x :: between)) y).2 →
    c.advertCooldownS ≤ y.now - x.now

/-- **Button gestures.**  Whatever the button does, nothing fires before the first released
    sample. A run of pressed samples restarts once exactly when it is held long enough, adverts
    at most once and on its release, and never does both; and two adverts are at least the
    cooldown apart. -/
theorem gestures_spec (samples : List Sample)
    (hordered : samples.Pairwise fun x y => x.now ≤ y.now) : GesturesSound c samples where
  before_release := fun _ _ _ hheld => effects_unarmed c rfl hheld
  first_release := by
    intro held x later _ hheld hx
    rw [show after c held = {} from afterFrom_unarmed c rfl hheld]
    simp [tick, hx]
  runs := fun _ _ _ _ hrun => runFires c hrun
  between_runs := by
    intro before x y later _ hx hy
    rw [tick_idle c (idle_after c ⟨x, by simp, hx⟩) hy]
  cooldown := by
    intro before x between y later hsamples
    refine cooldown_between c ?_
    intro z hz
    subst hsamples
    simp only [List.append_assoc, List.cons_append] at hordered
    have htail := (List.pairwise_append.mp hordered).2.1
    exact (List.pairwise_cons.mp htail).1 z (List.mem_append_left _ hz)

/-- Armed at 0, a short press that adverts, one in the cooldown, and a long press. -/
def pressedThreeTimes : List Sample :=
  [⟨false, 0⟩, ⟨true, 1⟩, ⟨false, 2⟩, ⟨true, 5⟩, ⟨false, 6⟩, ⟨true, 7⟩, ⟨true, 10⟩,
    ⟨true, 11⟩, ⟨false, 12⟩]

example : effects {} {} pressedThreeTimes =
    [[], [], [.onShortPress], [], [], [], [.onLongPress], [], []] := by decide +kernel

theorem gestures_pressedThreeTimes : GesturesSound {} pressedThreeTimes :=
  gestures_spec {} pressedThreeTimes (by decide +kernel)

end Meshpoint.ButtonGestures
