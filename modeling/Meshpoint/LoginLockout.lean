import Meshpoint.AuthService

/-!
# The lockout of logins

Runs of `login` calls, each with the readings of the tracker's clock: when the lock is asked
for, when the password is checked and when a failure is counted. An account is a username as
the service normalises it.

`lockout_spec` bounds the failed checks of an account in any window of the cooldown's length,
from what one attempt does to the state of an account (`attempt_cases`).
-/

namespace Meshpoint.LoginLockout

open AuthService

/-! ### Attempts -/

structure Attempt where
  username : String
  password : String
  /-- When a session would be issued. -/
  now : Int
  asked : ℚ
  checked : ℚ
  failed : ℚ

section

variable (bcrypt : Bcrypt) (casing : PyText.Casing)

def account (a : Attempt) : String := casing.lower (PyText.strip a.username)

def attempt (s : Service) (a : Attempt) : Service :=
  (s.login bcrypt casing a.username a.password a.now a.asked a.failed).1

/-- The outcome of the password check, if the attempt gets as far as one. -/
def checkOf (s : Service) (a : Attempt) : Option Bool :=
  if s.isSetupComplete = false then none
  else
    match (s.lockout.remainingSeconds (account casing a) a.asked).1 with
    | some _ => none
    | none => (s.hashFor (account casing a)).map (bcrypt.verify a.password)

def run (s : Service) (attempts : List Attempt) : Service :=
  attempts.foldl (attempt bcrypt casing) s

def checks : Service → List Attempt → List (Attempt × Option Bool)
  | _, [] => []
  | s, a :: rest => (a, checkOf bcrypt casing s a) :: checks (attempt bcrypt casing s a) rest

/-- A failed check of the account at a time of the window. -/
def hit (key : String) (window : ℚ → Bool) (entry : Attempt × Option Bool) : Bool :=
  account casing entry.1 = key && entry.2 = some false && window entry.1.checked

def failures (key : String) (window : ℚ → Bool) (log : List (Attempt × Option Bool)) : Nat :=
  log.countP (hit casing key window)

def NoSuccess (key : String) (log : List (Attempt × Option Bool)) : Prop :=
  ∀ entry ∈ log, account casing entry.1 = key → entry.2 ≠ some true

end

/-- A window that counts its start and not its end. -/
def halfOpen (start length : ℚ) (time : ℚ) : Bool := start ≤ time && time < start + length

/-- The readings of a clock that does not go back, from a time on. -/
def ClockedFrom : ℚ → List Attempt → Prop
  | _, [] => True
  | time, a :: rest =>
    time ≤ a.asked ∧ a.asked ≤ a.checked ∧ a.checked ≤ a.failed ∧ ClockedFrom a.failed rest

/-! ### One attempt -/

/-- A state is one of fewer failures than locks the account, or of a lock. -/
structure Tracked (t : LockoutTracker) : Prop where
  maxAttempts_pos : 1 ≤ t.maxAttempts
  cooldown_pos : 0 < t.cooldownSeconds
  states : ∀ key state, t.states key = some state →
    state.lockedUntil = 0 ∧ 0 ≤ state.failures ∧ state.failures < t.maxAttempts ∨
      0 < state.lockedUntil

theorem tracked_make {maxAttempts cooldownMinutes : Int} {t : LockoutTracker}
    (h : LockoutTracker.make maxAttempts cooldownMinutes = some t) : Tracked t := by
  unfold LockoutTracker.make at h
  split at h
  · cases h
  split at h
  · cases h
  cases h
  refine ⟨by dsimp only; omega, by dsimp only; omega, ?_⟩
  intro key state hstate
  cases hstate

/-- What is left of a state when the lock is asked for. -/
def unexpired (state : Option AttemptState) (asked : ℚ) : Option AttemptState :=
  state.filter fun state => state.lockedUntil = 0 || asked < state.lockedUntil

def setState (t : LockoutTracker) (key : String) (state : Option AttemptState) :
    LockoutTracker :=
  { t with states := Function.update t.states key state }

/-- The state after one more failure than counted so far. -/
def afterFailure (t : LockoutTracker) (counted : Int) (failed : ℚ) : AttemptState :=
  if t.maxAttempts ≤ counted + 1 then ⟨counted + 1, failed + t.cooldownSeconds⟩
  else ⟨counted + 1, 0⟩

def counted (state : Option AttemptState) : Int := (state.getD {}).failures

theorem remainingSeconds_locked {t : LockoutTracker} {key : String} {asked : ℚ} {cooldown : Int}
    (h : (t.remainingSeconds key asked).1 = some cooldown) :
    (t.remainingSeconds key asked).2 = t := by
  unfold LockoutTracker.remainingSeconds at h ⊢
  split at h
  · cases h
  · split at h
    · cases h
    · split at h
      · cases h
      · split at h
        · cases h
        · rename_i hkey _ state hstate hzero hexpired
          simp only [if_neg hkey, if_neg hzero, if_neg hexpired]

theorem remainingSeconds_free {t : LockoutTracker} {key : String} {asked : ℚ} (hkey : key ≠ "")
    (h : (t.remainingSeconds key asked).1 = none) :
    (t.remainingSeconds key asked).2 =
        setState t key (unexpired (t.states key) asked) ∧
      ∀ state ∈ unexpired (t.states key) asked, state.lockedUntil = 0 := by
  unfold LockoutTracker.remainingSeconds at h ⊢
  rw [if_neg hkey] at h ⊢
  rcases hstate : t.states key with _ | state
  · refine ⟨?_, fun state h => nomatch h⟩
    simp only [setState, unexpired, Option.filter_none]
    rw [← hstate, Function.update_eq_self]
  · rw [hstate] at h
    dsimp only at h ⊢
    by_cases hzero : state.lockedUntil = 0
    · rw [if_pos hzero]
      have hkept : unexpired (some state) asked = some state := by simp [unexpired, hzero]
      rw [hkept]
      refine ⟨?_, ?_⟩
      · rw [setState, ← hstate, Function.update_eq_self]
      · intro other hother
        cases hother
        exact hzero
    · rw [if_neg hzero] at h ⊢
      by_cases hexpired : state.lockedUntil ≤ asked
      · have hgone : unexpired (some state) asked = none := by
          simp [unexpired, hzero, hexpired]
        rw [if_pos hexpired, hgone]
        exact ⟨rfl, fun state h => nomatch h⟩
      · rw [if_neg hexpired] at h
        cases h

theorem registerFailure_free {t : LockoutTracker} {key : String} {failed : ℚ} (hkey : key ≠ "")
    (hfree : ∀ state ∈ t.states key, state.lockedUntil = 0) (hfailed : 0 ≤ failed) :
    (t.registerFailure key failed).2 =
      setState t key (some (afterFailure t (counted (t.states key)) failed)) := by
  have hzero : ((t.states key).getD {}).lockedUntil = 0 := by
    rcases hstate : t.states key with _ | state
    · rfl
    · exact hfree state hstate
  unfold LockoutTracker.registerFailure
  rw [if_neg hkey]
  dsimp only
  rw [hzero, if_neg (not_lt.mpr hfailed)]
  unfold afterFailure setState counted
  split
  · rfl
  · rfl

theorem setState_setState (t : LockoutTracker) (key : String)
    (state state' : Option AttemptState) :
    setState (setState t key state) key state' = setState t key state' := by
  simp [setState]

theorem states_setState (t : LockoutTracker) (key : String) (state : Option AttemptState) :
    (setState t key state).states key = state := by
  simp [setState]

theorem states_setState_of_ne (t : LockoutTracker) {key other : String}
    (state : Option AttemptState) (h : other ≠ key) :
    (setState t key state).states other = t.states other :=
  Function.update_of_ne h _ _

theorem afterFailure_setState (t : LockoutTracker) (key : String) (state : Option AttemptState)
    (counted : Int) (failed : ℚ) :
    afterFailure (setState t key state) counted failed = afterFailure t counted failed := rfl

section

variable {bcrypt : Bcrypt} {casing : PyText.Casing}

/-- What an attempt does: nothing; or, on an account that is not locked, it ends its state by a
    check that succeeds or counts a failure. -/
theorem attempt_cases (s : Service) (a : Attempt) (hfailed : 0 ≤ a.failed) :
    (checkOf bcrypt casing s a = none ∧ (attempt bcrypt casing s a).lockout = s.lockout) ∨
    (∀ state ∈ unexpired (s.lockout.states (account casing a)) a.asked,
        state.lockedUntil = 0) ∧
      ((checkOf bcrypt casing s a = some true ∧ (attempt bcrypt casing s a).lockout =
          setState s.lockout (account casing a) none) ∨
        (checkOf bcrypt casing s a ≠ some true ∧ (attempt bcrypt casing s a).lockout =
          setState s.lockout (account casing a) (some (afterFailure s.lockout
            (counted (unexpired (s.lockout.states (account casing a)) a.asked)) a.failed)))) := by
  unfold attempt checkOf Service.login
  by_cases hsetup : s.isSetupComplete = false
  · rw [if_pos hsetup, if_pos hsetup]
    exact Or.inl ⟨rfl, rfl⟩
  rw [if_neg hsetup, if_neg hsetup]
  rw [show casing.lower (PyText.strip a.username) = account casing a from rfl]
  generalize account casing a = key
  dsimp only
  rcases hasked : s.lockout.remainingSeconds key a.asked with ⟨_ | cooldown, lockout⟩
  · by_cases hkey : key = ""
    · subst hkey
      have hsame : lockout = s.lockout := by
        simpa [LockoutTracker.remainingSeconds] using hasked.symm
      subst hsame
      exact Or.inl ⟨rfl, rfl⟩
    · have hnone : (s.lockout.remainingSeconds key a.asked).1 = none := by rw [hasked]
      obtain ⟨hlockout, hfree⟩ := remainingSeconds_free hkey hnone
      rw [hasked] at hlockout
      dsimp only at hlockout
      subst hlockout
      have hcounted := registerFailure_free (t := setState s.lockout key
        (unexpired (s.lockout.states key) a.asked)) hkey (by rwa [states_setState]) hfailed
      rw [setState_setState, states_setState, afterFailure_setState] at hcounted
      refine Or.inr ⟨hfree, ?_⟩
      rcases s.hashFor key with _ | storedHash
      · refine Or.inr ⟨by simp, ?_⟩
        exact hcounted
      · dsimp only
        by_cases hverify : bcrypt.verify a.password storedHash = true
        · rw [if_pos hverify]
          refine Or.inl ⟨congrArg some hverify, ?_⟩
          simp only [LockoutTracker.registerSuccess, if_neg hkey]
          exact setState_setState s.lockout key _ none
        · rw [if_neg hverify]
          refine Or.inr ⟨?_, hcounted⟩
          intro h
          exact hverify (Option.some.inj h)
  · have hsome : (s.lockout.remainingSeconds key a.asked).1 = some cooldown := by rw [hasked]
    have hlockout := remainingSeconds_locked hsome
    rw [hasked] at hlockout
    exact Or.inl ⟨rfl, hlockout⟩

theorem settings_attempt {s : Service} {a : Attempt} (hfailed : 0 ≤ a.failed) :
    (attempt bcrypt casing s a).lockout.maxAttempts = s.lockout.maxAttempts ∧
      (attempt bcrypt casing s a).lockout.cooldownSeconds = s.lockout.cooldownSeconds := by
  rcases @attempt_cases bcrypt casing s a hfailed with
    ⟨-, h⟩ | ⟨-, ⟨-, h⟩ | ⟨-, h⟩⟩
  all_goals
    rw [h]
    exact ⟨rfl, rfl⟩

theorem states_attempt_other {s : Service} {a : Attempt} (hfailed : 0 ≤ a.failed) {key : String}
    (hkey : key ≠ account casing a) :
    (attempt bcrypt casing s a).lockout.states key = s.lockout.states key := by
  rcases @attempt_cases bcrypt casing s a hfailed with
    ⟨-, h⟩ | ⟨-, ⟨-, h⟩ | ⟨-, h⟩⟩
  · rw [h]
  · rw [h, states_setState_of_ne _ _ hkey]
  · rw [h, states_setState_of_ne _ _ hkey]

theorem mem_of_mem_unexpired {state : Option AttemptState} {asked : ℚ} {st : AttemptState}
    (h : st ∈ unexpired state asked) : st ∈ state :=
  (Option.mem_filter_iff.mp h).1

theorem counted_nonneg {t : LockoutTracker} (ht : Tracked t) {key : String} {asked : ℚ}
    (hfree : ∀ state ∈ unexpired (t.states key) asked, state.lockedUntil = 0) :
    0 ≤ counted (unexpired (t.states key) asked) := by
  rcases hleft : unexpired (t.states key) asked with _ | state
  · exact le_rfl
  · rcases ht.states key state (mem_of_mem_unexpired hleft) with ⟨-, h, -⟩ | h
    · exact h
    · rw [hfree state hleft] at h
      exact absurd h (lt_irrefl 0)

theorem tracked_setState {t : LockoutTracker} (ht : Tracked t) (key : String)
    {state : Option AttemptState}
    (hstate : ∀ st ∈ state, st.lockedUntil = 0 ∧ 0 ≤ st.failures ∧ st.failures < t.maxAttempts ∨
      0 < st.lockedUntil) : Tracked (setState t key state) where
  maxAttempts_pos := ht.maxAttempts_pos
  cooldown_pos := ht.cooldown_pos
  states other st hother := by
    by_cases hkey : other = key
    · subst hkey
      rw [states_setState] at hother
      exact hstate st hother
    · rw [states_setState_of_ne _ _ hkey] at hother
      exact ht.states other st hother

theorem tracked_attempt {s : Service} (ht : Tracked s.lockout) {a : Attempt}
    (hfailed : 0 ≤ a.failed) : Tracked (attempt bcrypt casing s a).lockout := by
  rcases @attempt_cases bcrypt casing s a hfailed with
    ⟨-, h⟩ | ⟨hfree, ⟨-, h⟩ | ⟨-, h⟩⟩
  · rwa [h]
  · rw [h]
    exact tracked_setState ht _ fun st hst => nomatch hst
  · rw [h]
    apply tracked_setState ht
    intro st hst
    cases hst
    have hcounted := counted_nonneg ht hfree
    have hcooldown : (0 : ℚ) < s.lockout.cooldownSeconds := by exact_mod_cast ht.cooldown_pos
    unfold afterFailure
    split
    · exact Or.inr (by dsimp only; linarith)
    · exact Or.inl ⟨rfl, by dsimp only; omega, by dsimp only; omega⟩

/-! ### Failed checks in a window -/

/-- The failed checks so far are within the bound, and the window is over, there are none, or the
    state of the account counts them all and its lock, if any, outlasts the window. -/
def Budgeted (t : LockoutTracker) (key : String) (start time : ℚ) (n : Nat) : Prop :=
  (n : Int) ≤ t.maxAttempts ∧
    (start + t.cooldownSeconds ≤ time ∨ n = 0 ∨
      start ≤ time ∧ ∃ state, t.states key = some state ∧ (n : Int) ≤ state.failures ∧
        (state.lockedUntil = 0 ∨ start + t.cooldownSeconds ≤ state.lockedUntil))

theorem failures_cons (key : String) (window : ℚ → Bool) (entry : Attempt × Option Bool)
    (log : List (Attempt × Option Bool)) :
    failures casing key window (entry :: log) =
      failures casing key window log + (hit casing key window entry).toNat := by
  rw [failures, failures, List.countP_cons]
  rcases hit casing key window entry with _ | _ <;> rfl

theorem hit_iff {key : String} {window : ℚ → Bool} {a : Attempt} {check : Option Bool} :
    hit casing key window (a, check) = true ↔
      account casing a = key ∧ check = some false ∧ window a.checked = true := by
  simp [hit, and_assoc]

theorem halfOpen_iff {start length time : ℚ} :
    halfOpen start length time = true ↔ start ≤ time ∧ time < start + length := by
  simp [halfOpen]

theorem counted_lt {t : LockoutTracker} (ht : Tracked t) {key : String} {asked : ℚ}
    (hfree : ∀ state ∈ unexpired (t.states key) asked, state.lockedUntil = 0) :
    counted (unexpired (t.states key) asked) < t.maxAttempts := by
  rcases hleft : unexpired (t.states key) asked with _ | state
  · exact ht.maxAttempts_pos
  · rcases ht.states key state (mem_of_mem_unexpired hleft) with ⟨-, -, h⟩ | h
    · exact h
    · rw [hfree state hleft] at h
      exact absurd h (lt_irrefl 0)

theorem afterFailure_spec (t : LockoutTracker) (counted : Int) (failed : ℚ) :
    (afterFailure t counted failed).failures = counted + 1 ∧
      ((afterFailure t counted failed).lockedUntil = 0 ∨
        (afterFailure t counted failed).lockedUntil = failed + t.cooldownSeconds) := by
  unfold afterFailure
  split
  · exact ⟨rfl, Or.inr rfl⟩
  · exact ⟨rfl, Or.inl rfl⟩

theorem Budgeted.le_counted {t : LockoutTracker} (ht : Tracked t) {key : String}
    {start time asked : ℚ} {n : Nat} (h : Budgeted t key start time n) (hasked : time ≤ asked)
    (hfree : ∀ state ∈ unexpired (t.states key) asked, state.lockedUntil = 0) :
    start + t.cooldownSeconds ≤ asked ∨ (n : Int) ≤ counted (unexpired (t.states key) asked) := by
  rcases h.2 with hover | rfl | ⟨-, state, hstate, hle, hlock⟩
  · exact Or.inl (hover.trans hasked)
  · exact Or.inr (counted_nonneg ht hfree)
  · by_cases hkept : state.lockedUntil = 0 ∨ asked < state.lockedUntil
    · have hleft : unexpired (t.states key) asked = some state := by
        simpa [unexpired, hstate] using hkept
      rw [hleft]
      exact Or.inr hle
    · rw [not_or, not_lt] at hkept
      rcases hlock with hlock | hlock
      · exact absurd hlock hkept.1
      · exact Or.inl (hlock.trans hkept.2)

theorem Budgeted.later {t t' : LockoutTracker} {key : String} {start time time' : ℚ} {n : Nat}
    (h : Budgeted t key start time n) (htime : time ≤ time')
    (hmax : t'.maxAttempts = t.maxAttempts) (hcool : t'.cooldownSeconds = t.cooldownSeconds)
    (hstates : t'.states key = t.states key) : Budgeted t' key start time' n := by
  unfold Budgeted at h ⊢
  rw [hmax, hcool, hstates]
  refine ⟨h.1, ?_⟩
  rcases h.2 with hover | hn | ⟨hstart, hstate⟩
  · exact Or.inl (hover.trans htime)
  · exact Or.inr (Or.inl hn)
  · exact Or.inr (Or.inr ⟨hstart.trans htime, hstate⟩)

theorem budgeted_attempt {s : Service} (ht : Tracked s.lockout) {a : Attempt} {key : String}
    {start time : ℚ} {n : Nat} (h : Budgeted s.lockout key start time n) (htime : 0 ≤ time)
    (hasked : time ≤ a.asked) (hchecked : a.asked ≤ a.checked) (hfailed : a.checked ≤ a.failed)
    (hnot : account casing a = key → checkOf bcrypt casing s a ≠ some true) :
    Budgeted (attempt bcrypt casing s a).lockout key start a.failed
      (n + (hit casing key (halfOpen start s.lockout.cooldownSeconds)
        (a, checkOf bcrypt casing s a)).toNat) := by
  have hzero : 0 ≤ a.failed := by linarith
  have hlast : time ≤ a.failed := by linarith
  obtain ⟨hmax, hcool⟩ := @settings_attempt bcrypt casing s a hzero
  by_cases hkey : account casing a = key
  · subst hkey
    rcases @attempt_cases bcrypt casing s a hzero with
      ⟨hnone, hsame⟩ | ⟨hfree, ⟨htrue, -⟩ | ⟨-, hafter⟩⟩
    · -- no check, and the tracker is as before
      have hmiss : hit casing (account casing a) (halfOpen start s.lockout.cooldownSeconds)
          (a, checkOf bcrypt casing s a) = false := by
        simp [hit, hnone]
      rw [hmiss]
      exact h.later hlast hmax hcool (by rw [hsame])
    · exact absurd htrue (hnot rfl)
    · -- a failure is counted
      have hanswered : a.asked ≤ a.failed := hchecked.trans hfailed
      have hcount := h.le_counted ht hasked hfree
      have hlt := counted_lt ht hfree
      obtain ⟨hfailures, hlock⟩ := afterFailure_spec s.lockout
        (counted (unexpired (s.lockout.states (account casing a)) a.asked)) a.failed
      unfold Budgeted
      rw [hmax, hcool, hafter, states_setState]
      by_cases hhit : hit casing (account casing a) (halfOpen start s.lockout.cooldownSeconds)
        (a, checkOf bcrypt casing s a) = true
      · obtain ⟨-, -, hwindow⟩ := hit_iff.mp hhit
        obtain ⟨hstart, hend⟩ := halfOpen_iff.mp hwindow
        rw [hhit, Bool.toNat_true]
        rcases hcount with hover | hcount
        · exact absurd (hover.trans hchecked) (not_le.mpr hend)
        · refine ⟨by push_cast; omega, Or.inr (Or.inr ⟨hstart.trans hfailed, _, rfl, ?_, ?_⟩)⟩
          · rw [hfailures]
            push_cast
            omega
          · rcases hlock with hlock | hlock
            · exact Or.inl hlock
            · rw [hlock]
              exact Or.inr (add_le_add_left (hstart.trans hfailed) _)
      · rw [Bool.not_eq_true] at hhit
        rw [hhit, Bool.toNat_false, Nat.add_zero]
        refine ⟨h.1, ?_⟩
        rcases hcount with hover | hcount
        · exact Or.inl (hover.trans hanswered)
        · rcases h.2 with hover | hn | ⟨hstart, -⟩
          · exact Or.inl (hover.trans hlast)
          · exact Or.inr (Or.inl hn)
          · refine Or.inr (Or.inr ⟨hstart.trans hlast, _, rfl, by omega, ?_⟩)
            rcases hlock with hlock | hlock
            · exact Or.inl hlock
            · rw [hlock]
              exact Or.inr (add_le_add_left (hstart.trans hlast) _)
  · -- another account
    have hmiss : hit casing key (halfOpen start s.lockout.cooldownSeconds)
        (a, checkOf bcrypt casing s a) = false := by
      simp [hit, hkey]
    rw [hmiss]
    exact h.later hlast hmax hcool (states_attempt_other hzero (Ne.symm hkey))

/-! ### Runs -/

/-- Over a run without a success of the account, the failed checks in a window stay within the
    bound. -/
theorem failures_le {key : String} {start : ℚ} (attempts : List Attempt) :
    ∀ {s : Service} {time : ℚ} {n : Nat}, Tracked s.lockout → 0 ≤ time →
      Budgeted s.lockout key start time n → ClockedFrom time attempts →
      NoSuccess casing key (checks bcrypt casing s attempts) →
      ((n + failures casing key (halfOpen start s.lockout.cooldownSeconds)
        (checks bcrypt casing s attempts) : Nat) : Int) ≤ s.lockout.maxAttempts := by
  induction attempts with
  | nil =>
    intro s time n _ _ h _ _
    simpa [checks, failures] using h.1
  | cons a rest ih =>
    intro s time n ht htime h hclock hnot
    obtain ⟨hasked, hchecked, hfailed, hrest⟩ := hclock
    have hzero : 0 ≤ a.failed := by linarith
    obtain ⟨hmax, hcool⟩ := @settings_attempt bcrypt casing s a hzero
    rw [checks] at hnot
    have hfirst : account casing a = key → checkOf bcrypt casing s a ≠ some true :=
      hnot (a, checkOf bcrypt casing s a) List.mem_cons_self
    have hstep := budgeted_attempt ht h htime hasked hchecked hfailed hfirst
    have hrun := ih (tracked_attempt ht hzero) hzero hstep
      hrest fun entry hentry => hnot entry (List.mem_cons_of_mem _ hentry)
    rw [hmax, hcool] at hrun
    rw [checks, failures_cons]
    omega

theorem tracked_run (attempts : List Attempt) : ∀ {s : Service} {time : ℚ}, Tracked s.lockout →
    0 ≤ time → ClockedFrom time attempts → Tracked (run bcrypt casing s attempts).lockout ∧
      (run bcrypt casing s attempts).lockout.maxAttempts = s.lockout.maxAttempts ∧
      (run bcrypt casing s attempts).lockout.cooldownSeconds = s.lockout.cooldownSeconds := by
  induction attempts with
  | nil => intro s _ ht _ _; exact ⟨ht, rfl, rfl⟩
  | cons a rest ih =>
    intro s time ht htime hclock
    obtain ⟨hasked, hchecked, hfailed, hrest⟩ := hclock
    have hzero : 0 ≤ a.failed := by linarith
    obtain ⟨hmax, hcool⟩ := @settings_attempt bcrypt casing s a hzero
    obtain ⟨htracked, hmax', hcool'⟩ := ih (tracked_attempt ht hzero) hzero hrest
    exact ⟨htracked, hmax'.trans hmax, hcool'.trans hcool⟩

theorem clockedFrom_append {before rest : List Attempt} : ∀ {time : ℚ}, 0 ≤ time →
    ClockedFrom time (before ++ rest) →
      ClockedFrom time before ∧ ∃ later, 0 ≤ later ∧ ClockedFrom later rest := by
  induction before with
  | nil => intro time htime h; exact ⟨trivial, time, htime, h⟩
  | cons a before ih =>
    intro time htime h
    obtain ⟨hasked, hchecked, hfailed, hrest⟩ := h
    obtain ⟨hbefore, hlater⟩ := ih (by linarith) hrest
    exact ⟨⟨hasked, hchecked, hfailed, hbefore⟩, hlater⟩

theorem remainingSeconds_congr {t t' : LockoutTracker} {key : String}
    (h : t'.states key = t.states key) (time : ℚ) :
    (t'.remainingSeconds key time).1 = (t.remainingSeconds key time).1 := by
  unfold LockoutTracker.remainingSeconds
  rw [h]
  split
  · rfl
  · rcases t.states key with _ | state
    · rfl
    · dsimp only
      split
      · rfl
      · split <;> rfl

theorem states_reconfigure {t t' : LockoutTracker} {maxAttempts minutes : Int}
    (h : t.reconfigure maxAttempts minutes = some t') : t'.states = t.states := by
  unfold LockoutTracker.reconfigure at h
  split at h
  · cases h
  split at h
  · cases h
  cases h
  rfl

/-- For a clock that shows times from 0 on and does not go back: in a stretch without a success
    of the account no window of the cooldown's length has more failed checks of it than allowed,
    an attempt leaves the lock of every other account as it is, and new settings leave every
    lock as it is. -/
theorem lockout_spec {maxAttempts cooldownMinutes : Int} {s : Service}
    (hmake : LockoutTracker.make maxAttempts cooldownMinutes = some s.lockout)
    {attempts : List Attempt} (hclock : ClockedFrom 0 attempts) :
    (∀ before middle after, attempts = before ++ middle ++ after → ∀ key start,
      NoSuccess casing key (checks bcrypt casing (run bcrypt casing s before) middle) →
        (failures casing key (halfOpen start (cooldownMinutes * 60 : Int))
          (checks bcrypt casing (run bcrypt casing s before) middle) : Int) ≤ maxAttempts) ∧
    (∀ before a after, attempts = before ++ a :: after → ∀ key, key ≠ account casing a →
      ∀ time, ((run bcrypt casing s (before ++ [a])).lockout.remainingSeconds key time).1 =
        ((run bcrypt casing s before).lockout.remainingSeconds key time).1) ∧
    ∀ before after, attempts = before ++ after → ∀ maxAttempts' minutes' lockout,
      (run bcrypt casing s before).lockout.reconfigure maxAttempts' minutes' = some lockout →
        ∀ key time, (lockout.remainingSeconds key time).1 =
          ((run bcrypt casing s before).lockout.remainingSeconds key time).1 := by
  have hsettings : s.lockout.maxAttempts = maxAttempts ∧
      s.lockout.cooldownSeconds = cooldownMinutes * 60 := by
    unfold LockoutTracker.make at hmake
    split at hmake
    · cases hmake
    split at hmake
    · cases hmake
    rw [← Option.some.inj hmake]
    exact ⟨rfl, rfl⟩
  have ht := tracked_make hmake
  refine ⟨?_, ?_, ?_⟩
  · rintro before middle after rfl key start hnot
    obtain ⟨hclock, -⟩ := clockedFrom_append le_rfl hclock
    obtain ⟨hbefore, time, htime, hmiddle⟩ := clockedFrom_append le_rfl hclock
    obtain ⟨htracked, hmax, hcool⟩ := @tracked_run bcrypt casing before s 0 ht le_rfl hbefore
    have hnone : Budgeted (run bcrypt casing s before).lockout key start time 0 :=
      ⟨by have := htracked.maxAttempts_pos; push_cast; omega, Or.inr (Or.inl rfl)⟩
    have hle := failures_le middle htracked htime hnone hmiddle hnot
    rw [hmax, hcool, hsettings.1, hsettings.2, Nat.zero_add] at hle
    exact hle
  · rintro before a after rfl key hkey time
    obtain ⟨-, later, hlater, hrest⟩ := clockedFrom_append le_rfl hclock
    obtain ⟨hasked, hchecked, hfailed, -⟩ := hrest
    have hzero : 0 ≤ a.failed := by linarith
    rw [run, List.foldl_append, List.foldl_cons, List.foldl_nil]
    exact remainingSeconds_congr (states_attempt_other hzero hkey) time
  · rintro before after - maxAttempts' minutes' lockout hlockout key time
    exact remainingSeconds_congr (congrFun (states_reconfigure hlockout) key) time

end

/-! ### The end of the window, and times before 0 -/

def strictBcrypt : Bcrypt := ⟨fun _ _ => some "hash", fun _ _ => false⟩

/-- A station that locks an account for a minute at the first failure. -/
def station : Service where
  config := { adminPasswordHash := "hash", lockoutAttempts := 1, lockoutCooldownMinutes := 1 }
  disk := {}
  lockout := { maxAttempts := 1, cooldownSeconds := 60 }
  jwt := ⟨"secret", 480, 1⟩

def guessAt (time : ℚ) : Attempt := ⟨"admin", "guess", 0, time, time, time⟩

theorem lockout_spec_station :
    (failures .ascii "admin" (halfOpen 0 60)
      (checks strictBcrypt .ascii station [guessAt 0, guessAt 60]) : Int) ≤ 1 :=
  (@lockout_spec strictBcrypt .ascii 1 1 station rfl [guessAt 0, guessAt 60]
    (by simp [ClockedFrom, guessAt])).1 [] [guessAt 0, guessAt 60] [] rfl "admin" 0
    (by unfold NoSuccess; decide +kernel)

/-- With a limit of one, two checks fail at the two ends of a window of a minute; and two checks
    fail at the same time before 0. -/
theorem window_exceeded :
    (ClockedFrom 0 [guessAt 0, guessAt 60] ∧
      failures .ascii "admin" (fun time => 0 ≤ time && time ≤ 60)
        (checks strictBcrypt .ascii station [guessAt 0, guessAt 60]) = 2) ∧
    ClockedFrom (-1) [guessAt (-1), guessAt (-1)] ∧
      failures .ascii "admin" (halfOpen (-1) 60)
        (checks strictBcrypt .ascii station [guessAt (-1), guessAt (-1)]) = 2 := by
  refine ⟨⟨by simp [ClockedFrom, guessAt], by decide +kernel⟩, by simp [ClockedFrom, guessAt],
    by decide +kernel⟩

end Meshpoint.LoginLockout
