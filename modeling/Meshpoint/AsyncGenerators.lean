import Mathlib.Data.List.Basic

/-!
# Asynchronous generators

A generator acts on the state of a host and is suspended at its `yield` and `await` expressions. A
script holds the answers of the surroundings at these points, in their order; a generator whose
script ends is still suspended. At each point it may also be closed or cancelled, which no
`except Exception` handles, and a generator that yields in a `finally` block while it is closed is
dropped there.

`Meets` is a judgment with a precondition, and one postcondition each for returning and for
stopping; its assertions see the answers so far.
-/

namespace AsyncGenerators

universe u

/-- `GeneratorExit` and `CancelledError`. -/
inductive Interrupt where
  | closed
  | cancelled
deriving DecidableEq

/-- Why a generator goes no further: by an exception, by an interrupt, because it yielded while it
    was closed, or because it waits. -/
inductive Stop (ε : Type u) where
  | raised (exc : ε)
  | interrupted (how : Interrupt)
  | dropped
  | waiting
deriving DecidableEq

inductive Ending (ε α : Type u) where
  | returned (a : α)
  | stopped (stop : Stop ε)

/-- The host, the answers so far and those to come. -/
structure Run (σ ι : Type u) where
  host : σ
  past : List ι
  script : List ι

def Gen (σ ι ε α : Type u) := Run σ ι → Ending ε α × Run σ ι

variable {σ ι ε α β : Type u}

instance : Monad (Gen σ ι ε) where
  pure a := fun run => (.returned a, run)
  bind m f := fun run =>
    match m run with
    | (.returned a, run) => f a run
    | (.stopped stop, run) => (.stopped stop, run)

def act (f : σ → σ) : Gen σ ι ε PUnit := fun run => (.returned ⟨⟩, { run with host := f run.host })

def halt (stop : Stop ε) : Gen σ ι ε α := fun run => (.stopped stop, run)

/-- A suspension point; an answer that is not for it is not taken. -/
def suspend (f : ι → σ → Option (Ending ε α × σ)) : Gen σ ι ε α := fun run =>
  match run.script with
  | [] => (.stopped .waiting, run)
  | answer :: rest =>
    match f answer run.host with
    | none => (.stopped .waiting, run)
    | some (ending, host) => (ending, ⟨host, run.past ++ [answer], rest⟩)

/-- `try` with a handler for some exceptions, which become values. -/
def attempt (catches : ε → Bool) (m : Gen σ ι ε α) : Gen σ ι ε (Except ε α) := fun run =>
  match m run with
  | (.returned a, run) => (.returned (.ok a), run)
  | (.stopped (.raised exc), run) =>
    if catches exc then (.returned (.error exc), run) else (.stopped (.raised exc), run)
  | (.stopped stop, run) => (.stopped stop, run)

/-- What the end of a `finally` block makes of the end of its body. -/
def afterFinal (ending : Ending ε α) : Ending ε PUnit × Run σ ι → Ending ε α × Run σ ι
  | (.returned _, run) => (ending, run)
  | (.stopped stop, run) => (.stopped stop, run)

/-- `try` with a `finally` block, which is told whether the generator is being closed. -/
def tryFinally (m : Gen σ ι ε α) (final : Bool → Gen σ ι ε PUnit) : Gen σ ι ε α := fun run =>
  match m run with
  | (.returned a, run) => afterFinal (.returned a) (final false run)
  | (.stopped (.raised exc), run) => afterFinal (.stopped (.raised exc)) (final false run)
  | (.stopped (.interrupted how), run) =>
    afterFinal (.stopped (.interrupted how)) (final (how = .closed) run)
  | (.stopped stop, run) => (.stopped stop, run)

/-- The first `yield` of a `finally` block. -/
def yieldUnless (closing : Bool) (m : Gen σ ι ε PUnit) : Gen σ ι ε PUnit :=
  if closing then halt .dropped else m

def iterateFuel (step : β → Gen σ ι ε (β ⊕ α)) : Nat → β → Gen σ ι ε α
  | 0, _ => halt .waiting
  | fuel + 1, b => step b >>= Sum.elim (iterateFuel step fuel) pure

/-- A loop; each round but the last takes an answer of the script. -/
def iterate (step : β → Gen σ ι ε (β ⊕ α)) (b : β) : Gen σ ι ε α := fun run =>
  iterateFuel step (run.script.length + 1) b run

theorem bind_apply (m : Gen σ ι ε α) (f : α → Gen σ ι ε β) (run : Run σ ι) :
    (m >>= f) run =
      match m run with
      | (.returned a, run) => f a run
      | (.stopped stop, run) => (.stopped stop, run) := rfl

/-! ### The rounds of a loop -/

/-- A round that is followed by another one takes an answer. -/
def Advances (step : β → Gen σ ι ε (β ⊕ α)) : Prop :=
  ∀ b run b' run', step b run = (.returned (.inl b'), run') →
    run'.script.length < run.script.length

theorem iterateFuel_eq {step : β → Gen σ ι ε (β ⊕ α)} (h : Advances step) (n m : Nat) (b : β)
    (run : Run σ ι) (hn : run.script.length < n) (hm : run.script.length < m) :
    iterateFuel step n b run = iterateFuel step m b run := by
  induction n generalizing m b run with
  | zero => omega
  | succ n ih =>
    obtain ⟨m, rfl⟩ : ∃ k, m = k + 1 := ⟨m - 1, by omega⟩
    simp only [iterateFuel, bind_apply]
    rcases hstep : step b run with ⟨(b' | a) | stop, run'⟩
    · have hless := h b run b' run' hstep
      exact ih m b' run' (by omega) (by omega)
    · rfl
    · rfl

theorem iterate_eq {step : β → Gen σ ι ε (β ⊕ α)} (h : Advances step) (b : β) :
    iterate step b = step b >>= Sum.elim (iterate step) pure := by
  funext run
  rw [iterate, iterateFuel, bind_apply, bind_apply]
  rcases hstep : step b run with ⟨(b' | a) | stop, run'⟩
  · have hless := h b run b' run' hstep
    exact iterateFuel_eq h _ _ b' run' (by omega) (by omega)
  · rfl
  · rfl

/-! ### Pre- and postconditions -/

/-- An assertion about the answers so far and the host. -/
abbrev Assertion (σ ι : Type u) := List ι → σ → Prop

def Ends (Q : α → Assertion σ ι) (E : Stop ε → Assertion σ ι) : Ending ε α × Run σ ι → Prop
  | (.returned a, run) => Q a run.past run.host
  | (.stopped stop, run) => E stop run.past run.host

/-- From a state with `P` the generator returns with `Q`, or stops with `E`; it passes over no
    answer. -/
def Meets (P : Assertion σ ι) (m : Gen σ ι ε α) (Q : α → Assertion σ ι)
    (E : Stop ε → Assertion σ ι) : Prop :=
  ∀ run, P run.past run.host →
    (m run).2.past ++ (m run).2.script = run.past ++ run.script ∧ Ends Q E (m run)

section

variable {P O : Assertion σ ι} {Q S : α → Assertion σ ι} {R : β → Assertion σ ι}
  {E F : Stop ε → Assertion σ ι}

theorem meets_imp {m : Gen σ ι ε α} (h : Meets O m S F) (hP : ∀ past s, P past s → O past s)
    (hQ : ∀ a past s, S a past s → Q a past s) (hE : ∀ stop past s, F stop past s → E stop past s) :
    Meets P m Q E := by
  intro run hrun
  obtain ⟨hpast, hends⟩ := h run (hP _ _ hrun)
  refine ⟨hpast, ?_⟩
  rcases hresult : m run with ⟨a | stop, run'⟩
  · rw [hresult] at hends
    exact hQ a _ _ hends
  · rw [hresult] at hends
    exact hE stop _ _ hends

theorem meets_exists {κ : Sort*} {P : κ → Assertion σ ι} {m : Gen σ ι ε α}
    (h : ∀ k, Meets (P k) m Q E) : Meets (fun past s => ∃ k, P k past s) m Q E :=
  fun run ⟨k, hrun⟩ => h k run hrun

theorem meets_pure {a : α} (h : ∀ past s, P past s → Q a past s) :
    Meets P (pure a : Gen σ ι ε α) Q E :=
  fun _ hrun => ⟨rfl, h _ _ hrun⟩

theorem meets_halt {stop : Stop ε} (h : ∀ past s, P past s → E stop past s) :
    Meets P (halt stop : Gen σ ι ε α) Q E :=
  fun _ hrun => ⟨rfl, h _ _ hrun⟩

theorem meets_act {f : σ → σ} {Q : PUnit → Assertion σ ι}
    (h : ∀ past s, P past s → Q ⟨⟩ past (f s)) : Meets P (act f : Gen σ ι ε PUnit) Q E :=
  fun _ hrun => ⟨rfl, h _ _ hrun⟩

theorem meets_bind {m : Gen σ ι ε α} {f : α → Gen σ ι ε β} (hm : Meets P m Q E)
    (hf : ∀ a, Meets (Q a) (f a) R E) : Meets P (m >>= f) R E := by
  intro run hrun
  obtain ⟨hpast, hends⟩ := hm run hrun
  rw [bind_apply]
  rcases hresult : m run with ⟨a | stop, run'⟩
  · rw [hresult] at hpast hends
    obtain ⟨hpast', hends'⟩ := hf a run' hends
    exact ⟨hpast'.trans hpast, hends'⟩
  · rw [hresult] at hpast hends
    exact ⟨hpast, hends⟩

theorem meets_suspend {f : ι → σ → Option (Ending ε α × σ)}
    (hwaits : ∀ past s, P past s → E .waiting past s)
    (h : ∀ past s answer ending s', P past s → f answer s = some (ending, s') →
      match ending with
      | .returned a => Q a (past ++ [answer]) s'
      | .stopped stop => E stop (past ++ [answer]) s') : Meets P (suspend f) Q E := by
  intro run hrun
  unfold suspend
  split
  · exact ⟨rfl, hwaits _ _ hrun⟩
  · rename_i answer rest hscript
    split
    · exact ⟨rfl, hwaits _ _ hrun⟩
    · rename_i ending host hanswer
      refine ⟨by simp [hscript], ?_⟩
      have hends := h _ _ _ _ _ hrun hanswer
      cases ending with
      | returned a => exact hends
      | stopped stop => exact hends

theorem meets_attempt {catches : ε → Bool} {m : Gen σ ι ε α} {W : Except ε α → Assertion σ ι}
    (hm : Meets P m Q F) (hok : ∀ a past s, Q a past s → W (.ok a) past s)
    (hcaught : ∀ exc past s, F (.raised exc) past s → catches exc = true →
      W (.error exc) past s)
    (hstop : ∀ stop past s, F stop past s → (∀ exc, stop = .raised exc → catches exc = false) →
      E stop past s) : Meets P (attempt catches m) W E := by
  intro run hrun
  obtain ⟨hpast, hends⟩ := hm run hrun
  unfold attempt
  rcases hresult : m run with ⟨a | exc | how | _ | _, run'⟩
  · rw [hresult] at hpast hends
    exact ⟨hpast, hok a _ _ hends⟩
  · rw [hresult] at hpast hends
    by_cases hcatches : catches exc = true
    · simp only [if_pos hcatches]
      exact ⟨hpast, hcaught exc _ _ hends hcatches⟩
    · simp only [if_neg hcatches]
      refine ⟨hpast, hstop _ _ _ hends fun other hother => ?_⟩
      cases hother
      exact Bool.eq_false_iff.mpr hcatches
  all_goals
    rw [hresult] at hpast hends
    exact ⟨hpast, hstop _ _ _ hends nofun⟩

/-- The rule of a `finally` block, which runs after each end but those of a generator that is not
    resumed. -/
theorem meets_tryFinally {m : Gen σ ι ε α} {final : Bool → Gen σ ι ε PUnit}
    (hm : Meets P m S F)
    (hreturned : ∀ a, Meets (S a) (final false) (fun _ => Q a) E)
    (hraised : ∀ exc, Meets (F (.raised exc)) (final false) (fun _ => E (.raised exc)) E)
    (hinterrupted : ∀ how, Meets (F (.interrupted how)) (final (how = .closed))
      (fun _ => E (.interrupted how)) E)
    (hstops : ∀ stop past s, stop = .dropped ∨ stop = .waiting → F stop past s →
      E stop past s) : Meets P (tryFinally m final) Q E := by
  intro run hrun
  obtain ⟨hpast, hends⟩ := hm run hrun
  have hafter : ∀ (ending : Ending ε α) (out : Ending ε PUnit × Run σ ι) (run' : Run σ ι),
      run'.past ++ run'.script = run.past ++ run.script →
      out.2.past ++ out.2.script = run'.past ++ run'.script →
      Ends (fun _ past s => match ending with
        | .returned a => Q a past s
        | .stopped stop => E stop past s) E out →
      (afterFinal ending out).2.past ++ (afterFinal ending out).2.script =
          run.past ++ run.script ∧ Ends Q E (afterFinal ending out) := by
    rintro ending ⟨_ | stop, run''⟩ run' hpast' hpast'' hends'
    · refine ⟨hpast''.trans hpast', ?_⟩
      cases ending with
      | returned a => exact hends'
      | stopped stop => exact hends'
    · exact ⟨hpast''.trans hpast', hends'⟩
  unfold tryFinally
  rcases hresult : m run with ⟨a | exc | how | _ | _, run'⟩
  · rw [hresult] at hpast hends
    obtain ⟨hpast', hends'⟩ := hreturned a run' hends
    exact hafter (.returned a) _ run' hpast hpast' hends'
  · rw [hresult] at hpast hends
    obtain ⟨hpast', hends'⟩ := hraised exc run' hends
    exact hafter (.stopped (.raised exc)) _ run' hpast hpast' hends'
  · rw [hresult] at hpast hends
    obtain ⟨hpast', hends'⟩ := hinterrupted how run' hends
    exact hafter (.stopped (.interrupted how)) _ run' hpast hpast' hends'
  · rw [hresult] at hpast hends
    exact ⟨hpast, hstops _ _ _ (.inl rfl) hends⟩
  · rw [hresult] at hpast hends
    exact ⟨hpast, hstops _ _ _ (.inr rfl) hends⟩

theorem advances_of_meets {step : β → Gen σ ι ε (β ⊕ α)}
    (h : ∀ b n, Meets (fun past _ => n ≤ past.length) (step b)
      (fun next past _ => match next with
        | .inl _ => n < past.length
        | .inr _ => True) fun _ _ _ => True) : Advances step := by
  intro b run b' run' hstep
  obtain ⟨hpast, hends⟩ := h b run.past.length run (Nat.le_refl _)
  rw [hstep] at hpast hends
  have hlength : run'.past.length + run'.script.length = run.past.length + run.script.length := by
    simpa using congrArg List.length hpast
  have hmore : run.past.length < run'.past.length := hends
  omega

theorem meets_iterate {I : β → Assertion σ ι} {step : β → Gen σ ι ε (β ⊕ α)}
    (hstep : ∀ b, Meets (I b) (step b) (fun next => match next with
      | .inl b => I b
      | .inr a => Q a) E)
    (hwaits : ∀ b past s, I b past s → E .waiting past s) (b : β) :
    Meets (I b) (iterate step b) Q E := by
  have hfuel : ∀ n b, Meets (I b) (iterateFuel step n b) Q E := by
    intro n
    induction n with
    | zero => exact fun b => meets_halt (hwaits b)
    | succ n ih =>
      intro b
      refine meets_bind (hstep b) fun next => ?_
      cases next with
      | inl b => exact ih b
      | inr a => exact meets_pure fun _ _ h => h
  exact fun run hrun => hfuel _ b run hrun

end

end AsyncGenerators
