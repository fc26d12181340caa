import Mathlib.Logic.Basic

/-!
# Sessions with a host

A session is a computation that acts on the state of a host and may raise: `none` is a raised
exception, and what was done before it stays done.

`Appends P` is the rule for sessions whose state is a log: they only add to it, and only
entries that meet `P`.  `Meets` is a judgment with a precondition, and one postcondition each for
returning and for raising.
-/

namespace HostSession

universe u v

def Session (σ : Type u) (α : Type v) := σ → Option α × σ

variable {σ α β γ : Type u}

instance : Monad (Session σ) where
  pure a := fun s => (some a, s)
  bind m f := fun s =>
    match m s with
    | (some a, s') => f a s'
    | (none, s') => (none, s')

/-- `try`: an exception becomes a value. -/
def attempt (m : Session σ α) : Session σ (Option α) := fun s => (some (m s).1, (m s).2)

def raise : Session σ α := fun s => (none, s)

def ask (f : σ → α) : Session σ α := fun s => (some (f s), s)

def act (f : σ → α × σ) : Session σ α := fun s => (some (f s).1, (f s).2)

/-- A computation that may raise and leaves the host alone. -/
def lift {ε : Type*} (x : Except ε α) : Session σ α := fun s => (x.toOption, s)

@[simp] theorem pure_apply (a : α) (s : σ) : (pure a : Session σ α) s = (some a, s) := rfl

@[simp] theorem attempt_apply (m : Session σ α) (s : σ) :
    attempt m s = (some (m s).1, (m s).2) := rfl

@[simp] theorem raise_apply (s : σ) : (raise : Session σ α) s = (none, s) := rfl

@[simp] theorem ask_apply (f : σ → α) (s : σ) : ask f s = (some (f s), s) := rfl

@[simp] theorem act_apply (f : σ → α × σ) (s : σ) : act f s = (some (f s).1, (f s).2) := rfl

theorem bind_apply_some {m : Session σ α} {f : α → Session σ β} {s s' : σ} {a : α}
    (h : m s = (some a, s')) : (m >>= f) s = f a s' := by
  change (match m s with
    | (some a, s') => f a s'
    | (none, s') => (none, s')) = f a s'
  rw [h]

theorem bind_apply_none {m : Session σ α} {f : α → Session σ β} {s s' : σ}
    (h : m s = (none, s')) : (m >>= f) s = (none, s') := by
  change (match m s with
    | (some a, s') => f a s'
    | (none, s') => (none, s')) = (none, s')
  rw [h]

@[simp] theorem act_bind (f : σ → α × σ) (g : α → Session σ β) (s : σ) :
    (act f >>= g) s = g (f s).1 (f s).2 := rfl

@[simp] theorem lift_ok_bind {ε : Type*} (a : α) (g : α → Session σ β) (s : σ) :
    ((lift (.ok a : Except ε α) : Session σ α) >>= g) s = g a s := rfl

@[simp] theorem lift_error_bind {ε : Type*} (e : ε) (g : α → Session σ β) (s : σ) :
    ((lift (.error e : Except ε α) : Session σ α) >>= g) s = (none, s) := rfl

/-! ### Logs -/

/-- The session adds to the log only entries that meet `P`. -/
def Appends (P : γ → Prop) (m : Session (List γ) α) : Prop :=
  ∀ log, ∃ added, (m log).2 = log ++ added ∧ ∀ c ∈ added, P c

variable {P : γ → Prop}

theorem appends_pure (a : α) : Appends P (pure a) := fun log => ⟨[], by simp, by simp⟩

theorem appends_ask (f : List γ → α) : Appends P (ask f) := fun log => ⟨[], by simp, by simp⟩

theorem appends_bind {m : Session (List γ) α} {f : α → Session (List γ) β} (hm : Appends P m)
    (hf : ∀ a, Appends P (f a)) : Appends P (m >>= f) := by
  intro log
  obtain ⟨added, hlog, hadded⟩ := hm log
  cases hrun : m log with
  | mk result log' =>
    have hlog' : log' = log ++ added := by
      rw [hrun] at hlog
      exact hlog
    cases result with
    | none =>
      rw [bind_apply_none hrun]
      exact ⟨added, hlog', hadded⟩
    | some a =>
      rw [bind_apply_some hrun]
      obtain ⟨later, hlater, hadded'⟩ := hf a log'
      refine ⟨added ++ later, ?_, ?_⟩
      · rw [hlater, hlog', List.append_assoc]
      · intro c hc
        rcases List.mem_append.mp hc with hc | hc
        · exact hadded c hc
        · exact hadded' c hc

theorem appends_attempt {m : Session (List γ) α} (hm : Appends P m) :
    Appends P (attempt m) := hm

theorem appends_ite {c : Prop} [Decidable c] {m m' : Session (List γ) α} (hm : Appends P m)
    (hm' : Appends P m') : Appends P (if c then m else m') := by
  split
  · exact hm
  · exact hm'

theorem mem_of_appends {m : Session (List γ) α} (hm : Appends P m) {c : γ}
    (hc : c ∈ (m []).2) : P c := by
  obtain ⟨added, hlog, hadded⟩ := hm []
  rw [hlog, List.nil_append] at hc
  exact hadded c hc

theorem mem_of_mem {m : Session (List γ) α} (hm : Appends P m) {log : List γ} {c : γ}
    (hc : c ∈ log) : c ∈ (m log).2 := by
  obtain ⟨added, hlog, -⟩ := hm log
  rw [hlog]
  exact List.mem_append_left _ hc

theorem mem_bind_of_mem {m : Session (List γ) α} {f : α → Session (List γ) β}
    (hf : ∀ a, Appends P (f a)) {log : List γ} {c : γ} (hc : c ∈ (m log).2) :
    c ∈ ((m >>= f) log).2 := by
  cases hrun : m log with
  | mk result log' =>
    rw [hrun] at hc
    cases result with
    | none =>
      rw [bind_apply_none hrun]
      exact hc
    | some a =>
      rw [bind_apply_some hrun]
      exact mem_of_mem (hf a) hc

/-! ### Pre- and postconditions -/

/-- A session ends with `Q` where it has returned, and with `E` where it has raised. -/
def Ends (Q : α → σ → Prop) (E : σ → Prop) : Option α × σ → Prop
  | (some a, s) => Q a s
  | (none, s) => E s

/-- From a state with `P` the session returns with `Q`, or raises with `E`. -/
def Meets (P : σ → Prop) (m : Session σ α) (Q : α → σ → Prop) (E : σ → Prop) : Prop :=
  ∀ s, P s → Ends Q E (m s)

section

variable {P' : σ → Prop} {Q Q' : α → σ → Prop} {R : β → σ → Prop} {E E' : σ → Prop}

theorem Ends.mono (hreturn : ∀ a s, Q a s → Q' a s) (hraise : ∀ s, E s → E' s)
    {result : Option α × σ} (h : Ends Q E result) : Ends Q' E' result := by
  obtain ⟨a, s⟩ := result
  cases a with
  | none => exact hraise s h
  | some a => exact hreturn a s h

theorem meets_pure {a : α} (h : ∀ s, P' s → Q a s) : Meets P' (pure a) Q E := h

theorem meets_raise (h : ∀ s, P' s → E s) : Meets P' (raise : Session σ α) Q E := h

theorem meets_lift {ε : Type*} {x : Except ε α} (hok : ∀ a, x = .ok a → ∀ s, P' s → Q a s)
    (herror : ∀ s, P' s → E s) : Meets P' (lift x) Q E := by
  intro s hs
  cases x with
  | ok a => exact hok a rfl s hs
  | error e => exact herror s hs

theorem meets_bind {m : Session σ α} {f : α → Session σ β} (hm : Meets P' m Q E)
    (hf : ∀ a, Meets (Q a) (f a) R E) : Meets P' (m >>= f) R E := by
  intro s hs
  have hfirst := hm s hs
  cases hrun : m s with
  | mk result s' =>
    rw [hrun] at hfirst
    cases result with
    | none =>
      rw [bind_apply_none hrun]
      exact hfirst
    | some a =>
      rw [bind_apply_some hrun]
      exact hf a s' hfirst

theorem meets_ite {c : Prop} [Decidable c] {m m' : Session σ α} (hm : c → Meets P' m Q E)
    (hm' : ¬ c → Meets P' m' Q E) : Meets P' (if c then m else m') Q E := by
  split
  · rename_i hc
    exact hm hc
  · rename_i hc
    exact hm' hc

theorem meets_attempt {m : Session σ α} {Q' : Option α → σ → Prop} (hm : Meets P' m Q E)
    (hsome : ∀ a s, Q a s → Q' (some a) s) (hnone : ∀ s, E s → Q' none s) :
    Meets P' (attempt m) Q' E := by
  intro s hs
  have hrun := hm s hs
  rw [attempt_apply]
  cases hresult : m s with
  | mk result s' =>
    rw [hresult] at hrun
    cases result with
    | none => exact hnone s' hrun
    | some a => exact hsome a s' hrun

theorem meets_true (m : Session σ α) : Meets P' m (fun _ _ => True) (fun _ => True) := by
  intro s _
  cases hrun : m s with
  | mk result s' =>
    cases result with
    | none => trivial
    | some _ => trivial

theorem meets_of_none {m : Session σ α} (h : ∀ s, (m s).1 = none) :
    Meets P' m (fun _ _ => False) (fun _ => True) := by
  intro s _
  cases hrun : m s with
  | mk result s' =>
    cases result with
    | none => trivial
    | some a => exact absurd (h s) (by rw [hrun]; exact Option.some_ne_none a)

theorem eq_none_of_meets {m : Session σ α} (h : Meets P' m (fun _ _ => False) E) {s : σ}
    (hs : P' s) : (m s).1 = none := by
  have hends := h s hs
  cases hrun : m s with
  | mk result s' =>
    rw [hrun] at hends
    cases result with
    | none => rfl
    | some a => exact hends.elim

theorem meets_foldlM {ι : Type*} {I : β → σ → Prop} {f : β → ι → Session σ β} {l : List ι}
    (hf : ∀ b, ∀ i ∈ l, Meets (I b) (f b i) I E) (b : β) : Meets (I b) (l.foldlM f b) I E := by
  induction l generalizing b with
  | nil => exact meets_pure fun s hs => hs
  | cons i rest ih =>
    rw [List.foldlM_cons]
    exact meets_bind (hf b i List.mem_cons_self)
      (fun b' => ih (fun b j hj => hf b j (List.mem_cons_of_mem i hj)) b')

end

theorem foldlM_raises {ι : Type*} {f : β → ι → Session σ β} {l : List ι} {i : ι} (hi : i ∈ l)
    (hf : ∀ b s, (f b i s).1 = none) (b : β) (s : σ) : (l.foldlM f b s).1 = none := by
  induction l generalizing b s with
  | nil => cases hi
  | cons j rest ih =>
    rw [List.foldlM_cons]
    cases hrun : f b j s with
    | mk result s' =>
      cases result with
      | none => rw [bind_apply_none hrun]
      | some b' =>
        rw [bind_apply_some hrun]
        rcases List.mem_cons.mp hi with rfl | hrest
        · exact absurd (hf b s) (by rw [hrun]; exact Option.some_ne_none b')
        · exact ih hrest b' s'

end HostSession
