import Meshpoint.GuardedRun
import Meshpoint.UpdateCommands

/-!
# The rollback point

Runs of apply attempts, rollbacks and restarts of the service, over the commit of HEAD, the commit
the running service was started from and the saved state. Every outcome of a step is open: a git
command may fail with HEAD where it was or moved, the state may be saved, refused or cut off, the
detached finish may not start, and a restart may come or not.

`rollbackPoint_iff` says in which runs the saved commit is the running one after every attempt:
those where each attempt that saves finds HEAD at the running commit.
-/

namespace Meshpoint.RollbackPoint

open HostSession UpdateCommands GuardedRun

/-! ### The tree and the state file -/

/-- A commit as `git rev-parse` prints it, without the line break. -/
structure Commit where
  sha : String
  ne_empty : sha ≠ ""
  no_space : ∀ c ∈ sha.toList, PyText.isSpace c = false

theorem Commit.ext_sha {c d : Commit} (h : c.sha = d.sha) : c = d := by
  cases c
  cases d
  cases h
  rfl

instance : DecidableEq Commit := fun c d =>
  if h : c.sha = d.sha then isTrue (Commit.ext_sha h) else isFalse fun heq => h (heq ▸ rfl)

structure World where
  head : Commit
  /-- What the running service was started from. -/
  running : Commit
  /-- The `pre_update_sha` that `read_rollback_state` returns. -/
  file : Option String
  /-- An attempt has saved since the running code was started. -/
  savedSince : Bool

/-- The service has just been started, with the file that was there. -/
def start (commit : Commit) (file : Option String) : World := ⟨commit, commit, file, false⟩

/-- `write_rollback_state`: it saves, or it fails before or after the file is truncated. -/
inductive Disk where
  | saved
  | refused
  | truncated
deriving DecidableEq

/-- How a git command ends, and where HEAD is then if it has moved. -/
structure StepOutcome where
  outcome : Outcome
  moved : Option Commit := none

/-- What the host does during a request. -/
structure Outcomes where
  sudoNeeded : Bool := false
  repoExists : Bool := true
  /-- `git rev-parse HEAD` prints the commit. -/
  headRead : Bool := true
  fetch : StepOutcome
  checkout : StepOutcome
  reset : StepOutcome
  disk : Disk := .saved
  routeDisk : Disk := .saved
  spawned : Bool := true
  delivered : Bool := true
  /-- The state file can be removed. -/
  cleared : Bool := true

def World.save (w : World) (sha : String) : Disk → Bool × World
  | .saved => (true, { w with file := some sha, savedSince := true })
  | .refused => (false, w)
  | .truncated => (false, { w with file := none })

/-- The answer to a git command, by its subcommand. -/
def answer (o : Outcomes) (argv : Argv) (w : World) : Outcome × World :=
  match (argv.drop 3).head? with
  | some (Arg.word "rev-parse") =>
    (.exited ⟨if o.headRead then 0 else 128, w.head.sha ++ "\n", ""⟩, w)
  | some (Arg.word "fetch") => (o.fetch.outcome, w)
  | some (Arg.word "checkout") => (o.checkout.outcome, { w with head := o.checkout.moved.getD w.head })
  | some (Arg.word "reset") => (o.reset.outcome, { w with head := o.reset.moved.getD w.head })
  | _ => (.raised, w)

def tree (o : Outcomes) : Host World where
  runner := answer o
  sudoNeeded _ := o.sudoNeeded
  repoExists _ := o.repoExists
  writeRollbackState sha _ w := w.save sha o.disk
  writeRouteState sha _ w := w.save sha o.routeDisk
  clearRollbackState w := if o.cleared then { w with file := none } else w
  spawnFinish w := (o.spawned, w)

/-! ### Runs -/

inductive Event where
  | apply (channelId : String) (customBranch : Option String) (outcomes : Outcomes)
  | rollback (sha : String) (outcomes : Outcomes)
  /-- The service is restarted, by the detached finish or otherwise. -/
  | restart

def step (registry : List ReleaseChannel) (w : World) : Event → Option World
  | .apply channelId customBranch o =>
    some (applyUpdate (tree o) registry channelId customBranch o.delivered w).2
  | .rollback sha o => some (rollbackUpdate (tree o) sha o.delivered w).2
  | .restart =>
    some (if w.head = w.running then w else { w with running := w.head, savedSince := false })

/-- What an attempt has saved since the running code was started is the running commit. -/
def Sound (w : World) : Prop :=
  w.savedSince = true → ∀ sha ∈ w.file, sha = w.running.sha

def StepOutcome.ok (s : StepOutcome) : Bool :=
  match s.outcome with
  | .exited reply => reply.returncode = 0
  | _ => false

def Outcomes.chainOk (o : Outcomes) : Bool :=
  o.fetch.ok && o.checkout.ok && o.reset.ok && o.spawned

/-- The file holds the commit of this attempt after one more write. -/
def holdsAfter (before : Bool) : Disk → Bool
  | .saved => true
  | .refused => before
  | .truncated => false

/-- The attempt leaves its commit in the state file: the tree is owned, HEAD can be read, and the
    last of the writes that does something saves. -/
def Saves (registry : List ReleaseChannel) (channelId : String) (customBranch : Option String)
    (o : Outcomes) : Bool :=
  match (resolveBranch registry channelId customBranch).filter (·.text ≠ "") with
  | none => false
  | some branch =>
    !o.sudoNeeded && o.repoExists && o.headRead &&
      let first := holdsAfter false o.disk
      if o.delivered && o.chainOk && branch.text ≠ "rollback" then holdsAfter first o.routeDisk
      else first

/-- An attempt that saves finds HEAD at the running commit. -/
def keepsPoint (registry : List ReleaseChannel) (w : World) : Event → Prop
  | .apply channelId customBranch o =>
    Saves registry channelId customBranch o = true → w.head = w.running
  | _ => True

instance (registry : List ReleaseChannel) (w : World) (e : Event) :
    Decidable (keepsPoint registry w e) := by
  cases e with
  | apply channelId customBranch o => exact inferInstanceAs (Decidable (_ → _))
  | rollback => exact instDecidableTrue
  | restart => exact instDecidableTrue

/-! ### One attempt -/

/-- The worlds differ in the position of HEAD only. -/
structure SameSaved (w w' : World) : Prop where
  running : w'.running = w.running
  file : w'.file = w.file
  savedSince : w'.savedSince = w.savedSince

theorem SameSaved.refl (w : World) : SameSaved w w := ⟨rfl, rfl, rfl⟩

theorem SameSaved.trans {w w' w'' : World} (h : SameSaved w w') (h' : SameSaved w' w'') :
    SameSaved w w'' :=
  ⟨h'.running.trans h.running, h'.file.trans h.file, h'.savedSince.trans h.savedSince⟩

theorem sameSaved_answer (o : Outcomes) (argv : Argv) (w : World) :
    SameSaved w (answer o argv w).2 := by
  unfold answer
  split
  · exact SameSaved.refl w
  · exact SameSaved.refl w
  · exact ⟨rfl, rfl, rfl⟩
  · exact ⟨rfl, rfl, rfl⟩
  · exact SameSaved.refl w

theorem sameSaved_runStep (o : Outcomes) (s : Step) (w : World) :
    SameSaved w (runStep (tree o) s w).2 := by
  cases s with
  | finish =>
    unfold runStep tree
    cases o.spawned with
    | true => exact SameSaved.refl w
    | false => exact SameSaved.refl w
  | git label args =>
    have h := sameSaved_answer o (gitArgv args) w
    unfold runStep tree
    dsimp only
    split
    all_goals
      rename_i heq
      rw [heq] at h
      exact h

theorem sameSaved_runChain (o : Outcomes) (steps : List Step) (w : World) :
    SameSaved w (runChain (tree o) steps w).2 := by
  induction steps generalizing w with
  | nil => exact SameSaved.refl w
  | cons s steps ih =>
    have hstep := sameSaved_runStep o s w
    unfold runChain
    cases hrun : runStep (tree o) s w with
    | mk result w' =>
      rw [hrun] at hstep
      cases result with
      | none =>
        rw [bind_apply_none hrun]
        exact hstep
      | some returncode =>
        rw [bind_apply_some hrun]
        split
        · exact hstep
        · exact hstep.trans (ih w')

theorem strip_sha (c : Commit) : PyText.strip (c.sha ++ "\n") = c.sha := by
  have hdrop : ∀ cs : List Char, (∀ x ∈ cs, PyText.isSpace x = false) →
      cs.dropWhile PyText.isSpace = cs := by
    intro cs hcs
    cases cs with
    | nil => rfl
    | cons x cs => simp [hcs x List.mem_cons_self]
  have hne : c.sha.toList ≠ [] := fun h => c.ne_empty (String.toList_eq_nil_iff.mp h)
  have hfront : (c.sha ++ "\n").toList.dropWhile PyText.isSpace = c.sha.toList ++ ['\n'] := by
    obtain ⟨x, xs, hxs⟩ := List.exists_cons_of_ne_nil hne
    have hx := c.no_space x (by rw [hxs]; exact List.mem_cons_self)
    simp [hxs, hx]
  have hback : (c.sha.toList ++ ['\n']).reverse.dropWhile PyText.isSpace =
      c.sha.toList.reverse := by
    have hbreak : PyText.isSpace '\n' = true := by decide
    simp only [List.reverse_append, List.reverse_cons, List.reverse_nil, List.nil_append,
      List.singleton_append, List.dropWhile_cons, hbreak, if_true]
    exact hdrop _ fun x hx => c.no_space x (List.mem_reverse.mp hx)
  unfold PyText.strip PyText.stripWhere
  rw [hfront, hback, List.reverse_reverse, String.ofList_toList]

/-- The commit of HEAD, when the tree is there and git answers. -/
def captured (o : Outcomes) (w : World) : Option String :=
  if o.repoExists && o.headRead then some w.head.sha else none

theorem captureHeadSha_eq (o : Outcomes) (w : World) :
    captureHeadSha (tree o) w = (some (captured o w), w) := by
  have hread : readHeadFullSha (tree o) w =
      (some (if o.headRead then some w.head.sha else none), w) := by
    change (some (Option.filter (· ≠ "") (output
      ⟨if o.headRead then 0 else 128, w.head.sha ++ "\n", ""⟩)), w) = _
    cases o.headRead with
    | false => rfl
    | true => simp [output, strip_sha, Option.filter, w.head.ne_empty]
  cases hexists : o.repoExists with
  | false =>
    have hask : ask (tree o).repoExists w = (some false, w) := by simp [tree, hexists]
    unfold captureHeadSha captured
    rw [bind_apply_some hask, hexists]
    rfl
  | true =>
    have hask : ask (tree o).repoExists w = (some true, w) := by simp [tree, hexists]
    have hattempt : attempt (readHeadFullSha (tree o)) w =
        (some (some (if o.headRead then some w.head.sha else none)), w) := by
      rw [attempt_apply, hread]
    unfold captureHeadSha captured
    rw [bind_apply_some hask, hexists]
    simp only [if_true, Bool.true_and]
    rw [bind_apply_some hattempt]
    rfl

/-- What writes of one commit leave: the commit if the last that did something saved it, else an
    unreadable file or the one that was there. -/
structure Wrote (w w' : World) (sha : String) (held : Bool) : Prop where
  running : w'.running = w.running
  saved : held = true → w'.file = some sha ∧ w'.savedSince = true
  not_saved : held = false →
    w'.file = none ∨ w'.file = w.file ∧ w'.savedSince = w.savedSince

theorem Wrote.refl (w : World) (sha : String) : Wrote w w sha false :=
  ⟨rfl, fun h => (nomatch h), fun _ => Or.inr ⟨rfl, rfl⟩⟩

theorem Wrote.sameSaved {w w₁ w₂ : World} {sha : String} {held : Bool}
    (h : Wrote w w₁ sha held) (h' : SameSaved w₁ w₂) : Wrote w w₂ sha held := by
  refine ⟨h'.running.trans h.running, ?_, ?_⟩
  · rw [h'.file, h'.savedSince]
    exact h.saved
  · rw [h'.file, h'.savedSince]
    exact h.not_saved

theorem Wrote.save {w w₁ : World} {sha : String} {held : Bool} (h : Wrote w w₁ sha held)
    (d : Disk) : Wrote w (w₁.save sha d).2 sha (holdsAfter held d) := by
  cases d with
  | saved => exact ⟨h.running, fun _ => ⟨rfl, rfl⟩, fun hf => nomatch hf⟩
  | refused => exact h
  | truncated => exact ⟨h.running, fun hf => (nomatch hf), fun _ => Or.inl rfl⟩

theorem runStep_git (o : Outcomes) (label : String) (args : List Arg) (w : World) :
    (runStep (tree o) (.git label args) w).1 =
      match (answer o (gitArgv args) w).1 with
      | .exited reply => some reply.returncode
      | .timedOut => some (-1)
      | .raised => none := by
  unfold runStep tree
  dsimp only
  split <;> simp_all

theorem runChain_cons (o : Outcomes) (s : Step) (steps : List Step) (w : World) :
    (runChain (tree o) (s :: steps) w).1 = some none ↔
      (runStep (tree o) s w).1 = some 0 ∧
        (runChain (tree o) steps (runStep (tree o) s w).2).1 = some none := by
  rw [runChain]
  cases hrun : runStep (tree o) s w with
  | mk result w' =>
    cases result with
    | none =>
      rw [bind_apply_none hrun]
      simp
    | some returncode =>
      rw [bind_apply_some hrun]
      by_cases hzero : returncode = 0
      · simp [hzero]
      · simp [hzero]

theorem runChain_buildChain (o : Outcomes) (branch : Name) (w : World) :
    (runChain (tree o) (buildChain branch) w).1 = some none ↔ o.chainOk = true := by
  have hok : ∀ s : StepOutcome, (match s.outcome with
      | .exited reply => some reply.returncode
      | .timedOut => some (-1)
      | .raised => none) = some (0 : Int) ↔ s.ok = true := by
    intro s
    unfold StepOutcome.ok
    cases s.outcome with
    | exited reply => simp
    | timedOut => simp
    | raised => simp
  have hfinish : ∀ w : World, (runStep (tree o) .finish w).1 = some 0 ↔ o.spawned = true := by
    intro w
    unfold runStep tree
    cases o.spawned <;> simp
  have hfetch := fun w args => runStep_git o "git fetch" (.word "fetch" :: args) w
  have hcheckout := fun w args => runStep_git o "git checkout" (.word "checkout" :: args) w
  have hreset := fun w args => runStep_git o "git reset" (.word "reset" :: args) w
  simp only [answer, gitArgv, List.cons_append, List.nil_append, List.drop_succ_cons,
    List.drop_zero, List.head?_cons] at hfetch hcheckout hreset
  unfold buildChain
  rw [runChain_cons, runChain_cons, runChain_cons, runChain_cons, hfetch, hcheckout, hreset, hok,
    hok, hok, hfinish]
  simp [Outcomes.chainOk, runChain, and_assoc]

/-- The world in which the chain of an attempt starts. -/
def beforeChain (o : Outcomes) (w : World) : World :=
  match captured o w with
  | some sha => (w.save sha o.disk).2
  | none => w

theorem applyBranch_preflight {o : Outcomes} (hsudo : o.sudoNeeded = true) (branch : Name)
    (w : World) :
    applyBranch (tree o) branch w = (some ⟨false, none, branch.text, some "preflight"⟩, w) := by
  have hask : ask (tree o).sudoNeeded w = (some true, w) := by simp [tree, hsudo]
  unfold applyBranch
  rw [bind_apply_some hask]
  rfl

/-- An attempt on a tree of its own saves, runs the chain and reports how that ended. -/
theorem applyBranch_owned {o : Outcomes} (hsudo : o.sudoNeeded = false) (branch : Name)
    (w : World) :
    applyBranch (tree o) branch w =
      ((runChain (tree o) (buildChain branch) (beforeChain o w)).1.map fun failed =>
          ⟨failed.isNone, captured o w, branch.text, failed⟩,
        (runChain (tree o) (buildChain branch) (beforeChain o w)).2) := by
  have hask : ask (tree o).sudoNeeded w = (some false, w) := by simp [tree, hsudo]
  have hsave : saveRollbackPoint (tree o) branch (captured o w) w =
      (some (), beforeChain o w) := by
    unfold beforeChain
    cases captured o w with
    | none => rfl
    | some sha => rfl
  unfold applyBranch
  rw [bind_apply_some hask]
  simp only [Bool.false_eq_true, if_false]
  rw [bind_apply_some (captureHeadSha_eq o w), bind_apply_some hsave]
  cases hrun : runChain (tree o) (buildChain branch) (beforeChain o w) with
  | mk result w' =>
    cases result with
    | none =>
      rw [bind_apply_none hrun]
      rfl
    | some failed =>
      rw [bind_apply_some hrun]
      rfl

theorem persist_eq (o : Outcomes) (commit : Commit) (branch : Name) (failed : Option String)
    (w : World) :
    persistRollbackAfterApply (tree o) o.delivered
        ⟨o.chainOk, some commit.sha, branch.text, failed⟩ w =
      (some (), if (o.delivered && o.chainOk && decide (branch.text ≠ "rollback")) = true then
        (w.save commit.sha o.routeDisk).2 else w) := by
  unfold persistRollbackAfterApply
  simp only [Option.filter, commit.ne_empty, ne_eq, not_false_eq_true, decide_true, if_true]
  by_cases hwrites : o.delivered = true ∧ o.chainOk = true ∧ branch.text ≠ "rollback"
  · have hwrites' : (o.delivered && o.chainOk && decide (¬ branch.text = "rollback")) = true := by
      simpa [and_assoc] using hwrites
    rw [if_pos hwrites, if_pos hwrites']
    rfl
  · have hwrites' : ¬ (o.delivered && o.chainOk && decide (¬ branch.text = "rollback")) = true := by
      simpa [and_assoc] using hwrites
    rw [if_neg hwrites, if_neg hwrites']
    rfl

/-- **What an attempt leaves in the state file.** -/
theorem wrote_applyUpdate (registry : List ReleaseChannel) (channelId : String)
    (customBranch : Option String) (o : Outcomes) (w : World) :
    Wrote w (applyUpdate (tree o) registry channelId customBranch o.delivered w).2 w.head.sha
      (Saves registry channelId customBranch o) := by
  unfold applyUpdate Saves
  cases (resolveBranch registry channelId customBranch).filter (·.text ≠ "") with
  | none => exact Wrote.refl w _
  | some branch =>
    cases hsudo : o.sudoNeeded with
    | true =>
      dsimp only
      rw [bind_apply_some (applyBranch_preflight hsudo branch w)]
      exact Wrote.refl w _
    | false =>
      have happly := applyBranch_owned hsudo branch w
      have hframe := sameSaved_runChain o (buildChain branch) (beforeChain o w)
      have hchain := runChain_buildChain o branch (beforeChain o w)
      cases hrun : runChain (tree o) (buildChain branch) (beforeChain o w) with
      | mk result w' =>
        rw [hrun] at happly hframe hchain
        -- without a captured commit nothing is written, before the chain or after it
        cases hcaptured : o.repoExists && o.headRead with
        | false =>
          have hnone : captured o w = none := by simp [captured, hcaptured]
          have hbefore : beforeChain o w = w := by simp [beforeChain, hnone]
          rw [hbefore] at hframe
          rw [hnone] at happly
          have hwrote := (Wrote.refl w w.head.sha).sameSaved hframe
          have hsaves : (!false && o.repoExists && o.headRead) = false := by simpa using hcaptured
          simp only [hsaves, Bool.false_and]
          cases result with
          | none =>
            rw [bind_apply_none happly]
            exact hwrote
          | some failed =>
            rw [bind_apply_some happly]
            exact hwrote
        | true =>
          have hsome : captured o w = some w.head.sha := by simp [captured, hcaptured]
          have hbefore : beforeChain o w = (w.save w.head.sha o.disk).2 := by
            simp [beforeChain, hsome]
          rw [hbefore] at hframe
          rw [hsome] at happly
          have hwrote := ((Wrote.refl w w.head.sha).save o.disk).sameSaved hframe
          have hsaves : (!false && o.repoExists && o.headRead) = true := by simpa using hcaptured
          simp only [hsaves, Bool.true_and]
          cases result with
          | none =>
            have hfails : o.chainOk = false := by
              cases hok : o.chainOk with
              | false => rfl
              | true => exact absurd (hchain.mpr hok) (by simp)
            rw [bind_apply_none happly]
            simpa [hfails] using hwrote
          | some failed =>
            have hfailed : failed.isNone = o.chainOk := by
              rw [Bool.eq_iff_iff, ← hchain]
              simp
            have hresult : applyBranch (tree o) branch w =
                (some ⟨o.chainOk, some w.head.sha, branch.text, failed⟩, w') := by
              rw [happly, ← hfailed]
              rfl
            rw [bind_apply_some hresult, bind_apply_some (persist_eq o w.head branch failed w')]
            by_cases hwrites : (o.delivered && o.chainOk && decide (branch.text ≠ "rollback")) = true
            · rw [if_pos hwrites, if_pos hwrites]
              exact hwrote.save o.routeDisk
            · rw [if_neg hwrites, if_neg hwrites]
              exact hwrote

theorem rollbackUpdate_spec (sha : String) (o : Outcomes) (w : World) :
    (rollbackUpdate (tree o) sha o.delivered w).2.running = w.running ∧
      (rollbackUpdate (tree o) sha o.delivered w).2.savedSince = w.savedSince ∧
      ((rollbackUpdate (tree o) sha o.delivered w).2.file = w.file ∨
        (rollbackUpdate (tree o) sha o.delivered w).2.file = none) := by
  have hrollback : SameSaved w (rollback (tree o) ⟨sha, true⟩ w).2 := by
    have hask : ask (tree o).sudoNeeded w = (some o.sudoNeeded, w) := rfl
    have hframe := sameSaved_runChain o (rollbackChain ⟨sha, true⟩) w
    unfold rollback
    rw [bind_apply_some hask]
    split
    · exact SameSaved.refl w
    · cases hrun : runChain (tree o) (rollbackChain ⟨sha, true⟩) w with
      | mk result w' =>
        rw [hrun] at hframe
        cases result with
        | none =>
          rw [bind_apply_none hrun]
          exact hframe
        | some failed =>
          rw [bind_apply_some hrun]
          exact hframe
  unfold rollbackUpdate
  cases hrun : rollback (tree o) ⟨sha, true⟩ w with
  | mk result w' =>
    rw [hrun] at hrollback
    cases result with
    | none =>
      rw [bind_apply_none hrun]
      exact ⟨hrollback.running, hrollback.savedSince, Or.inl hrollback.file⟩
    | some result =>
      have hclear : clearRollbackAfterSuccess (tree o) o.delivered result w' = (some (),
          if o.delivered ∧ result.success then (tree o).clearRollbackState w' else w') := by
        unfold clearRollbackAfterSuccess
        split <;> rfl
      rw [bind_apply_some hrun, bind_apply_some hclear]
      change (ite _ _ _ : World).running = _ ∧ (ite _ _ _ : World).savedSince = _ ∧
        ((ite _ _ _ : World).file = _ ∨ (ite _ _ _ : World).file = _)
      split
      · have hhost : (tree o).clearRollbackState w' =
            if o.cleared then { w' with file := none } else w' := rfl
        rw [hhost]
        split
        · exact ⟨hrollback.running, hrollback.savedSince, Or.inr rfl⟩
        · exact ⟨hrollback.running, hrollback.savedSince, Or.inl hrollback.file⟩
      · exact ⟨hrollback.running, hrollback.savedSince, Or.inl hrollback.file⟩

/-! ### Every run -/

/-- One event keeps the point exactly when it is no attempt that saves the commit of a HEAD that
    has left the running one. -/
theorem sound_step_iff (registry : List ReleaseChannel) {w w' : World} {e : Event}
    (hsound : Sound w) (h : step registry w e = some w') :
    Sound w' ↔ keepsPoint registry w e := by
  cases e with
  | apply channelId customBranch o =>
    obtain rfl := Option.some.inj h
    have hwrote := wrote_applyUpdate registry channelId customBranch o w
    unfold Sound keepsPoint
    rw [hwrote.running]
    cases hsaves : Saves registry channelId customBranch o with
    | true =>
      obtain ⟨hfile, hsince⟩ := hwrote.saved hsaves
      rw [hfile, hsince]
      constructor
      · intro hpoint _
        exact Commit.ext_sha (hpoint rfl w.head.sha rfl)
      · intro hhead _ sha hsha
        rw [← Option.some.inj hsha, hhead hsaves]
    | false =>
      refine iff_of_true ?_ fun hf => absurd (hsaves.symm.trans hf) (by decide)
      rcases hwrote.not_saved hsaves with hfile | ⟨hfile, hsince⟩
      · rw [hfile]
        intro _ sha hsha
        cases hsha
      · rw [hfile, hsince]
        exact hsound
  | rollback sha o =>
    obtain rfl := Option.some.inj h
    obtain ⟨hrunning, hsince, hfile⟩ := rollbackUpdate_spec sha o w
    refine iff_of_true ?_ trivial
    unfold Sound
    rw [hrunning, hsince]
    rcases hfile with hfile | hfile
    · rw [hfile]
      exact hsound
    · rw [hfile]
      intro _ sha hsha
      cases hsha
  | restart =>
    obtain rfl := Option.some.inj h
    refine iff_of_true ?_ trivial
    split
    · exact hsound
    · exact fun hf => nomatch hf

theorem replay_isSome (registry : List ReleaseChannel) (w : World) (events : List Event) :
    ∃ w', replay (step registry) Always w events = some w' := by
  induction events generalizing w with
  | nil => exact ⟨w, rfl⟩
  | cons e events ih =>
    obtain ⟨w₁, hstep⟩ : ∃ w₁, step registry w e = some w₁ := by
      cases e <;> exact ⟨_, rfl⟩
    obtain ⟨w', hrest⟩ := ih w₁
    refine ⟨w', ?_⟩
    have halways : Always w e := trivial
    rw [replay, if_pos halways, hstep]
    exact hrest

/-- **The rollback point.**  From the start of the service, over any sequence of attempts with any
    outcomes, rollbacks and restarts, what has been saved since the running code was started is
    the running commit after every event, exactly when every attempt that saves finds HEAD at the
    running commit. -/
theorem rollbackPoint_iff (registry : List ReleaseChannel) (commit : Commit)
    (file : Option String) (events : List Event) :
    Throughout (step registry) Sound (start commit file) events ↔
      (replay (step registry) (keepsPoint registry) (start commit file) events).isSome = true := by
  have hstart : Sound (start commit file) := fun h => nomatch h
  obtain ⟨w', hrun⟩ := replay_isSome registry (start commit file) events
  rw [throughout_iff_replay (I := fun _ => True)
    (fun _ hsound hstep => ⟨trivial, sound_step_iff registry hsound hstep⟩) trivial hstart hrun]
  constructor
  · intro hguarded
    rw [hguarded]
    rfl
  · intro hsome
    obtain ⟨w'', hguarded⟩ := Option.isSome_iff_exists.mp hsome
    have hsame : replay (step registry) Always (start commit file) events = some w'' :=
      replay_mono (fun _ _ _ => trivial) hguarded
    rw [hrun] at hsame
    rw [hguarded, ← hsame]

def released : Commit := ⟨"5f2c91d8", by decide, PyText.forall_eq_false_of_all (by decide)⟩
def updated : Commit := ⟨"a07be344", by decide, PyText.forall_eq_false_of_all (by decide)⟩

def succeeds : Outcome := .exited ⟨0, "", ""⟩

/-- The first attempt checks the update out and is cut off at the reset; the second gets as far. -/
def retriedUpdate : List Event :=
  [.apply "stable" none ⟨false, true, true, ⟨succeeds, none⟩, ⟨succeeds, some updated⟩,
      ⟨.timedOut, none⟩, .saved, .saved, true, true, true⟩,
    .apply "stable" none ⟨false, true, true, ⟨succeeds, none⟩, ⟨succeeds, none⟩,
      ⟨.timedOut, none⟩, .saved, .saved, true, true, true⟩]

/-- The retry saves the commit of the half-applied update. -/
theorem not_rollbackPoint_retriedUpdate :
    ¬ ∀ events : List Event,
      Throughout (step DEFAULT_CHANNELS) Sound (start released none) events := by
  intro h
  have hrun := (h retriedUpdate).2 _ rfl
  have hsecond := (hrun.2 _ rfl) rfl updated.sha
  exact absurd (hsecond (by decide)) (by decide)

end Meshpoint.RollbackPoint
