import Meshpoint.UpdateCommands

/-!
# Git arguments of the update API

The command lines that a request to the update API runs, for any answers of git. `ArgvSafe` is
the rule on them: a branch or commit that the request supplied is a positional revision, and it
meets the rule of branch names.

`commandsSafe_iff` says for which requests the rule holds: `/apply` checks the branch it is
given, `/check` and `/rollback` do not.
-/

namespace Meshpoint.GitArguments

open HostSession UpdateCommands

/-- The answers of the host; git's depend on the commands it has been given. -/
structure Answers where
  git : List Argv → Outcome
  sudoNeeded : Bool := false
  repoExists : Bool := true
  saved : Bool := true
  spawned : Bool := true

/-- A host whose state is the list of the commands that were run. -/
def recording (answers : Answers) : Host (List Argv) where
  runner argv log := (answers.git (log ++ [argv]), log ++ [argv])
  sudoNeeded _ := answers.sudoNeeded
  repoExists _ := answers.repoExists
  writeRollbackState _ _ log := (answers.saved, log)
  writeRouteState _ _ log := (answers.saved, log)
  clearRollbackState := id
  spawnFinish log := (answers.spawned, log)

def commands (answers : Answers) (registry : List ReleaseChannel) (req : Request) : List Argv :=
  (handle (recording answers) registry req []).2

def IsOption (arg : Arg) : Prop := "-".toList <+: arg.text.toList

/-- A supplied name is part of a positional revision, and it meets the rule of branch names. -/
def ArgSafe : Arg → Prop
  | .word _ => True
  | .revision before name after =>
    name.supplied = true → isSafeBranch name.text = true ∧ ¬ IsOption (.revision before name after)

def ArgvSafe (argv : Argv) : Prop := ∀ arg ∈ argv, ArgSafe arg

/-- The requests whose branch or commit meets the rule, or goes through `/apply`. -/
def SuppliesSafe (registry : List ReleaseChannel) : Request → Prop
  | .check channelId customBranch =>
    ∀ id ∈ channelId, id ≠ "" → ∀ channel ∈ find registry (normalizeChannelId id),
      channel.tier = .custom → PyText.strip (customBranch.getD "") ≠ "" →
        isSafeBranch (PyText.strip (customBranch.getD "")) = true
  | .apply _ _ _ => True
  | .rollback sha _ => isSafeBranch sha = true

/-! ### Commands and names -/

/-- Prefixes of the revisions that are built from a name. -/
def REVISION_PREFIXES : List String := ["", "origin/", "HEAD..origin/"]

/-- A git command whose revisions are built from names that meet `N`. -/
def CommandOf (N : Name → Prop) (argv : Argv) : Prop :=
  ∀ arg ∈ argv, match arg with
    | .word _ => True
    | .revision before name _ => before ∈ REVISION_PREFIXES ∧ N name

def NameSafe (name : Name) : Prop := name.supplied = true → isSafeBranch name.text = true

theorem nameSafe_of_not_supplied (text : String) : NameSafe ⟨text, false⟩ := fun h => nomatch h

theorem not_isOption_of_isSafeBranch {name : Name} (h : isSafeBranch name.text = true)
    (after : String) {before : String} (hbefore : before ∈ REVISION_PREFIXES) :
    ¬ IsOption (.revision before name after) := by
  intro hoption
  simp only [isSafeBranch, Bool.and_eq_true, Bool.not_eq_true', decide_eq_true_eq] at h
  obtain ⟨⟨⟨hne, -⟩, -⟩, hdash⟩ := h
  unfold IsOption Arg.text at hoption
  simp only [String.toList_append] at hoption
  simp only [REVISION_PREFIXES, List.mem_cons, List.not_mem_nil, or_false] at hbefore
  rcases hbefore with rfl | rfl | rfl
  · cases htext : name.text.toList with
    | nil => exact hne (String.toList_eq_nil_iff.mp htext)
    | cons c cs =>
      rw [htext] at hoption hdash
      simp_all [List.isPrefixOf]
  · simp at hoption
  · simp at hoption

theorem argvSafe_of_commandOf {argv : Argv} (h : CommandOf NameSafe argv) : ArgvSafe argv := by
  intro arg harg
  have hcommand := h arg harg
  cases arg with
  | word text => trivial
  | revision before name after =>
    intro hsupplied
    have hsafe := hcommand.2 hsupplied
    exact ⟨hsafe, not_isOption_of_isSafeBranch hsafe after hcommand.1⟩

/-! ### The commands of each session -/

section

variable {N : Name → Prop} (answers : Answers)

theorem commandOf_gitArgv {args : List Arg} (h : CommandOf N args) :
    CommandOf N (gitArgv args) := by
  intro arg harg
  simp only [gitArgv, List.cons_append, List.nil_append, List.mem_cons] at harg
  rcases harg with rfl | rfl | rfl | harg
  · trivial
  · trivial
  · trivial
  · exact h arg harg

theorem commandOf_nil : CommandOf N [] := fun _ harg => nomatch harg

theorem commandOf_word {text : String} {args : List Arg} (h : CommandOf N args) :
    CommandOf N (.word text :: args) := by
  intro arg harg
  rcases List.mem_cons.mp harg with rfl | harg
  · trivial
  · exact h arg harg

theorem commandOf_revision {before after : String} {name : Name}
    (hbefore : before ∈ REVISION_PREFIXES) (hname : N name) :
    CommandOf N [.revision before name after] := by
  intro arg harg
  obtain rfl := List.mem_singleton.mp harg
  exact ⟨hbefore, hname⟩

theorem appends_git {args : List Arg} (h : CommandOf N args) :
    Appends (CommandOf N) (git (recording answers) args) := by
  intro log
  refine ⟨[gitArgv args], ?_, ?_⟩
  · unfold git recording
    dsimp only
    split <;> simp_all
  · intro c hc
    obtain rfl := List.mem_singleton.mp hc
    exact commandOf_gitArgv h

theorem appends_readDetachedBranchName :
    Appends (CommandOf N) (readDetachedBranchName (recording answers)) :=
  appends_bind (appends_git answers (commandOf_word (commandOf_word (commandOf_word commandOf_nil))))
    fun _ => appends_pure _

theorem appends_readInstallGitRef :
    Appends (CommandOf N) (readInstallGitRef (recording answers)) := by
  refine appends_bind
    (appends_git answers (commandOf_word (commandOf_word (commandOf_word commandOf_nil))))
    fun reply => ?_
  refine appends_bind
    (appends_ite (appends_readDetachedBranchName answers) (appends_pure _)) fun branch => ?_
  exact appends_bind
    (appends_git answers (commandOf_word (commandOf_word (commandOf_word commandOf_nil))))
    fun _ => appends_pure _

theorem appends_readHeadFullSha : Appends (CommandOf N) (readHeadFullSha (recording answers)) :=
  appends_bind (appends_git answers (commandOf_word (commandOf_word commandOf_nil)))
    fun _ => appends_pure _

theorem appends_gitFetchOriginBranch {branch : Name} (h : N branch) :
    Appends (CommandOf N) (gitFetchOriginBranch (recording answers) branch) :=
  appends_bind
    (appends_git answers
      (commandOf_word (commandOf_word (commandOf_revision (by decide) h))))
    fun _ => appends_pure _

theorem appends_revisionCount {range : Arg} (h : CommandOf N [range]) :
    Appends (CommandOf N) (revisionCount (recording answers) range) := by
  refine appends_bind (appends_git answers (commandOf_word (commandOf_word h))) fun reply => ?_
  refine appends_ite (appends_pure _) ?_
  exact appends_bind (appends_git answers (commandOf_word (commandOf_word h)))
    fun _ => appends_pure _

theorem appends_countCommitsBehindAhead {branch : Name} (h : N branch) :
    Appends (CommandOf N) (countCommitsBehindAhead (recording answers) branch) := by
  refine appends_bind (appends_revisionCount answers (commandOf_revision (by decide) h))
    fun behind => ?_
  refine appends_bind (appends_revisionCount answers (commandOf_revision (by decide) h))
    fun ahead => ?_
  exact appends_bind
    (appends_git answers (commandOf_word (commandOf_word (commandOf_revision (by decide) h))))
    fun _ => appends_pure _

theorem appends_listIncomingCommits {branch : Name} (h : N branch) :
    Appends (CommandOf N) (listIncomingCommits (recording answers) branch) :=
  appends_bind
    (appends_git answers (commandOf_word (commandOf_word (commandOf_revision (by decide) h))))
    fun _ => appends_pure _

theorem appends_listBranchCommits {branch : Name} (h : N branch) :
    Appends (CommandOf N) (listBranchCommits (recording answers) branch) :=
  appends_bind
    (appends_git answers (commandOf_word (commandOf_word (commandOf_word (commandOf_word
      (commandOf_revision (by decide) h))))))
    fun _ => appends_pure _

theorem appends_compareRemote (status : InstallStatus) {branch : Name} (h : N branch)
    (error : Option String) :
    Appends (CommandOf N) (compareRemote (recording answers) status branch error) := by
  cases error with
  | some error => exact appends_pure _
  | none =>
    refine appends_bind (appends_countCommitsBehindAhead answers h) fun counts => ?_
    exact appends_bind (appends_ite (appends_listIncomingCommits answers h) (appends_pure _))
      fun incoming => appends_pure _

theorem appends_syncRemote (status : InstallStatus) {branch : Option Name}
    (h : ∀ name ∈ branch, N name) :
    Appends (CommandOf N) (syncRemote (recording answers) status branch) := by
  cases branch with
  | none => exact appends_pure _
  | some branch =>
    exact appends_bind (appends_gitFetchOriginBranch answers (h branch rfl))
      fun error => appends_compareRemote answers status (h branch rfl) error

theorem appends_addRemoteCommits (status : InstallStatus) {branch : Option Name}
    (h : ∀ name ∈ branch, N name) :
    Appends (CommandOf N) (addRemoteCommits (recording answers) status branch) := by
  cases branch with
  | none => exact appends_pure _
  | some branch =>
    exact appends_bind (appends_listBranchCommits answers (h branch rfl)) fun _ => appends_pure _

theorem appends_buildInstallStatus {registry : List ReleaseChannel}
    {channelId customBranch : Option String}
    (hcompare : ∀ install, ∀ branch ∈ resolveCompareBranch registry channelId customBranch install,
      branch.text ≠ "" → N branch)
    (hinstall : ∀ text, N ⟨text, false⟩) :
    Appends (CommandOf N)
      (buildInstallStatus (recording answers) registry channelId customBranch) := by
  refine appends_bind (appends_readInstallGitRef answers) fun ref => ?_
  have hused : ∀ name ∈ (resolveCompareBranch registry channelId customBranch ref.1).filter
      (·.text ≠ ""), N name := by
    intro name hname
    obtain ⟨hmem, hne⟩ := Option.filter_eq_some_iff.mp hname
    exact hcompare ref.1 name hmem (of_decide_eq_true hne)
  refine appends_bind (appends_syncRemote answers _ hused) fun synced => ?_
  refine appends_addRemoteCommits answers synced ?_
  intro name hname
  rcases Option.or_eq_some_iff.mp hname with h | ⟨-, h⟩
  · exact hused name h
  · obtain ⟨text, -, rfl⟩ := Option.map_eq_some_iff.mp h
    exact hinstall text

theorem appends_runChain {steps : List Step}
    (h : ∀ label args, Step.git label args ∈ steps → CommandOf N args) :
    Appends (CommandOf N) (runChain (recording answers) steps) := by
  induction steps with
  | nil => exact appends_pure _
  | cons step steps ih =>
    refine appends_bind ?_ fun returncode => ?_
    · cases step with
      | finish =>
        intro log
        refine ⟨[], ?_, by simp⟩
        unfold runStep recording
        dsimp only
        split <;> simp_all
      | git label args =>
        intro log
        refine ⟨[gitArgv args], ?_, ?_⟩
        · unfold runStep recording
          dsimp only
          split <;> simp_all
        · intro c hc
          obtain rfl := List.mem_singleton.mp hc
          exact commandOf_gitArgv (h label args List.mem_cons_self)
    · exact appends_ite (appends_pure _)
        (ih fun label args hmem => h label args (List.mem_cons_of_mem _ hmem))

theorem appends_captureHeadSha :
    Appends (CommandOf N) (captureHeadSha (recording answers)) := by
  refine appends_bind (appends_ask _) fun present => ?_
  refine appends_ite ?_ (appends_pure _)
  exact appends_bind (appends_attempt (appends_readHeadFullSha answers)) fun _ => appends_pure _

theorem appends_applyBranch {branch : Name} (h : N branch) :
    Appends (CommandOf N) (applyBranch (recording answers) branch) := by
  have hchain : ∀ label args, Step.git label args ∈ buildChain branch → CommandOf N args := by
    intro label args hmem
    simp only [buildChain, List.mem_cons, List.not_mem_nil, or_false, Step.git.injEq,
      reduceCtorEq] at hmem
    rcases hmem with ⟨-, rfl⟩ | ⟨-, rfl⟩ | ⟨-, rfl⟩
    all_goals exact commandOf_word (commandOf_word (commandOf_revision (by decide) h))
  refine appends_bind (appends_ask _) fun needed => ?_
  refine appends_ite (appends_pure _) ?_
  refine appends_bind (appends_captureHeadSha answers) fun preSha => ?_
  refine appends_bind ?_ fun _ => ?_
  · cases preSha with
    | none => exact appends_pure _
    | some sha =>
      refine appends_bind (fun log => ⟨[], by simp [recording], by simp⟩) fun _ => appends_pure _
  · exact appends_bind (appends_runChain answers hchain) fun _ => appends_pure _

theorem appends_rollback {sha : Name} (h : N sha) :
    Appends (CommandOf N) (rollback (recording answers) sha) := by
  have hchain : ∀ label args, Step.git label args ∈ rollbackChain sha → CommandOf N args := by
    intro label args hmem
    simp only [rollbackChain, List.mem_cons, List.not_mem_nil, or_false, Step.git.injEq,
      reduceCtorEq] at hmem
    obtain ⟨-, rfl⟩ := hmem
    exact commandOf_word (commandOf_word (commandOf_revision (by decide) h))
  refine appends_bind (appends_ask _) fun needed => ?_
  refine appends_ite (appends_pure _) ?_
  exact appends_bind (appends_runChain answers hchain) fun _ => appends_pure _

end

/-! ### Requests -/

theorem appends_handle {registry : List ReleaseChannel} {req : Request}
    {N : Name → Prop} (answers : Answers) (hinstall : ∀ text, N ⟨text, false⟩)
    (hcheck : ∀ channelId customBranch install, req = .check channelId customBranch →
      ∀ branch ∈ resolveCompareBranch registry channelId customBranch install,
        branch.text ≠ "" → N branch)
    (happly : ∀ channelId customBranch delivered, req = .apply channelId customBranch delivered →
      ∀ branch ∈ resolveBranch registry channelId customBranch, N branch)
    (hrollback : ∀ sha delivered, req = .rollback sha delivered → N ⟨sha, true⟩) :
    Appends (CommandOf N) (handle (recording answers) registry req) := by
  cases req with
  | check channelId customBranch =>
    exact appends_bind
      (appends_buildInstallStatus answers
        (fun install => hcheck channelId customBranch install rfl) hinstall)
      fun _ => appends_pure _
  | apply channelId customBranch delivered =>
    refine appends_bind ?_ fun _ => appends_pure _
    unfold applyUpdate
    cases hbranch : (resolveBranch registry channelId customBranch).filter (·.text ≠ "") with
    | none => exact appends_pure _
    | some branch =>
      refine appends_bind (appends_applyBranch answers (happly channelId customBranch delivered rfl
        branch (Option.filter_eq_some_iff.mp hbranch).1)) fun result => ?_
      refine appends_bind ?_ fun _ => appends_pure _
      unfold persistRollbackAfterApply
      split
      · refine appends_ite ?_ (appends_pure _)
        exact appends_bind (fun log => ⟨[], by simp [recording], by simp⟩) fun _ => appends_pure _
      · exact appends_pure _
  | rollback sha delivered =>
    refine appends_bind ?_ fun _ => appends_pure _
    refine appends_bind (appends_rollback answers (hrollback sha delivered rfl)) fun result => ?_
    refine appends_bind ?_ fun _ => appends_pure _
    exact appends_ite (fun log => ⟨[], by simp [recording], by simp⟩) (appends_pure _)

theorem nameSafe_of_resolveBranch {registry : List ReleaseChannel} {channelId : String}
    {customBranch : Option String} {branch : Name}
    (h : branch ∈ resolveBranch registry channelId customBranch) : NameSafe branch := by
  unfold resolveBranch at h
  split at h
  · cases h
  · split at h
    · obtain ⟨text, htext, rfl⟩ := Option.map_eq_some_iff.mp h
      exact fun _ => (Option.filter_eq_some_iff.mp htext).2
    · obtain rfl := Option.some.inj h
      exact nameSafe_of_not_supplied _

theorem nameSafe_of_resolveCompareBranch {registry : List ReleaseChannel}
    {channelId customBranch install : Option String}
    (hsafe : SuppliesSafe registry (.check channelId customBranch)) {branch : Name}
    (h : branch ∈ resolveCompareBranch registry channelId customBranch install) :
    NameSafe branch := by
  unfold resolveCompareBranch at h
  split at h
  · rename_i id hid
    obtain ⟨hmem, hne⟩ := Option.filter_eq_some_iff.mp hid
    split at h
    · cases h
    · rename_i channel hchannel
      split at h
      · rename_i htier
        by_cases hblank : PyText.strip (customBranch.getD "") = ""
        · simp only [hblank, if_true] at h
          cases h
        · rw [if_neg hblank] at h
          obtain rfl := Option.some.inj h
          exact fun _ => hsafe id hmem (of_decide_eq_true hne) channel hchannel htier hblank
      · obtain rfl := Option.some.inj h
        exact nameSafe_of_not_supplied _
  · obtain ⟨text, -, rfl⟩ := Option.map_eq_some_iff.mp h
    exact nameSafe_of_not_supplied _

/-- Git runs, and every command succeeds with no output. -/
def quiet : Answers where
  git _ := .exited ⟨0, "", ""⟩

theorem fetch_mem_commands {registry : List ReleaseChannel} {id : String}
    {customBranch : Option String} (hid : id ≠ "") {channel : ReleaseChannel}
    (hchannel : channel ∈ find registry (normalizeChannelId id)) (htier : channel.tier = .custom)
    (hblank : PyText.strip (customBranch.getD "") ≠ "") :
    gitArgv [.word "fetch", .word "origin",
        .revision "" ⟨PyText.strip (customBranch.getD ""), true⟩ ""] ∈
      commands quiet registry (.check (some id) customBranch) := by
  have hresolve : ∀ install, resolveCompareBranch registry (some id) customBranch install =
      some ⟨PyText.strip (customBranch.getD ""), true⟩ := by
    intro install
    have hchannel' : find registry (normalizeChannelId id) = some channel := hchannel
    simp [resolveCompareBranch, Option.filter, hid, hchannel', htier, hblank]
  unfold commands handle
  refine mem_bind_of_mem (P := CommandOf fun _ => True) (fun _ => appends_pure _) ?_
  unfold buildInstallStatus
  obtain ⟨ref, log, href⟩ : ∃ ref log,
      readInstallGitRef (recording quiet) [] = (some ref, log) := ⟨_, _, rfl⟩
  rw [bind_apply_some href, hresolve]
  refine mem_bind_of_mem (P := CommandOf fun _ => True)
    (fun synced => appends_addRemoteCommits quiet synced fun _ _ => trivial) ?_
  simp only [Option.filter, ne_eq, hblank, not_false_eq_true, decide_true, if_true]
  refine mem_bind_of_mem (P := CommandOf fun _ => True)
    (fun error => appends_compareRemote quiet _ trivial error) ?_
  refine mem_bind_of_mem (P := CommandOf fun _ => True) (fun _ => appends_pure _) ?_
  simp [git, recording, quiet]

theorem reset_mem_commands (registry : List ReleaseChannel) (sha : String) (delivered : Bool) :
    gitArgv [.word "reset", .word "--hard", .revision "" ⟨sha, true⟩ ""] ∈
      commands quiet registry (.rollback sha delivered) := by
  unfold commands handle
  refine mem_bind_of_mem (P := CommandOf fun _ => True) (fun _ => appends_pure _) ?_
  refine mem_bind_of_mem (P := CommandOf fun _ => True) (fun result => ?_) ?_
  · refine appends_bind ?_ fun _ => appends_pure _
    exact appends_ite (fun log => ⟨[], by simp [recording], by simp⟩) (appends_pure _)
  · have hlog : (rollback (recording quiet) ⟨sha, true⟩ []).2 =
        [gitArgv [.word "reset", .word "--hard", .revision "" ⟨sha, true⟩ ""]] := rfl
    rw [hlog]
    exact List.mem_singleton_self _

/-- **When the arguments are safe.**  Whatever git answers, every command line of a request keeps
    to the rule exactly when the request goes through `/apply`, or gives `/check` a custom branch
    or `/rollback` a commit that meets the rule of branch names. -/
theorem commandsSafe_iff (registry : List ReleaseChannel) (req : Request) :
    (∀ answers, ∀ argv ∈ commands answers registry req, ArgvSafe argv) ↔
      SuppliesSafe registry req := by
  constructor
  · intro h
    have hsupplied : ∀ argv ∈ commands quiet registry req, ∀ before text after,
        Arg.revision before ⟨text, true⟩ after ∈ argv → isSafeBranch text = true :=
      fun argv hargv before text after harg => (h quiet argv hargv _ harg rfl).1
    cases req with
    | apply channelId customBranch delivered => trivial
    | check channelId customBranch =>
      intro id hid hne channel hchannel htier hblank
      obtain rfl : channelId = some id := hid
      exact hsupplied _ (fetch_mem_commands hne hchannel htier hblank) "" _ "" (by simp [gitArgv])
    | rollback sha delivered =>
      exact hsupplied _ (reset_mem_commands registry sha delivered) "" _ "" (by simp [gitArgv])
  · intro hsafe answers argv hargv
    apply argvSafe_of_commandOf
    refine mem_of_appends (appends_handle answers nameSafe_of_not_supplied ?_ ?_ ?_) hargv
    · rintro channelId customBranch install rfl branch hbranch -
      exact nameSafe_of_resolveCompareBranch hsafe hbranch
    · rintro channelId customBranch delivered rfl branch hbranch
      exact nameSafe_of_resolveBranch hbranch
    · rintro sha delivered rfl -
      exact hsafe

/-- A check of the custom branch `--upload-pack=/tmp/x`, which git takes for an option. -/
theorem not_commandsSafe_uploadPack :
    ¬ ∀ req : Request, req.Valid → ∀ answers, ∀ argv ∈ commands answers DEFAULT_CHANNELS req,
      ArgvSafe argv := by
  intro h
  have hvalid : (Request.check (some "custom") (some "--upload-pack=/tmp/x")).Valid := by
    constructor
    · rintro id ⟨⟩
      decide
    · rintro branch ⟨⟩
      decide
  have hfetch := @fetch_mem_commands DEFAULT_CHANNELS "custom" (some "--upload-pack=/tmp/x")
    (by decide) ⟨"custom", "", .custom⟩ rfl rfl (by decide)
  have hsafe := h _ hvalid quiet _ hfetch (.revision "" ⟨"--upload-pack=/tmp/x", true⟩ "")
    (by decide)
  exact absurd (hsafe rfl).1 (by decide)

end Meshpoint.GitArguments
