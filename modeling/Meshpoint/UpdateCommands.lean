import Meshpoint.HostSession
import Meshpoint.PyText

/-!
# The commands of the update API

Model of `src/api/update` and of the routes over it: the release channels, the status of the
install tree, the applier with its chain of steps, and the rollback. A request is a session with
a host, which answers the git command lines, writes the rollback state and spawns the detached
finish.

A command line keeps track of the branch or commit that is put into it, and of whether that name
was supplied by the request.
-/

namespace Meshpoint.UpdateCommands

open HostSession

/-! ### Command lines -/

/-- A branch or a commit, and whether the request supplied it. -/
structure Name where
  text : String
  supplied : Bool
deriving DecidableEq

inductive Arg where
  | word (text : String)
  | revision (before : String) (name : Name) (after : String)
deriving DecidableEq

def Arg.text : Arg → String
  | .word text => text
  | .revision before name after => before ++ name.text ++ after

abbrev Argv := List Arg

/-- `_git_argv` and `UpdateApplier._git`. -/
def gitArgv (args : List Arg) : Argv :=
  [.word "git", .word "-c", .word "safe.directory=/opt/meshpoint"] ++ args

structure Reply where
  returncode : Int
  stdout : String
  stderr : String

/-- How a command ends: it exits, or the runner raises, on a timeout or otherwise. -/
inductive Outcome where
  | exited (reply : Reply)
  | timedOut
  | raised

structure Host (σ : Type) where
  runner : Argv → σ → Outcome × σ
  /-- The tree's `.git` is not owned by the service user. -/
  sudoNeeded : σ → Bool
  repoExists : σ → Bool
  /-- `write_rollback_state` at the applier's path and at the route's; whether it is saved. -/
  writeRollbackState : (preUpdateSha targetBranch : String) → σ → Bool × σ
  writeRouteState : (preUpdateSha targetBranch : String) → σ → Bool × σ
  clearRollbackState : σ → σ
  /-- `schedule_detached_apply_finish`; `false` when the process cannot be started. -/
  spawnFinish : σ → Bool × σ

variable {σ : Type} (host : Host σ)

def git (args : List Arg) : Session σ Reply := fun s =>
  match host.runner (gitArgv args) s with
  | (.exited reply, s') => (some reply, s')
  | (_, s') => (none, s')

/-! ### Channels -/

def CHANNEL_ID_ALIASES : List (String × String) :=
  [("rc-074", "stable"), ("rc-075", "stable"), ("rc-076", "stable"), ("rc-077", "stable"),
    ("rc-078", "stable"), ("wismesh-node", "stable")]

/-- The loop of `normalize_channel_id`; an alias is followed once. -/
def followAliases : Nat → List String → String → String
  | 0, _, current => current
  | fuel + 1, seen, current =>
    match CHANNEL_ID_ALIASES.lookup current with
    | some target =>
      if seen.contains current then current else followAliases fuel (current :: seen) target
    | none => current

def normalizeChannelId (channelId : String) : String :=
  followAliases (CHANNEL_ID_ALIASES.length + 1) [] channelId

inductive Tier where
  | stable
  | rc
  | experimental
  | custom
deriving DecidableEq

structure ReleaseChannel where
  id : String
  branch : String
  tier : Tier

def DEFAULT_CHANNELS : List ReleaseChannel := [⟨"stable", "main", .stable⟩, ⟨"custom", "", .custom⟩]

def find (registry : List ReleaseChannel) (channelId : String) : Option ReleaseChannel :=
  registry.find? fun channel => decide (channel.id = normalizeChannelId channelId)

def BRANCH_DISALLOWED : List Char :=
  [' ', '\t', '\n', '\r', ';', '|', '&', '\x60', '$', '(', ')', '<', '>']

/-- `_is_safe_branch`. -/
def isSafeBranch (name : String) : Bool :=
  name ≠ "" && name.length ≤ 200 && !name.toList.any BRANCH_DISALLOWED.contains &&
    !"-".toList.isPrefixOf name.toList

def resolveBranch (registry : List ReleaseChannel) (channelId : String)
    (customBranch : Option String) : Option Name :=
  match find registry (normalizeChannelId channelId) with
  | none => none
  | some channel =>
    if channel.tier = .custom then
      (customBranch.filter isSafeBranch).map fun branch => ⟨branch, true⟩
    else some ⟨channel.branch, false⟩

/-- `resolve_compare_branch`. The install branch comes from git. -/
def resolveCompareBranch (registry : List ReleaseChannel)
    (channelId customBranch installBranch : Option String) : Option Name :=
  match channelId.filter (· ≠ "") with
  | some channelId =>
    match find registry (normalizeChannelId channelId) with
    | none => none
    | some channel =>
      if channel.tier = .custom then
        let branch := PyText.strip (customBranch.getD "")
        if branch = "" then none else some ⟨branch, true⟩
      else some ⟨channel.branch, false⟩
  | none => installBranch.map fun branch => ⟨branch, false⟩

/-! ### The status of the install tree -/

/-- A line break of `splitlines`. -/
def isLineBreak (c : Char) : Bool :=
  [10, 11, 12, 13, 28, 29, 30, 133, 8232, 8233].contains c.toNat

def textLines (text : String) : List String :=
  ((text.toList.splitOnP isLineBreak).map fun line => PyText.strip (String.ofList line)).filter
    (· ≠ "")

/-- `str.partition` at a character, without the separator. -/
def partition (separator : Char) (text : String) : String × String :=
  (String.ofList (text.toList.takeWhile (· ≠ separator)),
    String.ofList ((text.toList.dropWhile (· ≠ separator)).drop 1))

/-- `stdout.strip()` of a command that succeeded. -/
def output (reply : Reply) : Option String :=
  if reply.returncode = 0 then some (PyText.strip reply.stdout) else none

/-- `_read_detached_branch_name`. -/
def readDetachedBranchName : Session σ (Option String) := do
  let reply ← git host [.word "rev-parse", .word "--abbrev-ref", .word "HEAD@\x7bupstream\x7d"]
  return (output reply).map fun ref =>
    if "origin/".toList.isPrefixOf ref.toList then String.ofList (ref.toList.drop 7) else ref

/-- The branch of HEAD: the name git gives, or the upstream's when HEAD is detached. -/
def branchOfHead (reply : Reply) : Session σ (Option String) :=
  if output reply = some "HEAD" then readDetachedBranchName host else pure (output reply)

/-- `read_install_git_ref`: the branch and the short commit of HEAD. -/
def readInstallGitRef : Session σ (Option String × Option String) := do
  let branchReply ← git host [.word "rev-parse", .word "--abbrev-ref", .word "HEAD"]
  let branch ← branchOfHead host branchReply
  let shaReply ← git host [.word "rev-parse", .word "--short=8", .word "HEAD"]
  return (branch.filter (· ≠ ""), (output shaReply).filter (· ≠ ""))

/-- `read_head_full_sha`. -/
def readHeadFullSha : Session σ (Option String) := do
  let reply ← git host [.word "rev-parse", .word "HEAD"]
  return (output reply).filter (· ≠ "")

/-- `git_fetch_origin_branch`: the error, if the fetch fails. -/
def gitFetchOriginBranch (branch : Name) : Session σ (Option String) := do
  let reply ← git host [.word "fetch", .word "origin", .revision "" branch ""]
  return if reply.returncode = 0 then none
    else
      let stderr := if reply.stderr = "" then "git fetch failed" else reply.stderr
      let detail := (PyText.strip stderr).map fun c => if c = '\n' then ' ' else c
      some (if detail = "" then "git fetch failed" else PyText.clip 500 detail)

/-- `_revision_count`, by `rev-list` or else by `log`. -/
def revisionCount (range : Arg) : Session σ (Option Nat) := do
  let reply ← git host [.word "rev-list", .word "--count", range]
  let text := PyText.strip reply.stdout
  if reply.returncode = 0 ∧ text ≠ "" ∧ text.toList.all Char.isDigit then
    return (PyText.intOfText 10 text).map Int.toNat
  else do
    let reply ← git host [.word "log", .word "--oneline", range]
    return if reply.returncode ≠ 0 then none else some (textLines reply.stdout).length

/-- `count_commits_behind_ahead`. -/
def countCommitsBehindAhead (branch : Name) :
    Session σ (Option Nat × Option Nat × Option String) := do
  let behind ← revisionCount host (.revision "HEAD..origin/" branch "")
  let ahead ← revisionCount host (.revision "origin/" branch "..HEAD")
  let reply ← git host [.word "rev-parse", .word "--short=8", .revision "origin/" branch ""]
  return (behind, ahead, output reply)

/-- `list_incoming_commits`: commits and their subjects. -/
def listIncomingCommits (branch : Name) : Session σ (List (String × String)) := do
  let reply ← git host [.word "log", .word "--oneline", .revision "HEAD..origin/" branch ""]
  return if reply.returncode ≠ 0 then []
    else ((textLines reply.stdout).take 10).map fun line =>
      ((partition ' ' line).1, PyText.strip (partition ' ' line).2)

/-- `list_branch_commits` of `origin/<branch>`: commits, their times as git prints them, and
    their subjects. -/
def listBranchCommits (branch : Name) : Session σ (List (String × String × String)) := do
  let reply ← git host [.word "log", .word "-n", .word "5", .word "--format=%h%x09%ct%x09%s",
    .revision "origin/" branch ""]
  return if reply.returncode ≠ 0 then []
    else ((textLines reply.stdout).take 5).map fun line =>
      let rest := partition '\t' (partition '\t' line).2
      ((partition '\t' line).1, rest.1, PyText.strip rest.2)

/-- What the status says of the tree and its upstream. -/
structure InstallStatus where
  installBranch : Option String
  installShaShort : Option String
  compareBranch : Option Name
  commitsBehind : Option Nat := none
  commitsAhead : Option Nat := none
  remoteShaShort : Option String := none
  syncError : Option String := none
  incomingCommits : List (String × String) := []
  remoteCommits : List (String × String × String) := []

def incomingCommits (branch : Name) (behind : Option Nat) : Session σ (List (String × String)) :=
  if behind.getD 0 ≠ 0 then listIncomingCommits host branch else pure []

/-- The comparison with `origin/<branch>` after a fetch that ended with `error`. -/
def compareRemote (status : InstallStatus) (branch : Name) :
    Option String → Session σ InstallStatus
  | some error => pure { status with syncError := some error }
  | none => do
    let counts ← countCommitsBehindAhead host branch
    let incoming ← incomingCommits host branch counts.1
    return { status with
      commitsBehind := counts.1
      commitsAhead := counts.2.1
      remoteShaShort := counts.2.2
      incomingCommits := incoming }

/-- The fetch and the comparison, if there is a branch to compare with. -/
def syncRemote (status : InstallStatus) : Option Name → Session σ InstallStatus
  | some branch => do
    let error ← gitFetchOriginBranch host branch
    compareRemote host status branch error
  | none => pure status

/-- The latest commits of the branch whose version is shown. -/
def addRemoteCommits (status : InstallStatus) : Option Name → Session σ InstallStatus
  | some versionBranch => do
    let commits ← listBranchCommits host versionBranch
    return { status with remoteCommits := commits }
  | none => pure status

/-- `build_install_status_payload` with `sync_remote`. -/
def buildInstallStatus (registry : List ReleaseChannel) (channelId customBranch : Option String) :
    Session σ InstallStatus := do
  let ref ← readInstallGitRef host
  let compareBranch := resolveCompareBranch registry channelId customBranch ref.1
  let synced ← syncRemote host
    { installBranch := ref.1, installShaShort := ref.2, compareBranch := compareBranch }
    (compareBranch.filter (·.text ≠ ""))
  addRemoteCommits host synced
    ((compareBranch.filter (·.text ≠ "")).or (ref.1.map fun branch => ⟨branch, false⟩))

/-! ### The applier -/

/-- One step of a chain: a git command, or the detached finish. -/
inductive Step where
  | git (label : String) (args : List Arg)
  | finish
deriving DecidableEq

def Step.label : Step → String
  | .git label _ => label
  | .finish => "upgrade"

/-- `_build_chain`. -/
def buildChain (branch : Name) : List Step :=
  [.git "git fetch" [.word "fetch", .word "origin", .revision "" branch ""],
    .git "git checkout" [.word "checkout", .word "-f", .revision "" branch ""],
    .git "git reset" [.word "reset", .word "--hard", .revision "origin/" branch ""],
    .finish]

def rollbackChain (sha : Name) : List Step :=
  [.git "git reset" [.word "reset", .word "--hard", .revision "" sha ""], .finish]

structure ApplyResult where
  success : Bool
  preUpdateSha : Option String
  targetBranch : String
  failedStep : Option String := none
deriving DecidableEq

/-- `_run_step`: the return code. A timeout counts as -1, a detached process as 0. -/
def runStep : Step → Session σ Int
  | .git _ args => fun s =>
    match host.runner (gitArgv args) s with
    | (.exited reply, s') => (some reply.returncode, s')
    | (.timedOut, s') => (some (-1), s')
    | (.raised, s') => (none, s')
  | .finish => fun s =>
    match host.spawnFinish s with
    | (true, s') => (some 0, s')
    | (false, s') => (none, s')

/-- The loop over a chain: the label of the step that failed. -/
def runChain : List Step → Session σ (Option String)
  | [] => return none
  | step :: steps => do
    let returncode ← runStep host step
    if returncode ≠ 0 then return some step.label else runChain steps

/-- `_capture_head_sha`. -/
def captureHeadSha : Session σ (Option String) := do
  if ← ask host.repoExists then
    return (← attempt (readHeadFullSha host)).join
  else return none

/-- The state saved before the tree is touched; a failure to save is only logged. -/
def saveRollbackPoint (branch : Name) : Option String → Session σ Unit
  | some sha => do
    let _ ← act (host.writeRollbackState sha branch.text)
  | none => pure ()

/-- `UpdateApplier.apply`. -/
def applyBranch (branch : Name) : Session σ ApplyResult := do
  if ← ask host.sudoNeeded then return ⟨false, none, branch.text, some "preflight"⟩
  else do
    let preSha ← captureHeadSha host
    saveRollbackPoint host branch preSha
    let failed ← runChain host (buildChain branch)
    return ⟨failed.isNone, preSha, branch.text, failed⟩

/-- `UpdateApplier.rollback`. -/
def rollback (sha : Name) : Session σ ApplyResult := do
  if ← ask host.sudoNeeded then return ⟨false, some sha.text, "rollback", some "preflight"⟩
  else do
    let failed ← runChain host (rollbackChain sha)
    return ⟨failed.isNone, some sha.text, "rollback", failed⟩

/-! ### Requests -/

/-- `_persist_rollback_after_apply`, if the answer is delivered. -/
def persistRollbackAfterApply (delivered : Bool) (result : ApplyResult) : Session σ Unit :=
  match result.preUpdateSha.filter (· ≠ "") with
  | some sha =>
    if delivered ∧ result.success ∧ result.targetBranch ≠ "rollback" then do
      let _ ← act (host.writeRouteState sha result.targetBranch)
    else pure ()
  | none => pure ()

/-- `_clear_rollback_after_success`, if the answer is delivered. -/
def clearRollbackAfterSuccess (delivered : Bool) (result : ApplyResult) : Session σ Unit :=
  if delivered ∧ result.success then act fun s => ((), host.clearRollbackState s) else pure ()

/-- `POST /apply`, and `/apply/stream` when its last line is read (`delivered`). -/
def applyUpdate (registry : List ReleaseChannel) (channelId : String)
    (customBranch : Option String) (delivered : Bool) : Session σ (Option ApplyResult) :=
  match (resolveBranch registry channelId customBranch).filter (·.text ≠ "") with
  | none => return none
  | some branch => do
    let result ← applyBranch host branch
    persistRollbackAfterApply host delivered result
    return some result

/-- `POST /rollback`, and `/rollback/stream`. -/
def rollbackUpdate (sha : String) (delivered : Bool) : Session σ ApplyResult := do
  let result ← rollback host ⟨sha, true⟩
  clearRollbackAfterSuccess host delivered result
  return result

inductive Request where
  | check (channelId customBranch : Option String)
  | apply (channelId : String) (customBranch : Option String) (delivered : Bool)
  | rollback (sha : String) (delivered : Bool)

def Request.Valid : Request → Prop
  | .check channelId customBranch =>
    (∀ id ∈ channelId, id.length ≤ 64) ∧ ∀ branch ∈ customBranch, branch.length ≤ 200
  | .apply channelId customBranch _ =>
    (1 ≤ channelId.length ∧ channelId.length ≤ 64) ∧
      ∀ branch ∈ customBranch, branch.length ≤ 200
  | .rollback sha _ => 4 ≤ sha.length ∧ sha.length ≤ 80

def handle (registry : List ReleaseChannel) : Request → Session σ Unit
  | .check channelId customBranch => do
    let _ ← buildInstallStatus host registry channelId customBranch
    return ()
  | .apply channelId customBranch delivered => do
    let _ ← applyUpdate host registry channelId customBranch delivered
    return ()
  | .rollback sha delivered => do
    let _ ← rollbackUpdate host sha delivered
    return ()

end Meshpoint.UpdateCommands
