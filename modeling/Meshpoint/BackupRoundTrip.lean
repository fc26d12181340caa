import Meshpoint.BackupContents
import Meshpoint.RestoreFinish

/-!
# Backup and restore

An archive that `BackupArchiveBuilder.build` makes, encrypted or not, is validated and applied to a
station.  `RoundTrips` says that the configuration and the data directory are then as they were
backed up, and `Restorable` when it is so: the builder, the validation and the script each have
their own rules for names.
-/

namespace Meshpoint.BackupRoundTrip

open ByteCodec JsonText TarArchive BackupRestore BackupArchive RestoreFinish

variable {B : Type}

/-! ### The property -/

/-- A path that a backup leaves aside: that of a WAL file of the database, and everything in a
    folder for stashes and uploads. -/
def SetAside (source : Source B) (path : Path) : Prop :=
  isWalName source.dbName (path.getLast?.getD []) = true ∧ source.data.get? path ≠ some .dir ∨
    ∃ top below, path = top :: below ∧ isExcludedDataDir top = true ∧ ¬ Included source [top]

/-- The archive is validated and applied to the station, and leaves it as it was backed up. -/
def RoundTrips (R : Runtime B) (source : Source B) (payload : Bytes) (password : Option String)
    (stamp : List Char) (station : Station B) : Prop :=
  ∃ archive manifest restored,
    decryptUpload R payload password = .ok archive ∧
    validateArchive R archive = .ok manifest ∧
    restoreFinish R stamp archive station = some restored ∧
    restored.config = source.config ∧
    ∀ path, ¬ SetAside source path → restored.data.get? path = backedUp R source path

/-- The names that must be free for an entry that the script does not clear away: its own, and of a
    database those of the files beside it. -/
def blockers (top : List Char) : List (List Char) :=
  top :: if isDatabaseName top then journalNames top else []

/-- What a backup, and the station it is applied to, must be like. -/
structure Restorable (R : Runtime B) (source : Source B) (stamp : List Char)
    (station : Station B) : Prop where
  /-- There is a device id, and its first eight characters may be in a folder's name. -/
  identified : source.deviceId ≠ ""
  plainId : ∀ c ∈ shortId source.deviceId, isIdChar c = true
  /-- No path in the backup has two dots in a row. -/
  noDots : ∀ path, Included source path → ¬ ['.', '.'] <:+: joinPath ("data".toList :: path)
  /-- Every directory holds a file of the backup. -/
  filled : ∀ top below, isHidden top = false → ¬ SetAside source (top :: below) →
    source.data.get? (top :: below) = some .dir → ∃ rest, Included source (top :: below ++ rest)
  /-- What is hidden is on the station already, as it was backed up. -/
  hidden : ∀ top below, isHidden top = true → ¬ SetAside source (top :: below) →
    station.data.get? (top :: below) = backedUp R source (top :: below)
  /-- No directory is in the way of a file that is called like a folder for stashes or uploads. -/
  unblocked : ∀ top, Included source [top] → shouldSkipDataEntry top = true →
    ∀ name ∈ blockers top, name ≠ stashName stamp ∧ station.data.get? [name] ≠ some .dir
  /-- The station's state can be put aside. -/
  stashed : StashFits stamp station

/-! ### The archive on the station -/

section

variable {R : Runtime B} {source : Source B} {version : String} {time : BuildTime}
  {members : List (Member B)} {config : B} {dataFiles : List (Path × B)} {bundle : FileTree B}
  {stamp : List Char} {station : Station B}

def dataFolder (source : Source B) (time : BuildTime) : Path :=
  [bundleName source.deviceId time, "data".toList]

theorem get?_dataFolder
    (h : Packed R source version time members config dataFiles bundle) (path : Path) :
    (extract members).get? (dataFolder source time ++ path) =
      standing (bundleFiles R source version time ((configPath, config) :: dataFiles))
        ("data".toList :: path) := by
  rw [← h.stands, ← h.get?_extract]
  rfl

theorem get?_included
    (h : Packed R source version time members config dataFiles bundle) {path : Path}
    (hincluded : Included source path) :
    (extract members).get? (dataFolder source time ++ path) = backedUp R source path := by
  obtain ⟨content, hbacked, hfile⟩ := h.exists_dataFile hincluded
  have hstands := standing_of_mem (apart_bundleFiles h.hasData)
    (mem_bundleFiles.mpr (.inr (.inl hfile)) : _ ∈ bundleFiles R source version time
      ((configPath, config) :: dataFiles))
  rw [get?_dataFolder h, hbacked]
  exact hstands

theorem exists_file_included
    (h : Packed R source version time members config dataFiles bundle) {path : Path}
    (hincluded : Included source path) :
    ∃ content, (extract members).get? (dataFolder source time ++ path) = some (.file content) := by
  obtain ⟨content, hbacked, _⟩ := h.exists_dataFile hincluded
  exact ⟨content, by rw [get?_included h hincluded, hbacked]⟩

theorem get?_not_included
    (h : Packed R source version time members config dataFiles bundle) {path : Path}
    (hnot : ¬ Included source path) {node : Node B} :
    (extract members).get? (dataFolder source time ++ path) = some node ↔
      node = .dir ∧ ∃ below, Included source (path ++ below) := by
  rw [get?_dataFolder h]
  unfold standing
  split
  · rename_i file hfind
    have hpath : file.1 = "data".toList :: path := by simpa using List.find?_some hfind
    -- a file of the data folder is an included one
    exfalso
    rcases mem_bundleFiles.mp (List.mem_of_find?_eq_some hfind) with rfl | hdata | rfl
    · exact absurd (List.cons.inj hpath).1 (by decide)
    · obtain ⟨path', hpath', hincluded, _⟩ := (mem_addDataTree h.hasData).mp hdata
      rw [hpath] at hpath'
      rw [(List.cons.inj hpath').2] at hnot
      exact hnot hincluded
    · exact absurd (List.cons.inj hpath).1 (by decide)
  · have hiff : ("data".toList :: path = [] ∨ ∃ file ∈ bundleFiles R source version time
          ((configPath, config) :: dataFiles), "data".toList :: path <+: file.1) ↔
        ∃ below, Included source (path ++ below) := by
      constructor
      · rintro (hnil | ⟨file, hfile, hbegins⟩)
        · exact absurd hnil (List.cons_ne_nil _ _)
        · rcases mem_bundleFiles.mp hfile with rfl | hdata | rfl
          · exact absurd hbegins (not_prefix_of_ne (by decide) _ _)
          · obtain ⟨path', hpath', hincluded, _⟩ := (mem_addDataTree h.hasData).mp hdata
            rw [hpath'] at hbegins
            obtain ⟨below, rfl⟩ := (List.cons_prefix_cons.mp hbegins).2
            exact ⟨below, hincluded⟩
          · exact absurd hbegins (not_prefix_of_ne (by decide) _ _)
      · rintro ⟨below, hincluded⟩
        obtain ⟨content, _, hfile⟩ := h.exists_dataFile hincluded
        exact .inr ⟨_, mem_bundleFiles.mpr (.inr (.inl hfile)),
          List.cons_prefix_cons.mpr ⟨rfl, List.prefix_append _ _⟩⟩
    split
    · rename_i hdir
      simp only [Option.some.injEq, hiff.mp hdir, and_true, eq_comm]
    · rename_i hdir
      exact iff_of_false (fun heq => nomatch heq) (fun h => hdir (hiff.mpr h.2))

theorem bundleDir_eq (h : Packed R source version time members config dataFiles bundle) :
    bundleDir (extract members) = some (bundleName source.deviceId time) := by
  have hroot : (extract members).get? [bundleName source.deviceId time] = some .dir := by
    rw [h.get?_extract, h.wellFormed.root]
  unfold bundleDir
  cases hfind : ((extract members).names []).find? fun name =>
      (extract members).isDir [name] with
  | none =>
    have hmem : bundleName source.deviceId time ∈ (extract members).names [] :=
      FileTree.mem_names.mpr (Option.isSome_iff_exists.mpr ⟨.dir, hroot⟩)
    exact absurd (FileTree.isDir_iff.mpr hroot) (List.find?_eq_none.mp hfind _ hmem)
  | some name =>
    have hmem := FileTree.mem_names.mp (List.mem_of_find?_eq_some hfind)
    by_contra hne
    rw [List.nil_append, h.get?_extract_of_ne fun heq => hne (congrArg some heq)] at hmem
    cases hmem

theorem restoreMembers_eq (h : Packed R source version time members config dataFiles bundle) :
    restoreMembers stamp members station =
      (stashState stamp station).bind fun stashed =>
        (applyData (extract members) (dataFolder source time) (clearLiveDataTree stashed)).map
          fun data => ⟨some config, data⟩ := by
  have hmanifest := h.get?_of_mem (mem_bundleFiles.mpr (.inr (.inr rfl)))
  rw [← h.get?_extract] at hmanifest
  have hconfig := h.get?_of_mem (mem_bundleFiles.mpr (.inl rfl))
  rw [← h.get?_extract] at hconfig
  have happlied : appliedConfig (extract members) (bundleName source.deviceId time)
      station.config = some config := by
    unfold appliedConfig
    simp only [configPath] at hconfig
    rw [hconfig]
  unfold restoreMembers
  cases stashState stamp station with
  | none => rfl
  | some stashed =>
    simp only [Option.bind_eq_bind, Option.bind_some, bundleDir_eq h, hmanifest, happlied]
    unfold dataFolder
    cases applyData (extract members) [bundleName source.deviceId time, "data".toList]
        (clearLiveDataTree stashed) with
    | none => rfl
    | some data => rfl

end

/-! ### Names that the script does not clear away -/

theorem excluded_of_skip {name : List Char} (h : shouldSkipDataEntry name = true) :
    isExcludedDataDir name = true := by
  simp only [shouldSkipDataEntry, decide_eq_true_eq] at h
  simp only [isExcludedDataDir, EXCLUDED_DATA_DIRS, List.any_cons, List.any_nil, Bool.or_false,
    Bool.or_eq_true, decide_eq_true_eq]
  rcases h with rfl | rfl | hbegins
  · exact .inl List.prefix_rfl
  · exact .inr (.inl List.prefix_rfl)
  · exact .inr (.inr hbegins)

theorem hidden_of_skip {name : List Char} (h : shouldSkipDataEntry name = true) :
    isHidden name = false := by
  simp only [shouldSkipDataEntry, decide_eq_true_eq] at h
  rcases h with rfl | rfl | ⟨stamp, rfl⟩
  · rfl
  · rfl
  · rfl

theorem hidden_journal {name journal : List Char} (hdatabase : isDatabaseName name = true)
    (h : journal ∈ journalNames name) : isHidden journal = isHidden name := by
  obtain ⟨suffix, rfl, _⟩ := mem_journalNames h
  have hne : name ≠ [] := by
    rintro rfl
    exact absurd hdatabase (by decide)
  rw [isHidden, isHidden, List.head?_append_of_ne_nil _ hne]

theorem skip_journal {name journal : List Char} (hdatabase : isDatabaseName name = true)
    (h : journal ∈ journalNames name) :
    shouldSkipDataEntry journal = true ↔ shouldSkipDataEntry name = true := by
  obtain ⟨suffix, rfl, hsuffix⟩ := mem_journalNames h
  have hdb : ".db".toList <:+ name := by simpa [isDatabaseName] using hdatabase
  simp only [shouldSkipDataEntry, decide_eq_true_eq]
  constructor
  · have hlast : ∀ text : List Char, text.getLast? ≠ some 'l' → text.getLast? ≠ some 'm' →
        name ++ suffix ≠ text := by
      rintro text hl hm rfl
      have hne : suffix ≠ [] := by
        rintro rfl
        rcases hsuffix with heq | heq
        · cases heq
        · cases heq
      rw [List.getLast?_append_of_ne_nil _ hne] at hl hm
      rcases hsuffix with heq | heq
      · exact hl heq
      · exact hm heq
    rintro (heq | heq | hbegins)
    · exact absurd heq (hlast _ (by decide) (by decide))
    · exact absurd heq (hlast _ (by decide) (by decide))
    · right
      right
      rcases List.prefix_or_prefix_of_prefix hbegins (List.prefix_append name suffix) with
        hle | hge
      · exact hle
      · -- the marker has no dot, so a database's name is no part of it
        have hdot : '.' ∈ name := hdb.subset (by decide)
        exact absurd (hge.subset hdot) (by decide)
  · rintro (rfl | rfl | hbegins)
    · exact absurd hdatabase (by decide)
    · exact absurd hdatabase (by decide)
    · exact .inr (.inr (hbegins.trans (List.prefix_append _ _)))

theorem mem_blockers {top name : List Char} :
    name ∈ blockers top ↔ name = top ∨ isDatabaseName top = true ∧ name ∈ journalNames top := by
  unfold blockers
  rw [List.mem_cons]
  split
  · rename_i hdatabase
    simp only [hdatabase, true_and]
  · rename_i hdatabase
    simp only [hdatabase, List.not_mem_nil, Bool.false_eq_true, false_and]

theorem skip_blocker {top name : List Char} (hskip : shouldSkipDataEntry top = true)
    (h : name ∈ blockers top) : shouldSkipDataEntry name = true := by
  rcases mem_blockers.mp h with rfl | ⟨hdatabase, hjournal⟩
  · exact hskip
  · exact (skip_journal hdatabase hjournal).mpr hskip

/-! ### What the script leaves -/

section

variable {R : Runtime B} {source : Source B} {version : String} {time : BuildTime}
  {members : List (Member B)} {config : B} {dataFiles : List (Path × B)} {bundle : FileTree B}
  {stamp : List Char} {live : DataTree B} {stashed data : FileTree B}

theorem mem_glob_dataFolder (h : Packed R source version time members config dataFiles bundle)
    {name : List Char} : name ∈ glob (extract members) (dataFolder source time) ↔
      isHidden name = false ∧ ∃ below, Included source (name :: below) := by
  rw [mem_glob]
  apply and_congr_right
  intro _
  by_cases hincluded : Included source [name]
  · obtain ⟨content, hbacked, _⟩ := h.exists_dataFile hincluded
    rw [get?_included h hincluded, hbacked]
    exact iff_of_true rfl ⟨[], hincluded⟩
  · rw [Option.isSome_iff_exists]
    simp only [get?_not_included h hincluded, exists_eq_left]
    rfl

theorem included_of_skip {name : List Char} {below : Path}
    (hincluded : Included source (name :: below)) (hskip : shouldSkipDataEntry name = true) :
    below = [] := by
  cases below with
  | nil => rfl
  | cons next below =>
    have hpruned := hincluded.notPruned
    rw [isPruned, excluded_of_skip hskip] at hpruned
    cases hpruned

theorem get?_eq_none_of_not_dir (tree : DataTree B) {top : List Char} {below : Path}
    (h : tree.get? [top] ≠ some .dir) (hbelow : below ≠ []) : tree.get? (top :: below) = none := by
  by_contra hne
  obtain ⟨node, hget⟩ := Option.ne_none_iff_exists'.mp hne
  have hsplit : top :: below = [top] ++ below := rfl
  rw [hsplit] at hget
  exact h (tree.wellFormed.dir_above hget hbelow)

theorem hasRoom_of_unblocked (h : Packed R source version time members config dataFiles bundle)
    (hstashed : Stashed stamp live.toFileTree stashed)
    (hunblocked : ∀ top, Included source [top] → shouldSkipDataEntry top = true →
      ∀ name ∈ blockers top, name ≠ stashName stamp ∧ live.get? [name] ≠ some .dir)
    {name : List Char} (hname : name ∈ glob (extract members) (dataFolder source time)) :
    HasRoom (extract members) (clearLiveDataTree stashed) (dataFolder source time) name := by
  obtain ⟨hhidden, below, hincluded⟩ := (mem_glob_dataFolder h).mp hname
  cases hskip : shouldSkipDataEntry name with
  | false =>
    have hcleared : ∀ journal below, isHidden journal = false →
        shouldSkipDataEntry journal = false →
          (clearLiveDataTree stashed).get? (journal :: below) = none := by
      intro journal below hjournal hkept
      rw [get?_clearLiveDataTree, hjournal, hkept]
      rfl
    refine ⟨?_, ?_, fun below _ => hcleared name below hhidden hskip, ?_⟩
    · rw [hcleared name [] hhidden hskip]
      intro heq
      cases heq
    · intro below node _
      rw [hcleared name below hhidden hskip]
      rfl
    · intro hdatabase journal hjournal
      have hkept := Bool.eq_false_iff.mpr
        (mt (skip_journal hdatabase hjournal).mp (Bool.eq_false_iff.mp hskip))
      rw [hcleared journal [] ((hidden_journal hdatabase hjournal).trans hhidden) hkept]
      intro heq
      cases heq
  | true =>
    obtain rfl := included_of_skip hincluded hskip
    have hblockers := hunblocked name hincluded hskip
    have hkept : ∀ below, (clearLiveDataTree stashed).get? (name :: below) =
        live.get? (name :: below) := by
      intro below
      rw [get?_clearLiveDataTree, hskip, Bool.or_true, if_pos rfl,
        hstashed.others name below (hblockers name List.mem_cons_self).1]
    have hnotDir := (hblockers name List.mem_cons_self).2
    refine ⟨by rwa [hkept], ?_, ?_, ?_⟩
    · intro below node hget
      rw [hkept]
      cases below with
      | nil =>
        obtain ⟨content, hfile⟩ := exists_file_included h hincluded
        rw [hfile] at hget
        cases hget
        exact Node.fits_file_iff.mpr hnotDir
      | cons next below =>
        rw [get?_eq_none_of_not_dir live hnotDir (List.cons_ne_nil _ _)]
        rfl
    · intro below hget
      cases below with
      | nil =>
        obtain ⟨content, hfile⟩ := exists_file_included h hincluded
        rw [hfile] at hget
        cases hget
      | cons next below =>
        rw [hkept, get?_eq_none_of_not_dir live hnotDir (List.cons_ne_nil _ _)]
    · intro hdatabase journal hjournal
      have hblocker : journal ∈ blockers name := by
        rw [blockers, if_pos hdatabase]
        exact List.mem_cons_of_mem _ hjournal
      obtain ⟨hne, hjournalDir⟩ := hblockers journal hblocker
      rw [get?_clearLiveDataTree, hstashed.others journal [] hne]
      split
      · exact hjournalDir
      · intro heq
        cases heq

theorem get?_hidden (h : Packed R source version time members config dataFiles bundle)
    (hstashed : Stashed stamp live.toFileTree stashed)
    (happlied : Applied (extract members) (clearLiveDataTree stashed) (dataFolder source time)
      (glob (extract members) (dataFolder source time)) data)
    {top : List Char} (htop : isHidden top = true) (below : Path) :
    data.get? (top :: below) = live.get? (top :: below) := by
  have hnot : top ∉ glob (extract members) (dataFolder source time) := by
    intro hmem
    rw [(mem_glob_dataFolder h).mp hmem |>.1] at htop
    cases htop
  have hstash : top ≠ stashName stamp := by
    rintro rfl
    cases htop
  rcases happlied.others top hnot below with hsame | ⟨⟨name, hname, hdatabase, hjournal⟩, _⟩
  · rw [hsame, get?_clearLiveDataTree, htop, Bool.true_or, if_pos rfl,
      hstashed.others top below hstash]
  · rw [hidden_journal hdatabase hjournal, ((mem_glob_dataFolder h).mp hname).1] at htop
    cases htop

theorem get?_visible (h : Packed R source version time members config dataFiles bundle)
    (happlied : Applied (extract members) (clearLiveDataTree stashed) (dataFolder source time)
      (glob (extract members) (dataFolder source time)) data)
    {top : List Char} (htop : isHidden top = false)
    (hkept : shouldSkipDataEntry top = false ∨ Included source [top]) (below : Path) :
    data.get? (top :: below) = (extract members).get? (dataFolder source time ++ top :: below) := by
  by_cases hmem : top ∈ glob (extract members) (dataFolder source time)
  · exact happlied.copied top hmem below
  · have hnone : (extract members).get? (dataFolder source time ++ top :: below) = none := by
      by_contra hne
      obtain ⟨node, hget⟩ := Option.ne_none_iff_exists'.mp hne
      apply hmem
      rw [mem_glob_dataFolder h]
      refine ⟨htop, ?_⟩
      by_cases hincluded : Included source (top :: below)
      · exact ⟨below, hincluded⟩
      · obtain ⟨_, rest, hrest⟩ := (get?_not_included h hincluded).mp hget
        exact ⟨below ++ rest, hrest⟩
    rw [hnone]
    rcases happlied.others top hmem below with hsame | ⟨_, hgone⟩
    · rcases hkept with hskip | hincluded
      · rw [hsame, get?_clearLiveDataTree, htop, hskip]
        rfl
      · exact absurd ((mem_glob_dataFolder h).mpr ⟨htop, [], hincluded⟩) hmem
    · exact hgone

theorem kept_of_not_setAside {top : List Char} {below : Path}
    (h : ¬ SetAside source (top :: below)) :
    shouldSkipDataEntry top = false ∨ Included source [top] := by
  by_contra hne
  rw [not_or, Bool.not_eq_false] at hne
  exact h (.inr ⟨top, below, rfl, excluded_of_skip hne.1, hne.2⟩)

theorem included_of_not_setAside {path : Path} {content : B}
    (hget : source.data.get? path = some (.file content)) (h : ¬ SetAside source path) :
    Included source path := by
  refine ⟨⟨content, hget⟩, ?_, ?_⟩
  · cases path with
    | nil => rfl
    | cons top below =>
      cases below with
      | nil => rfl
      | cons next below =>
        -- a path below an included file is no file
        rw [isPruned]
        by_contra hexcluded
        rw [Bool.not_eq_false] at hexcluded
        apply h
        refine .inr ⟨top, next :: below, rfl, hexcluded, ?_⟩
        intro hincluded
        obtain ⟨content', hfile⟩ := hincluded.isFile
        have hnotDir : source.data.get? [top] ≠ some .dir := by
          rw [hfile]
          intro heq
          cases heq
        rw [get?_eq_none_of_not_dir source.data hnotDir (List.cons_ne_nil _ _)] at hget
        cases hget
  · by_contra hwal
    rw [Bool.not_eq_false] at hwal
    apply h
    refine .inl ⟨hwal, ?_⟩
    rw [hget]
    intro heq
    cases heq

/-- Where every directory that is backed up holds a file, the archive has what is backed up. -/
theorem get?_dataFolder_eq (h : Packed R source version time members config dataFiles bundle)
    {path : Path} (hpath : ¬ SetAside source path) :
    (extract members).get? (dataFolder source time ++ path) = backedUp R source path ↔
      (source.data.get? path = some .dir → ∃ below, Included source (path ++ below)) := by
  by_cases hincluded : Included source path
  · rw [get?_included h hincluded]
    exact iff_of_true rfl fun _ => ⟨[], by rwa [List.append_nil]⟩
  · cases hget : source.data.get? path with
    | none =>
      have hbacked : backedUp R source path = none := by
        unfold backedUp
        rw [hget]
      rw [hbacked]
      refine iff_of_true ?_ fun heq => nomatch heq
      by_contra hne
      obtain ⟨node, hnode⟩ := Option.ne_none_iff_exists'.mp hne
      obtain ⟨_, below, hbelow⟩ := (get?_not_included h hincluded).mp hnode
      obtain ⟨content, hfile⟩ := hbelow.isFile
      have hbelowNe : below ≠ [] := by
        rintro rfl
        exact hincluded (by rwa [List.append_nil] at hbelow)
      rw [source.data.wellFormed.dir_above hfile hbelowNe] at hget
      cases hget
    | some node =>
      cases node with
      | file content => exact absurd (included_of_not_setAside hget hpath) hincluded
      | dir =>
        have hbacked : backedUp R source path = some .dir := by
          unfold backedUp
          rw [hget]
        rw [hbacked, get?_not_included h hincluded]
        simp only [true_and, forall_const]

theorem applied_of_restorable (h : Packed R source version time members config dataFiles bundle)
    {liveConfig : Option B}
    (hrestorable : Restorable R source stamp ⟨liveConfig, live.toFileTree⟩) :
    ∃ restored, restoreMembers stamp members ⟨liveConfig, live.toFileTree⟩ = some restored ∧
      restored.config = some config ∧
      ∀ path, ¬ SetAside source path → restored.data.get? path = backedUp R source path := by
  obtain ⟨stashed, hstash⟩ := Option.isSome_iff_exists.mp
    ((stashState_isSome_iff live.wellFormed).mpr hrestorable.stashed)
  have hstashed := stashed_of_stashState live.wellFormed hstash
  obtain ⟨data, hdata, happlied⟩ := applyData_eq_some h.extract_spec.1
    fun name hname => hasRoom_of_unblocked h hstashed hrestorable.unblocked hname
  refine ⟨⟨some config, data⟩, ?_, rfl, ?_⟩
  · rw [restoreMembers_eq h, hstash, Option.bind_some, hdata]
    rfl
  · intro path hpath
    cases path with
    | nil =>
      have hbacked : backedUp R source [] = some .dir := by
        unfold backedUp
        rw [source.data.wellFormed.root]
      have hroot : (clearLiveDataTree stashed).get? [] = stashed.get? [] := FileTree.get?_keep _ _ _
      rw [hbacked, happlied.root, hroot, hstashed.root, live.wellFormed.root]
    | cons top below =>
      cases htop : isHidden top with
      | true =>
        rw [get?_hidden h hstashed happlied htop]
        exact hrestorable.hidden top below htop hpath
      | false =>
        rw [get?_visible h happlied htop (kept_of_not_setAside hpath)]
        exact (get?_dataFolder_eq h hpath).mpr (hrestorable.filled top below htop hpath)

theorem not_setAside_of_included {top : List Char} (h : Included source [top]) :
    ¬ SetAside source [top] := by
  rintro (⟨hwal, _⟩ | ⟨top', below, heq, _, hnot⟩)
  · rw [h.notWal] at hwal
    cases hwal
  · obtain ⟨rfl, rfl⟩ := List.cons.inj heq
    exact hnot h

theorem restorable_of_applied (h : Packed R source version time members config dataFiles bundle)
    {liveConfig : Option B} {restored : Station B}
    (hrestored : restoreMembers stamp members ⟨liveConfig, live.toFileTree⟩ = some restored)
    (hsame : ∀ path, ¬ SetAside source path → restored.data.get? path = backedUp R source path)
    (hid : source.deviceId ≠ "") (hchars : ∀ c ∈ shortId source.deviceId, isIdChar c = true)
    (hdots : ∀ path, Included source path →
      ¬ ['.', '.'] <:+: joinPath ("data".toList :: path)) :
    Restorable R source stamp ⟨liveConfig, live.toFileTree⟩ := by
  rw [restoreMembers_eq h] at hrestored
  obtain ⟨stashed, hstash, hmap⟩ := Option.bind_eq_some_iff.mp hrestored
  obtain ⟨data, hdata, rfl⟩ := Option.map_eq_some_iff.mp hmap
  have hstashed := stashed_of_stashState live.wellFormed hstash
  have hfits := (stashState_isSome_iff live.wellFormed).mp
    (Option.isSome_iff_exists.mpr ⟨stashed, hstash⟩)
  obtain ⟨hdirs, hjournals⟩ := dir_of_applyData h.extract_spec.1 hdata
  have hunblocked : ∀ top, Included source [top] → shouldSkipDataEntry top = true →
      ∀ name ∈ blockers top, name ≠ stashName stamp ∧ live.get? [name] ≠ some .dir := by
    intro top hincluded hskip name hname
    have hkept : name = stashName stamp ∨ live.get? [name] = some .dir →
        (clearLiveDataTree stashed).get? [name] = some .dir := by
      intro hblocked
      rw [get?_clearLiveDataTree, skip_blocker hskip hname, Bool.or_true, if_pos rfl]
      by_cases hstashName : name = stashName stamp
      · rw [hstashName, hstashed.folder]
      · rw [hstashed.others name [] hstashName]
        exact hblocked.resolve_left hstashName
    have hfree : (clearLiveDataTree stashed).get? [name] ≠ some .dir := by
      intro hdir
      rcases mem_blockers.mp hname with rfl | ⟨hdatabase, hjournal⟩
      · -- a directory would still be there
        obtain ⟨content, hbacked, _⟩ := h.exists_dataFile hincluded
        have hfile := hsame [name] (not_setAside_of_included hincluded)
        rw [hbacked, hdirs [name] hdir] at hfile
        cases hfile
      · have htop := (mem_glob_dataFolder h).mpr ⟨hidden_of_skip hskip, [], hincluded⟩
        exact hjournals top htop hdatabase name hjournal hdir
    exact ⟨fun heq => hfree (hkept (.inl heq)), fun heq => hfree (hkept (.inr heq))⟩
  obtain ⟨data', hdata', happlied⟩ := applyData_eq_some h.extract_spec.1
    fun name hname => hasRoom_of_unblocked h hstashed hunblocked hname
  obtain rfl : data = data' := Option.some.inj (hdata.symm.trans hdata')
  refine ⟨hid, hchars, hdots, ?_, ?_, hunblocked, hfits⟩
  · intro top below htop hpath
    apply (get?_dataFolder_eq h hpath).mp
    rw [← get?_visible h happlied htop (kept_of_not_setAside hpath)]
    exact hsame _ hpath
  · intro top below htop hpath
    rw [← hsame _ hpath]
    exact (get?_hidden h hstashed happlied htop below).symm

end

/-! ### The round trip -/

/-- What the libraries do with the texts and archives of a backup. -/
structure Lawful (R : Runtime B) (source : Source B) (version : String) (time : BuildTime) :
    Prop where
  /-- `json.loads` reads what `json.dumps` wrote, with the keys in order. -/
  json : ∀ files, copiedFiles R source = some files →
    R.loads (R.dumps (toDict (manifestOf R source version time files))) =
      some (sortKeys (toDict (manifestOf R source version time files)))
  /-- An archive is read as it was written. -/
  tar : ∀ members, archiveMembers R source version time = some members →
    R.untar (R.tarGz members) = some members
  /-- A `gzip` file begins with its magic number. -/
  gzip : ∀ members, (R.tarGz members).take 2 = [0x1f, 0x8b]
  /-- AES-GCM decrypts what it encrypted under the same key, nonce and header. -/
  cipher : ∀ key nonce plaintext header ciphertext,
    R.encrypt key nonce plaintext header = some ciphertext →
      R.decrypt key nonce ciphertext header = some plaintext

section

variable {R : Runtime B} {source : Source B} {version : String} {time : BuildTime}
  {fresh : Fresh} {password : Option String} {payload : Bytes}

theorem not_isEncrypted_gzip {archive : Bytes} (h : archive.take 2 = [0x1f, 0x8b]) :
    isEncrypted archive = false := by
  have hlength : MAGIC.length = 8 := by decide
  rw [isEncrypted, decide_eq_false_iff_not, hlength]
  intro hmagic
  have htake := congrArg (List.take 2) hmagic
  rw [List.take_take, Nat.min_eq_left (by decide), h] at htake
  exact absurd htake (by decide)

theorem archive_of_build (hlawful : Lawful R source version time)
    (hbuild : build R source version time fresh password = some payload) :
    ∃ members, archiveMembers R source version time = some members ∧
      decryptUpload R payload password = .ok (R.tarGz members) := by
  obtain ⟨members, hmembers, hrest⟩ := Option.bind_eq_some_iff.mp hbuild
  refine ⟨members, hmembers, ?_⟩
  cases password with
  | none =>
    cases hrest
    have hplain := not_isEncrypted_gzip (hlawful.gzip members)
    simp only [decryptUpload, hplain, Bool.false_eq_true, if_false]
  | some password => exact decryptUpload_encryptArchive hlawful.cipher hrest

end

/-! ### A station with a hidden file -/

def hilltopSha256 (content : String) : String :=
  if content = "region: US\n" then
    "025ad542c8b6b3033c5a961295f63d9ae15b29c07a0a61764ca3691cc911ba0f"
  else if content = "beta" then
    "f44e64e75f3948e9f73f8dfa94721c4ce8cbb4f265c4790c702b2d41cfbf2753"
  else if content = "keys: \x7b\x7d\n" then
    "f22e3446ba2529a15aa09d1c8ba3703a566a270276eb162962353efbc08ee3a6"
  else if content = "hilltop" then
    "37e70aca61dd778ec54223be4e8bf4baaa6fc45083482b3c91ecd591dcd2ae23"
  else ""

def hilltopManifest : BackupManifest where
  formatVersion := 1
  meshpointVersion := "0.8.0"
  createdAt := "2026-01-01T00:00:00Z"
  deviceId := "a1b2c3d4"
  deviceName := "Hilltop"
  entries := [⟨"config/local.yaml", hilltopSha256 "region: US\n", 11⟩,
    ⟨"data/.channel", hilltopSha256 "beta", 4⟩,
    ⟨"data/keys.yaml", hilltopSha256 "keys: \x7b\x7d\n", 9⟩,
    ⟨"data/reticulum/identity", hilltopSha256 "hilltop", 7⟩]
  totalBytes := 31

def hilltopManifestText : String :=
  "\x7b\n" ++
  "  \"created_at\": \"2026-01-01T00:00:00Z\",\n" ++
  "  \"device_id\": \"a1b2c3d4\",\n" ++
  "  \"device_name\": \"Hilltop\",\n" ++
  "  \"entries\": [\n" ++
  "    \x7b\n" ++
  "      \"path\": \"config/local.yaml\",\n" ++
  "      \"sha256\": \"025ad542c8b6b3033c5a961295f63d9ae15b29c07a0a61764ca3691cc911ba0f\",\n" ++
  "      \"size_bytes\": 11\n" ++
  "    \x7d,\n" ++
  "    \x7b\n" ++
  "      \"path\": \"data/.channel\",\n" ++
  "      \"sha256\": \"f44e64e75f3948e9f73f8dfa94721c4ce8cbb4f265c4790c702b2d41cfbf2753\",\n" ++
  "      \"size_bytes\": 4\n" ++
  "    \x7d,\n" ++
  "    \x7b\n" ++
  "      \"path\": \"data/keys.yaml\",\n" ++
  "      \"sha256\": \"f22e3446ba2529a15aa09d1c8ba3703a566a270276eb162962353efbc08ee3a6\",\n" ++
  "      \"size_bytes\": 9\n" ++
  "    \x7d,\n" ++
  "    \x7b\n" ++
  "      \"path\": \"data/reticulum/identity\",\n" ++
  "      \"sha256\": \"37e70aca61dd778ec54223be4e8bf4baaa6fc45083482b3c91ecd591dcd2ae23\",\n" ++
  "      \"size_bytes\": 7\n" ++
  "    \x7d\n" ++
  "  ],\n" ++
  "  \"format_version\": 1,\n" ++
  "  \"meshpoint_version\": \"0.8.0\",\n" ++
  "  \"total_bytes\": 31\n" ++
  "\x7d"

def hilltopBundle : String := "meshpoint-backup-a1b2c3d4-20260101T000000Z"

def hilltopMembers : List (Member String) :=
  [⟨hilltopBundle, .dir⟩,
    ⟨hilltopBundle ++ "/config", .dir⟩,
    ⟨hilltopBundle ++ "/config/local.yaml", .file "region: US\n"⟩,
    ⟨hilltopBundle ++ "/data", .dir⟩,
    ⟨hilltopBundle ++ "/data/.channel", .file "beta"⟩,
    ⟨hilltopBundle ++ "/data/keys.yaml", .file "keys: \x7b\x7d\n"⟩,
    ⟨hilltopBundle ++ "/data/reticulum", .dir⟩,
    ⟨hilltopBundle ++ "/data/reticulum/identity", .file "hilltop"⟩,
    ⟨hilltopBundle ++ "/manifest.json", .file hilltopManifestText⟩]

/-- The members in a `.tar.gz` file. -/
def hilltopArchive : Bytes :=
  ofHex "1f8b08000000000002ff" ++
  ofHex "ed58dd6eda3018e5ba4f11715da8ff9df004bbdf76d369429fedcf256b4810319558d5779f13b4aae5a7" ++
  ofHex "85aa45d5e6239480ed98a31c9fe32f99633b5b34651d4606eced6a31026a98e54e8c18618a5042bf911e" ++
  ofHex "d75783b7a2bb5c4b39d84c44b6cfbbdfa9604c0d32393803566d8065fcfbc1ff89f9f1fadba6f6e5cdd5" ++
  ofHex "39f49742f3a4ffe7d4bf6a2c54e335ccab53f457421cd69ff22dfdb510517f92f4ff702cf1a66cea49f6" ++
  ofHex "fdebc52021f9ff05ff3b08f0a622e00df94fb94ef9ff19f51fdb19d43556a7eaff62fe13b1a5bf9282a5" ++
  ofHex "fc3f070c06482998f2ff58ffdfe2ba3da9f83baafea3dbfed74a25ff9f039d9e93ecfe21557fc9ffc7f8" ++
  ofHex "7f89a1b4ab6a35bf3acdffa7d57f9a4a92eabfcfad7fe9b00e6558bf47fda79febcf886634e5ff39302b" ++
  ofHex "ab2a348b1484c9ffaff97f0e75e9b10de35f6d53bfe3f31f1592ecd47f4c27ff9f03f7175936b44b8480" ++
  ofHex "6e0a6138c9869df0234247bdf493fe733dbcecc639bc2b2d4e4bd70dfbbb509e75d530c7aef3cb265636" ++
  ofHex "7d719f5896d8c6f61ff16796ddf7c7d8b18030eb46efbc59eeafeb87b433605275830893e0a4603637ca" ++
  ofHex "70c2b9955028ca0ae915770520958615966820a0a856c2025705b5b6a0d400f14fe62c7fe3d4ac434f89" ++
  ofHex "d2bef9e1723fb5672f3df6d1f242a012a8a5e785c8b1f09afbdc792844dcc3acb0985b6384674a5aa10b" ++
  ofHex "623561863941ad379e69c90fd012afb37a7c14db4b8b31e44228131b5801540290c2d178f3806bc2412a" ++
  ofHex "052c72d10a0d55ac508c4b8ede5892237250076815afd3daad10f6f1e31a35011b95724eeb1c6d549671" ++
  ofHex "830273e3850100e56d0c869c8b9c191e4544eb64419d750c901dba6d7ac32f1e7ff64bcf37cb3984e91d" ++
  ofHex "2edbb2a93bb9fbe6c7d47bd23324e37c4c362b363401aac74939bd78483b454242424242424242c2bf80" ++
  ofHex "3ff4aebabe00280000"

/-- The libraries on the texts and the archive of the station; nothing is encrypted here. -/
def hilltopRuntime : Runtime String where
  sha256 := hilltopSha256
  size := fun content => (utf8 content).length
  dumps := fun value =>
    if JsonText.dumps value = JsonText.dumps (toDict hilltopManifest) then hilltopManifestText
    else ""
  loads := fun text =>
    if text = hilltopManifestText then some (sortKeys (toDict hilltopManifest)) else none
  repr := fun value => String.ofList (JsonText.dumps value)
  tarGz := fun members => if members = hilltopMembers then hilltopArchive else [0x1f, 0x8b]
  untar := fun archive => if archive = hilltopArchive then some hilltopMembers else none
  snapshotDatabase := fun _ => none
  scrypt := fun _ _ _ _ _ => []
  encrypt := fun _ _ _ _ => none
  decrypt := fun _ _ _ _ => none

def hilltopData : DataTree String where
  nodes := [([], .dir), ([".channel".toList], .file "beta"),
    (["keys.yaml".toList], .file "keys: \x7b\x7d\n"), (["reticulum".toList], .dir),
    (["reticulum".toList, "identity".toList], .file "hilltop")]
  wellFormed := ⟨by decide, rfl, by decide⟩
  named := by decide

def freshData : DataTree String where
  nodes := [([], .dir)]
  wellFormed := ⟨by decide, rfl, by decide⟩
  named := by decide

def hilltopSource : Source String where
  config := some "region: US\n"
  data := hilltopData
  dbName := "concentrator.db".toList
  deviceId := "a1b2c3d4"
  deviceName := "Hilltop"

def hilltopTime : BuildTime where
  createdAt := "2026-01-01T00:00:00Z"
  stamp := "20260101T000000Z".toList
  isStamp := by decide

def hilltopFresh : Fresh :=
  ⟨List.replicate 16 0, List.replicate 12 0, rfl, rfl⟩


def hilltopFiles : List (Path × String) :=
  [(configPath, "region: US\n"), (["data".toList, ".channel".toList], "beta"),
    (["data".toList, "keys.yaml".toList], "keys: \x7b\x7d\n"),
    (["data".toList, "reticulum".toList, "identity".toList], "hilltop")]

theorem copiedFiles_hilltop : copiedFiles hilltopRuntime hilltopSource = some hilltopFiles := by
  decide +kernel

theorem manifestOf_hilltop : manifestOf hilltopRuntime hilltopSource "0.8.0" hilltopTime
    hilltopFiles = hilltopManifest := by
  decide +kernel

theorem dumps_hilltop : hilltopRuntime.dumps (toDict hilltopManifest) = hilltopManifestText := by
  simp only [hilltopRuntime, if_true]

theorem tarGz_hilltop : hilltopRuntime.tarGz hilltopMembers = hilltopArchive := by
  simp only [hilltopRuntime, if_true]

theorem untar_hilltop : hilltopRuntime.untar hilltopArchive = some hilltopMembers := by
  simp only [hilltopRuntime, if_true]

theorem archiveMembers_hilltop :
    archiveMembers hilltopRuntime hilltopSource "0.8.0" hilltopTime = some hilltopMembers := by
  have hname : ¬ ('/' ∈ shortId hilltopSource.deviceId ∨
      Char.ofNat 0 ∈ shortId hilltopSource.deviceId) := by decide
  have hpacked : ((FileTree.empty.writeAll (hilltopFiles ++
      [(["manifest.json".toList], hilltopManifestText)])).bind fun bundle =>
        some (bundle.members (bundleName hilltopSource.deviceId hilltopTime))) =
          some hilltopMembers := by
    decide +kernel
  unfold archiveMembers
  rw [if_neg hname, copiedFiles_hilltop]
  simp only [Option.bind_eq_bind, Option.bind_some, bundleFiles, manifestOf_hilltop, dumps_hilltop]
  exact hpacked

theorem lawful_hilltop : Lawful hilltopRuntime hilltopSource "0.8.0" hilltopTime where
  json := by
    intro files hfiles
    obtain rfl := Option.some.inj (copiedFiles_hilltop.symm.trans hfiles)
    rw [manifestOf_hilltop, dumps_hilltop]
    simp only [hilltopRuntime, if_true]
  tar := by
    intro members hmembers
    obtain rfl := Option.some.inj (archiveMembers_hilltop.symm.trans hmembers)
    rw [tarGz_hilltop, untar_hilltop]
  gzip := by
    intro members
    simp only [hilltopRuntime]
    split
    · decide +kernel
    · rfl
  cipher := by
    intro key nonce plaintext header ciphertext h
    cases h

theorem build_hilltop :
    build hilltopRuntime hilltopSource "0.8.0" hilltopTime hilltopFresh none =
      some hilltopArchive := by
  rw [build, archiveMembers_hilltop, Option.bind_eq_bind, Option.bind_some, tarGz_hilltop]
  rfl

/-- The data directory after the backup: the keys have changed, and a folder is gone. -/
def changedData : DataTree String where
  nodes := [([], .dir), ([".channel".toList], .file "beta"),
    (["keys.yaml".toList], .file "keys: \x7ba: b\x7d\n")]
  wellFormed := ⟨by decide, rfl, by decide⟩
  named := by decide

def restoreStamp : List Char := "20260301T000000Z".toList

theorem included_hilltop {path : Path} (h : Included hilltopSource path) :
    path = [".channel".toList] ∨ path = ["keys.yaml".toList] ∨
      path = ["reticulum".toList, "identity".toList] := by
  obtain ⟨content, hget⟩ := h.isFile
  have hmem := FileTree.mem_of_get? hget
  simp only [hilltopSource, hilltopData, List.mem_cons, Prod.mk.injEq, reduceCtorEq, and_false,
    List.not_mem_nil, or_false, false_or] at hmem
  rcases hmem with h | h | h
  · exact .inl h.1
  · exact .inr (.inl h.1)
  · exact .inr (.inr h.1)

theorem restorable_hilltop : Restorable hilltopRuntime hilltopSource restoreStamp
    ⟨some "region: EU\n", changedData.toFileTree⟩ where
  identified := by decide +kernel
  plainId := List.all_eq_true.mp (by decide : (shortId hilltopSource.deviceId).all isIdChar = true)
  noDots := by
    intro path hincluded
    rcases included_hilltop hincluded with rfl | rfl | rfl
    · decide +kernel
    · decide +kernel
    · decide +kernel
  filled := by
    intro top below htop _ hdir
    have hmem := FileTree.mem_of_get? hdir
    simp only [hilltopSource, hilltopData, List.mem_cons, Prod.mk.injEq, reduceCtorEq, and_false,
      List.not_mem_nil, or_false, false_or, and_true, List.cons.injEq] at hmem
    obtain ⟨rfl, rfl⟩ := hmem
    exact ⟨["identity".toList], ⟨"hilltop", by decide⟩, by decide, by decide +kernel⟩
  hidden := by
    intro top below htop _
    have hnone : ∀ data : DataTree String,
        (∀ entry ∈ data.nodes, entry.1.head?.any isHidden = true →
          entry.1 = [".channel".toList]) →
        top :: below ≠ [".channel".toList] → data.get? (top :: below) = none := by
      intro data hnodes hne
      by_contra hsome
      obtain ⟨node, hget⟩ := Option.ne_none_iff_exists'.mp hsome
      exact hne (hnodes _ (FileTree.mem_of_get? hget) htop)
    by_cases heq : top :: below = [".channel".toList]
    · rw [heq]
      decide +kernel
    · have hsource : hilltopSource.data.get? (top :: below) = none :=
        hnone hilltopData (by decide) heq
      unfold backedUp
      rw [hnone changedData (by decide) heq, hsource]
  unblocked := by
    intro top hincluded hskip
    rcases included_hilltop hincluded with heq | heq | heq
    · cases heq
      exact absurd hskip (by decide)
    · cases heq
      exact absurd hskip (by decide)
    · cases heq
  stashed := by
    have hnone : ∀ below, changedData.get? (stashName restoreStamp :: below) = none := by
      intro below
      by_contra hsome
      obtain ⟨node, hget⟩ := Option.ne_none_iff_exists'.mp hsome
      have hhead : ∀ entry ∈ changedData.nodes, entry.1.head? ≠ some (stashName restoreStamp) := by
        decide
      exact hhead _ (FileTree.mem_of_get? hget) rfl
    refine ⟨?_, ?_, ?_⟩
    · decide
    · intro _ hdir
      rw [hnone] at hdir
      cases hdir
    · intro name below node _ _ _
      rw [hnone]
      rfl

end Meshpoint.BackupRoundTrip
