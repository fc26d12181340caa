import Meshpoint.BackupArchive

/-!
# Applying a backup

`scripts/restore_finish.sh` on a station: what it puts aside, what it clears and what it copies.
The station is the configuration file and the data directory; that services are stopped and
started, and owners and modes, are left out.  A step of the script that fails ends it, which is
`none`.
-/

namespace Meshpoint.RestoreFinish

open ByteCodec TarArchive BackupArchive

variable {B : Type}

/-- The configuration file, if there is one, and the data directory. -/
structure Station (B : Type) where
  config : Option B
  data : FileTree B

/-- The name does not match the pattern `*`. -/
def isHidden (name : List Char) : Bool := name.head? = some '.'

/-- `_should_skip_data_entry`. -/
def shouldSkipDataEntry (name : List Char) : Bool :=
  name = "restore-incoming".toList ∨ name = "backup-staging".toList ∨
    "pre-restore-stash-".toList <+: name

/-- The names that `*` stands for in a directory. -/
def glob (t : FileTree B) (base : Path) : List (List Char) :=
  ((t.names base).filter fun name => !isHidden name).insertionSort fun name other => name ≤ other

/-- The last part of `STASH_DIR`. -/
def stashName (stamp : List Char) : List Char := "pre-restore-stash-".toList ++ stamp

/-- `mkdir -p "${STASH_DIR}/config" "${STASH_DIR}/data"`. -/
def stashFolders (stash : List Char) : List (Path × Node B) :=
  [([stash], .dir), ([stash, "config".toList], .dir), ([stash, "data".toList], .dir)]

/-- The entries of the data directory that are put aside, where they are copied. -/
def stashEntries (stash : List Char) (data : FileTree B) : List (Path × Node B) :=
  ((glob data []).filter fun name => !shouldSkipDataEntry name).flatMap fun name =>
    graft [stash, "data".toList, name] (data.subtree [name])

/-- The configuration is put aside, if there is one. -/
def stashConfig (stash : List Char) (config : Option B) (data : FileTree B) : Option (FileTree B) :=
  match config with
  | none => some data
  | some config =>
    data.copyOnto [stash, "config".toList, "local.yaml".toList] "local.yaml".toList
      [([], .file config)]

/-- Put the current state aside.  The stash is skipped, so what is copied does not change. -/
def stashState (stamp : List Char) (station : Station B) : Option (FileTree B) := do
  let data ← station.data.placeAll (stashFolders (stashName stamp))
  let data ← stashConfig (stashName stamp) station.config data
  data.placeAll (stashEntries (stashName stamp) station.data)

/-- A path that `_clear_live_data_tree` leaves. -/
def isKept : Path → Bool
  | [] => true
  | top :: _ => isHidden top || shouldSkipDataEntry top

/-- `_clear_live_data_tree`. -/
def clearLiveDataTree (data : FileTree B) : FileTree B := data.keep isKept

/-- The files beside a database that are removed after it is copied. -/
def journalNames (name : List Char) : List (List Char) :=
  [name ++ "-wal".toList, name ++ "-shm".toList, name ++ "-journal".toList]

/-- The name matches `*.db`. -/
def isDatabaseName (name : List Char) : Bool := ".db".toList <:+ name

def applyEntry (bundle : FileTree B) (folder : Path) (data : FileTree B) (name : List Char) :
    Option (FileTree B) := do
  let data ← data.copyOnto [name] name (bundle.subtree (folder ++ [name]))
  if isDatabaseName name then
    data.removeFiles ((journalNames name).map fun journal => [journal])
  else return data

def applyData (bundle : FileTree B) (folder : Path) (data : FileTree B) : Option (FileTree B) :=
  if bundle.isDir folder then (glob bundle folder).foldlM (applyEntry bundle folder) data
  else some data

/-- `find -mindepth 1 -maxdepth 1 -type d | head -n 1`. -/
def bundleDir (extracted : FileTree B) : Option (List Char) :=
  (extracted.names []).find? fun name => extracted.isDir [name]

def appliedConfig (extracted : FileTree B) (bundle : List Char) (config : Option B) : Option B :=
  match extracted.get? [bundle, "config".toList, "local.yaml".toList] with
  | some (.file content) => some content
  | _ => config

/-- `restore_finish.sh`, on the members of the archive. -/
def restoreMembers (stamp : List Char) (members : List (Member B)) (station : Station B) :
    Option (Station B) := do
  let stashed ← stashState stamp station
  let extracted := extract members
  let bundle ← bundleDir extracted
  match extracted.get? [bundle, "manifest.json".toList] with
  | some (.file _) =>
    let config := appliedConfig extracted bundle station.config
    let data ← applyData extracted [bundle, "data".toList] (clearLiveDataTree stashed)
    return ⟨config, data⟩
  | _ => none

/-- `restore_finish.sh`. -/
def restoreFinish (R : Runtime B) (stamp : List Char) (archive : Bytes) (station : Station B) :
    Option (Station B) :=
  (R.untar archive).bind fun members => restoreMembers stamp members station

/-! ### What is put aside -/

/-- Nothing that stands where the stash goes is in the way: no file where a directory is made, and
    no directory where a file is. -/
structure StashFits (stamp : List Char) (station : Station B) : Prop where
  folders : ∀ entry ∈ stashFolders (stashName stamp),
    entry.2.fits (station.data.get? entry.1) = true
  config : station.config.isSome = true →
    station.data.get? [stashName stamp, "config".toList, "local.yaml".toList] = some .dir →
      station.data.get? [stashName stamp, "config".toList, "local.yaml".toList,
        "local.yaml".toList] ≠ some .dir
  entries : ∀ name below node, isHidden name = false → shouldSkipDataEntry name = false →
    station.data.get? (name :: below) = some node →
      node.fits (station.data.get? (stashName stamp :: "data".toList :: name :: below)) = true

theorem mem_glob {t : FileTree B} {base : Path} {name : List Char} :
    name ∈ glob t base ↔ isHidden name = false ∧ (t.get? (base ++ [name])).isSome := by
  rw [glob, List.mem_insertionSort, List.mem_filter, FileTree.mem_names, Bool.not_eq_true']
  exact and_comm

theorem nodup_glob {t : FileTree B} (h : (t.nodes.map Prod.fst).Nodup) (base : Path) :
    (glob t base).Nodup :=
  (List.perm_insertionSort _ _).nodup_iff.mpr ((FileTree.nodup_names h base).filter _)

/-- What stands below a name stands below something. -/
def Topped (data : FileTree B) : Prop :=
  ∀ name below, (data.get? (name :: below)).isSome = true → (data.get? [name]).isSome = true

theorem topped_of_wellFormed {data : FileTree B} (h : data.WellFormed) : Topped data := by
  intro name below hsome
  obtain ⟨node, hget⟩ := Option.isSome_iff_exists.mp hsome
  by_cases hbelow : below = []
  · rw [hbelow] at hsome
    exact hsome
  · have hsplit : data.get? ([name] ++ below) = some node := hget
    rw [h.dir_above hsplit hbelow]
    rfl

theorem mem_stashEntries {stash : List Char} {data : FileTree B}
    (hnodup : (data.nodes.map Prod.fst).Nodup) (htopped : Topped data) {path : Path}
    {node : Node B} :
    (path, node) ∈ stashEntries stash data ↔
      ∃ name below, isHidden name = false ∧ shouldSkipDataEntry name = false ∧
        data.get? (name :: below) = some node ∧
          path = stash :: "data".toList :: name :: below := by
  unfold stashEntries
  rw [List.mem_flatMap]
  constructor
  · rintro ⟨name, hname, hentry⟩
    obtain ⟨hglob, hskip⟩ := List.mem_filter.mp hname
    obtain ⟨⟨below, node'⟩, hbelow, heq⟩ := List.mem_map.mp hentry
    obtain ⟨rfl, rfl⟩ := Prod.mk.inj heq
    exact ⟨name, below, (mem_glob.mp hglob).1, by simpa using hskip,
      (FileTree.mem_subtree hnodup).mp hbelow, rfl⟩
  · rintro ⟨name, below, hhidden, hskip, hget, rfl⟩
    have htop : (data.get? ([] ++ [name])).isSome :=
      htopped name below (Option.isSome_iff_exists.mpr ⟨node, hget⟩)
    refine ⟨name, List.mem_filter.mpr ⟨mem_glob.mpr ⟨hhidden, htop⟩, by simp [hskip]⟩, ?_⟩
    exact List.mem_map.mpr ⟨(below, node), (FileTree.mem_subtree hnodup).mpr hget, rfl⟩

theorem nodup_stashEntries (stash : List Char) {data : FileTree B}
    (hnodup : (data.nodes.map Prod.fst).Nodup) :
    ((stashEntries stash data).map Prod.fst).Nodup := by
  unfold stashEntries
  rw [List.map_flatMap, List.nodup_flatMap]
  constructor
  · intro name _
    exact nodup_graft (FileTree.nodup_subtree hnodup [name]) _
  · apply ((nodup_glob hnodup []).filter _).imp
    intro name other hne path hpath hother
    simp only [graft, List.map_map, List.mem_map, Function.comp_apply] at hpath hother
    obtain ⟨entry, _, rfl⟩ := hpath
    obtain ⟨entry', _, heq⟩ := hother
    simp only [List.cons_append, List.nil_append, List.cons.injEq, true_and] at heq
    exact hne heq.1.symm

theorem nodup_stashFolders (stash : List Char) :
    ((stashFolders stash : List (Path × Node B)).map Prod.fst).Nodup := by
  simp [stashFolders]

theorem lookup_stashFolders {stash : List Char} {path : Path}
    (h : path.head? ≠ some stash ∨ 2 < path.length) :
    lookup (stashFolders stash : List (Path × Node B)) path = none := by
  rw [lookup_eq_none_iff]
  simp only [stashFolders, List.map_cons, List.map_nil, List.mem_cons, List.not_mem_nil, or_false]
  rintro (rfl | rfl | rfl)
  · rcases h with h | h
    · exact h rfl
    · exact absurd h (by simp)
  · rcases h with h | h
    · exact h rfl
    · exact absurd h (by simp)
  · rcases h with h | h
    · exact h rfl
    · exact absurd h (by simp)

def stashConfigPath (stash : List Char) (data : FileTree B) : Path :=
  if data.isDir [stash, "config".toList, "local.yaml".toList] then
    [stash, "config".toList, "local.yaml".toList, "local.yaml".toList]
  else [stash, "config".toList, "local.yaml".toList]

/-- Everything that is put aside, where it is copied. -/
def stashNodes (stash : List Char) (station : Station B) : List (Path × Node B) :=
  stashFolders stash ++
    ((station.config.toList.map fun config =>
      (stashConfigPath stash station.data, Node.file config)) ++
    stashEntries stash station.data)

theorem stashState_eq (stamp : List Char) (station : Station B) :
    stashState stamp station = station.data.placeAll (stashNodes (stashName stamp) station) := by
  unfold stashState stashNodes
  rw [FileTree.placeAll_append, Option.bind_eq_bind]
  cases hfolders : station.data.placeAll (stashFolders (stashName stamp)) with
  | none => rfl
  | some data =>
    have hconfig : stashConfig (stashName stamp) station.config data =
        data.placeAll (station.config.toList.map fun config =>
          (stashConfigPath (stashName stamp) station.data, Node.file config)) := by
      cases station.config with
      | none => rfl
      | some config =>
        have hsame : data.isDir [stashName stamp, "config".toList, "local.yaml".toList] =
            station.data.isDir [stashName stamp, "config".toList, "local.yaml".toList] := by
          unfold FileTree.isDir
          rw [FileTree.get?_placeAll (nodup_stashFolders _) hfolders,
            lookup_stashFolders (.inr (by simp))]
          rfl
        simp only [stashConfig, FileTree.copyOnto, graft, stashConfigPath, hsame]
        split
        · rfl
        · rfl
    rw [Option.bind_some, Option.bind_some, FileTree.placeAll_append, hconfig]

theorem head?_stashConfigPath (stash : List Char) (data : FileTree B) :
    ∃ below, stashConfigPath stash data = stash :: "config".toList :: below ∧ below ≠ [] := by
  unfold stashConfigPath
  split
  · exact ⟨_, rfl, List.cons_ne_nil _ _⟩
  · exact ⟨_, rfl, List.cons_ne_nil _ _⟩

theorem nodup_stashNodes (stash : List Char) {station : Station B}
    (hwell : station.data.WellFormed) :
    ((stashNodes stash station).map Prod.fst).Nodup := by
  obtain ⟨below, hconfig, hbelow⟩ := head?_stashConfigPath stash station.data
  have hentries : ∀ path ∈ (stashEntries stash station.data).map Prod.fst,
      ∃ name rest, path = stash :: "data".toList :: name :: rest := by
    intro path hpath
    obtain ⟨⟨path, node⟩, hentry, rfl⟩ := List.mem_map.mp hpath
    obtain ⟨name, rest, _, _, _, heq⟩ :=
      (mem_stashEntries hwell.nodup (topped_of_wellFormed hwell)).mp hentry
    exact ⟨name, rest, heq⟩
  unfold stashNodes
  rw [List.map_append, List.map_append]
  apply List.nodup_append.mpr
  refine ⟨nodup_stashFolders stash, List.nodup_append.mpr ⟨?_, nodup_stashEntries stash hwell.nodup,
    ?_⟩, ?_⟩
  · cases station.config with
    | none => exact List.nodup_nil
    | some config => exact List.nodup_singleton _
  · intro path hpath other hother heq
    obtain ⟨name, rest, hrest⟩ := hentries other hother
    simp only [List.map_map, List.mem_map, Function.comp_apply] at hpath
    obtain ⟨config, _, rfl⟩ := hpath
    rw [hconfig, hrest] at heq
    exact absurd (List.cons.inj (List.cons.inj heq).2).1 (by decide)
  · intro path hpath other hother heq
    have hshort : path.length ≤ 2 := by
      simp only [stashFolders, List.map_cons, List.map_nil, List.mem_cons, List.not_mem_nil,
        or_false] at hpath
      rcases hpath with rfl | rfl | rfl
      · simp
      · simp
      · simp
    have hlong : 2 < other.length := by
      rcases List.mem_append.mp hother with hfirst | hlater
      · simp only [List.map_map, List.mem_map, Function.comp_apply] at hfirst
        obtain ⟨config, _, rfl⟩ := hfirst
        rw [hconfig]
        have hpos := List.length_pos_of_ne_nil hbelow
        simp only [List.length_cons]
        omega
      · obtain ⟨name, rest, rfl⟩ := hentries other hlater
        simp
    rw [heq] at hshort
    omega

/-- **The stash.**  The state can be put aside exactly when nothing is in the way. -/
theorem stashState_isSome_iff {stamp : List Char} {station : Station B}
    (hwell : station.data.WellFormed) :
    (stashState stamp station).isSome ↔ StashFits stamp station := by
  rw [stashState_eq, FileTree.placeAll_isSome_iff (nodup_stashNodes _ hwell)]
  have hmem : ∀ path node, (path, node) ∈ stashEntries (stashName stamp) station.data ↔ _ :=
    fun path node => mem_stashEntries hwell.nodup (topped_of_wellFormed hwell)
  simp only [stashNodes, List.mem_append]
  constructor
  · intro h
    refine ⟨fun entry hentry => h entry (.inl hentry), ?_, ?_⟩
    · intro hsome hdir hdeep
      obtain ⟨config, hconfig⟩ := Option.isSome_iff_exists.mp hsome
      have hfits := h _ (.inr (.inl (List.mem_map.mpr
        ⟨config, Option.mem_toList.mpr hconfig, rfl⟩)))
      rw [stashConfigPath, if_pos (FileTree.isDir_iff.mpr hdir), hdeep] at hfits
      cases hfits
    · intro name below node hhidden hskip hget
      exact h (_, node) (.inr (.inr ((hmem _ _).mpr ⟨name, below, hhidden, hskip, hget, rfl⟩)))
  · rintro h entry (hentry | hentry | hentry)
    · exact h.folders entry hentry
    · obtain ⟨config, hconfig, rfl⟩ := List.mem_map.mp hentry
      have hsome : station.config.isSome = true :=
        Option.isSome_iff_exists.mpr ⟨config, Option.mem_toList.mp hconfig⟩
      apply Node.fits_file_iff.mpr
      unfold stashConfigPath
      split
      · rename_i hdir
        exact h.config hsome (FileTree.isDir_iff.mp hdir)
      · rename_i hdir
        exact mt FileTree.isDir_iff.mpr hdir
    · obtain ⟨path, node⟩ := entry
      obtain ⟨name, below, hhidden, hskip, hget, rfl⟩ := (hmem path node).mp hentry
      exact h.entries name below node hhidden hskip hget

/-- The stash is in a folder of its own. -/
structure Stashed (stamp : List Char) (live stashed : FileTree B) : Prop where
  nodup : (stashed.nodes.map Prod.fst).Nodup
  root : stashed.get? [] = live.get? []
  folder : stashed.get? [stashName stamp] = some .dir
  others : ∀ top below, top ≠ stashName stamp →
    stashed.get? (top :: below) = live.get? (top :: below)

theorem stashed_of_stashState {stamp : List Char} {station : Station B} {data : FileTree B}
    (hwell : station.data.WellFormed) (h : stashState stamp station = some data) :
    Stashed stamp station.data data := by
  rw [stashState_eq] at h
  have hnodup := nodup_stashNodes (stashName stamp) hwell
  have hkeys : ∀ path ∈ (stashNodes (stashName stamp) station).map Prod.fst,
      path.head? = some (stashName stamp) := by
    intro path hpath
    obtain ⟨⟨path, node⟩, hentry, rfl⟩ := List.mem_map.mp hpath
    simp only [stashNodes, List.mem_append] at hentry
    rcases hentry with hfolder | hconfig | hlater
    · simp only [stashFolders, List.mem_cons, List.not_mem_nil, or_false] at hfolder
      rcases hfolder with heq | heq | heq
      · cases heq
        rfl
      · cases heq
        rfl
      · cases heq
        rfl
    · obtain ⟨config, _, heq⟩ := List.mem_map.mp hconfig
      obtain ⟨below, hbelow, _⟩ := head?_stashConfigPath (stashName stamp) station.data
      cases heq
      rw [hbelow]
      rfl
    · obtain ⟨name, below, _, _, _, rfl⟩ :=
        (mem_stashEntries hwell.nodup (topped_of_wellFormed hwell)).mp hlater
      rfl
  have hother : ∀ path : Path, path.head? ≠ some (stashName stamp) →
      data.get? path = station.data.get? path := by
    intro path hpath
    rw [FileTree.get?_placeAll hnodup h, lookup_eq_none_iff.mpr fun hmem => hpath (hkeys path hmem)]
    rfl
  refine ⟨FileTree.nodup_placeAll h hwell.nodup, hother [] (by simp), ?_, ?_⟩
  · have hfolder : ([stashName stamp], (Node.dir : Node B)) ∈
        stashNodes (stashName stamp) station := by
      simp [stashNodes, stashFolders]
    rw [FileTree.get?_placeAll hnodup h, (lookup_eq_some_iff hnodup).mpr hfolder]
    rfl
  · intro top below hne
    exact hother _ fun heq => hne (Option.some.inj heq)

/-! ### Copying the data folder -/

theorem get?_clearLiveDataTree (data : FileTree B) (top : List Char) (below : Path) :
    (clearLiveDataTree data).get? (top :: below) =
      if isHidden top || shouldSkipDataEntry top then data.get? (top :: below) else none :=
  FileTree.get?_keep data isKept _

theorem applyEntry_cases {bundle data data' : FileTree B} {folder : Path} {name : List Char}
    (h : applyEntry bundle folder data name = some data') :
    ∃ copied, data.copyOnto [name] name (bundle.subtree (folder ++ [name])) = some copied ∧
      (isDatabaseName name = true →
        ∀ journal ∈ journalNames name, copied.get? [journal] ≠ some .dir) ∧
      ∀ path, data'.get? path =
        if isDatabaseName name = true ∧ ∃ journal ∈ journalNames name, path = [journal] then none
        else copied.get? path := by
  obtain ⟨copied, hcopied, hrest⟩ := Option.bind_eq_some_iff.mp h
  refine ⟨copied, hcopied, ?_⟩
  split at hrest
  · rename_i hdatabase
    obtain ⟨hdirs, hget⟩ := FileTree.of_removeFiles_eq_some hrest
    refine ⟨fun _ journal hjournal => hdirs _ (List.mem_map_of_mem hjournal), ?_⟩
    intro path
    rw [hget]
    simp only [hdatabase, true_and, List.mem_map, eq_comm (a := path)]
  · rename_i hdatabase
    cases hrest
    refine ⟨fun hyes => absurd hyes hdatabase, ?_⟩
    intro path
    rw [if_neg (fun h => hdatabase h.1)]

theorem dir_of_applyEntry {bundle data data' : FileTree B} {folder path : Path} {name : List Char}
    (h : applyEntry bundle folder data name = some data') (hdir : data.get? path = some .dir) :
    data'.get? path = some .dir := by
  obtain ⟨copied, hcopied, hjournals, hget⟩ := applyEntry_cases h
  have hkept := FileTree.dir_of_placeAll hcopied hdir
  rw [hget, if_neg, hkept]
  rintro ⟨hdatabase, journal, hjournal, rfl⟩
  exact hjournals hdatabase journal hjournal hkept

theorem mem_journalNames {name journal : List Char} (h : journal ∈ journalNames name) :
    ∃ suffix : List Char, journal = name ++ suffix ∧
      (suffix.getLast? = some 'l' ∨ suffix.getLast? = some 'm') := by
  simp only [journalNames, List.mem_cons, List.not_mem_nil, or_false] at h
  rcases h with rfl | rfl | rfl
  · exact ⟨_, rfl, .inl (by decide)⟩
  · exact ⟨_, rfl, .inr (by decide)⟩
  · exact ⟨_, rfl, .inl (by decide)⟩

theorem ne_of_mem_journalNames {name journal : List Char} (h : journal ∈ journalNames name) :
    journal ≠ name := by
  obtain ⟨suffix, rfl, hlast⟩ := mem_journalNames h
  intro heq
  rw [List.append_right_eq_self.mp heq] at hlast
  rcases hlast with hl | hm
  · cases hl
  · cases hm

section

variable {bundle data : FileTree B} {folder : Path} {name : List Char}
  (hnodup : (bundle.nodes.map Prod.fst).Nodup)
  (hdir : data.get? [name] ≠ some .dir)
  (hfits : ∀ below node, bundle.get? (folder ++ name :: below) = some node →
    node.fits (data.get? (name :: below)) = true)
  (hfree : ∀ below, bundle.get? (folder ++ name :: below) = none →
    data.get? (name :: below) = none)
include hnodup hdir hfits hfree

theorem copyOnto_eq_some :
    ∃ copied, data.copyOnto [name] name (bundle.subtree (folder ++ [name])) = some copied ∧
      (∀ below, copied.get? (name :: below) = bundle.get? (folder ++ name :: below)) ∧
      ∀ path : Path, path.head? ≠ some name → copied.get? path = data.get? path := by
  have hassoc : ∀ below, folder ++ [name] ++ below = folder ++ name :: below := by simp
  have hsub := nodup_graft (FileTree.nodup_subtree hnodup (folder ++ [name])) [name]
  have hcopy : ∃ copied,
      data.copyOnto [name] name (bundle.subtree (folder ++ [name])) = some copied := by
    have hnotDir : data.isDir [name] = false :=
      Bool.eq_false_iff.mpr (mt FileTree.isDir_iff.mp hdir)
    simp only [FileTree.copyOnto, hnotDir, Bool.false_eq_true, if_false]
    apply Option.isSome_iff_exists.mp
    rw [FileTree.placeAll_isSome_iff hsub]
    intro entry hentry
    obtain ⟨⟨below, node⟩, hbelow, rfl⟩ := List.mem_map.mp hentry
    have hget := (FileTree.mem_subtree hnodup).mp hbelow
    rw [hassoc] at hget
    exact hfits below node hget
  obtain ⟨copied, hcopied⟩ := hcopy
  have hplaced := hcopied
  rw [FileTree.copyOnto, if_neg (mt FileTree.isDir_iff.mp hdir)] at hplaced
  have hcopiedGet := FileTree.get?_placeAll hsub hplaced
  refine ⟨copied, hcopied, ?_, ?_⟩
  · intro below
    have hlookup := lookup_graft [name] (bundle.subtree (folder ++ [name])) below
    rw [List.singleton_append, FileTree.lookup_subtree, hassoc] at hlookup
    rw [hcopiedGet, hlookup]
    cases hbundle : bundle.get? (folder ++ name :: below) with
    | none => exact hfree below hbundle
    | some node => rfl
  · intro path hpath
    rw [hcopiedGet, lookup_graft_of_not_prefix]
    · rfl
    · rintro ⟨below, rfl⟩
      exact hpath rfl

theorem applyEntry_eq_some
    (hjournals : isDatabaseName name = true →
      ∀ journal ∈ journalNames name, data.get? [journal] ≠ some .dir) :
    ∃ data', applyEntry bundle folder data name = some data' ∧
      (∀ below, data'.get? (name :: below) = bundle.get? (folder ++ name :: below)) ∧
      data'.get? [] = data.get? [] ∧
      ∀ top below, top ≠ name →
        data'.get? (top :: below) = data.get? (top :: below) ∨
          isDatabaseName name = true ∧ top ∈ journalNames name ∧
            data'.get? (top :: below) = none := by
  obtain ⟨copied, hcopied, hname, hothers⟩ := copyOnto_eq_some hnodup hdir hfits hfree
  have happly : ∃ data', applyEntry bundle folder data name = some data' := by
    rw [applyEntry, hcopied, Option.bind_eq_bind, Option.bind_some]
    split
    · rename_i hdatabase
      apply FileTree.removeFiles_isSome
      intro path hpath
      obtain ⟨journal, hjournal, rfl⟩ := List.mem_map.mp hpath
      rw [hothers [journal] (by simpa using ne_of_mem_journalNames hjournal)]
      exact hjournals hdatabase journal hjournal
    · exact ⟨copied, rfl⟩
  obtain ⟨data', hdata'⟩ := happly
  obtain ⟨copied', hcopied', _, hget⟩ := applyEntry_cases hdata'
  obtain rfl : copied = copied' := Option.some.inj (hcopied.symm.trans hcopied')
  refine ⟨data', hdata', ?_, ?_, ?_⟩
  · intro below
    rw [hget, if_neg, hname]
    rintro ⟨_, journal, hjournal, heq⟩
    exact ne_of_mem_journalNames hjournal (List.cons.inj heq).1.symm
  · rw [hget, if_neg, hothers [] (by simp)]
    rintro ⟨_, journal, _, heq⟩
    cases heq
  · intro top below hne
    rw [hget, hothers (top :: below) (by simpa using hne)]
    split
    · rename_i hremoved
      obtain ⟨hdatabase, journal, hjournal, heq⟩ := hremoved
      obtain ⟨rfl, _⟩ := List.cons.inj heq
      exact .inr ⟨hdatabase, hjournal, rfl⟩
    · exact .inl rfl

end

/-- What stands in an entry's place lets it be copied, and no directory is called like a file
    that is removed after it. -/
structure HasRoom (bundle data : FileTree B) (folder : Path) (name : List Char) : Prop where
  notDir : data.get? [name] ≠ some .dir
  fits : ∀ below node, bundle.get? (folder ++ name :: below) = some node →
    node.fits (data.get? (name :: below)) = true
  free : ∀ below, bundle.get? (folder ++ name :: below) = none → data.get? (name :: below) = none
  journals : isDatabaseName name = true →
    ∀ journal ∈ journalNames name, data.get? [journal] ≠ some .dir

/-- The loop after the entries `done`: they are copied, and of the rest nothing has changed but
    that journals are gone. -/
structure Applied (bundle before : FileTree B) (folder : Path) (done : List (List Char))
    (data : FileTree B) : Prop where
  root : data.get? [] = before.get? []
  copied : ∀ name ∈ done, ∀ below, data.get? (name :: below) = bundle.get? (folder ++ name :: below)
  others : ∀ top, top ∉ done → ∀ below, data.get? (top :: below) = before.get? (top :: below) ∨
    (∃ name ∈ done, isDatabaseName name = true ∧ top ∈ journalNames name) ∧
      data.get? (top :: below) = none

variable {bundle before : FileTree B} {folder : Path}

theorem Applied.hasRoom {done : List (List Char)} {data : FileTree B} {name : List Char}
    (h : Applied bundle before folder done data) (hroom : HasRoom bundle before folder name)
    (hname : name ∉ done) (hjournals : ∀ journal ∈ done, journal ∉ journalNames name) :
    HasRoom bundle data folder name := by
  refine ⟨?_, ?_, ?_, ?_⟩
  · rcases h.others name hname [] with hsame | ⟨_, hnone⟩
    · rw [hsame]
      exact hroom.notDir
    · rw [hnone]
      intro heq
      cases heq
  · intro below node hget
    rcases h.others name hname below with hsame | ⟨_, hnone⟩
    · rw [hsame]
      exact hroom.fits below node hget
    · rw [hnone]
      rfl
  · intro below hget
    rcases h.others name hname below with hsame | ⟨_, hnone⟩
    · rw [hsame]
      exact hroom.free below hget
    · exact hnone
  · intro hdatabase journal hjournal
    rcases h.others journal (fun hdone => hjournals journal hdone hjournal) [] with
      hsame | ⟨_, hnone⟩
    · rw [hsame]
      exact hroom.journals hdatabase journal hjournal
    · rw [hnone]
      intro heq
      cases heq

theorem Applied.step (hnodup : (bundle.nodes.map Prod.fst).Nodup) {done : List (List Char)}
    {data : FileTree B} {name : List Char} (h : Applied bundle before folder done data)
    (hroom : HasRoom bundle before folder name) (hname : name ∉ done)
    (hjournals : ∀ journal ∈ done, journal ∉ journalNames name) :
    ∃ data', applyEntry bundle folder data name = some data' ∧
      Applied bundle before folder (done ++ [name]) data' := by
  have hroom' := h.hasRoom hroom hname hjournals
  obtain ⟨data', happly, hcopied, hroot, hothers⟩ :=
    applyEntry_eq_some hnodup hroom'.notDir hroom'.fits hroom'.free hroom'.journals
  refine ⟨data', happly, hroot.trans h.root, ?_, ?_⟩
  · intro other hother below
    rcases List.mem_append.mp hother with hdone | hlast
    · have hne : other ≠ name := fun heq => hname (heq ▸ hdone)
      rcases hothers other below hne with hsame | ⟨_, hjournal, _⟩
      · rw [hsame, h.copied other hdone below]
      · exact absurd hjournal (hjournals other hdone)
    · obtain rfl := List.mem_singleton.mp hlast
      exact hcopied below
  · intro top htop below
    rw [List.mem_append, List.mem_singleton, not_or] at htop
    rcases hothers top below htop.2 with hsame | ⟨hdatabase, hjournal, hnone⟩
    · rcases h.others top htop.1 below with hbefore | ⟨⟨other, hother, hgone⟩, hnone⟩
      · exact .inl (hsame.trans hbefore)
      · exact .inr ⟨⟨other, List.mem_append_left _ hother, hgone⟩, hsame.trans hnone⟩
    · exact .inr ⟨⟨name, List.mem_append_right _ (List.mem_singleton.mpr rfl), hdatabase,
        hjournal⟩, hnone⟩

theorem Applied.run (hnodup : (bundle.nodes.map Prod.fst).Nodup) {done todo : List (List Char)}
    {data : FileTree B} (h : Applied bundle before folder done data) (hnames : (done ++ todo).Nodup)
    (horder : (done ++ todo).Pairwise fun name other => name ∉ journalNames other)
    (hroom : ∀ name ∈ todo, HasRoom bundle before folder name) :
    ∃ data', todo.foldlM (applyEntry bundle folder) data = some data' ∧
      Applied bundle before folder (done ++ todo) data' := by
  induction todo generalizing done data with
  | nil => exact ⟨data, rfl, by rwa [List.append_nil]⟩
  | cons name todo ih =>
    have hname : name ∉ done := by
      intro hdone
      exact (List.nodup_append.mp hnames).2.2 name hdone name List.mem_cons_self rfl
    have hjournals : ∀ journal ∈ done, journal ∉ journalNames name := fun journal hjournal =>
      (List.pairwise_append.mp horder).2.2 journal hjournal name List.mem_cons_self
    obtain ⟨data', happly, happlied⟩ :=
      h.step hnodup (hroom name List.mem_cons_self) hname hjournals
    have happend : done ++ name :: todo = done ++ [name] ++ todo := by simp
    rw [happend] at hnames horder ⊢
    obtain ⟨data'', hfold, hrun⟩ := ih happlied hnames horder
      fun other hother => hroom other (List.mem_cons_of_mem _ hother)
    refine ⟨data'', ?_, hrun⟩
    rw [List.foldlM_cons, happly]
    exact hfold

theorem order_glob (t : FileTree B) (hnodup : (t.nodes.map Prod.fst).Nodup) (base : Path) :
    (glob t base).Pairwise fun name other => name ∉ journalNames other := by
  have hsorted : (glob t base).Pairwise fun name other => name ≤ other :=
    List.pairwise_insertionSort _ _
  apply (hsorted.and (nodup_glob hnodup base)).imp
  rintro name other ⟨hle, hne⟩ hjournal
  have hbegins : other <+: name := by
    obtain ⟨suffix, rfl, -⟩ := mem_journalNames hjournal
    exact List.prefix_append _ _
  exact hne (le_antisymm hle (FileTree.le_of_begins hbegins))

theorem applyData_eq (hwell : bundle.WellFormed) (data : FileTree B) :
    applyData bundle folder data = (glob bundle folder).foldlM (applyEntry bundle folder) data := by
  unfold applyData
  split
  · rfl
  · rename_i hdir
    have hempty : glob bundle folder = [] := by
      apply List.eq_nil_iff_forall_not_mem.mpr
      intro name hname
      obtain ⟨node, hget⟩ := Option.isSome_iff_exists.mp (mem_glob.mp hname).2
      exact hdir (FileTree.isDir_iff.mpr (hwell.dir_above hget (List.cons_ne_nil _ _)))
    rw [hempty]
    rfl

/-- **The copy of the data folder.**  Where there is room for every entry, each is copied as it is
    and the rest stays, journals aside. -/
theorem applyData_eq_some (hwell : bundle.WellFormed)
    (hroom : ∀ name ∈ glob bundle folder, HasRoom bundle before folder name) :
    ∃ data, applyData bundle folder before = some data ∧
      Applied bundle before folder (glob bundle folder) data := by
  rw [applyData_eq hwell]
  have hstart : Applied bundle before folder [] before :=
    ⟨rfl, (fun _ hname => nomatch hname), fun _ _ _ => .inl rfl⟩
  exact hstart.run hwell.nodup (nodup_glob hwell.nodup folder)
    (order_glob bundle hwell.nodup folder) hroom

/-- A directory stays one, and stops the loop where a file beside a database is removed. -/
theorem dir_of_applyData (hwell : bundle.WellFormed) {data : FileTree B}
    (h : applyData bundle folder before = some data) :
    (∀ path, before.get? path = some .dir → data.get? path = some .dir) ∧
      ∀ name ∈ glob bundle folder, isDatabaseName name = true →
        ∀ journal ∈ journalNames name, before.get? [journal] ≠ some .dir := by
  rw [applyData_eq hwell] at h
  generalize glob bundle folder = names at h
  induction names generalizing before with
  | nil =>
    cases h
    exact ⟨fun _ hdir => hdir, (fun _ hname => nomatch hname)⟩
  | cons name names ih =>
    rw [List.foldlM_cons] at h
    obtain ⟨next, hstep, hrest⟩ := Option.bind_eq_some_iff.mp h
    obtain ⟨hdirs, hjournals⟩ := ih hrest
    refine ⟨fun path hdir => hdirs path (dir_of_applyEntry hstep hdir), ?_⟩
    intro other hother hdatabase journal hjournal hdir
    rcases List.mem_cons.mp hother with rfl | hlater
    · obtain ⟨copied, hcopied, hstop, _⟩ := applyEntry_cases hstep
      exact hstop hdatabase journal hjournal (FileTree.dir_of_placeAll hcopied hdir)
    · exact hjournals other hlater hdatabase journal hjournal (dir_of_applyEntry hstep hdir)

end Meshpoint.RestoreFinish
