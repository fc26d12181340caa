import Meshpoint.BackupArchive
import Meshpoint.BackupSafety
import Meshpoint.ListFacts

/-!
# What an archive holds

The members of an archive that `BackupArchiveBuilder` makes, by what stands where when they are
extracted (`Packed.get?_extract`), and when `validate_archive_path` accepts them
(`Packed.validate_iff`).
-/

namespace Meshpoint.BackupArchive

open ByteCodec JsonText TarArchive BackupRestore ListFacts

variable {B : Type}

/-! ### The files that are copied -/

/-- The file belongs in a backup. -/
structure Included (source : Source B) (path : Path) : Prop where
  isFile : ∃ content, source.data.get? path = some (.file content)
  notPruned : isPruned path = false
  notWal : isWalName source.dbName (path.getLast?.getD []) = false

/-- The data directory with the database as its snapshot. -/
def backedUp (R : Runtime B) (source : Source B) (path : Path) : Option (Node B) :=
  match source.data.get? path with
  | some (.file content) =>
    if path = [source.dbName] then (R.snapshotDatabase source.data.toFileTree).map .file
    else some (.file content)
  | other => other

theorem mem_iterIncludedDataFiles {data : FileTree B} (hnodup : (data.nodes.map Prod.fst).Nodup)
    {path : Path} {content : B} :
    (path, content) ∈ iterIncludedDataFiles data ↔
      data.get? path = some (.file content) ∧ isPruned path = false := by
  unfold iterIncludedDataFiles
  rw [List.mem_filterMap]
  constructor
  · rintro ⟨entry, hentry, hsome⟩
    split at hsome
    · cases hsome
    · rename_i written hnode
      split at hsome
      · cases hsome
      · rename_i hpruned
        cases hsome
        refine ⟨?_, Bool.eq_false_iff.mpr hpruned⟩
        rw [← hnode]
        exact FileTree.get?_of_mem hnodup hentry
  · rintro ⟨hget, hpruned⟩
    refine ⟨(path, .file content), FileTree.mem_of_get? hget, ?_⟩
    simp only [hpruned, Bool.false_eq_true, if_false]

theorem nodup_iterIncludedDataFiles {data : FileTree B} (hnodup : (data.nodes.map Prod.fst).Nodup) :
    ((iterIncludedDataFiles data).map Prod.fst).Nodup := by
  refine List.Nodup.sublist ?_ hnodup
  unfold iterIncludedDataFiles
  generalize data.nodes = nodes
  induction nodes with
  | nil => exact List.Sublist.slnil
  | cons entry nodes ih =>
    rw [List.filterMap_cons]
    split
    · exact ih.cons _
    · rename_i file hfile
      have hpath : file.1 = entry.1 := by
        split at hfile
        · cases hfile
        · split at hfile
          · cases hfile
          · cases hfile
            rfl
      rw [List.map_cons, List.map_cons, hpath]
      exact ih.cons_cons _

theorem mem_addDataTree {R : Runtime B} {source : Source B} {files : List (Path × B)}
    (h : addDataTree R source.dbName source.data.toFileTree = some files) {file : Path × B} :
    file ∈ files ↔ ∃ path, file.1 = "data".toList :: path ∧ Included source path ∧
      backedUp R source path = some (.file file.2) := by
  have hnodup := source.data.wellFormed.nodup
  rw [mem_of_mapM h]
  simp only [List.mem_filter, List.mem_insertionSort, Bool.not_eq_true']
  constructor
  · rintro ⟨⟨path, content⟩, ⟨hmem, hwal⟩, hcopied⟩
    obtain ⟨hget, hpruned⟩ := (mem_iterIncludedDataFiles hnodup).mp hmem
    refine ⟨path, ?_⟩
    unfold copiedFile at hcopied
    simp only [backedUp, hget]
    split at hcopied
    · rename_i hdb
      obtain ⟨copy, hcopy, rfl⟩ := Option.map_eq_some_iff.mp hcopied
      refine ⟨rfl, ⟨⟨content, hget⟩, hpruned, hwal⟩, ?_⟩
      rw [if_pos hdb, hcopy]
      rfl
    · rename_i hdb
      cases hcopied
      exact ⟨rfl, ⟨⟨content, hget⟩, hpruned, hwal⟩, if_neg hdb⟩
  · rintro ⟨path, hpath, hincluded, hbacked⟩
    obtain ⟨content, hget⟩ := hincluded.isFile
    refine ⟨(path, content), ⟨(mem_iterIncludedDataFiles hnodup).mpr ⟨hget, hincluded.notPruned⟩,
      hincluded.notWal⟩, ?_⟩
    obtain ⟨filePath, fileContent⟩ := file
    simp only at hpath hbacked
    subst hpath
    simp only [backedUp, hget] at hbacked
    unfold copiedFile
    split at hbacked
    · rename_i hdb
      obtain ⟨copy, hcopy, heq⟩ := Option.map_eq_some_iff.mp hbacked
      cases heq
      rw [if_pos hdb, hcopy]
      rfl
    · rename_i hdb
      cases hbacked
      rw [if_neg hdb]

theorem nodup_addDataTree {R : Runtime B} {source : Source B} {files : List (Path × B)}
    (h : addDataTree R source.dbName source.data.toFileTree = some files) :
    (files.map Prod.fst).Nodup := by
  have hkeep : ∀ file copied, copiedFile (R.snapshotDatabase source.data.toFileTree) source.dbName
      file = some copied → copied.1 = "data".toList :: file.1 := by
    intro file copied hcopied
    unfold copiedFile at hcopied
    split at hcopied
    · obtain ⟨copy, _, rfl⟩ := Option.map_eq_some_iff.mp hcopied
      rfl
    · cases hcopied
      rfl
  rw [map_of_mapM hkeep h]
  have hfiles := nodup_iterIncludedDataFiles source.data.wellFormed.nodup
  have hsorted := ((List.perm_insertionSort (fun file other : Path × B => file.1 ≤ other.1)
    (iterIncludedDataFiles source.data.toFileTree)).map Prod.fst).nodup_iff.mpr hfiles
  have hsplit : (fun file : Path × B => "data".toList :: file.1) =
      (fun path => "data".toList :: path) ∘ Prod.fst := rfl
  rw [hsplit, ← List.map_map]
  refine List.Nodup.map (fun _ _ heq => (List.cons.inj heq).2) ?_
  exact List.Nodup.sublist (List.Sublist.map Prod.fst List.filter_sublist) hsorted

theorem Included.ne_nil {source : Source B} {path : Path} (h : Included source path) :
    path ≠ [] := by
  rintro rfl
  obtain ⟨content, hget⟩ := h.isFile
  rw [source.data.wellFormed.root] at hget
  cases hget

theorem Included.not_prefix {source : Source B} {path other : Path} (h : Included source path)
    (hother : Included source other) (hne : path ≠ other) : ¬ path <+: other := by
  rintro ⟨below, rfl⟩
  obtain ⟨content, hget⟩ := h.isFile
  obtain ⟨content', hget'⟩ := hother.isFile
  have hbelow : below ≠ [] := by
    rintro rfl
    exact hne (List.append_nil path).symm
  have hdir := source.data.wellFormed.dir_above hget' hbelow
  rw [hget] at hdir
  cases hdir

/-! ### The bundle folder -/

/-- What went into the members of an archive. -/
structure Packed (R : Runtime B) (source : Source B) (version : String) (time : BuildTime)
    (members : List (Member B)) (config : B) (dataFiles : List (Path × B)) (bundle : FileTree B) :
    Prop where
  noSlash : '/' ∉ shortId source.deviceId
  hasConfig : source.config = some config
  hasData : addDataTree R source.dbName source.data.toFileTree = some dataFiles
  wellFormed : bundle.WellFormed
  stands : ∀ path, bundle.get? path =
    standing (bundleFiles R source version time ((configPath, config) :: dataFiles)) path
  packed : members = bundle.members (bundleName source.deviceId time)

section

variable {R : Runtime B} {source : Source B} {version : String} {time : BuildTime}
  {members : List (Member B)} {config : B} {dataFiles : List (Path × B)} {bundle : FileTree B}

theorem apart_dataFiles (h : addDataTree R source.dbName source.data.toFileTree = some dataFiles) :
    Apart dataFiles := by
  have hdistinct := List.pairwise_map.mp (nodup_addDataTree h)
  apply List.Pairwise.imp_of_mem _ hdistinct
  intro file other hfile hother hne
  obtain ⟨path, hpath, hincluded, _⟩ := (mem_addDataTree h).mp hfile
  obtain ⟨path', hpath', hincluded', _⟩ := (mem_addDataTree h).mp hother
  rw [hpath, hpath'] at hne ⊢
  have hpaths : path ≠ path' := fun heq => hne (heq ▸ rfl)
  simp only [List.cons_prefix_cons, true_and]
  exact ⟨hincluded.not_prefix hincluded' hpaths, hincluded'.not_prefix hincluded hpaths.symm⟩

theorem not_prefix_of_ne {top top' : List Char} (h : top ≠ top') (rest rest' : Path) :
    ¬ top :: rest <+: top' :: rest' :=
  fun hbegins => h (List.cons_prefix_cons.mp hbegins).1

theorem apart_bundleFiles
    (h : addDataTree R source.dbName source.data.toFileTree = some dataFiles) :
    Apart (bundleFiles R source version time ((configPath, config) :: dataFiles)) := by
  have hdata : ∀ file ∈ dataFiles, ∃ path, file.1 = "data".toList :: path := fun file hfile =>
    (mem_addDataTree h).mp hfile |>.imp fun _ hpath => hpath.1
  unfold bundleFiles
  apply List.pairwise_append.mpr
  refine ⟨List.pairwise_cons.mpr ⟨?_, apart_dataFiles h⟩, List.pairwise_singleton _ _, ?_⟩
  · intro file hfile
    obtain ⟨path, hpath⟩ := hdata file hfile
    rw [hpath]
    exact ⟨not_prefix_of_ne (by decide) _ _, not_prefix_of_ne (by decide) _ _⟩
  · intro file hfile other hother
    obtain rfl := List.mem_singleton.mp hother
    rcases List.mem_cons.mp hfile with rfl | hfile
    · exact ⟨not_prefix_of_ne (by decide) _ _, not_prefix_of_ne (by decide) _ _⟩
    · obtain ⟨path, hpath⟩ := hdata file hfile
      rw [hpath]
      exact ⟨not_prefix_of_ne (by decide) _ _, not_prefix_of_ne (by decide) _ _⟩

theorem mem_bundleFiles {files : List (Path × B)} {file : Path × B} :
    file ∈ bundleFiles R source version time ((configPath, config) :: files) ↔
      file = (configPath, config) ∨ file ∈ files ∨
        file = (["manifest.json".toList],
          R.dumps (toDict (manifestOf R source version time ((configPath, config) :: files)))) := by
  simp only [bundleFiles, List.mem_append, List.mem_cons, List.not_mem_nil, or_false, or_assoc]

theorem exists_packed (h : archiveMembers R source version time = some members) :
    ∃ config dataFiles bundle, Packed R source version time members config dataFiles bundle := by
  unfold archiveMembers at h
  split at h
  · cases h
  · rename_i hname
    rw [not_or] at hname
    obtain ⟨files, hfiles, hrest⟩ := Option.bind_eq_some_iff.mp h
    obtain ⟨bundle, hwrite, hmembers⟩ := Option.bind_eq_some_iff.mp hrest
    obtain ⟨config, hconfig, hdataFiles⟩ := Option.bind_eq_some_iff.mp hfiles
    obtain ⟨dataFiles, hdata, hcons⟩ := Option.bind_eq_some_iff.mp hdataFiles
    cases hcons
    cases hmembers
    have hapart : Apart (bundleFiles R source version time ((configPath, config) :: dataFiles)) :=
      apart_bundleFiles hdata
    have hempty : ∀ path, (FileTree.empty : FileTree B).get? path =
        standing ([] : List (Path × B)) path :=
      FileTree.empty_standing
    obtain ⟨bundle', hwrite', hstands⟩ := FileTree.writeAll_standing hempty hapart
    obtain rfl : bundle = bundle' := Option.some.inj (hwrite.symm.trans hwrite')
    have hne : ∀ file ∈ bundleFiles R source version time ((configPath, config) :: dataFiles),
        file.1 ≠ [] := by
      intro file hfile
      rcases mem_bundleFiles.mp hfile with rfl | hdataFile | rfl
      · exact List.cons_ne_nil _ _
      · obtain ⟨path, hpath, _⟩ := (mem_addDataTree hdata).mp hdataFile
        rw [hpath]
        exact List.cons_ne_nil _ _
      · exact List.cons_ne_nil _ _
    exact ⟨config, dataFiles, bundle, hname.1, hconfig, hdata,
      FileTree.wellFormed_of_standing
        (FileTree.nodup_writeAll hwrite FileTree.empty_wellFormed.nodup) hstands hne hapart,
      hstands, rfl⟩

theorem BuildTime.noSlash (time : BuildTime) : '/' ∉ time.stamp := by
  have hstamp := time.isStamp
  simp only [BackupRestore.isStamp, decide_eq_true_eq] at hstamp
  obtain ⟨hlength, _, hdate, hT, hclock, hZ⟩ := hstamp
  intro hmem
  obtain ⟨n, hn⟩ := List.mem_iff_getElem?.mp (List.mem_cons_of_mem '-' hmem)
  have hlt : n < 17 := hlength ▸ (List.getElem?_eq_some_iff.mp hn).1
  have hdecimal : ∀ start count : Nat, ((('-' :: time.stamp).drop start).take count).all
      isDecimal = true → ∀ k, k < count → ('-' :: time.stamp)[start + k]? ≠ some '/' := by
    intro start count hall k hk hget
    have htake : ((('-' :: time.stamp).drop start).take count)[k]? = some '/' := by
      rw [List.getElem?_take, if_pos hk, List.getElem?_drop, hget]
    have hdigit := List.all_eq_true.mp hall '/' (List.mem_of_getElem? htake)
    exact absurd hdigit (by decide)
  rcases Nat.lt_or_ge n 1 with h0 | h1
  · obtain rfl : n = 0 := by omega
    cases hn
  · rcases Nat.lt_or_ge n 9 with h8 | h9
    · obtain ⟨k, rfl⟩ := Nat.exists_eq_add_of_le h1
      exact hdecimal 1 8 hdate k (by omega) hn
    · rcases Nat.lt_or_ge n 10 with h9' | h10
      · obtain rfl : n = 9 := by omega
        rw [hT] at hn
        cases hn
      · rcases Nat.lt_or_ge n 16 with h15 | h16
        · obtain ⟨k, rfl⟩ := Nat.exists_eq_add_of_le h10
          exact hdecimal 10 6 hclock k (by omega) hn
        · obtain rfl : n = 16 := by omega
          rw [hZ] at hn
          cases hn

theorem Packed.plain_bundleName
    (h : Packed R source version time members config dataFiles bundle) :
    Plain (bundleName source.deviceId time) := by
  have hhead : ∃ rest, bundleName source.deviceId time = 'm' :: 'e' :: rest := ⟨_, rfl⟩
  obtain ⟨rest, hrest⟩ := hhead
  refine ⟨?_, ?_, ?_, ?_⟩
  · intro hmem
    unfold bundleName at hmem
    rcases List.mem_append.mp hmem with hfirst | hlater
    · rcases List.mem_append.mp hfirst with hbegins | hid
      · exact absurd hbegins (by decide)
      · exact h.noSlash hid
    · rcases List.mem_cons.mp hlater with heq | hstamp
      · cases heq
      · exact time.noSlash hstamp
  · rw [hrest]
    exact List.cons_ne_nil _ _
  · rw [hrest]
    intro heq
    cases heq
  · rw [hrest]
    intro heq
    cases heq

theorem Packed.plain_of_get? (h : Packed R source version time members config dataFiles bundle)
    {path : Path} {node : Node B} (hget : bundle.get? path = some node) :
    ∀ name ∈ path, Plain name := by
  have hfiles : ∀ file ∈ bundleFiles R source version time ((configPath, config) :: dataFiles),
      ∀ name ∈ file.1, Plain name := by
    intro file hfile name hname
    rcases mem_bundleFiles.mp hfile with rfl | hdataFile | rfl
    · have hnames : ∀ name ∈ configPath, Plain name := by decide
      exact hnames name hname
    · obtain ⟨path, hpath, hincluded, _⟩ := (mem_addDataTree h.hasData).mp hdataFile
      rw [hpath] at hname
      rcases List.mem_cons.mp hname with rfl | hrest
      · decide
      · obtain ⟨content, hcontent⟩ := hincluded.isFile
        exact source.data.named _ (FileTree.mem_of_get? hcontent) name hrest
    · obtain rfl := List.mem_singleton.mp hname
      decide
  rw [h.stands] at hget
  unfold standing at hget
  split at hget
  · rename_i file hfind
    have hpath : file.1 = path := by simpa using List.find?_some hfind
    exact hpath ▸ hfiles file (List.mem_of_find?_eq_some hfind)
  · split at hget
    · rename_i hor
      rcases hor with rfl | ⟨file, hfile, hbegins⟩
      · intro name hname
        cases hname
      · exact fun name hname => hfiles file hfile name (hbegins.subset hname)
    · cases hget

theorem Packed.plain_below (h : Packed R source version time members config dataFiles bundle)
    {path : Path} {node : Node B} (hget : bundle.get? path = some node) :
    ∀ name ∈ bundleName source.deviceId time :: path, Plain name := by
  intro name hname
  rcases List.mem_cons.mp hname with rfl | hrest
  · exact h.plain_bundleName
  · exact h.plain_of_get? hget name hrest

theorem Packed.extract_spec (h : Packed R source version time members config dataFiles bundle) :
    (extract members).WellFormed ∧ ∀ path, (extract members).get? path =
      (lookup (graft [bundleName source.deviceId time] bundle.nodes) path).or
        ((FileTree.empty : FileTree B).get? path) := by
  rw [h.packed]
  apply h.wellFormed.get?_extract_members h.plain_bundleName
  intro entry hentry
  exact h.plain_of_get? (FileTree.get?_of_mem h.wellFormed.nodup hentry)

/-- **The contents of an archive.**  Extracted, it is the bundle folder. -/
theorem Packed.get?_extract (h : Packed R source version time members config dataFiles bundle)
    (path : Path) :
    (extract members).get? (bundleName source.deviceId time :: path) = bundle.get? path := by
  have hgraft := lookup_graft [bundleName source.deviceId time] bundle.nodes path
  rw [List.singleton_append] at hgraft
  rw [h.extract_spec.2, hgraft]
  exact Option.or_none

theorem Packed.get?_extract_of_ne
    (h : Packed R source version time members config dataFiles bundle) {top : List Char}
    (hne : top ≠ bundleName source.deviceId time) (path : Path) :
    (extract members).get? (top :: path) = none := by
  rw [h.extract_spec.2, lookup_graft_of_not_prefix]
  · rfl
  · exact not_prefix_of_ne (Ne.symm hne) _ _

/-! ### What stands in the bundle folder -/

theorem Packed.get?_of_mem (h : Packed R source version time members config dataFiles bundle)
    {file : Path × B}
    (hfile : file ∈ bundleFiles R source version time ((configPath, config) :: dataFiles)) :
    bundle.get? file.1 = some (.file file.2) := by
  rw [h.stands]
  exact standing_of_mem (apart_bundleFiles h.hasData) hfile

theorem Packed.exists_dataFile (h : Packed R source version time members config dataFiles bundle)
    {path : Path} (hincluded : Included source path) :
    ∃ content, backedUp R source path = some (.file content) ∧
      ("data".toList :: path, content) ∈ dataFiles := by
  have hbacked : ∃ content, backedUp R source path = some (.file content) := by
    obtain ⟨content, hget⟩ := hincluded.isFile
    simp only [backedUp, hget]
    split
    · rename_i hdb
      -- the build did not fail, so there is a snapshot
      have hfile : (path, content) ∈ ((iterIncludedDataFiles source.data.toFileTree).insertionSort
          fun file other => file.1 ≤ other.1).filter
            fun file => !isWalName source.dbName (file.1.getLast?.getD []) := by
        rw [List.mem_filter, List.mem_insertionSort,
          mem_iterIncludedDataFiles source.data.wellFormed.nodup]
        exact ⟨⟨hget, hincluded.notPruned⟩, by simp [hincluded.notWal]⟩
      obtain ⟨copied, hcopied⟩ := exists_of_mapM h.hasData hfile
      unfold copiedFile at hcopied
      rw [if_pos hdb] at hcopied
      obtain ⟨copy, hcopy, _⟩ := Option.map_eq_some_iff.mp hcopied
      exact ⟨copy, by rw [hcopy]; rfl⟩
    · exact ⟨content, rfl⟩
  obtain ⟨content, hcontent⟩ := hbacked
  exact ⟨content, hcontent, (mem_addDataTree h.hasData).mpr ⟨path, rfl, hincluded, hcontent⟩⟩

/-! ### Acceptance -/

theorem Packed.mem_members_iff
    (h : Packed R source version time members config dataFiles bundle) {m : Member B} :
    m ∈ members ↔ ∃ path node, bundle.get? path = some node ∧
      m = nodeMember (bundleName source.deviceId time :: path, node) := by
  rw [h.packed]
  exact FileTree.mem_members h.wellFormed.nodup

theorem Packed.findMember_eq (h : Packed R source version time members config dataFiles bundle)
    {path : Path} {node : Node B} (hget : bundle.get? path = some node) (hne : path ≠ []) :
    findMember members (inBundle (bundleName source.deviceId time)
        (String.ofList (joinPath path))) =
      some (nodeMember (bundleName source.deviceId time :: path, node)) := by
  have hname : inBundle (bundleName source.deviceId time) (String.ofList (joinPath path)) =
      String.ofList (joinPath (bundleName source.deviceId time :: path)) := by
    rw [inBundle, String.toList_ofList, joinPath_cons _ hne]
  rw [hname]
  cases hfind : findMember members
      (String.ofList (joinPath (bundleName source.deviceId time :: path))) with
  | none =>
    have hmem := h.mem_members_iff.mpr ⟨path, node, hget, rfl⟩
    exact absurd (List.find?_eq_none.mp hfind _ hmem) (by simp [nodeMember])
  | some m =>
    obtain ⟨hm, hmName⟩ := findMember_eq_some hfind
    obtain ⟨path', node', hget', rfl⟩ := h.mem_members_iff.mp hm
    have hjoin := congrArg String.toList hmName
    simp only [nodeMember, String.toList_ofList] at hjoin
    have hcomponents := congrArg components hjoin
    rw [components_joinPath (h.plain_below hget') (List.cons_ne_nil _ _),
      components_joinPath (h.plain_below hget) (List.cons_ne_nil _ _)] at hcomponents
    obtain rfl : path' = path := (List.cons.inj hcomponents).2
    obtain rfl : node' = node := Option.some.inj (hget'.symm.trans hget)
    rfl

theorem isBundleName_bundleName (deviceId : String) (time : BuildTime) :
    isBundleName (bundleName deviceId time) = true ↔ ∀ c ∈ shortId deviceId, isIdChar c = true := by
  have hlength : ('-' :: time.stamp).length = 17 := by
    have hstamp := time.isStamp
    simp only [BackupRestore.isStamp, decide_eq_true_eq] at hstamp
    exact hstamp.1
  have hlast : (bundleName deviceId time).getLast? ≠ some '\n' := by
    intro hget
    have hmem : (bundleName deviceId time).getLast? = ('-' :: time.stamp).getLast? := by
      rw [bundleName, List.getLast?_append_of_ne_nil _ (List.cons_ne_nil _ _)]
    rw [hmem, List.getLast?_eq_getElem?, hlength] at hget
    have hstamp := time.isStamp
    simp only [BackupRestore.isStamp, decide_eq_true_eq] at hstamp
    rw [hstamp.2.2.2.2.2] at hget
    cases hget
  have hne : shortId deviceId ≠ [] := by
    intro hnil
    unfold shortId at hnil
    split at hnil
    · exact absurd hnil (by decide)
    · rename_i hid
      rcases List.take_eq_nil_iff.mp hnil with h8 | hempty
      · cases h8
      · exact hid (String.toList_eq_nil_iff.mp hempty)
  have hdrop : (bundleName deviceId time).drop bundleHead.length =
      shortId deviceId ++ '-' :: time.stamp := by
    rw [bundleName, List.append_assoc, List.drop_left']
    rfl
  have hsize : (shortId deviceId ++ '-' :: time.stamp).length - 17 = (shortId deviceId).length := by
    rw [List.length_append, hlength]
    omega
  have hhead : bundleHead <+: bundleName deviceId time := by
    rw [bundleName, List.append_assoc]
    exact List.prefix_append _ _
  simp only [isBundleName, if_neg hlast, hdrop, hsize, List.take_left', List.drop_left',
    time.isStamp, hhead, hne, true_and, and_true, ne_eq, not_false_eq_true, List.all_eq_true,
    decide_eq_true_eq]

theorem Packed.resolveBundle_eq
    (h : Packed R source version time members config dataFiles bundle) :
    resolveBundle members =
      if isBundleName (bundleName source.deviceId time) then .ok (bundleName source.deviceId time)
      else .error (.validation ("unexpected bundle folder name: " ++
        String.ofList (bundleName source.deviceId time))) := by
  have hparts : ∀ m ∈ members, (parts m.name).head? = some (bundleName source.deviceId time) := by
    intro m hm
    obtain ⟨path, node, hget, rfl⟩ := h.mem_members_iff.mp hm
    have hroot : root (joinPath (bundleName source.deviceId time :: path)) = [] := by
      cases path with
      | nil => rfl
      | cons name rest => rfl
    simp only [parts, nodeMember, String.toList_ofList, hroot, List.nil_append,
      components_joinPath (h.plain_below hget) (List.cons_ne_nil _ _), List.head?_cons]
  have hmem : nodeMember (bundleName source.deviceId time :: [], (Node.dir : Node B)) ∈ members :=
    h.mem_members_iff.mpr ⟨[], .dir, h.wellFormed.root, rfl⟩
  have hheads : members.filterMap (fun m => (parts m.name).head?) =
      List.replicate members.length (bundleName source.deviceId time) := by
    rw [List.filterMap_congr hparts, List.filterMap_eq_map', List.map_const']
  have hpos : members.length ≠ 0 := (List.length_pos_of_mem hmem).ne'
  unfold resolveBundle
  rw [hheads, List.replicate_dedup hpos]

theorem Packed.memberArchivePath_eq
    (h : Packed R source version time members config dataFiles bundle) {path : Path}
    {content : B} (hget : bundle.get? path = some (.file content)) :
    memberArchivePath (nodeMember (bundleName source.deviceId time :: path, .file content))
        (bundleName source.deviceId time) = some (String.ofList (joinPath path)) := by
  have hne : path ≠ [] := by
    rintro rfl
    rw [h.wellFormed.root] at hget
    cases hget
  have hname : joinPath (bundleName source.deviceId time :: path) =
      bundleName source.deviceId time ++ '/' :: joinPath path := joinPath_cons _ hne
  obtain ⟨hnil, hslash⟩ := getLast?_ne_slash_of_landing
    (landing_joinPath (h.plain_of_get? hget) hne)
  have hhead : bundleName source.deviceId time ++ ['/'] <+:
      bundleName source.deviceId time ++ '/' :: joinPath path := by
    rw [List.prefix_append_right_inj]
    exact ⟨joinPath path, rfl⟩
  have hdrop : (bundleName source.deviceId time ++ '/' :: joinPath path).drop
      ((bundleName source.deviceId time).length + 1) = joinPath path := by
    rw [← List.drop_drop, List.drop_left']
    · rfl
    · rfl
  simp only [memberArchivePath, nodeMember, String.toList_ofList, hname, hhead, if_true, hdrop,
    hnil, hslash, or_self, if_false]

theorem joinPath_data (path : Path) (hne : path ≠ []) :
    joinPath ("data".toList :: path) = "data/".toList ++ joinPath path :=
  joinPath_cons _ hne

theorem ofList_joinPath_data_ne {path : Path} (hne : path ≠ []) {text : String}
    (htext : text.toList.head? ≠ some 'd') :
    String.ofList (joinPath ("data".toList :: path)) ≠ text := by
  intro heq
  apply htext
  rw [← heq, String.toList_ofList, joinPath_data path hne]
  rfl

theorem isAllowedMemberPath_data (path : Path) (hne : path ≠ []) :
    isAllowedMemberPath (String.ofList (joinPath ("data".toList :: path))) = true ↔
      ¬ ['.', '.'] <:+: joinPath ("data".toList :: path) := by
  have hdata : "data/".toList <+: joinPath ("data".toList :: path) := by
    rw [joinPath_data path hne]
    exact List.prefix_append _ _
  rw [isAllowedMemberPath, if_neg (ofList_joinPath_data_ne hne (by decide)),
    if_neg (ofList_joinPath_data_ne hne (by decide)), decide_eq_true_eq,
    String.toList_ofList (l := joinPath ("data".toList :: path))]
  exact ⟨fun h => h.2, fun h => ⟨hdata, h⟩⟩

def packedManifest (R : Runtime B) (source : Source B) (version : String) (time : BuildTime)
    (config : B) (dataFiles : List (Path × B)) : BackupManifest :=
  manifestOf R source version time ((configPath, config) :: dataFiles)

theorem header_packedManifest :
    validateManifestHeader (packedManifest R source version time config dataFiles) = .ok () ↔
      source.deviceId ≠ "" := by
  have hversion : ¬ (packedManifest R source version time config dataFiles).formatVersion ≠
      FORMAT_VERSION := not_not.mpr rfl
  have hid : (packedManifest R source version time config dataFiles).deviceId =
      source.deviceId := rfl
  rw [validateManifestHeader, if_neg hversion, hid]
  by_cases hempty : source.deviceId = ""
  · simp [hempty]
  · simp [hempty]

theorem Packed.manifestContent_eq
    (h : Packed R source version time members config dataFiles bundle) :
    manifestContent members (bundleName source.deviceId time) =
      .ok (R.dumps (toDict (packedManifest R source version time config dataFiles))) := by
  have hget := h.get?_of_mem (mem_bundleFiles.mpr (.inr (.inr rfl)))
  have hfind := h.findMember_eq hget (List.cons_ne_nil _ _)
  have hname : String.ofList (joinPath ["manifest.json".toList]) = "manifest.json" :=
    String.ofList_toList
  rw [hname] at hfind
  rw [manifestContent, hfind]
  rfl

theorem Packed.checkMember_iff
    (h : Packed R source version time members config dataFiles bundle) :
    (∀ m ∈ members, checkMember (bundleName source.deviceId time)
        (packedManifest R source version time config dataFiles) m = .ok ()) ↔
      ∀ path, Included source path → ¬ ['.', '.'] <:+: joinPath ("data".toList :: path) := by
  have hconfig : String.ofList (joinPath configPath) = "config/local.yaml" := by decide
  have hentries : ∀ {path : Path} {content : B},
      (path, content) ∈ (configPath, config) :: dataFiles →
      String.ofList (joinPath path) ∈ (packedManifest R source version time config
        dataFiles).entries.map BackupFileEntry.path := by
    intro path content hfile
    exact List.mem_map_of_mem (f := BackupFileEntry.path)
      (List.mem_map_of_mem (f := entryFromFile R) hfile)
  constructor
  · intro hchecked path hincluded
    obtain ⟨content, _, hfile⟩ := h.exists_dataFile hincluded
    have hpath := hincluded.ne_nil
    have hget := h.get?_of_mem (mem_bundleFiles.mpr (.inr (.inl hfile)))
    have hcheck := hchecked _ (h.mem_members_iff.mpr ⟨_, _, hget, rfl⟩)
    have hmanifest : String.ofList (joinPath ("data".toList :: path)) ≠ "manifest.json" :=
      ofList_joinPath_data_ne hpath (by decide)
    unfold checkMember at hcheck
    rw [h.memberArchivePath_eq hget] at hcheck
    simp only [nodeMember, Node.kind, if_neg hmanifest] at hcheck
    split at hcheck
    · cases hcheck
    · rename_i hallowed
      exact (isAllowedMemberPath_data path hpath).mp (Bool.not_eq_false _ ▸ hallowed)
  · intro hdots m hm
    obtain ⟨path, node, hget, rfl⟩ := h.mem_members_iff.mp hm
    cases node with
    | dir => rfl
    | file content =>
      have hfile : (path, content) ∈
          bundleFiles R source version time ((configPath, config) :: dataFiles) :=
        standing_eq_file ((h.stands path).symm.trans hget)
      unfold checkMember
      rw [h.memberArchivePath_eq hget]
      simp only [nodeMember, Node.kind]
      split
      · rfl
      · rename_i hmanifest
        rcases mem_bundleFiles.mp hfile with heq | hdataFile | heq
        · have hlisted := hentries (List.mem_cons.mpr (.inl heq))
          cases heq
          have hallowed : isAllowedMemberPath (String.ofList (joinPath configPath)) = true := by
            decide
          simp only [hallowed, Bool.true_eq_false, if_false, hlisted, not_true_eq_false]
        · have hlisted := hentries (List.mem_cons_of_mem _ hdataFile)
          obtain ⟨rest, hpath, hincluded, _⟩ := (mem_addDataTree h.hasData).mp hdataFile
          simp only at hpath
          subst hpath
          have hallowed := (isAllowedMemberPath_data rest hincluded.ne_nil).mpr
            (hdots rest hincluded)
          simp only [hallowed, Bool.true_eq_false, if_false, hlisted, not_true_eq_false]
        · cases heq
          exact absurd String.ofList_toList hmanifest

/-- **Acceptance of an own archive.**  It is accepted when there is a device id, its first eight
    characters may be in a folder's name, and no file's path has two dots in a row. -/
theorem Packed.validate_iff (h : Packed R source version time members config dataFiles bundle)
    (hjson : R.loads (R.dumps (toDict (packedManifest R source version time config dataFiles))) =
      some (sortKeys (toDict (packedManifest R source version time config dataFiles)))) :
    (∃ manifest, validateArchivePath R.sha256 (fromJson R) members = .ok manifest) ↔
      source.deviceId ≠ "" ∧ (∀ c ∈ shortId source.deviceId, isIdChar c = true) ∧
        ∀ path, Included source path → ¬ ['.', '.'] <:+: joinPath ("data".toList :: path) := by
  have hread : fromJson R (R.dumps (toDict
      (packedManifest R source version time config dataFiles))) =
        some (packedManifest R source version time config dataFiles) := by
    rw [fromJson, hjson, Option.bind_some, fromDict_sortKeys]
  rw [← isBundleName_bundleName source.deviceId time, ← h.checkMember_iff]
  constructor
  · rintro ⟨manifest, hvalid⟩
    obtain ⟨folder, content, haccepted⟩ := validateArchivePath_eq_ok.mp hvalid
    have hfolder := haccepted.folder
    rw [h.resolveBundle_eq] at hfolder
    split at hfolder
    · rename_i hbundle
      cases hfolder
      have hfound := haccepted.found
      rw [h.manifestContent_eq] at hfound
      cases hfound
      obtain rfl := Option.some.inj (hread.symm.trans haccepted.read)
      exact ⟨header_packedManifest.mp haccepted.header, hbundle, haccepted.checked⟩
    · cases hfolder
  · rintro ⟨hid, hbundle, hchecked⟩
    refine ⟨packedManifest R source version time config dataFiles,
      validateArchivePath_eq_ok.mpr ⟨bundleName source.deviceId time,
        R.dumps (toDict (packedManifest R source version time config dataFiles)), ?_⟩⟩
    refine ⟨?_, ?_, h.manifestContent_eq, hread, ?_, hchecked, ?_⟩
    · intro m hm
      obtain ⟨path, node, _, rfl⟩ := h.mem_members_iff.mp hm
      cases node with
      | dir => rfl
      | file content => rfl
    · rw [h.resolveBundle_eq, if_pos hbundle]
    · exact header_packedManifest.mpr hid
    · intro entry hentry
      obtain ⟨file, hfile, rfl⟩ := List.mem_map.mp hentry
      have hmem : file ∈ bundleFiles R source version time ((configPath, config) :: dataFiles) :=
        List.mem_append_left _ hfile
      have hget := h.get?_of_mem hmem
      have hne : file.1 ≠ [] := by
        intro hnil
        rw [hnil, h.wellFormed.root] at hget
        cases hget
      have hfind := h.findMember_eq hget hne
      simp only [checkEntry, entryFromFile, hfind, nodeMember, extractfile, Node.kind, ne_eq,
        not_true_eq_false, if_false]

end

end Meshpoint.BackupArchive
