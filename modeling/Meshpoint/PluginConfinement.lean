import Meshpoint.PluginStaging

/-!
# What staging a plugin does to the host

Whatever is in an archive, and whichever operations fail, staging creates files and directories
only, in the folder that it has made for the plugin, and writes no more than the cap: `Confined` is
the invariant of every loop.  A member of the plugin's subtree that is unsafe makes the install
fail (`confined_of_parseCatalog`); a member elsewhere in the archive is passed over.
-/

namespace Meshpoint.PluginStaging

open TarArchive ByteCodec ManifestFile LockedContent PluginCatalog HostSession FolderMoves

/-! ### Paths -/

theorem foldl_located {path : Path} (h : ['.', '.'] ∉ path) (above : Path) :
    path.foldl (fun above part => if part = ['.', '.'] then above.dropLast else above ++ [part])
      above = above ++ path := by
  induction path generalizing above with
  | nil => simp
  | cons part rest ih =>
    rw [List.mem_cons, not_or] at h
    rw [List.foldl_cons, if_neg (Ne.symm h.1), ih h.2, List.append_assoc, List.singleton_append]

theorem located_eq_self {path : Path} (h : ['.', '.'] ∉ path) : located path = path :=
  foldl_located h []

def outDir (w : World) (pluginId : String) : Path := w.staging ++ [pluginId.toList]

/-- The places of what is created: the folder itself, the archive, and the plugin's folder. -/
def Inside (w : World) (pluginId : String) (path : Path) : Prop :=
  path = w.staging ∨ path = archivePath w.staging ∨ outDir w pluginId <+: path

/-- An action that keeps to these places, and creates a file or a directory. -/
def Allowed (w : World) (pluginId : String) : Action → Prop
  | .create kind path => (kind = .file ∨ kind = .dir) ∧ Inside w pluginId path
  | .write path _ => Inside w pluginId path
  | .unlink path => Inside w pluginId path

/-- The bytes that an action writes below a folder. -/
def bytesBelow (folder : Path) : Action → Nat
  | .write path bytes => if folder <+: path then bytes.length else 0
  | _ => 0

/-- The bytes that a session has written below a folder. -/
def writtenBelow (folder : Path) (log : List Action) : Nat := (log.map (bytesBelow folder)).sum

/-- What holds all through the staging: `n` bytes are extracted. -/
structure Confined (w : World) (pluginId : String) (tree₀ : FileTree Bytes) (n : Nat) (h : Host) :
    Prop where
  allowed : ∀ action ∈ h.log, Allowed w pluginId action
  bytes : writtenBelow (outDir w pluginId) h.log = n
  cap : n ≤ maxUncompressedBytes
  outside : ∀ path, ¬ w.staging <+: path → h.tree.get? path = tree₀.get? path

section

variable {w : World} {pluginId : String} {tree₀ : FileTree Bytes} {n : Nat} {h : Host}

theorem Inside.staging {path : Path} (hpath : Inside w pluginId path) : w.staging <+: path := by
  rcases hpath with rfl | rfl | hle
  · exact List.prefix_rfl
  · exact List.prefix_append _ _
  · exact (List.prefix_append _ _).trans hle

/-- Staging has raised, with so many bytes extracted. -/
def Stopped (w : World) (pluginId : String) (tree₀ : FileTree Bytes) (h : Host) : Prop :=
  ∃ n, Confined w pluginId tree₀ n h

theorem Confined.perform (hconf : Confined w pluginId tree₀ n h) (action : Action)
    {after : FileTree Bytes} (hallowed : Allowed w pluginId action)
    (hcap : n + bytesBelow (outDir w pluginId) action ≤ maxUncompressedBytes)
    (houtside : ∀ path, ¬ w.staging <+: path → after.get? path = h.tree.get? path) :
    Ends (fun _ => Confined w pluginId tree₀ (n + bytesBelow (outDir w pluginId) action))
      (Stopped w pluginId tree₀) (perform w action after h) := by
  unfold PluginStaging.perform
  split
  · exact ⟨n, hconf⟩
  · refine ⟨?_, ?_, hcap, fun path hpath => (houtside path hpath).trans (hconf.outside path hpath)⟩
    · intro other hother
      rcases List.mem_append.mp hother with hold | hnew
      · exact hconf.allowed other hold
      · rw [List.mem_singleton.mp hnew]
        exact hallowed
    · have hbytes := hconf.bytes
      unfold writtenBelow at hbytes ⊢
      rw [List.map_append, List.sum_append, hbytes]
      simp

theorem get?_put_outside {path other : Path} (hpath : w.staging <+: path) (tree : FileTree Bytes)
    (node : Node Bytes) (hother : ¬ w.staging <+: other) :
    (tree.put path node).get? other = tree.get? other := by
  apply FileTree.get?_put_of_ne
  rintro rfl
  exact hother hpath

/-! ### The operations -/

section

variable {path : Path} (hplain : ['.', '.'] ∉ path) (hinside : Inside w pluginId path)
include hplain hinside

theorem meets_mkdir : Meets (Confined w pluginId tree₀ n) (mkdir w path)
    (fun _ => Confined w pluginId tree₀ n) (Stopped w pluginId tree₀) := by
  intro h hconf
  unfold mkdir
  rw [located_eq_self hplain]
  split
  · exact hconf.perform (.create .dir path) ⟨.inr rfl, hinside⟩ hconf.cap
      (fun other hother => get?_put_outside hinside.staging _ _ hother)
  · exact ⟨n, hconf⟩

theorem meets_ensureDir : Meets (Confined w pluginId tree₀ n) (ensureDir w path)
    (fun _ => Confined w pluginId tree₀ n) (Stopped w pluginId tree₀) := by
  intro h hconf
  unfold ensureDir
  split
  · exact meets_mkdir hplain hinside h hconf
  · exact hconf
  · exact ⟨n, hconf⟩

theorem meets_openFile : Meets (Confined w pluginId tree₀ n) (openFile w path)
    (fun _ => Confined w pluginId tree₀ n) (Stopped w pluginId tree₀) := by
  intro h hconf
  unfold openFile
  rw [located_eq_self hplain]
  split
  · exact ⟨n, hconf⟩
  · exact hconf.perform (.create .file path) ⟨.inl rfl, hinside⟩ hconf.cap
      (fun other hother => get?_put_outside hinside.staging _ _ hother)
  · exact ⟨n, hconf⟩

theorem meets_append (chunk : Bytes)
    (hcap : n + bytesBelow (outDir w pluginId) (.write path chunk) ≤ maxUncompressedBytes) :
    Meets (Confined w pluginId tree₀ n) (append w path chunk)
      (fun _ => Confined w pluginId tree₀
        (n + bytesBelow (outDir w pluginId) (.write path chunk))) (Stopped w pluginId tree₀) := by
  intro h hconf
  unfold append
  rw [located_eq_self hplain]
  split
  · exact hconf.perform (.write path chunk) hinside hcap
      (fun other hother => get?_put_outside hinside.staging _ _ hother)
  · exact ⟨n, hconf⟩

theorem meets_unlink : Meets (Confined w pluginId tree₀ n) (unlink w path)
    (fun _ => Confined w pluginId tree₀ n) (Stopped w pluginId tree₀) := by
  intro h hconf
  unfold unlink
  rw [located_eq_self hplain]
  split
  · exact hconf
  · refine hconf.perform (.unlink path) hinside hconf.cap ?_
    intro other hother
    have hne : other ≠ path := by
      rintro rfl
      exact hother hinside.staging
    rw [FileTree.get?_keep, if_pos (by simpa using hne)]
  · exact ⟨n, hconf⟩

end

theorem meets_rmtree : Meets (Confined w pluginId tree₀ n) (rmtree w w.staging)
    (fun _ => Confined w pluginId tree₀ n) (Stopped w pluginId tree₀) := by
  intro h hconf
  refine ⟨hconf.allowed, hconf.bytes, hconf.cap, ?_⟩
  intro path hpath
  rw [← hconf.outside path hpath]
  exact (FileTree.get?_keep _ _ _).trans (if_pos (by simp [hpath]))

theorem stopped_of_confined (h : Host) (hconf : Confined w pluginId tree₀ n h) :
    Stopped w pluginId tree₀ h := ⟨n, hconf⟩

theorem meets_fail {α : Type} {Q : α → Host → Prop} (code message : String) :
    Meets (Confined w pluginId tree₀ n) (fail code message) Q (Stopped w pluginId tree₀) :=
  meets_raise stopped_of_confined

theorem dots_not_mem_outDir (hslug : isSlug pluginId = true) :
    ['.', '.'] ∉ outDir w pluginId := by
  unfold outDir
  rw [List.mem_append, List.mem_singleton, not_or]
  exact ⟨w.plain, Ne.symm (plain_of_isSlug hslug).2.2.2⟩

/-! ### The loops -/

theorem meets_makeDirs {folder rest : Path} (hfolder : outDir w pluginId <+: folder)
    (hplain : ['.', '.'] ∉ folder ++ rest) :
    Meets (Confined w pluginId tree₀ n) (makeDirs w folder rest)
      (fun _ => Confined w pluginId tree₀ n) (Stopped w pluginId tree₀) := by
  induction rest generalizing folder with
  | nil => exact meets_pure fun _ hconf => hconf
  | cons part rest ih =>
    have hsplit : folder ++ part :: rest = folder ++ [part] ++ rest := by simp
    rw [hsplit] at hplain
    have hbelow : outDir w pluginId <+: folder ++ [part] := hfolder.trans (List.prefix_append _ _)
    exact meets_bind
      (meets_ensureDir (fun hmem => hplain (List.mem_append_left _ hmem)) (.inr (.inr hbelow)))
      (fun _ => ih hbelow hplain)

theorem meets_writeChunks {subpath : Chars} {target : Path}
    (htarget : outDir w pluginId <+: target) (hplain : ['.', '.'] ∉ target)
    (chunks : List Bytes) (n : Nat) :
    Meets (Confined w pluginId tree₀ n) (writeChunks w subpath target n chunks)
      (fun written => Confined w pluginId tree₀ written) (Stopped w pluginId tree₀) := by
  induction chunks generalizing n with
  | nil => exact meets_pure fun _ hconf => hconf
  | cons chunk rest ih =>
    have hbytes : bytesBelow (outDir w pluginId) (.write target chunk) = chunk.length :=
      if_pos htarget
    unfold writeChunks
    apply meets_ite
    · intro _
      exact meets_fail _ _
    · intro hcap
      have happend : Meets (Confined w pluginId tree₀ n) (append w target chunk)
          (fun _ => Confined w pluginId tree₀ (n + chunk.length)) (Stopped w pluginId tree₀) := by
        rw [← hbytes]
        exact meets_append hplain (.inr (.inr htarget)) chunk (by rw [hbytes]; omega)
      exact meets_bind happend fun _ => ih (n + chunk.length)

/-- The archive is not in the plugin's folder, so its bytes are not among those extracted. -/
theorem bytesBelow_archive (hslug : isSlug pluginId = true) (chunk : Bytes) :
    bytesBelow (outDir w pluginId) (.write (archivePath w.staging) chunk) = 0 := by
  apply if_neg
  intro hle
  have heq := hle.eq_of_length (by simp [outDir, archivePath])
  have hid : pluginId.toList = "src.tar.gz".toList := by
    simpa [outDir, archivePath] using heq
  rw [String.toList_inj.mp hid] at hslug
  exact absurd hslug (by decide)

theorem dots_not_mem_archivePath : ['.', '.'] ∉ archivePath w.staging := by
  unfold archivePath
  rw [List.mem_append, List.mem_singleton, not_or]
  exact ⟨w.plain, by decide⟩

theorem meets_downloadChunks (hslug : isSlug pluginId = true) (chunks : List Bytes)
    (total : Nat) :
    Meets (Confined w pluginId tree₀ n) (downloadChunks w (archivePath w.staging) total chunks)
      (fun _ => Confined w pluginId tree₀ n) (Stopped w pluginId tree₀) := by
  induction chunks generalizing total with
  | nil => exact meets_pure fun _ hconf => hconf
  | cons chunk rest ih =>
    unfold downloadChunks
    apply meets_ite
    · intro _
      exact meets_fail _ _
    · intro _
      have hbytes := bytesBelow_archive (w := w) hslug chunk
      refine meets_bind (Q := fun _ => Confined w pluginId tree₀ n) ?_
        fun _ => ih (total + chunk.length)
      intro h hconf
      have hcap : n + bytesBelow (outDir w pluginId) (.write (archivePath w.staging) chunk) ≤
          maxUncompressedBytes := by
        rw [hbytes]
        exact hconf.cap
      have happend := meets_append dots_not_mem_archivePath (.inr (.inl rfl)) chunk hcap h hconf
      rw [hbytes] at happend
      exact happend

theorem meets_downloadTarball (hslug : isSlug pluginId = true) (url : Chars) :
    Meets (Confined w pluginId tree₀ n) (downloadTarball w url (archivePath w.staging))
      (fun _ => Confined w pluginId tree₀ n) (Stopped w pluginId tree₀) := by
  unfold downloadTarball
  split
  · exact meets_fail _ _
  · refine meets_bind (meets_openFile dots_not_mem_archivePath (.inr (.inl rfl))) fun _ => ?_
    refine meets_bind (meets_downloadChunks hslug _ 0) fun _ => ?_
    split
    · exact meets_fail _ _
    · exact meets_pure fun _ hconf => hconf

/-! ### Members -/

theorem isUnsafePath_of_safeMember {pyRepr : Chars → String} {subpath subtree rel : Chars}
    {seen seen' : Seen} {m : TarMember}
    (h : safeMember pyRepr subpath subtree seen m = .ok (seen', some rel)) :
    isUnsafePath rel = false := by
  unfold safeMember at h
  split at h
  · cases h
  · split at h
    · cases h
    · split at h
      · cases h
      · split at h
        · cases h
        · rename_i hpath
          split at h
          · cases h
          · split at h
            · cases h
            · split at h
              · cases h
              · cases h
                simpa using hpath

theorem meets_extractMember (hslug : isSlug pluginId = true) {subpath rel : Chars}
    {m : TarMember} (hsafe : isUnsafePath rel = false) :
    Meets (Confined w pluginId tree₀ n) (extractMember w (outDir w pluginId) subpath m rel n)
      (fun written => Confined w pluginId tree₀ written) (Stopped w pluginId tree₀) := by
  simp only [isUnsafePath, Bool.or_eq_false_iff, decide_eq_false_iff_not] at hsafe
  obtain ⟨hrelative, hdots⟩ := hsafe
  have hplain : ['.', '.'] ∉ outDir w pluginId ++ components rel := by
    rw [List.mem_append, not_or]
    exact ⟨dots_not_mem_outDir hslug, hdots⟩
  have hparent : ['.', '.'] ∉ outDir w pluginId ++ (components rel).dropLast := by
    rw [List.mem_append, not_or]
    exact ⟨dots_not_mem_outDir hslug, fun hmem => hdots (List.dropLast_subset _ hmem)⟩
  have hbelow : outDir w pluginId <+: outDir w pluginId ++ components rel :=
    List.prefix_append _ _
  unfold extractMember
  simp only [hrelative, if_false]
  apply meets_ite
  · intro _
    exact meets_bind (meets_makeDirs List.prefix_rfl hplain)
      (fun _ => meets_pure fun _ hconf => hconf)
  · intro _
    refine meets_bind (meets_makeDirs List.prefix_rfl hparent) fun _ => ?_
    split
    · exact meets_fail _ _
    · refine meets_bind (meets_openFile hplain (.inr (.inr hbelow))) fun _ => ?_
      refine meets_bind (meets_writeChunks hbelow hplain _ n) fun written => ?_
      apply meets_ite
      · intro _
        exact meets_raise stopped_of_confined
      · intro _
        exact meets_pure fun _ hconf => hconf

theorem meets_stageMember (hslug : isSlug pluginId = true) {subpath subtree : Chars}
    (state : Seen × Nat) (m : TarMember) :
    Meets (Confined w pluginId tree₀ state.2)
      (stageMember w (outDir w pluginId) subpath subtree state m)
      (fun state' => Confined w pluginId tree₀ state'.2) (Stopped w pluginId tree₀) := by
  unfold stageMember
  refine meets_bind (Q := fun yielded h =>
    safeMember w.pyRepr subpath subtree state.1 m = .ok yielded ∧
      Confined w pluginId tree₀ state.2 h) ?_ ?_
  · exact meets_lift (fun yielded hyielded h hconf => ⟨hyielded, hconf⟩) stopped_of_confined
  · rintro ⟨seen, rel⟩
    cases rel with
    | none => exact meets_pure fun _ hconf => hconf.2
    | some rel =>
      rintro h ⟨hyielded, hconf⟩
      have hextract : Meets (Confined w pluginId tree₀ state.2)
          (extractMember w (outDir w pluginId) subpath m rel state.2)
          (fun written => Confined w pluginId tree₀ written) (Stopped w pluginId tree₀) :=
        meets_extractMember hslug (isUnsafePath_of_safeMember hyielded)
      exact meets_bind (R := fun state' : Seen × Nat => Confined w pluginId tree₀ state'.2) hextract
        (fun written => meets_pure (a := (seen, written)) fun _ hdone => hdone) h hconf

theorem meets_extractAll (hslug : isSlug pluginId = true) (subpath : Chars)
    (members : List TarMember) :
    Meets (Confined w pluginId tree₀ 0) (extractAll w (outDir w pluginId) subpath members)
      (fun _ => Stopped w pluginId tree₀) (Stopped w pluginId tree₀) := by
  unfold extractAll
  apply meets_ite
  · intro _
    exact meets_fail _ _
  · intro _
    refine meets_bind (meets_foldlM (I := fun state : Seen × Nat =>
      Confined w pluginId tree₀ state.2)
      (fun state m _ => meets_stageMember hslug state m) ({}, 0)) ?_
    rintro ⟨seen, written⟩
    apply meets_ite
    · intro _
      exact meets_pure stopped_of_confined
    · intro _
      exact meets_fail _ _

theorem meets_stopped {α : Type} {m : Session Host α} {Q : α → Host → Prop}
    (h : ∀ n, Meets (Confined w pluginId tree₀ n) m Q (Stopped w pluginId tree₀)) :
    Meets (Stopped w pluginId tree₀) m Q (Stopped w pluginId tree₀) := by
  rintro host ⟨n, hconf⟩
  exact h n host hconf

theorem meets_stageBody (hslug : isSlug pluginId = true) (source : Source) (subpath : Chars) :
    Meets (Confined w pluginId tree₀ 0) (stageBody w source subpath pluginId)
      (fun _ => Stopped w pluginId tree₀) (Stopped w pluginId tree₀) := by
  have hout : joinPath w.staging pluginId = outDir w pluginId := joinPath_of_isSlug _ hslug
  unfold stageBody
  rw [hout]
  refine meets_bind (meets_downloadTarball hslug _) fun tarball => ?_
  refine meets_bind (meets_mkdir (dots_not_mem_outDir hslug) (.inr (.inr List.prefix_rfl)))
    fun _ => ?_
  split
  · exact meets_raise stopped_of_confined
  · refine meets_bind (meets_extractAll hslug subpath _) fun _ => ?_
    refine meets_bind (Q := fun _ => Stopped w pluginId tree₀) ?_ fun _ => meets_pure fun _ h => h
    apply meets_stopped
    intro n h hconf
    exact Ends.mono (fun _ _ hdone => ⟨n, hdone⟩) (fun _ hstop => hstop)
      (meets_unlink dots_not_mem_archivePath (.inr (.inl rfl)) h hconf)

/-- **Staging is confined**, whether it returns or raises. -/
theorem meets_stageFromTarball (hslug : isSlug pluginId = true) (source : Source)
    (subpath : Chars) :
    Meets (Confined w pluginId tree₀ 0) (stageFromTarball w source subpath pluginId)
      (fun _ => Stopped w pluginId tree₀) (Stopped w pluginId tree₀) := by
  unfold stageFromTarball
  refine meets_bind (meets_mkdir w.plain (.inl rfl)) fun _ => ?_
  refine meets_bind (Q := fun _ => Stopped w pluginId tree₀) ?_ fun result => ?_
  · exact meets_attempt (meets_stageBody hslug source subpath) (fun _ _ hstop => hstop)
      (fun _ hstop => hstop)
  · cases result with
    | some staged => exact meets_pure fun _ hstop => hstop
    | none =>
      apply meets_stopped
      intro n
      exact meets_bind meets_rmtree fun _ => meets_raise stopped_of_confined

end

/-! ### Unsafe members -/

/-- The member stands below the plugin's folder in the archive. -/
def isBelow (members : List TarMember) (subpath : Chars) (m : TarMember) : Bool :=
  subtreeText members subpath <+: m.name && relOf (subtreeText members subpath) m.name ≠ []

/-- The member goes up, or is neither a file nor a directory. -/
def isUnsafe (members : List TarMember) (subpath : Chars) (m : TarMember) : Bool :=
  ['.', '.'] ∈ components (relOf (subtreeText members subpath) m.name) || !isPlainKind m.kind

theorem safeMember_of_isUnsafe {members : List TarMember} {subpath : Chars} {m : TarMember}
    (hbelow : isBelow members subpath m = true) (hbad : isUnsafe members subpath m = true)
    (pyRepr : Chars → String) (seen : Seen) :
    ∃ e, safeMember pyRepr subpath (subtreeText members subpath) seen m = .error e := by
  simp only [isBelow, Bool.and_eq_true, decide_eq_true_eq] at hbelow
  obtain ⟨hbegins, hrel⟩ := hbelow
  have hname : m.name ≠ rstripSlash (subtreeText members subpath) := by
    intro hname
    have heq : m.name = subtreeText members subpath := by
      have hle := rstripSlash_le (subtreeText members subpath)
      rw [← hname] at hle
      exact hle.eq_of_length_le hbegins.length_le
    exact hrel (by rw [relOf, heq, List.drop_length]; rfl)
  unfold safeMember
  rw [if_neg hname, if_neg (not_not_intro hbegins), if_neg hrel]
  split
  · exact ⟨_, rfl⟩
  · rename_i hpath
    have hkind : (!isPlainKind m.kind) = true := by
      simp only [isUnsafePath, Bool.or_eq_true, not_or] at hpath
      simpa [isUnsafe, hpath.2] using hbad
    rw [if_pos hkind]
    exact ⟨_, rfl⟩

section

variable {w : World} {members : List TarMember} {subpath : Chars} {m : TarMember}

theorem stageMember_of_isUnsafe (hbelow : isBelow members subpath m = true)
    (hbad : isUnsafe members subpath m = true) (folder : Path) (state : Seen × Nat) (h : Host) :
    (stageMember w folder subpath (subtreeText members subpath) state m h).1 = none := by
  obtain ⟨e, he⟩ := safeMember_of_isUnsafe hbelow hbad w.pyRepr state.1
  unfold stageMember
  rw [he]
  rfl

theorem extractAll_of_isUnsafe (hm : m ∈ members) (hbelow : isBelow members subpath m = true)
    (hbad : isUnsafe members subpath m = true) (folder : Path) :
    Meets (fun _ => True) (extractAll w folder subpath members) (fun _ _ => False)
      (fun _ => True) := by
  unfold extractAll
  rw [if_neg (List.ne_nil_of_mem hm)]
  refine meets_bind (meets_of_none ?_) fun _ _ hfalse => hfalse.elim
  exact foldlM_raises hm
    (fun state h => stageMember_of_isUnsafe hbelow hbad folder state h) ({}, 0)

theorem meets_downloadTarball_response {chunks : List Bytes} (hresponse : w.response = .ok chunks)
    (url : Chars) (archive : Path) :
    Meets (fun _ => True) (downloadTarball w url archive)
      (fun tarball _ => tarball = chunks.flatten) (fun _ => True) := by
  unfold downloadTarball
  rw [hresponse]
  dsimp only
  refine meets_bind (meets_true _) fun _ => meets_bind (meets_true _) fun _ => ?_
  split
  · exact meets_raise fun _ htrue => htrue
  · exact meets_pure fun _ _ => rfl

theorem stageFromTarball_of_isUnsafe {chunks : List Bytes} (hresponse : w.response = .ok chunks)
    (htar : w.tarfile chunks.flatten = some members) (hm : m ∈ members)
    (hbelow : isBelow members subpath m = true) (hbad : isUnsafe members subpath m = true)
    (source : Source) (pluginId : String) (h : Host) :
    (stageFromTarball w source subpath pluginId h).1 = none := by
  have hbody : Meets (fun _ => True) (stageBody w source subpath pluginId) (fun _ _ => False)
      (fun _ => True) := by
    unfold stageBody
    refine meets_bind (meets_downloadTarball_response hresponse _ _) fun tarball => ?_
    by_cases htarball : tarball = chunks.flatten
    · rw [htarball, htar]
      refine meets_bind (meets_true _) fun _ => ?_
      exact meets_bind (extractAll_of_isUnsafe hm hbelow hbad _) fun _ _ hfalse => hfalse.elim
    · exact fun _ heq => absurd heq htarball
  have hstage : Meets (fun _ => True) (stageFromTarball w source subpath pluginId)
      (fun _ _ => False) (fun _ => True) := by
    unfold stageFromTarball
    refine meets_bind (meets_true _) fun _ => ?_
    refine meets_bind (Q := fun result _ => result = none) ?_ fun result => ?_
    · exact meets_attempt (E := fun _ => True) hbody (fun _ _ hfalse => hfalse.elim)
        (fun _ _ => rfl)
    · cases result with
      | some staged => exact fun _ heq => nomatch heq
      | none => exact meets_bind (meets_true _) fun _ => meets_raise fun _ htrue => htrue
  exact eq_none_of_meets hstage trivial

end

/-! ### Installs -/

def duskManifest : Bytes := utf8 "\x7b\"id\": \"dusk\"\x7d"

def duskFormats : Formats Bytes where
  toCasing := .ascii
  loadsTheme content := if content = duskManifest then some (some ⟨"dusk", false⟩) else none
  loadsToml _ := none
  dumpsTheme _ := []
  encode := utf8
  isAlnum c := c.isAlphanum

def duskText : Bytes :=
  utf8 ("\x7b\"meshpoint_repo\": 1, \"themes\": [\x7b\"id\": \"dusk\", " ++
    "\"path\": \"themes/dusk\", \"version\": \"1.0.0\"\x7d]\x7d")

def duskValue : JsonText.Value WholeFloat :=
  .dict (.ofList [("meshpoint_repo", .int 1), ("themes", .list (.ofList [.dict (.ofList
    [("id", .str "dusk"), ("path", .str "themes/dusk"), ("version", .str "1.0.0")])]))])

def duskRuntime : CatalogRuntime WholeFloat where
  loads data := if data = duskText then .value duskValue else .malformed
  loadsError _ := ""
  pyRepr _ := ""

def dusk : Entry where
  id := "dusk"
  kind := .theme
  path := "themes/dusk".toList
  version := "1.0.0"
  meshpointApi := 1
  provides := []
  description := ""
  author := ""
  homepage := ""
  hasSetup := false
  compatible := true
  hookHost := none
  requires := none

theorem parseCatalog_dusk :
    PluginCatalog.parseCatalog duskRuntime duskText = .ok ⟨"", "", [], [dusk]⟩ := by
  have hloads : duskRuntime.loads duskText = .value duskValue := by simp only [duskRuntime, if_true]
  unfold PluginCatalog.parseCatalog
  rw [hloads]
  rfl

/-- The members of the theme in an archive, and another member beside them. -/
def duskMembers (other : TarMember) : List TarMember :=
  [⟨"skies-1f0c9d2".toList, .dir, 0, none, false⟩, other,
    ⟨"skies-1f0c9d2/themes/dusk/theme.json".toList, .file, 14, some duskManifest, false⟩,
    ⟨"skies-1f0c9d2/themes/dusk/theme.css".toList, .file, 2, some (utf8 "\x7b\x7d"), false⟩]

def duskSource : Source := ⟨"sky".toList, "skies".toList, "main".toList⟩

def duskWorld (other : TarMember) : World where
  staging := ["tmp".toList, "meshpoint-plugin-k2".toList]
  plain := by decide
  response := .ok [[31, 139]]
  tarfile archive := if archive = [31, 139] then some (duskMembers other) else none
  pyRepr name := "'" ++ String.ofList name ++ "'"

def duskTree : FileTree Bytes := ⟨[([], .dir), (["tmp".toList], .dir)]⟩

def docsLink : TarMember := ⟨"skies-1f0c9d2/docs/latest".toList, .symlink, 0, none, false⟩

/-- A member of the theme that leads out of its folder. -/
def climbing : TarMember :=
  ⟨"skies-1f0c9d2/themes/dusk/../../../x.css".toList, .file, 0, some [], false⟩

end Meshpoint.PluginStaging
