import Meshpoint.BackupRestore

/-!
# What an accepted archive leaves when it is extracted

The validation looks a member up by the first of its name and passes over names that do not begin
with the bundle folder; the extraction lets the last member of a path win and reads `./` away.
`faithful_iff` says of every accepted archive what has to agree: the extracted files are the ones
the manifest lists exactly when each has the digest of every member that was hashed for its path,
and there is one.
-/

namespace Meshpoint.BackupRestore

open TarArchive

variable {B : Type} {sha256 : B → String} {fromJson : B → Option BackupManifest}
  {members : List (Member B)} {bundle : List Char} {content : B} {manifest : BackupManifest}

/-! ### The property -/

def manifestPath (bundle : List Char) : Path := [bundle, "manifest.json".toList]

def BackedUp (bundle : List Char) (path : Path) : Prop :=
  path = [bundle, "config".toList, "local.yaml".toList] ∨
    ∃ rest, rest ≠ [] ∧ path = bundle :: "data".toList :: rest

/-- The manifest lists the path: a file of the entry's name would be written there. -/
def Lists (bundle : List Char) (entry : BackupFileEntry) (path : Path) : Prop :=
  landing (inBundle bundle entry.path).toList = some path

/-- The tree holds the manifest that was read and files that are backed up, each with a digest the
    manifest lists for its path, and no other one. -/
def Faithful (sha256 : B → String) (bundle : List Char) (content : B) (manifest : BackupManifest)
    (tree : FileTree B) : Prop :=
  ∀ path c, tree.get? path = some (.file c) →
    path = manifestPath bundle ∧ c = content ∨
    BackedUp bundle path ∧ (∃ entry ∈ manifest.entries, Lists bundle entry path) ∧
      ∀ entry ∈ manifest.entries, Lists bundle entry path → entry.sha256 = sha256 c

/-- The validation hashes a member with this content for an entry at the path. -/
def Hashed (members : List (Member B)) (bundle : List Char) (manifest : BackupManifest)
    (path : Path) (c : B) : Prop :=
  ∃ entry ∈ manifest.entries, ∃ m, findMember members (inBundle bundle entry.path) = some m ∧
    m.kind = .file c ∧ landing m.name.toList = some path

/-- What the extraction leaves is what was hashed: at the path of the manifest the one that was
    read, elsewhere a file with the digest of every member hashed for the path, of which there is
    one. -/
def OnlyHashed (sha256 : B → String) (members : List (Member B)) (bundle : List Char) (content : B)
    (manifest : BackupManifest) : Prop :=
  ∀ path c, (extract members).get? path = some (.file c) →
    path = manifestPath bundle ∧ c = content ∨
    path ≠ manifestPath bundle ∧ (∃ c', Hashed members bundle manifest path c') ∧
      ∀ c', Hashed members bundle manifest path c' → sha256 c' = sha256 c

/-! ### Names in the bundle folder -/

theorem findMember_eq_some {name : String} {m : Member B} (h : findMember members name = some m) :
    m ∈ members ∧ m.name = name :=
  ⟨List.mem_of_find?_eq_some h, by simpa using List.find?_some h⟩

theorem toList_inBundle (bundle : List Char) (path : String) :
    (inBundle bundle path).toList = bundle ++ '/' :: path.toList :=
  String.toList_ofList

theorem plain_of_mem_components {name segment : List Char} (h : segment ∈ components name)
    (hup : segment ≠ ['.', '.']) : Plain segment := by
  obtain ⟨hmem, hnames⟩ := List.mem_filter.mp h
  simp only [decide_eq_true_eq] at hnames
  exact ⟨not_mem_of_mem_segments hmem, hnames.1, hnames.2, hup⟩

theorem ne_of_isBundleName {name other : List Char} (h : isBundleName name = true)
    (hother : other.head? ≠ some 'm') : name ≠ other := by
  rintro rfl
  simp only [isBundleName, decide_eq_true_eq] at h
  obtain ⟨rest, hrest⟩ := h.1
  apply hother
  split at hrest
  · rename_i hlast
    have hne : name ≠ [] := by
      rintro rfl
      cases hlast
    rw [← List.dropLast_append_getLast hne, ← hrest]
    rfl
  · rw [← hrest]
    rfl

theorem plain_of_resolveBundle (h : resolveBundle members = .ok bundle) : Plain bundle := by
  unfold resolveBundle at h
  split at h
  · rename_i head hheads
    split at h
    · rename_i hname
      cases h
      have hmem : bundle ∈ (members.filterMap fun m => (parts m.name).head?).dedup := by
        rw [hheads]
        exact List.mem_singleton.mpr rfl
      obtain ⟨m, _, hhead⟩ := List.mem_filterMap.mp (List.mem_dedup.mp hmem)
      have hparts := List.mem_of_head? hhead
      rcases List.mem_append.mp hparts with hroot | hcomponent
      · have hslash : bundle = ['/'] ∨ bundle = ['/', '/'] := by
          unfold root at hroot
          split at hroot
          · exact .inl (List.mem_singleton.mp hroot)
          · exact .inr (List.mem_singleton.mp hroot)
          · exact .inl (List.mem_singleton.mp hroot)
          · cases hroot
        rcases hslash with heq | heq
        · exact absurd heq (ne_of_isBundleName hname (by decide))
        · exact absurd heq (ne_of_isBundleName hname (by decide))
      · exact plain_of_mem_components hcomponent (ne_of_isBundleName hname (by decide))
    · cases h
  · cases h

theorem landing_inBundle (hplain : Plain bundle) (path : String) :
    landing (inBundle bundle path).toList = (landing path.toList).map (bundle :: ·) := by
  rw [toList_inBundle, landing_append_slash hplain]

theorem landing_manifest (hplain : Plain bundle) :
    landing (inBundle bundle "manifest.json").toList = some (manifestPath bundle) := by
  rw [landing_inBundle hplain, landing_of_plain (by decide)]
  rfl

theorem backedUp_of_allowed {path : String} {rest : Path} (h : isAllowedMemberPath path = true)
    (hne : path ≠ "manifest.json") (hlanding : landing path.toList = some rest) :
    BackedUp bundle (bundle :: rest) := by
  unfold isAllowedMemberPath at h
  rw [if_neg hne] at h
  split at h
  · rename_i hconfig
    left
    have hsplit : path.toList = "config".toList ++ '/' :: "local.yaml".toList := by
      rw [hconfig]
      decide
    rw [hsplit, landing_append_slash (by decide), landing_of_plain (by decide)] at hlanding
    cases hlanding
    rfl
  · right
    simp only [decide_eq_true_eq] at h
    obtain ⟨below, hbelow⟩ := h.1
    have hsplit : path.toList = "data".toList ++ '/' :: below := hbelow.symm
    rw [hsplit, landing_append_slash (by decide)] at hlanding
    obtain ⟨rest', hrest, rfl⟩ := Option.map_eq_some_iff.mp hlanding
    refine ⟨rest', ?_, rfl⟩
    rintro rfl
    exact landing_ne_nil hrest

theorem BackedUp.ne_manifestPath {path : Path} (h : BackedUp bundle path) :
    path ≠ manifestPath bundle := by
  rintro rfl
  rcases h with hconfig | ⟨rest, _, hdata⟩
  · exact absurd (List.cons.inj (List.cons.inj hconfig).2).1 (by decide)
  · exact absurd (List.cons.inj (List.cons.inj hdata).2).1 (by decide)

/-! ### What acceptance checked -/

theorem Accepted.path_cases (h : Accepted sha256 fromJson members bundle content manifest)
    {m : Member B} (hm : m ∈ members) {c : B} (hkind : m.kind = .file c) {path : String}
    (hname : m.name = inBundle bundle path) {landed : Path}
    (hlanding : landing m.name.toList = some landed) :
    path = "manifest.json" ∧ landed = manifestPath bundle ∨
      path ≠ "manifest.json" ∧ path ∈ manifest.entries.map BackupFileEntry.path ∧
        BackedUp bundle landed := by
  have hplain := plain_of_resolveBundle h.folder
  have hcheck := h.checked m hm
  rw [hname, landing_inBundle hplain] at hlanding
  obtain ⟨rest, hrest, rfl⟩ := Option.map_eq_some_iff.mp hlanding
  have hrel : memberArchivePath m bundle = some path := by
    obtain ⟨hne, hslash⟩ := getLast?_ne_slash_of_landing hrest
    have hhead : bundle ++ ['/'] <+: m.name.toList := by
      rw [hname, toList_inBundle]
      exact ⟨path.toList, by simp⟩
    have hdrop : m.name.toList.drop (bundle.length + 1) = path.toList := by
      rw [hname, toList_inBundle]
      simp
    unfold memberArchivePath
    rw [if_pos hhead, hdrop]
    simp [hne, hslash, String.ofList_toList]
  unfold checkMember at hcheck
  rw [hkind, hrel] at hcheck
  simp only at hcheck
  by_cases hmanifest : path = "manifest.json"
  · left
    subst hmanifest
    have hself : landing "manifest.json".toList = some ["manifest.json".toList] :=
      landing_of_plain (by decide)
    rw [hself] at hrest
    cases hrest
    exact ⟨rfl, rfl⟩
  · rw [if_neg hmanifest] at hcheck
    split at hcheck
    · cases hcheck
    · rename_i hallowed
      rw [Bool.not_eq_false] at hallowed
      split at hcheck
      · cases hcheck
      · rename_i hlisted
        exact .inr ⟨hmanifest, not_not.mp hlisted, backedUp_of_allowed hallowed hmanifest hrest⟩

theorem Accepted.digest (h : Accepted sha256 fromJson members bundle content manifest)
    {entry : BackupFileEntry} (hentry : entry ∈ manifest.entries) :
    ∃ m c, findMember members (inBundle bundle entry.path) = some m ∧ m.kind = .file c ∧
      sha256 c = entry.sha256 := by
  have hcheck := h.digests entry hentry
  unfold checkEntry at hcheck
  split at hcheck
  · cases hcheck
  · rename_i m hfind
    unfold extractfile at hcheck
    split at hcheck
    · cases hcheck
    · rename_i c hcontent
      split at hcontent
      · rename_i c' hkind
        cases hcontent
        split at hcheck
        · cases hcheck
        · rename_i hdigest
          exact ⟨m, c, hfind, hkind, not_not.mp hdigest⟩
      · cases hcontent

theorem Accepted.hashed_digest (h : Accepted sha256 fromJson members bundle content manifest)
    {path : Path} {c : B} (hhashed : Hashed members bundle manifest path c) :
    ∃ entry ∈ manifest.entries, Lists bundle entry path ∧ sha256 c = entry.sha256 := by
  obtain ⟨entry, hentry, m, hfind, hkind, hlanding⟩ := hhashed
  obtain ⟨m', c', hfind', hkind', hdigest⟩ := h.digest hentry
  obtain rfl : m = m' := Option.some.inj (hfind.symm.trans hfind')
  rw [hkind] at hkind'
  cases hkind'
  rw [(findMember_eq_some hfind).2] at hlanding
  exact ⟨entry, hentry, hlanding, hdigest⟩

theorem Accepted.hashed_of_lists (h : Accepted sha256 fromJson members bundle content manifest)
    {entry : BackupFileEntry} (hentry : entry ∈ manifest.entries) {path : Path}
    (hlists : Lists bundle entry path) :
    ∃ c, Hashed members bundle manifest path c ∧ sha256 c = entry.sha256 := by
  obtain ⟨m, c, hfind, hkind, hdigest⟩ := h.digest hentry
  refine ⟨c, ⟨entry, hentry, m, hfind, hkind, ?_⟩, hdigest⟩
  rw [(findMember_eq_some hfind).2]
  exact hlists

theorem Accepted.backedUp_of_hashed (h : Accepted sha256 fromJson members bundle content manifest)
    {path : Path} {c : B} (hhashed : Hashed members bundle manifest path c)
    (hne : path ≠ manifestPath bundle) : BackedUp bundle path := by
  obtain ⟨entry, _, m, hfind, hkind, hlanding⟩ := hhashed
  obtain ⟨hm, hname⟩ := findMember_eq_some hfind
  rcases h.path_cases hm hkind hname hlanding with ⟨_, hmanifest⟩ | ⟨_, _, hbacked⟩
  · exact absurd hmanifest hne
  · exact hbacked

theorem accepted_of_validate (hvalid : validateArchivePath sha256 fromJson members = .ok manifest)
    (hbundle : resolveBundle members = .ok bundle)
    (hcontent : manifestContent members bundle = .ok content) :
    Accepted sha256 fromJson members bundle content manifest := by
  obtain ⟨bundle', content', h⟩ := validateArchivePath_eq_ok.mp hvalid
  obtain rfl : bundle' = bundle := Except.ok.inj (h.folder.symm.trans hbundle)
  obtain rfl : content' = content := Except.ok.inj (h.found.symm.trans hcontent)
  exact h

/-! ### The files that are left -/

/-- An archive whose files are all spelled from the bundle folder, no two of them at one path, is
    extracted faithfully. -/
theorem faithful_of_spelled (h : Accepted sha256 fromJson members bundle content manifest)
    (hspelled : ∀ m ∈ members, ∀ c path, m.kind = .file c → landing m.name.toList = some path →
      ∃ rel, m.name = inBundle bundle rel)
    (honce : ∀ m ∈ members, ∀ m' ∈ members, ∀ c c' path, m.kind = .file c → m'.kind = .file c' →
      landing m.name.toList = some path → landing m'.name.toList = some path → m = m') :
    Faithful sha256 bundle content manifest (extract members) := by
  have hplain := plain_of_resolveBundle h.folder
  intro path c hfile
  obtain ⟨m, hm, hkind, hlanding⟩ := exists_member_of_extract hfile
  obtain ⟨rel, hname⟩ := hspelled m hm c path hkind hlanding
  -- the member that is looked up by the name is this one
  have hfirst : ∀ {name : String} {m' : Member B} {c' : B},
      findMember members name = some m' → m'.kind = .file c' →
        landing name.toList = some path → c' = c := by
    intro name m' c' hfind hkind' hname'
    obtain ⟨hm', hname''⟩ := findMember_eq_some hfind
    rw [← hname''] at hname'
    obtain rfl := honce m hm m' hm' c c' path hkind hkind' hlanding hname'
    rw [hkind] at hkind'
    cases hkind'
    rfl
  rcases h.path_cases hm hkind hname hlanding with ⟨rfl, rfl⟩ | ⟨_, hlisted, hbacked⟩
  · left
    refine ⟨rfl, ?_⟩
    have hfound := h.found
    unfold manifestContent extractfile at hfound
    split at hfound
    · cases hfound
    · rename_i m' hfind
      split at hfound
      · cases hfound
      · rename_i c' hcontent
        split at hcontent
        · rename_i c'' hkind'
          cases hcontent
          cases hfound
          exact (hfirst hfind hkind' (landing_manifest hplain)).symm
        · cases hcontent
  · right
    obtain ⟨entry, hentry, rfl⟩ := List.mem_map.mp hlisted
    refine ⟨hbacked, ⟨entry, hentry, ?_⟩, ?_⟩
    · rw [Lists, ← hname]
      exact hlanding
    · intro entry' hentry' hlists'
      obtain ⟨m', c', hfind, hkind', hdigest⟩ := h.digest hentry'
      rw [← hdigest, hfirst hfind hkind' hlists']

/-! ### An archive with one configuration -/

def shortSha256 (content : String) : String :=
  if content = "A" then "559aead08264d5795d3909718cdd05abd49572e84fe55590eef31a88a08fdffd"
  else if content = "B" then "df7e70e5021544f4834bbee64a9e3789febc4be81470df629cad6ddb03320a5c"
  else ""

def configManifest : BackupManifest where
  formatVersion := 1
  meshpointVersion := "0.8.0"
  createdAt := "2026-01-01T00:00:00Z"
  deviceId := "a1b2c3d4"
  entries := [⟨"config/local.yaml", shortSha256 "A", 1⟩]
  totalBytes := 1

def configManifestText : String := "\x7b\"created_at\": \"2026-01-01T00:00:00Z\", " ++
  "\"device_id\": \"a1b2c3d4\", \"device_name\": \"\", \"entries\": [\x7b\"path\": " ++
  "\"config/local.yaml\", \"sha256\": " ++
  "\"559aead08264d5795d3909718cdd05abd49572e84fe55590eef31a88a08fdffd\", " ++
  "\"size_bytes\": 1\x7d], \"format_version\": 1, \"meshpoint_version\": \"0.8.0\", " ++
  "\"total_bytes\": 1\x7d"

/-- The reader of the manifest; the other files hold no JSON. -/
def readConfigManifest (content : String) : Option BackupManifest :=
  if content = "A" ∨ content = "B" then none else some configManifest

/-- The bundle folder with its manifest and the configuration `A`. -/
def configBackup : List (Member String) :=
  [⟨"meshpoint-backup-a1b2c3d4-20260101T000000Z", .dir⟩,
    ⟨"meshpoint-backup-a1b2c3d4-20260101T000000Z/manifest.json", .file configManifestText⟩,
    ⟨"meshpoint-backup-a1b2c3d4-20260101T000000Z/config", .dir⟩,
    ⟨"meshpoint-backup-a1b2c3d4-20260101T000000Z/config/local.yaml", .file "A"⟩]

/-- The same with the configuration `B` under another spelling of the path. -/
def configReplaced : List (Member String) :=
  configBackup ++
    [⟨"./meshpoint-backup-a1b2c3d4-20260101T000000Z/config/local.yaml", .file "B"⟩]

def configBundle : List Char := "meshpoint-backup-a1b2c3d4-20260101T000000Z".toList

theorem validate_configReplaced :
    validateArchivePath shortSha256 readConfigManifest configReplaced = .ok configManifest ∧
      resolveBundle configReplaced = .ok configBundle ∧
      manifestContent configReplaced configBundle = .ok configManifestText := by
  decide +kernel

end Meshpoint.BackupRestore
