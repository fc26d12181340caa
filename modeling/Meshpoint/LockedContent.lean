import Meshpoint.FileTree
import Meshpoint.GuardedRun
import Meshpoint.ManifestFile

/-!
# Built-in and locked content

Model of the requests that write into the folders of plugins and themes: `save_theme` and
`delete_theme` (`src/api/theme_store.py`), `delete_plugin` (`src/api/routes/plugin_routes.py`) and
`install_from_source_route` (`src/api/routes/plugin_source_routes.py`) with `place`
(`src/plugins/installer.py`).

A theme whose `theme.json` sets `locked` is not saved over and not deleted; an install of a theme
does not look at the lock.  `untouched_run` says which installs leave built-in and locked folders
alone, and `locked_theme_replaced` is one that does not.  There are no links among the folders.
-/

namespace Meshpoint.LockedContent

open TarArchive PyText ManifestFile GuardedRun

/-! ### Folders -/

def appsName : List Char := "apps".toList
def themesName : List Char := "themes".toList

/-- Where the content stands.  The configured directory of plugins, by default `plugins`, has its
    two folders away from the built-in ones. -/
structure Layout where
  builtinPlugins : Path
  builtinThemes : Path
  pluginsDir : Path
  away : ∀ builtin ∈ [builtinPlugins, builtinThemes], ∀ name ∈ [appsName, themesName],
    FileTree.Unrelated (pluginsDir ++ [name]) builtin

namespace Layout

/-- `_community_dir`. -/
def apps (d : Layout) : Path := d.pluginsDir ++ [appsName]

/-- `_plugin_themes_dir`. -/
def themes (d : Layout) : Path := d.pluginsDir ++ [themesName]

end Layout

/-- What is read from a `theme.json`: the text of its id, empty for none, and whether it is
    locked. -/
structure ThemeJson where
  id : String
  locked : Bool

/-- What is written to a `theme.json`; a text that is empty is left out. -/
structure ThemeManifest where
  id : String
  label : String
  icon : String
  author : String
  homepage : String
  description : String

variable {B : Type}

/-- The library functions that read and write texts.  `loadsTheme` is `none` where it raises, and
    `some none` for a value that is no object. -/
structure Formats (B : Type) extends Casing where
  loadsTheme : B → Option (Option ThemeJson)
  loadsToml : B → Option Table
  dumpsTheme : ThemeManifest → B
  encode : String → B
  isAlnum : Char → Bool

/-- A tree without links, as the file system that manifests are checked in. -/
def files (t : FileTree B) : PathResolution.FileSystem B where
  nodes := ([], .dir) :: t.nodes.map fun entry =>
    (entry.1, match entry.2 with | .dir => .dir | .file content => .file content)
  root_dir := rfl

def themeJson : List Char := "theme.json".toList
def themeCss : List Char := "theme.css".toList

def readFile (t : FileTree B) (path : Path) : Option B :=
  match t.get? path with
  | some (.file content) => some content
  | _ => none

/-- `_is_locked`. -/
def isLocked (fmt : Formats B) (t : FileTree B) (folder : Path) : Bool :=
  match (readFile t (folder ++ [themeJson])).bind fmt.loadsTheme with
  | some (some theme) => theme.locked
  | _ => false

def isLockedFolder (fmt : Formats B) (t : FileTree B) (folder : Path) : Bool :=
  t.isDir folder && isLocked fmt t folder

/-! ### Saving a theme -/

def maxCssBytes : Nat := 64 * 1024

def knownIcons : List String :=
  ["moon", "contrast", "sun", "day", "monitor", "terminal", "palette", "circle", "snowflake", "leaf",
    "flower", "wave", "droplet", "sparkles", "atom", "mountain", "eye"]

/-- A letter of `import`, in either case; the dotless and the dotted `i` are cases of `i`. -/
def isImportLetter (letter c : Char) : Bool :=
  c.toLower = letter || (letter = 'i' && (c.toNat = 0x130 || c.toNat = 0x131))

/-- The text begins with a match of `@import\b`. -/
def startsImport (isAlnum : Char → Bool) : List Char → Bool
  | '@' :: rest =>
    (rest.take 6).length = 6 && ("import".toList.zip rest).all (fun pair => isImportLetter pair.1 pair.2)
      && match rest[6]? with
        | none => true
        | some next => !isAlnum next && next ≠ '_'
  | _ => false

/-- A search of `_IMPORT_RE`. -/
def hasImport (isAlnum : Char → Bool) (css : String) : Bool :=
  css.toList.tails.any (startsImport isAlnum)

/-- `str(raw.get("id") or entry.name).strip()` of a theme folder; `none` for one that is skipped. -/
def scannedId (fmt : Formats B) (t : FileTree B) (folder : Path) (name : List Char) :
    Option String :=
  match (readFile t (folder ++ [themeJson])).bind fmt.loadsTheme with
  | some (some theme) =>
    let themeId := strip (if theme.id = "" then String.ofList name else theme.id)
    if themeId = "" then none else some themeId
  | _ => none

/-- `_builtin_ids`: the ids of the built-in folders, and `dark`. -/
def builtinIds (fmt : Formats B) (d : Layout) (t : FileTree B) : List String :=
  "dark" :: (t.names d.builtinThemes).filterMap fun name =>
    scannedId fmt t (d.builtinThemes ++ [name]) name

/-- `ThemeSave`. -/
structure ThemeSpec where
  id : String
  label : String
  css : String
  icon : String := "palette"
  author : String := ""
  homepage : String := ""
  description : String := ""

def themeManifest (themeId : String) (spec : ThemeSpec) : ThemeManifest where
  id := themeId
  label := clip 60 (strip spec.label)
  icon := if strip spec.icon ∈ knownIcons then strip spec.icon else "palette"
  author := clip 80 (strip spec.author)
  homepage :=
    if "http://".toList.isPrefixOf (strip spec.homepage).toList ||
      "https://".toList.isPrefixOf (strip spec.homepage).toList then strip spec.homepage else ""
  description := clip 120 (strip spec.description)

/-- How the calls of the file system end: they work, or one of them raises, with or without
    permission, and leaves this in the folder. -/
inductive Calls (B : Type)
  | work
  | raise (permission : Bool) (left : List (Path × Node B))

def errorStatus (permission : Bool) : Nat := if permission then 403 else 500

/-- `write_text`; `none` for a directory. -/
def writeText (t : FileTree B) (path : Path) (content : B) : Option (FileTree B) :=
  match t.get? path with
  | some .dir => none
  | _ => some (t.put path (.file content))

def writeTheme (t : FileTree B) (folder : Path) (manifest css : B) : FileTree B × Nat :=
  match t.makeDirs [] folder with
  | none => (t, 500)
  | some t =>
    match writeText t (folder ++ [themeJson]) manifest with
    | none => (t, 500)
    | some t =>
      match writeText t (folder ++ [themeCss]) css with
      | none => (t, 500)
      | some t => (t, 200)

/-- `save_theme`, with the status of its answer. -/
def saveTheme (fmt : Formats B) (d : Layout) (t : FileTree B) (spec : ThemeSpec)
    (calls : Calls B) : FileTree B × Nat :=
  let themeId := fmt.lower (strip spec.id)
  let folder := joinPath d.themes themeId
  if !isSlug themeId then (t, 400)
  else if themeId ∈ builtinIds fmt d t ∨ themeId = "dark" then (t, 409)
  else if clip 60 (strip spec.label) = "" then (t, 400)
  else if spec.css.utf8ByteSize > maxCssBytes then (t, 413)
  else if hasImport fmt.isAlnum spec.css then (t, 400)
  else if t.isDir folder ∧ isLocked fmt t folder then (t, 409)
  else
    match calls with
    | .work =>
      writeTheme t folder (fmt.dumpsTheme (themeManifest themeId spec)) (fmt.encode spec.css)
    | .raise permission left => (t.replace folder left, errorStatus permission)

/-! ### Deleting -/

/-- `shutil.rmtree`. -/
def rmtree (t : FileTree B) (folder : Path) : Calls B → FileTree B × Nat
  | .work => (t.replace folder [], 200)
  | .raise permission left => (t.replace folder left, errorStatus permission)

/-- `delete_theme`. -/
def deleteTheme (fmt : Formats B) (d : Layout) (t : FileTree B) (themeId : String)
    (calls : Calls B) : FileTree B × Nat :=
  let themeId := fmt.lower (strip themeId)
  let target := joinPath d.themes themeId
  if !isSlug themeId then (t, 400)
  else if themeId ∈ builtinIds fmt d t ∨ themeId = "dark" then (t, 409)
  else if target.dropLast ≠ d.themes then (t, 400)
  else if !t.isDir target then (t, 404)
  else if isLocked fmt t target then (t, 409)
  else rmtree t target calls

/-- One folder of `_scan_dir`: one whose manifest is refused is skipped. -/
def scanFolder (fmt : Formats B) (t : FileTree B) (appsDir : Path) (source : Source)
    (seen : List String) (found : List PluginManifest) (name : List Char) :
    Checked (List PluginManifest) :=
  let child := appsDir ++ [name]
  if !t.isDir child ∨ (readFile t (child ++ ["plugin.toml".toList])).isNone then .ok found
  else
    match parseManifest (files t) fmt.loadsToml child source with
    | .ok manifest =>
      if manifest.name ∈ seen ++ found.map PluginManifest.name then .ok found
      else .ok (found ++ [manifest])
    | .error (.refused _) => .ok found
    | .error .raised => .error .raised

/-- `_scan_dir` of the plugins. -/
def scanDir (fmt : Formats B) (t : FileTree B) (appsDir : Path) (source : Source)
    (seen : List String) : Checked (List PluginManifest) :=
  (t.names appsDir).foldlM (scanFolder fmt t appsDir source seen) []

/-- `discover_plugins`. -/
def discoverPlugins (fmt : Formats B) (d : Layout) (t : FileTree B) :
    Checked (List PluginManifest) := do
  let builtins ← scanDir fmt t d.builtinPlugins .builtin []
  let community ← scanDir fmt t d.apps .community (builtins.map PluginManifest.name)
  .ok (builtins ++ community)

/-- `delete_plugin`. -/
def deletePlugin (fmt : Formats B) (d : Layout) (t : FileTree B) (pluginId : String)
    (calls : Calls B) : FileTree B × Nat :=
  match discoverPlugins fmt d t with
  | .error _ => (t, 500)
  | .ok manifests =>
    match manifests.find? fun m => m.name = pluginId with
    | none => (t, 404)
    | some manifest =>
      if manifest.source ≠ .community then (t, 403)
      else if manifest.locked then (t, 403)
      else rmtree t manifest.path calls

/-! ### Installing -/

inductive ContentKind
  | app
  | theme
deriving DecidableEq

/-- An entry of a source's catalog, as it was read. -/
structure CatalogEntry where
  id : String
  kind : ContentKind
  meshpointApi : Int

/-- `_entry` and `parse_catalog`: ids are slugs and there are no two of one. -/
def parseCatalog (entries : List CatalogEntry) : Option (List CatalogEntry) :=
  if entries.all (fun entry => isSlug entry.id && 1 ≤ entry.meshpointApi) ∧
    (entries.map CatalogEntry.id).Nodup then some entries else none

/-- How the calls of `place` end.  `cleared` and `cleanup` are what removing a backup leaves,
    before and after the move; `moved` is what stands at the destination when the move raises,
    and `restored` says that the backup was moved back then. -/
structure PlaceCalls (B : Type) where
  cleared : List (Path × Node B) := []
  renamed : Bool := true
  moved : Option (List (Path × Node B)) := none
  restored : Bool := true
  cleanup : List (Path × Node B) := []
  permission : Bool := false

/-- The folder beside a destination that an update keeps the old content in. -/
def backupOf (dest : Path) : Path :=
  dest.dropLast ++ [dest.getLast?.getD [] ++ ".replacing".toList]

/-- `place`. -/
def place (t : FileTree B) (dest : Path) (staged : List (Path × Node B)) (calls : PlaceCalls B) :
    FileTree B × Nat :=
  match t.makeDirs [] dest.dropLast with
  | none => (t, 500)
  | some t =>
    if (t.get? dest).isSome then
      let old := t.subtree dest
      let t := t.replace (backupOf dest) calls.cleared
      if !calls.renamed then (t, errorStatus calls.permission)
      else
        let t := (t.replace dest []).replace (backupOf dest) old
        match calls.moved with
        | none => ((t.replace dest staged).replace (backupOf dest) calls.cleanup, 200)
        | some left =>
          let t := t.replace dest left
          if calls.restored then
            ((t.replace (backupOf dest) []).replace dest old, errorStatus calls.permission)
          else (t, errorStatus calls.permission)
    else
      match calls.moved with
      | none => (t.replace dest staged, 200)
      | some left => (t.replace dest left, errorStatus calls.permission)

/-- `validate_staged_theme`. -/
def validateStagedTheme (fmt : Formats B) (staged : FileTree B) (themeId : String) : Bool :=
  match readFile staged [themeJson], readFile staged [themeCss] with
  | some manifest, some _ =>
    match fmt.loadsTheme manifest with
    | some (some theme) => theme.id = "" || theme.id = themeId
    | _ => false
  | _, _ => false

/-- `validate_staged_app`; the folder is called by the id. -/
def validateStagedApp (fmt : Formats B) (staged : FileTree B) (pluginId : String) : Bool :=
  match parseManifest (files ((FileTree.empty : FileTree B).replace [pluginId.toList] staged.nodes))
      fmt.loadsToml [pluginId.toList] .community with
  | .ok manifest => !manifest.locked
  | .error _ => false

/-- An install: whether the url is that of a configured source with a well-formed ref, what the
    source's catalog lists, and what its archive has for the entry; `none` where fetching raises. -/
structure Install (B : Type) where
  id : String
  configured : Bool := true
  catalog : Option (List CatalogEntry)
  staged : Option (FileTree B)
  calls : PlaceCalls B := {}

/-- `install_from_source_route` up to the download: the entry that is installed, or the status of
    the refusal. -/
def installEntry (fmt : Formats B) (d : Layout) (t : FileTree B) (req : Install B) :
    Except Nat CatalogEntry :=
  if !req.configured then .error 400
  else
    match req.catalog.bind parseCatalog with
    | none => .error 502
    | some entries =>
      match entries.find? fun entry => entry.id = req.id with
      | none => .error 404
      | some entry =>
        if entry.meshpointApi > pluginApiVersion then .error 400
        else
          match discoverPlugins fmt d t with
          | .error _ => .error 500
          | .ok manifests =>
            match manifests.find? fun m => m.name = req.id with
            | none => .ok entry
            | some existing =>
              if existing.source ≠ .community then .error 409
              else if existing.locked then .error 409
              else .ok entry

/-- `community_dir / pid`, or its sibling for a theme. -/
def destination (d : Layout) (entry : CatalogEntry) : Path :=
  match entry.kind with
  | .theme => joinPath d.themes entry.id
  | .app => joinPath d.apps entry.id

def validateStaged (fmt : Formats B) (entry : CatalogEntry) (staged : FileTree B) : Bool :=
  match entry.kind with
  | .theme => validateStagedTheme fmt staged entry.id
  | .app => validateStagedApp fmt staged entry.id

/-- `install_from_source_route` with `install_from_source`. -/
def installFromSource (fmt : Formats B) (d : Layout) (t : FileTree B) (req : Install B) :
    FileTree B × Nat :=
  match installEntry fmt d t req with
  | .error status => (t, status)
  | .ok entry =>
    match req.staged with
    | none => (t, 502)
    | some staged =>
      if validateStaged fmt entry staged then place t (destination d entry) staged.nodes req.calls
      else (t, 400)

/-! ### Requests -/

inductive Request (B : Type)
  | saveTheme (spec : ThemeSpec) (calls : Calls B)
  | deleteTheme (themeId : String) (calls : Calls B)
  | deletePlugin (pluginId : String) (calls : Calls B)
  | install (req : Install B)

def handle (fmt : Formats B) (d : Layout) (t : FileTree B) : Request B → FileTree B × Nat
  | .saveTheme spec calls => saveTheme fmt d t spec calls
  | .deleteTheme themeId calls => deleteTheme fmt d t themeId calls
  | .deletePlugin pluginId calls => deletePlugin fmt d t pluginId calls
  | .install req => installFromSource fmt d t req

def step (fmt : Formats B) (d : Layout) (t : FileTree B) (req : Request B) : Option (FileTree B) :=
  some (handle fmt d t req).1

/-! ### What has to stay -/

/-- A folder of built-in content, or of a locked theme. -/
inductive Protected (fmt : Formats B) (d : Layout) (t : FileTree B) : Path → Prop
  | builtinPlugin (name : List Char) : Protected fmt d t (d.builtinPlugins ++ [name])
  | builtinTheme (name : List Char) : Protected fmt d t (d.builtinThemes ++ [name])
  | lockedTheme (name : List Char) (locked : isLockedFolder fmt t (d.themes ++ [name]) = true) :
      Protected fmt d t (d.themes ++ [name])

def SameContents (t t' : FileTree B) (folder : Path) : Prop :=
  ∀ below, t'.get? (folder ++ below) = t.get? (folder ++ below)

/-- The folder that an install places a theme in; `none` for one that gets no further than the
    checks or installs an app. -/
def placedTheme (fmt : Formats B) (d : Layout) (t : FileTree B) (req : Install B) : Option Path :=
  match installEntry fmt d t req, req.staged with
  | .ok entry, some staged =>
    if entry.kind = .theme ∧ validateStaged fmt entry staged = true then
      some (joinPath d.themes entry.id) else none
  | _, _ => none

/-- An install of a theme over no locked folder: not over the one of its id, and with something
    there not over one of the name that the old content is kept under. -/
def Meets (fmt : Formats B) (d : Layout) (t : FileTree B) : Request B → Prop
  | .install req => ∀ dest, placedTheme fmt d t req = some dest →
      isLockedFolder fmt t dest = false ∧
        ((t.get? dest).isSome = true → isLockedFolder fmt t (backupOf dest) = false)
  | _ => True

/-! ### Names of folders -/

theorem isSlugStart_ne_slash {c : Char} (h : isSlugStart c = true) : c ≠ '/' ∧ c ≠ '.' := by
  constructor
  · rintro rfl
    exact absurd h (by decide)
  · rintro rfl
    exact absurd h (by decide)

theorem plain_of_isSlug {text : String} (h : isSlug text = true) : Plain text.toList := by
  unfold isSlug matchesSlug at h
  split at h
  · cases h
  · rename_i first rest htext
    rw [htext]
    dsimp only at h
    simp only [Bool.and_eq_true] at h
    obtain ⟨⟨⟨hfirst, -⟩, -⟩, hrest⟩ := h
    obtain ⟨hslash, hdot⟩ := isSlugStart_ne_slash hfirst
    have hnoSlash : '/' ∉ rest := by
      have hall : ∀ c ∈ (if rest.getLast? = some '\n' then rest.dropLast else rest), c ≠ '/' := by
        intro c hc
        have hslug := List.all_eq_true.mp hrest c hc
        rintro rfl
        exact absurd hslug (by decide)
      intro hmem
      split at hall
      · rename_i hlast
        obtain ⟨init, rfl⟩ := List.getLast?_eq_some_iff.mp hlast
        rw [List.dropLast_concat] at hall
        rcases List.mem_append.mp hmem with hold | hnew
        · exact hall _ hold rfl
        · exact absurd (List.mem_singleton.mp hnew) (by decide)
      · exact hall _ hmem rfl
    refine ⟨?_, List.cons_ne_nil _ _, ?_, ?_⟩
    · rw [List.mem_cons, not_or]
      exact ⟨Ne.symm hslash, hnoSlash⟩
    · intro heq
      exact hdot (List.cons.inj heq).1
    · intro heq
      exact hdot (List.cons.inj heq).1

theorem joinPath_of_isSlug (folder : Path) {text : String} (h : isSlug text = true) :
    joinPath folder text = folder ++ [text.toList] := by
  have hplain := plain_of_isSlug h
  have hrelative : text.toList.head? ≠ some '/' := by
    intro hhead
    exact hplain.1 (List.mem_of_head? hhead)
  rw [ManifestFile.joinPath, if_neg hrelative, components_of_plain hplain]

/-! ### Folders away from one another -/

section

variable {fmt : Formats B} {d : Layout} {t t' : FileTree B} {folder : Path}

/-- What is away from a directory is away from the folders in it, and their folders from it. -/
theorem unrelated_append {dir other : Path} (h : FileTree.Unrelated dir other)
    (name name' : List Char) : FileTree.Unrelated (dir ++ [name]) (other ++ [name']) := by
  constructor
  · intro hle
    rcases List.prefix_or_prefix_of_prefix ((List.prefix_append dir [name]).trans hle)
      (List.prefix_append other [name']) with h₁ | h₂
    · exact h.1 h₁
    · exact h.2 h₂
  · intro hle
    rcases List.prefix_or_prefix_of_prefix ((List.prefix_append other [name']).trans hle)
      (List.prefix_append dir [name]) with h₁ | h₂
    · exact h.2 h₁
    · exact h.1 h₂

theorem unrelated_siblings (dir : Path) {name name' : List Char} (h : name ≠ name') :
    FileTree.Unrelated (dir ++ [name]) (dir ++ [name']) := by
  constructor
  · intro hle
    have heq := hle.eq_of_length (by simp)
    simp only [List.append_cancel_left_eq, List.cons.injEq, and_true] at heq
    exact h heq
  · intro hle
    have heq := hle.eq_of_length (by simp)
    simp only [List.append_cancel_left_eq, List.cons.injEq, and_true] at heq
    exact h heq.symm

theorem Protected.away_app (h : Protected fmt d t folder) (name : List Char) :
    FileTree.Unrelated (d.apps ++ [name]) folder := by
  cases h with
  | builtinPlugin other => exact unrelated_append (d.away _ (by simp) _ (by simp)) name other
  | builtinTheme other => exact unrelated_append (d.away _ (by simp) _ (by simp)) name other
  | lockedTheme other _ =>
    exact unrelated_append (unrelated_siblings d.pluginsDir (by decide)) name other

theorem Protected.away_theme (h : Protected fmt d t folder) {name : List Char}
    (hlock : isLockedFolder fmt t (d.themes ++ [name]) = false) :
    FileTree.Unrelated (d.themes ++ [name]) folder := by
  cases h with
  | builtinPlugin other => exact unrelated_append (d.away _ (by simp) _ (by simp)) name other
  | builtinTheme other => exact unrelated_append (d.away _ (by simp) _ (by simp)) name other
  | lockedTheme other hother =>
    apply unrelated_siblings
    rintro rfl
    rw [hlock] at hother
    cases hother

/-! ### What each request changes -/

open FileTree

theorem changesOnly_writeText {targets : List Path} {target : Path} (h : target ∈ targets)
    {below : Path} {content : B} (hwrite : writeText t (target ++ below) content = some t') :
    ChangesOnly targets t t' := by
  unfold writeText at hwrite
  split at hwrite
  · cases hwrite
  · cases hwrite
    exact .put h t below _

theorem changesOnly_writeTheme (t : FileTree B) (folder : Path) (manifest css : B) :
    ChangesOnly [folder] t (writeTheme t folder manifest css).1 := by
  have hmem : folder ∈ [folder] := List.mem_singleton.mpr rfl
  unfold writeTheme
  split
  · exact .refl _ _
  · rename_i t₁ hmade
    have h₁ : ChangesOnly [folder] t t₁ := .makeDirs hmem (List.prefix_refl _) hmade
    split
    · exact h₁
    · rename_i t₂ hmanifest
      have h₂ := h₁.trans (changesOnly_writeText hmem hmanifest)
      split
      · exact h₂
      · rename_i t₃ hcss
        exact h₂.trans (changesOnly_writeText hmem hcss)

theorem changesOnly_rmtree (t : FileTree B) (folder : Path) (calls : Calls B) :
    ChangesOnly [folder] t (rmtree t folder calls).1 := by
  cases calls with
  | work => exact .replace (List.mem_singleton.mpr rfl) t []
  | raise permission left => exact .replace (List.mem_singleton.mpr rfl) t left

/-- The folders that a request about a theme changes are none that is locked. -/
def InFreeTheme (fmt : Formats B) (d : Layout) (t t' : FileTree B) : Prop :=
  ∃ name, isLockedFolder fmt t (d.themes ++ [name]) = false ∧
    ChangesOnly [d.themes ++ [name]] t t'

theorem saveTheme_free (spec : ThemeSpec) (calls : Calls B) :
    (saveTheme fmt d t spec calls).1 = t ∨
      InFreeTheme fmt d t (saveTheme fmt d t spec calls).1 := by
  unfold saveTheme
  dsimp only
  split
  · exact .inl rfl
  · rename_i hslug
    rw [joinPath_of_isSlug d.themes (by simpa using hslug)]
    split
    · exact .inl rfl
    · split
      · exact .inl rfl
      · split
        · exact .inl rfl
        · split
          · exact .inl rfl
          · split
            · exact .inl rfl
            · rename_i hlock
              refine .inr ⟨(fmt.lower (strip spec.id)).toList, ?_, ?_⟩
              · simpa [isLockedFolder] using hlock
              · cases calls with
                | work => exact changesOnly_writeTheme _ _ _ _
                | raise permission left => exact .replace (List.mem_singleton.mpr rfl) t left

theorem deleteTheme_free (themeId : String) (calls : Calls B) :
    (deleteTheme fmt d t themeId calls).1 = t ∨
      InFreeTheme fmt d t (deleteTheme fmt d t themeId calls).1 := by
  unfold deleteTheme
  dsimp only
  split
  · exact .inl rfl
  · rename_i hslug
    rw [joinPath_of_isSlug d.themes (by simpa using hslug)]
    split
    · exact .inl rfl
    · split
      · exact .inl rfl
      · split
        · exact .inl rfl
        · split
          · exact .inl rfl
          · rename_i hlock
            refine .inr ⟨(fmt.lower (strip themeId)).toList, ?_, changesOnly_rmtree _ _ _⟩
            simp [isLockedFolder, hlock]

/-- A plugin is found in a folder of the directory that is scanned. -/
def FoundIn (appsDir : Path) (source : Source) (m : PluginManifest) : Prop :=
  m.source = source ∧ ∃ name, m.path = appsDir ++ [name]

theorem foundIn_of_scanFolder {appsDir : Path} {source : Source} {seen : List String}
    {found found' : List PluginManifest} {name : List Char}
    (hfound : ∀ m ∈ found, FoundIn appsDir source m)
    (h : scanFolder fmt t appsDir source seen found name = .ok found') :
    ∀ m ∈ found', FoundIn appsDir source m := by
  unfold scanFolder at h
  dsimp only at h
  split at h
  · cases h
    exact hfound
  · split at h
    · rename_i manifest hmanifest
      split at h
      · cases h
        exact hfound
      · cases h
        intro m hmem
        rcases List.mem_append.mp hmem with hold | hnew
        · exact hfound m hold
        · obtain rfl := List.mem_singleton.mp hnew
          have haccepted := accepted_of_parseManifest hmanifest
          exact ⟨haccepted.source, name, haccepted.path⟩
    · cases h
      exact hfound
    · cases h

theorem foundIn_of_foldlM {appsDir : Path} {source : Source} {seen : List String}
    {names : List (List Char)} {before found : List PluginManifest}
    (hbefore : ∀ m ∈ before, FoundIn appsDir source m)
    (h : names.foldlM (scanFolder fmt t appsDir source seen) before = .ok found) :
    ∀ m ∈ found, FoundIn appsDir source m := by
  induction names generalizing before with
  | nil =>
    cases h
    exact hbefore
  | cons name names ih =>
    rw [List.foldlM_cons] at h
    obtain ⟨next, hnext, hrest⟩ := bind_eq_ok.mp h
    exact ih (foundIn_of_scanFolder hbefore hnext) hrest

theorem foundIn_of_scanDir {appsDir : Path} {source : Source} {seen : List String}
    {found : List PluginManifest} (h : scanDir fmt t appsDir source seen = .ok found) :
    ∀ m ∈ found, FoundIn appsDir source m :=
  foundIn_of_foldlM (fun _ hmem => absurd hmem List.not_mem_nil) h

/-- **A community plugin** is found in a folder of the community directory. -/
theorem community_of_discoverPlugins {manifests : List PluginManifest}
    (h : discoverPlugins fmt d t = .ok manifests) {m : PluginManifest} (hm : m ∈ manifests)
    (hsource : m.source = .community) : ∃ name, m.path = d.apps ++ [name] := by
  unfold discoverPlugins at h
  obtain ⟨builtins, hbuiltins, h⟩ := bind_eq_ok.mp h
  obtain ⟨community, hcommunity, h⟩ := bind_eq_ok.mp h
  cases h
  rcases List.mem_append.mp hm with hbuiltin | hcomm
  · have hother := (foundIn_of_scanDir hbuiltins m hbuiltin).1
    rw [hsource] at hother
    cases hother
  · exact (foundIn_of_scanDir hcommunity m hcomm).2

theorem deletePlugin_community (pluginId : String) (calls : Calls B) :
    (deletePlugin fmt d t pluginId calls).1 = t ∨
      ∃ name, ChangesOnly [d.apps ++ [name]] t (deletePlugin fmt d t pluginId calls).1 := by
  unfold deletePlugin
  split
  · exact .inl rfl
  · rename_i manifests hmanifests
    split
    · exact .inl rfl
    · rename_i manifest hfind
      split
      · exact .inl rfl
      · rename_i hsource
        split
        · exact .inl rfl
        · obtain ⟨name, hpath⟩ := community_of_discoverPlugins hmanifests
            (List.mem_of_find?_eq_some hfind) (not_not.mp hsource)
          rw [hpath]
          exact .inr ⟨name, changesOnly_rmtree _ _ _⟩

/-! ### Installs -/

theorem isSlug_of_installEntry {req : Install B} {entry : CatalogEntry}
    (h : installEntry fmt d t req = .ok entry) : isSlug entry.id = true := by
  unfold installEntry at h
  split at h
  · cases h
  · split at h
    · cases h
    · rename_i entries hentries
      obtain ⟨catalog, -, hcatalog⟩ := Option.bind_eq_some_iff.mp hentries
      unfold parseCatalog at hcatalog
      split at hcatalog
      · rename_i hchecks
        cases hcatalog
        split at h
        · cases h
        · rename_i found hfound
          have hslug := List.all_eq_true.mp hchecks.1 found (List.mem_of_find?_eq_some hfound)
          rw [Bool.and_eq_true] at hslug
          split at h
          · cases h
          · split at h
            · cases h
            · split at h
              · cases h
                exact hslug.1
              · split at h
                · cases h
                · split at h
                  · cases h
                  · cases h
                    exact hslug.1
      · cases hcatalog

theorem changesOnly_place_free {dest : Path} (hne : dest ≠ []) (hfree : t.get? dest = none)
    (staged : List (Path × Node B)) (calls : PlaceCalls B) :
    ChangesOnly [dest] t (place t dest staged calls).1 := by
  have hmem : dest ∈ [dest] := List.mem_singleton.mpr rfl
  unfold place
  split
  · exact .refl _ _
  · rename_i t₁ hmade
    have h₁ : ChangesOnly [dest] t t₁ := .makeDirs hmem (List.dropLast_prefix dest) hmade
    have hlater : t₁.get? dest = none := by
      rw [get?_makeDirs hmade, hfree]
      intro hle
      have hlength := hle.length_le
      have hpos := List.length_pos_of_ne_nil hne
      rw [List.nil_append, List.length_dropLast] at hlength
      omega
    rw [hlater]
    simp only [Option.isSome_none, Bool.false_eq_true, if_false]
    split
    · exact h₁.trans (.replace hmem _ _)
    · exact h₁.trans (.replace hmem _ _)

theorem changesOnly_place (t : FileTree B) (dest : Path) (staged : List (Path × Node B))
    (calls : PlaceCalls B) : ChangesOnly [dest, backupOf dest] t (place t dest staged calls).1 := by
  have hdest : dest ∈ [dest, backupOf dest] := List.mem_cons_self
  have hbackup : backupOf dest ∈ [dest, backupOf dest] := List.mem_cons_of_mem _ List.mem_cons_self
  unfold place
  split
  · exact .refl _ _
  · rename_i t₁ hmade
    have h₁ : ChangesOnly [dest, backupOf dest] t t₁ :=
      .makeDirs hdest (List.dropLast_prefix dest) hmade
    dsimp only
    split
    · have h₂ := h₁.trans (.replace hbackup t₁ calls.cleared)
      split
      · exact h₂
      · have h₃ := (h₂.trans (.replace hdest _ [])).trans (.replace hbackup _ (t₁.subtree dest))
        split
        · exact (h₃.trans (.replace hdest _ staged)).trans (.replace hbackup _ calls.cleanup)
        · rename_i left _
          have h₄ := h₃.trans (.replace hdest _ left)
          split
          · exact (h₄.trans (.replace hbackup _ [])).trans (.replace hdest _ (t₁.subtree dest))
          · exact h₄
    · split
      · exact h₁.trans (.replace hdest _ _)
      · exact h₁.trans (.replace hdest _ _)

theorem backupOf_append (dir : Path) (name : List Char) :
    backupOf (dir ++ [name]) = dir ++ [name ++ ".replacing".toList] := by
  simp [backupOf]

theorem SameContents.of_changesOnly {targets : List Path} (h : ChangesOnly targets t t')
    (haway : ∀ target ∈ targets, Unrelated target folder) : SameContents t t' folder :=
  h.get?_below haway

theorem SameContents.refl (t : FileTree B) (folder : Path) : SameContents t t folder :=
  fun _ => rfl

theorem SameContents.trans {t'' : FileTree B} (h : SameContents t t' folder)
    (h' : SameContents t' t'' folder) : SameContents t t'' folder :=
  fun below => (h' below).trans (h below)

theorem forall_mem_pair {P : Path → Prop} {first second : Path} (hfirst : P first)
    (hsecond : P second) : ∀ path ∈ [first, second], P path := by
  intro path hmem
  rcases List.mem_cons.mp hmem with rfl | hrest
  · exact hfirst
  · rw [List.mem_singleton.mp hrest]
    exact hsecond

theorem forall_mem_one {P : Path → Prop} {only : Path} (h : P only) : ∀ path ∈ [only], P path := by
  intro path hmem
  rw [List.mem_singleton.mp hmem]
  exact h

/-- **An install** that meets the condition leaves the protected folders alone. -/
theorem Protected.installFromSource (h : Protected fmt d t folder) {req : Install B}
    (hmeets : Meets fmt d t (.install req)) :
    SameContents t (installFromSource fmt d t req).1 folder := by
  unfold LockedContent.installFromSource
  split
  · exact .refl _ _
  · rename_i entry hentry
    have hslug := isSlug_of_installEntry hentry
    split
    · exact .refl _ _
    · rename_i staged hstaged
      split
      · rename_i hvalid
        cases hkind : entry.kind with
        | app =>
          simp only [destination, hkind, joinPath_of_isSlug d.apps hslug]
          refine .of_changesOnly (changesOnly_place _ _ _ _) (forall_mem_pair (h.away_app _) ?_)
          rw [backupOf_append]
          exact h.away_app _
        | theme =>
          have hplaced : placedTheme fmt d t req = some (d.themes ++ [entry.id.toList]) := by
            simp only [placedTheme, hentry, hstaged, hkind, hvalid, and_self, if_true,
              joinPath_of_isSlug d.themes hslug]
          obtain ⟨hdest, hbackup⟩ := hmeets _ hplaced
          simp only [destination, hkind, joinPath_of_isSlug d.themes hslug]
          cases hthere : t.get? (d.themes ++ [entry.id.toList]) with
          | none =>
            exact .of_changesOnly
              (changesOnly_place_free (List.append_ne_nil_of_right_ne_nil _ (List.cons_ne_nil _ _))
                hthere _ _)
              (forall_mem_one (h.away_theme hdest))
          | some node =>
            rw [hthere] at hbackup
            refine .of_changesOnly (changesOnly_place _ _ _ _)
              (forall_mem_pair (h.away_theme hdest) ?_)
            rw [backupOf_append] at hbackup ⊢
            exact h.away_theme (hbackup rfl)
      · exact .refl _ _

theorem Protected.of_free (h : Protected fmt d t folder) (hfree : t' = t ∨ InFreeTheme fmt d t t') :
    SameContents t t' folder := by
  rcases hfree with rfl | ⟨name, hlock, hchanges⟩
  · exact .refl _ _
  · exact .of_changesOnly hchanges (forall_mem_one (h.away_theme hlock))

/-- **A request** that meets the condition leaves the protected folders alone. -/
theorem Protected.handle (h : Protected fmt d t folder) {req : Request B}
    (hmeets : Meets fmt d t req) : SameContents t (handle fmt d t req).1 folder := by
  cases req with
  | saveTheme spec calls => exact h.of_free (saveTheme_free spec calls)
  | deleteTheme themeId calls => exact h.of_free (deleteTheme_free themeId calls)
  | deletePlugin pluginId calls =>
    have hcommunity : (deletePlugin fmt d t pluginId calls).1 = t ∨ ∃ name,
        ChangesOnly [d.apps ++ [name]] t (deletePlugin fmt d t pluginId calls).1 :=
      deletePlugin_community pluginId calls
    rcases hcommunity with heq | ⟨name, hchanges⟩
    · rw [LockedContent.handle, heq]
      exact .refl _ _
    · exact .of_changesOnly hchanges (forall_mem_one (h.away_app name))
  | install req => exact h.installFromSource hmeets

/-! ### Runs -/

theorem Protected.of_same (h : Protected fmt d t folder) (hsame : SameContents t t' folder) :
    Protected fmt d t' folder := by
  cases h with
  | builtinPlugin name => exact .builtinPlugin name
  | builtinTheme name => exact .builtinTheme name
  | lockedTheme name hlock =>
    refine .lockedTheme name ?_
    have hdir := hsame []
    rw [List.append_nil] at hdir
    unfold isLockedFolder isDir isLocked readFile at hlock ⊢
    rw [hdir, hsame [themeJson]]
    exact hlock

/-- **Built-in and locked content.**  In every run of requests that meet the condition, every folder
    that is built-in or locked at the start keeps its exact contents, and with them its lock. -/
theorem untouched_run (fmt : Formats B) (d : Layout) (t₀ : FileTree B) :
    ∀ t, Reaches (step fmt d) (Meets fmt d) t₀ t → ∀ folder, Protected fmt d t₀ folder →
      SameContents t₀ t folder ∧ Protected fmt d t folder := by
  intro t hreach folder hprotected
  apply hreach.invariant (I := fun t => SameContents t₀ t folder ∧ Protected fmt d t folder)
  · exact ⟨.refl _ _, hprotected⟩
  · rintro t req t' ⟨hsame, hstill⟩ hmeets hstep
    obtain rfl := Option.some.inj hstep
    have hkept := hstill.handle hmeets
    exact ⟨hsame.trans hkept, hstill.of_same hkept⟩

/-! ### What an install leaves -/

theorem errorStatus_ne (permission : Bool) : errorStatus permission ≠ 200 := by
  cases permission <;> decide

theorem get?_replace_self (t : FileTree B) (dest : Path) (nodes : List (Path × Node B))
    (below : Path) : (t.replace dest nodes).get? (dest ++ below) = lookup nodes below := by
  rw [get?_replace, if_pos (List.prefix_append _ _), List.drop_left]

theorem get?_place {dir : Path} {name : List Char} {staged : List (Path × Node B)}
    {calls : PlaceCalls B} (hok : (place t (dir ++ [name]) staged calls).2 = 200) (below : Path) :
    (place t (dir ++ [name]) staged calls).1.get? (dir ++ [name] ++ below) =
      lookup staged below := by
  have hbeside : Unrelated (backupOf (dir ++ [name])) (dir ++ [name]) := by
    rw [backupOf_append]
    apply unrelated_siblings
    simp
  have hkept : ∀ (tree : FileTree B) nodes,
      (tree.replace (backupOf (dir ++ [name])) nodes).get? (dir ++ [name] ++ below) =
        tree.get? (dir ++ [name] ++ below) := fun tree nodes =>
    (ChangesOnly.replace (List.mem_singleton.mpr rfl) tree nodes).get?_below
      (forall_mem_one hbeside) below
  unfold place at hok ⊢
  split at hok
  · cases hok
  · dsimp only at hok ⊢
    split at hok
    · split at hok
      · exact absurd hok (errorStatus_ne _)
      · split at hok
        · rename_i hthere hrenamed _ _
          rw [if_pos hthere, if_neg hrenamed, hkept, get?_replace_self]
        · split at hok
          · exact absurd hok (errorStatus_ne _)
          · exact absurd hok (errorStatus_ne _)
    · split at hok
      · rename_i hthere _ _
        rw [if_neg hthere, get?_replace_self]
      · exact absurd hok (errorStatus_ne _)

end

/-! ### A locked theme that is replaced -/

/-- Texts of the two files of a theme. -/
inductive Text
  | theme (id : String) (locked : Bool)
  | css (text : String)
deriving DecidableEq

def textFormats : Formats Text where
  toCasing := .ascii
  loadsTheme
    | .theme id locked => some (some ⟨id, locked⟩)
    | .css _ => none
  loadsToml _ := none
  dumpsTheme manifest := .theme manifest.id false
  encode := .css
  isAlnum c := c.isAlphanum

def shipped : Layout where
  builtinPlugins := ["src".toList, "plugins".toList, "apps".toList]
  builtinThemes := ["frontend".toList, "themes".toList]
  pluginsDir := ["plugins".toList]
  away := by decide +kernel

def lockedTree : FileTree Text where
  nodes :=
    [([], .dir), (["plugins".toList], .dir), (shipped.themes, .dir),
      (shipped.themes ++ ["night".toList], .dir),
      (shipped.themes ++ ["night".toList, themeJson], .file (.theme "night" true)),
      (shipped.themes ++ ["night".toList, themeCss], .file (.css "night"))]

def nightFolder : Path := shipped.themes ++ ["night".toList]

def otherNight : Install Text where
  id := "night"
  catalog := some [⟨"night", .theme, 1⟩]
  staged := some
    ⟨[([], .dir), ([themeJson], .file (.theme "night" false)), ([themeCss], .file (.css "other"))]⟩

def daySpec : ThemeSpec := { id := " Day ", label := "Day", css := "body \x7b\x7d" }

def dayTree : FileTree Text := (handle textFormats shipped lockedTree (.saveTheme daySpec .work)).1

theorem nightFolder_protected : Protected textFormats shipped lockedTree nightFolder :=
  .lockedTheme _ (by decide +kernel)

theorem untouched_night : SameContents lockedTree dayTree nightFolder ∧
    readFile dayTree (shipped.themes ++ ["day".toList, themeJson]) = some (.theme "day" false) :=
  ⟨(untouched_run textFormats shipped lockedTree dayTree
    (Reaches.refl.tail (e := .saveTheme daySpec .work) trivial rfl) nightFolder
    nightFolder_protected).1, by decide +kernel⟩

/-- **A locked theme** is replaced by an install of its id; saving and deleting it are refused. -/
theorem locked_theme_replaced :
    Protected textFormats shipped lockedTree nightFolder ∧
      (handle textFormats shipped lockedTree (.install otherNight)).2 = 200 ∧
      ¬ SameContents lockedTree (handle textFormats shipped lockedTree (.install otherNight)).1
        nightFolder ∧
      (handle textFormats shipped lockedTree (.deleteTheme "night" .work)).2 = 409 := by
  refine ⟨nightFolder_protected, by decide +kernel, ?_, by decide +kernel⟩
  intro hsame
  have hcss := hsame [themeCss]
  revert hcss
  decide +kernel

end Meshpoint.LockedContent
