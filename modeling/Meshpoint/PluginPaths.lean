import Meshpoint.ManifestFile

/-!
# The files that run and are served for a plugin

Model of what uses the paths of an accepted manifest: `_stream_plugin_setup`
(`src/api/routes/plugin_routes.py`) runs the setup script as root, `run_deps_check`
(`src/plugins/loader.py`) the check script, and `resolve_plugin_asset` (`src/plugins/assets.py`) finds
a frontend file to serve.

A frontend path is tested to stay in the folder when the manifest is read and again when the file is
served; `deps.setup` and `deps.check` are only tested to exist.  `staysInPlugin_iff` says which of
them stay in the folder.
-/

namespace Meshpoint.PluginPaths

open TarArchive PathResolution PathResolution.FileSystem ManifestFile

/-! ### Using the paths -/

section

variable {B : Type}

/-- `setup_path` and `check_path`: nothing for an empty text. -/
def scriptPath (folder : Path) (script : Option String) : Option Path :=
  script.bind fun text => if text = "" then none else some (joinPath folder text)

def setupPath (m : PluginManifest) : Option Path := scriptPath m.path m.setup

def checkPath (m : PluginManifest) : Option Path := scriptPath m.path m.check

/-- The file that `sudo bash str(setup_path.resolve())` opens. -/
def setupFile (fs : FileSystem B) (m : PluginManifest) : Option Path :=
  (setupPath m).bind fun path => (fs.resolve path).bind fs.walk

/-- The file that `bash str(check_path)` opens. -/
def checkFile (fs : FileSystem B) (m : PluginManifest) : Option Path :=
  (checkPath m).bind fs.walk

/-- `resolve_plugin_asset`. -/
def resolvePluginAsset (fs : FileSystem B) (manifests : List PluginManifest)
    (pluginId assetPath : String) : Option Path :=
  match manifests.find? fun m => m.name = pluginId with
  | none => none
  | some plugin =>
    if assetPath ∉ plugin.frontendScripts ++ plugin.frontendStyles then none
    else
      match fs.resolve plugin.path with
      | none => none
      | some root =>
        match fs.resolve (joinPath root assetPath) with
        | none => none
        | some full => if !fs.isFile full || !isParent root full then none else some full

/-! ### In the folder of the plugin -/

def Inside (fs : FileSystem B) (m : PluginManifest) (file : Path) : Prop :=
  fs.FileAt file ∧ ∃ root, fs.resolve m.path = some root ∧ isParent root file = true

/-- Every file that runs or is served for the plugin is one of its folder: what runs with the files
    as they were checked, and what is served whatever has become of the files. -/
structure StaysInPlugin (fs : FileSystem B) (m : PluginManifest) : Prop where
  setup : ∀ text, m.setup = some text → ∃ file, setupFile fs m = some file ∧ Inside fs m file
  check : ∀ text, m.check = some text → ∃ file, checkFile fs m = some file ∧ Inside fs m file
  frontend : ∀ rel ∈ m.frontendScripts ++ m.frontendStyles,
    ∃ file, resolvePluginAsset fs [m] m.name rel = some file ∧ Inside fs m file
  served : ∀ (later : FileSystem B) manifests assetPath file,
    manifests.find? (fun other => other.name = m.name) = some m →
      resolvePluginAsset later manifests m.name assetPath = some file → Inside later m file

/-- The scripts pass the test that frontend paths pass. -/
structure ScriptsInside (fs : FileSystem B) (m : PluginManifest) : Prop where
  setup : ∀ text, m.setup = some text → staysInside fs m.path text = true
  check : ∀ text, m.check = some text → staysInside fs m.path text = true

variable {fs : FileSystem B} {m : PluginManifest}

theorem staysInside_iff {folder file : Path} {text : String}
    (h : fs.resolve (joinPath folder text) = some file) :
    staysInside fs folder text = true ↔
      ∃ root, fs.resolve folder = some root ∧ isParent root file = true := by
  unfold staysInside
  rw [h]
  cases fs.resolve folder with
  | none =>
    constructor
    · exact nofun
    · rintro ⟨root, hnone, -⟩
      cases hnone
  | some root =>
    constructor
    · intro hparent
      exact ⟨root, rfl, hparent⟩
    · rintro ⟨other, hother, hparent⟩
      cases hother
      exact hparent

theorem scriptPath_eq {folder : Path} {text : String} (h : PyText.strip text ≠ "") :
    scriptPath folder (some text) = some (joinPath folder text) := by
  have hne : text ≠ "" := by
    rintro rfl
    exact h rfl
  exact if_neg hne

/-- A script that is opened at a file is the plugin's own when its path passes the test. -/
theorem inside_iff {opened : Option Path} {text : String} {file : Path}
    (hopened : opened = some file) (hat : fs.FileAt file)
    (hresolve : fs.resolve (joinPath m.path text) = some file) :
    (∃ file, opened = some file ∧ Inside fs m file) ↔ staysInside fs m.path text = true := by
  rw [staysInside_iff hresolve, hopened]
  constructor
  · rintro ⟨other, hother, hinside⟩
    cases hother
    exact hinside.2
  · intro hinside
    exact ⟨file, rfl, hat, hinside⟩

theorem setup_iff {text : String} (hsetup : m.setup = some text) (hne : PyText.strip text ≠ "")
    (hfile : fs.isFile (joinPath m.path text) = true) :
    (∃ file, setupFile fs m = some file ∧ Inside fs m file) ↔
      staysInside fs m.path text = true := by
  obtain ⟨file, hwalk, hat⟩ := isFile_iff.mp hfile
  have hresolve := resolve_of_walk hwalk
  refine inside_iff ?_ hat hresolve
  rw [setupFile, setupPath, hsetup, scriptPath_eq hne, Option.bind_some, hresolve,
    Option.bind_some, walk_of_fileAt hat]

theorem check_iff {text : String} (hcheck : m.check = some text) (hne : PyText.strip text ≠ "")
    (hfile : fs.isFile (joinPath m.path text) = true) :
    (∃ file, checkFile fs m = some file ∧ Inside fs m file) ↔
      staysInside fs m.path text = true := by
  obtain ⟨file, hwalk, hat⟩ := isFile_iff.mp hfile
  refine inside_iff ?_ hat (resolve_of_walk hwalk)
  rw [checkFile, checkPath, hcheck, scriptPath_eq hne, Option.bind_some, hwalk]

/-- **What is served** is a file of the folder, and one that the manifest names. -/
theorem inside_of_resolvePluginAsset {manifests : List PluginManifest}
    {pluginId assetPath : String} {file : Path}
    (h : resolvePluginAsset fs manifests pluginId assetPath = some file) :
    ∃ plugin, manifests.find? (fun m => m.name = pluginId) = some plugin ∧
      assetPath ∈ plugin.frontendScripts ++ plugin.frontendStyles ∧ Inside fs plugin file := by
  unfold resolvePluginAsset at h
  split at h
  · cases h
  · rename_i plugin hplugin
    split at h
    · cases h
    · rename_i hdeclared
      split at h
      · cases h
      · rename_i root hroot
        split at h
        · cases h
        · rename_i full hfull
          split at h
          · cases h
          · rename_i htests
            cases h
            rw [Bool.or_eq_true, not_or] at htests
            have hfile : fs.isFile file = true := by simpa using htests.1
            have hparent : isParent root file = true := by simpa using htests.2
            exact ⟨plugin, hplugin, not_not.mp hdeclared, fileAt_of_resolve hfull hfile, root,
              hroot, hparent⟩

theorem joinPath_of_relative {folder : Path} {text : String} (h : text.toList.head? ≠ some '/') :
    joinPath folder text = folder ++ TarArchive.components text.toList := if_neg h

/-- A frontend path is the same below the folder and below the location of the folder. -/
theorem resolve_joinPath_root {folder root : Path} {rel : String}
    (hrelative : rel.toList.head? ≠ some '/') (hroot : fs.resolve folder = some root) :
    fs.resolve (joinPath root rel) = fs.resolve (joinPath folder rel) := by
  rw [joinPath_of_relative hrelative, joinPath_of_relative hrelative, resolve_append,
    resolve_append, hroot, resolve_of_linkFree (linkFree_of_resolve hroot)]

/-- **A frontend file that was accepted** is served. -/
theorem served_of_frontendFile {rel : String}
    (hdeclared : rel ∈ m.frontendScripts ++ m.frontendStyles)
    (h : FrontendFile fs m.path rel) :
    ∃ file, resolvePluginAsset fs [m] m.name rel = some file ∧ Inside fs m file := by
  obtain ⟨root, target, hroot, htarget, hparent, hfile⟩ := h.isFile
  have hfull := (resolve_joinPath_root h.relative hroot).trans htarget
  have hfind : [m].find? (fun other => other.name = m.name) = some m :=
    List.find?_cons_of_pos (decide_eq_true rfl)
  have hserved : resolvePluginAsset fs [m] m.name rel = some target := by
    unfold resolvePluginAsset
    rw [hfind]
    simp only [hdeclared, not_true_eq_false, if_false, hroot, hfull, hfile, hparent, Bool.not_true,
      Bool.or_self, Bool.false_eq_true]
  obtain ⟨plugin, hplugin, -, hinside⟩ := inside_of_resolvePluginAsset hserved
  rw [hfind] at hplugin
  cases hplugin
  exact ⟨target, hserved, hinside⟩

/-- **Plugin paths.**  Of an accepted manifest, every file that runs or is served for the plugin is
    one of its own folder exactly when its two scripts pass the test that frontend paths pass. -/
theorem staysInPlugin_iff {loads : B → Option Table} {folder : Path} {source : Source}
    (h : parseManifest fs loads folder source = .ok m) :
    StaysInPlugin fs m ↔ ScriptsInside fs m := by
  have haccepted := accepted_of_parseManifest h
  have hpath := haccepted.path
  subst hpath
  constructor
  · intro hstays
    constructor
    · intro text htext
      obtain ⟨hne, hfile⟩ := haccepted.setup text htext
      exact (setup_iff htext hne hfile).mp (hstays.setup text htext)
    · intro text htext
      obtain ⟨hne, hfile⟩ := haccepted.check text htext
      exact (check_iff htext hne hfile).mp (hstays.check text htext)
  · intro hscripts
    constructor
    · intro text htext
      obtain ⟨hne, hfile⟩ := haccepted.setup text htext
      exact (setup_iff htext hne hfile).mpr (hscripts.setup text htext)
    · intro text htext
      obtain ⟨hne, hfile⟩ := haccepted.check text htext
      exact (check_iff htext hne hfile).mpr (hscripts.check text htext)
    · intro rel hrel
      exact served_of_frontendFile hrel (haccepted.frontend rel hrel)
    · intro later manifests assetPath file hfind hserved
      obtain ⟨plugin, hplugin, -, hinside⟩ := inside_of_resolvePluginAsset hserved
      rw [hfind] at hplugin
      cases hplugin
      exact hinside

end

/-! ### Scripts outside the folder -/

/-- The contents of the one manifest file, and of the others. -/
inductive Contents
  | manifest (deps : Table)
  | script

/-- A plugin with a page, and the table of its scripts. -/
def pageTable (deps : Table) : Table :=
  [("name", .str "demo"), ("version", .str "1.0"), ("meshpoint_api", .int 1),
    ("provides", .array [.str "panel"]), ("deps", .table deps),
    ("frontend", .table [("scripts", .array [.str "/frontend/panel.js"])])]

def readContents : Contents → Option Table
  | .manifest deps => some (pageTable deps)
  | .script => none

def named (names : List String) : Path := names.map String.toList

def demoFolder : Path := named ["srv", "plugins", "demo"]

/-- A plugin's folder with a link in it, and a script beside the folder. -/
def demoFiles (deps : Table) : FileSystem Contents where
  nodes :=
    [([], .dir), (named ["srv"], .dir), (named ["srv", "plugins"], .dir), (demoFolder, .dir),
      (demoFolder ++ named ["plugin.toml"], .file (.manifest deps)),
      (demoFolder ++ named ["setup.sh"], .file .script),
      (demoFolder ++ named ["check.sh"], .link "setup.sh".toList),
      (demoFolder ++ named ["frontend"], .dir),
      (demoFolder ++ named ["frontend", "panel.js"], .file .script),
      (named ["srv", "outside.sh"], .file .script)]
  root_dir := rfl

def demoManifest (setup check : String) : PluginManifest where
  name := "demo"
  version := "1.0"
  apiVersion := 1
  provides := ["panel"]
  apt := []
  setup := some setup
  check := some check
  description := ""
  homepage := ""
  author := ""
  frontendScripts := ["frontend/panel.js"]
  frontendStyles := []
  path := demoFolder

def demoDeps (setup check : String) : Table := [("setup", .str setup), ("check", .str check)]

def ownDeps : Table := demoDeps "./setup.sh" "check.sh"

/-- Scripts beside the folder, one of them by an absolute path. -/
def strayDeps : Table := demoDeps "../../outside.sh" "/srv/outside.sh"

def ownManifest : PluginManifest := demoManifest "./setup.sh" "check.sh"
def strayManifest : PluginManifest := demoManifest "../../outside.sh" "/srv/outside.sh"

theorem staysInPlugin_own : StaysInPlugin (demoFiles ownDeps) ownManifest := by
  have hparse : parseManifest (demoFiles ownDeps) readContents demoFolder .community =
      .ok ownManifest := by decide +kernel
  refine (staysInPlugin_iff hparse).mpr ⟨?_, ?_⟩
  · intro text htext
    cases htext
    decide +kernel
  · intro text htext
    cases htext
    decide +kernel

/-- **A script outside the folder** is accepted: it runs as root, and its check runs too. -/
theorem stray_scripts_run :
    parseManifest (demoFiles strayDeps) readContents demoFolder .community = .ok strayManifest ∧
      setupFile (demoFiles strayDeps) strayManifest = some (named ["srv", "outside.sh"]) ∧
      checkFile (demoFiles strayDeps) strayManifest = some (named ["srv", "outside.sh"]) ∧
      ¬ StaysInPlugin (demoFiles strayDeps) strayManifest := by
  have hsetup : setupFile (demoFiles strayDeps) strayManifest = some (named ["srv", "outside.sh"]) :=
    by decide +kernel
  refine ⟨by decide +kernel, hsetup, by decide +kernel, ?_⟩
  intro hstays
  obtain ⟨file, hfile, -, root, hroot, hparent⟩ := hstays.setup _ rfl
  have hfolder : (demoFiles strayDeps).resolve strayManifest.path = some demoFolder := by
    decide +kernel
  rw [hsetup] at hfile
  rw [hfolder] at hroot
  cases hfile
  cases hroot
  exact absurd hparent (by decide +kernel)

end Meshpoint.PluginPaths
