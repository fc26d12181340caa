import Meshpoint.PathResolution
import Meshpoint.PyText

/-!
# The manifest of a plugin

Model of `parse_manifest` (`src/plugins/manifest.py`): the table that `plugin.toml` holds, checked
field by field against itself and against the files of the folder.  What the reader of TOML makes of
the contents of a file is a parameter; a check that is not passed is an error with its code.
-/

namespace Meshpoint.ManifestFile

open PyText TarArchive PathResolution

/-! ### TOML -/

/-- A value of a TOML table. -/
inductive Toml
  | str (text : String)
  | int (value : Int)
  | bool (value : Bool)
  /-- a float, a date or a time -/
  | other
  | array (items : List Toml)
  | table (entries : List (String × Toml))

abbrev Table := List (String × Toml)

/-- `table.get(key)`. -/
def Table.get? (t : Table) (key : String) : Option Toml :=
  (t.find? fun entry => entry.1 = key).map Prod.snd

def Toml.texts : List Toml → Option (List String)
  | [] => some []
  | .str text :: rest => (Toml.texts rest).map (text :: ·)
  | _ :: _ => none

/-! ### Errors -/

/-- Why a manifest is not accepted. -/
inductive ManifestError
  /-- `PluginManifestError` and its code. -/
  | refused (code : String)
  /-- An error the checks do not expect. -/
  | raised
deriving DecidableEq

abbrev Checked (α : Type) := Except ManifestError α

def refuse {α : Type} (code : String) : Checked α := .error (.refused code)

/-! ### Names -/

def isSlugStart (c : Char) : Bool := ('a' ≤ c && c ≤ 'z') || ('0' ≤ c && c ≤ '9')

/-- A match of `^[a-z0-9][a-z0-9-]{least,most}$`: `$` allows one line break after the name. -/
def matchesSlug (least most : Nat) (text : String) : Bool :=
  match text.toList with
  | [] => false
  | first :: rest =>
    let rest := if rest.getLast? = some '\n' then rest.dropLast else rest
    isSlugStart first && least ≤ rest.length && rest.length ≤ most &&
      rest.all fun c => isSlugStart c || c = '-'

/-- `_SLUG_RE`. -/
def isSlug (text : String) : Bool := matchesSlug 1 38 text

/-- `_ROUTE_RE`. -/
def isRoute (text : String) : Bool := matchesSlug 0 58 text

/-! ### Manifests -/

def pluginApiVersion : Int := 1

def knownProvides : List String :=
  ["listener", "routes", "panel", "sidebar", "hook", "capture", "protocol", "topbar", "service"]

def knownSidebarCategories : List String :=
  ["top", "networks", "radio", "ops", "configuration", "settings"]

def knownSidebarIcons : List String :=
  ["plug", "antenna", "chart", "message", "terminal", "map", "list", "grid", "topology", "rf",
    "pager", "dapnet", "reticulum", "lorawan", "gear", "usb", "bluetooth", "wifi", "network",
    "radio", "satellite", "satellite-dish", "signal", "cpu", "server", "monitor", "battery",
    "thermometer", "zap", "plane", "ship", "car", "train", "cloud", "sun", "wind", "globe",
    "compass", "navigation", "bell", "camera", "mic", "headphones", "music", "phone", "users",
    "shield", "lock", "clock", "calendar", "database", "folder", "download", "activity", "eye",
    "star", "flag", "wrench", "code", "book", "home", "search"]

def defaultSidebarIcon : String := "plug"

/-- Where a plugin folder was found. -/
inductive Source
  | builtin
  | community
deriving DecidableEq

structure SidebarSpec where
  route : String
  label : String
  category : String
  icon : String := defaultSidebarIcon
deriving DecidableEq

structure HookSpec where
  host : String
deriving DecidableEq

structure PluginManifest where
  name : String
  version : String
  apiVersion : Int
  provides : List String
  apt : List String
  setup : Option String
  check : Option String
  description : String
  homepage : String
  author : String
  frontendScripts : List String
  frontendStyles : List String
  path : Path
  source : Source := .community
  locked : Bool := false
  sidebar : Option SidebarSpec := none
  hook : Option HookSpec := none
  requires : Option String := none
deriving DecidableEq

/-! ### Paths in the folder -/

/-- `folder / text`: an absolute text stands for itself. -/
def joinPath (folder : Path) (text : String) : Path :=
  if text.toList.head? = some '/' then components text.toList
  else folder ++ components text.toList

/-- `root in target.parents`. -/
def isParent (root target : Path) : Bool := root <+: target ∧ root ≠ target

variable {B : Type}

/-- An entry of `deps` that names a file of the folder. -/
def depsFile (fs : FileSystem B) (folder : Path) (deps : Table) (key : String) :
    Checked (Option String) :=
  match deps.get? key with
  | none => .ok none
  | some (.str text) =>
    if strip text = "" then refuse "deps"
    else if fs.isFile (joinPath folder text) then .ok (some text)
    else refuse "deps"
  | some _ => refuse "deps"

/-- One path of `_rel_paths`. -/
def relPath (fs : FileSystem B) (folder : Path) (text : String) : Checked String :=
  let rel := lstripWhere (· = '/') (strip text)
  match fs.resolve (joinPath folder rel), fs.resolve folder with
  | some target, some root =>
    if !isParent root target then refuse "frontend"
    else if !fs.isFile target then refuse "frontend"
    else .ok rel
  | _, _ => .error .raised

/-- `_rel_paths`. -/
def relPaths (fs : FileSystem B) (folder : Path) (value : Option Toml) : Checked (List String) :=
  match value with
  | none => .ok []
  | some (.array items) =>
    match Toml.texts items with
    | some texts => texts.mapM (relPath fs folder)
    | none => refuse "frontend"
  | some _ => refuse "frontend"

/-! ### Fields -/

/-- `_str_field`. -/
def strField (table : Table) (key code : String) : Checked String :=
  match table.get? key with
  | none => .ok ""
  | some (.str text) => .ok text
  | some _ => refuse code

def subTable (data : Table) (key : String) : Checked Table :=
  match data.get? key with
  | none => .ok []
  | some (.table entries) => .ok entries
  | some _ => refuse key

def parseName (data : Table) (folder : Path) : Checked String :=
  match data.get? "name" with
  | some (.str name) =>
    if !isSlug name then refuse "name"
    else if name.toList ≠ folder.getLast?.getD [] then refuse "name"
    else .ok name
  | _ => refuse "name"

def parseVersion (data : Table) : Checked String :=
  match data.get? "version" with
  | some (.str version) => if strip version = "" then refuse "version" else .ok version
  | _ => refuse "version"

def parseLocked (data : Table) : Checked Bool :=
  match data.get? "locked" with
  | none => .ok false
  | some (.bool locked) => .ok locked
  | some _ => refuse "locked"

def parseApi (data : Table) : Checked Int :=
  match data.get? "meshpoint_api" with
  | some (.int version) =>
    if version < 1 then refuse "api"
    else if version > pluginApiVersion then refuse "api"
    else .ok version
  | _ => refuse "api"

/-- The members of `provides`; a list or a table among them cannot be looked up in a set. -/
def parseProvides (data : Table) : Checked (List String) :=
  match data.get? "provides" with
  | some (.array (item :: items)) =>
    if (item :: items).any (fun item => match item with | .array _ | .table _ => true | _ => false)
    then .error .raised
    else
      match Toml.texts (item :: items) with
      | some provides => if provides.all (· ∈ knownProvides) then .ok provides else refuse "provides"
      | none => refuse "provides"
  | _ => refuse "provides"

def parseApt (deps : Table) : Checked (List String) :=
  match deps.get? "apt" with
  | none => .ok []
  | some (.array items) =>
    match Toml.texts items with
    | some names => if names.all (strip · ≠ "") then .ok names else refuse "deps"
    | none => refuse "deps"
  | some _ => refuse "deps"

/-- `_parse_sidebar`. -/
def parseSidebar (value : Option Toml) (provides : List String) : Checked (Option SidebarSpec) :=
  if "sidebar" ∉ provides then
    match value with
    | none => .ok none
    | some _ => refuse "sidebar"
  else
    match value with
    | some (.table sidebar) => do
      let route ← match Table.get? sidebar "route" with
        | some (.str route) => if isRoute route then .ok route else refuse "sidebar"
        | _ => refuse "sidebar"
      let label ← match Table.get? sidebar "label" with
        | some (.str label) => if strip label = "" then refuse "sidebar" else .ok (strip label)
        | _ => refuse "sidebar"
      let category ← match Table.get? sidebar "category" with
        | some (.str category) =>
          if category ∈ knownSidebarCategories then .ok category else refuse "sidebar"
        | some (.array _) | some (.table _) => .error .raised
        | _ => refuse "sidebar"
      let icon ← match Table.get? sidebar "icon" with
        | none => .ok defaultSidebarIcon
        | some (.str icon) =>
          .ok (if icon ∈ knownSidebarIcons then icon else defaultSidebarIcon)
        | some _ => refuse "sidebar"
      .ok (some ⟨route, label, category, icon⟩)
    | _ => refuse "sidebar"

/-- `_parse_hook`. -/
def parseHook (value : Option Toml) (provides : List String) : Checked (Option HookSpec) :=
  if "hook" ∉ provides then
    match value with
    | none => .ok none
    | some _ => refuse "hook"
  else
    match value with
    | some (.table hook) =>
      match Table.get? hook "host" with
      | some (.str host) => if isRoute host then .ok (some ⟨host⟩) else refuse "hook"
      | _ => refuse "hook"
    | _ => refuse "hook"

/-- `_parse_requires`. -/
def parseRequires (value : Option Toml) (ownName : String) : Checked (Option String) :=
  match value with
  | none => .ok none
  | some (.str requires) =>
    if !isSlug requires then refuse "requires"
    else if requires = ownName then refuse "requires"
    else .ok (some requires)
  | some _ => refuse "requires"

/-- The frontend files; a plugin with a place in the page must have a script. -/
def parseFrontend (fs : FileSystem B) (folder : Path) (frontend : Table) (provides : List String) :
    Checked (List String × List String) := do
  let scripts ← relPaths fs folder (frontend.get? "scripts")
  let styles ← relPaths fs folder (frontend.get? "styles")
  if ["panel", "sidebar", "hook", "topbar"].any (· ∈ provides) && scripts.isEmpty then
    refuse "frontend"
  else .ok (scripts, styles)

/-- The checks of `parse_manifest` on the table. -/
def parseTable (fs : FileSystem B) (folder : Path) (source : Source) (data : Table) :
    Checked PluginManifest := do
  let name ← parseName data folder
  let version ← parseVersion data
  let locked ← parseLocked data
  let apiVersion ← parseApi data
  let provides ← parseProvides data
  let deps ← subTable data "deps"
  let apt ← parseApt deps
  let setup ← depsFile fs folder deps "setup"
  let check ← depsFile fs folder deps "check"
  let metaTable ← subTable data "meta"
  let frontend ← subTable data "frontend"
  let (frontendScripts, frontendStyles) ← parseFrontend fs folder frontend provides
  let sidebar ← parseSidebar (data.get? "sidebar") provides
  let hook ← parseHook (data.get? "hook") provides
  let requires ← parseRequires (data.get? "requires") name
  let description ← strField metaTable "description" "meta"
  let homepage ← strField metaTable "homepage" "meta"
  let author ← strField metaTable "author" "meta"
  .ok { name, version, apiVersion, provides, apt, setup, check, description, homepage, author,
        frontendScripts, frontendStyles, path := folder, source, locked, sidebar, hook, requires }

/-- `parse_manifest`; `loads` decodes the text of a file and reads it as TOML, and is `none` where
    it raises. -/
def parseManifest (fs : FileSystem B) (loads : B → Option Table) (folder : Path) (source : Source) :
    Checked PluginManifest :=
  match fs.readFile (joinPath folder "plugin.toml") with
  | none => refuse "missing"
  | some content =>
    match loads content with
    | none => refuse "toml"
    | some data => parseTable fs folder source data

/-! ### What an accepted manifest says of the files -/

theorem bind_eq_ok {ε α β : Type} {x : Except ε α} {f : α → Except ε β} {b : β} :
    x >>= f = .ok b ↔ ∃ a, x = .ok a ∧ f a = .ok b := by
  cases x with
  | error e => exact ⟨nofun, nofun⟩
  | ok a =>
    constructor
    · intro h
      exact ⟨a, rfl, h⟩
    · rintro ⟨other, hother, h⟩
      cases hother
      exact h

theorem isFile_of_depsFile {fs : FileSystem B} {folder : Path} {deps : Table} {key text : String}
    (h : depsFile fs folder deps key = .ok (some text)) :
    strip text ≠ "" ∧ fs.isFile (joinPath folder text) = true := by
  unfold depsFile at h
  split at h
  · cases h
  · split at h
    · cases h
    · rename_i hne
      split at h
      · rename_i hfile
        cases h
        exact ⟨hne, hfile⟩
      · cases h
  · cases h

/-- The containment test of `_rel_paths`. -/
def staysInside (fs : FileSystem B) (folder : Path) (text : String) : Bool :=
  match fs.resolve (joinPath folder text), fs.resolve folder with
  | some target, some root => isParent root target
  | _, _ => false

/-- A frontend path that was accepted. -/
structure FrontendFile (fs : FileSystem B) (folder : Path) (rel : String) : Prop where
  relative : rel.toList.head? ≠ some '/'
  isFile : ∃ root target, fs.resolve folder = some root ∧
    fs.resolve (joinPath folder rel) = some target ∧ isParent root target = true ∧
    fs.isFile target = true

theorem head?_dropWhile_ne {α : Type} (p : α → Bool) (l : List α) {a : α} (ha : p a = true) :
    (l.dropWhile p).head? ≠ some a := by
  intro h
  have hhead := List.head?_dropWhile_not p l
  rw [h] at hhead
  simp [ha] at hhead

theorem frontendFile_of_relPath {fs : FileSystem B} {folder : Path} {text rel : String}
    (h : relPath fs folder text = .ok rel) : FrontendFile fs folder rel := by
  unfold relPath at h
  dsimp only at h
  split at h
  · rename_i target root htarget hroot
    split at h
    · cases h
    · rename_i hparent
      split at h
      · cases h
      · rename_i hfile
        have hrel := Except.ok.inj h
        rw [hrel] at htarget
        refine ⟨?_, root, target, hroot, htarget, ?_, ?_⟩
        · rw [← hrel, lstripWhere, String.toList_ofList]
          exact head?_dropWhile_ne _ _ (decide_eq_true rfl)
        · simpa using hparent
        · simpa using hfile
  · cases h

theorem frontendFile_of_relPaths {fs : FileSystem B} {folder : Path} {value : Option Toml}
    {paths : List String} (h : relPaths fs folder value = .ok paths) :
    ∀ rel ∈ paths, FrontendFile fs folder rel := by
  unfold relPaths at h
  split at h
  · cases h
    exact fun _ hmem => absurd hmem List.not_mem_nil
  · split at h
    · rename_i texts htexts
      clear htexts
      induction texts generalizing paths with
      | nil =>
        cases h
        exact fun _ hmem => absurd hmem List.not_mem_nil
      | cons text texts ih =>
        rw [List.mapM_cons] at h
        obtain ⟨rel, hrel, hrest⟩ := bind_eq_ok.mp h
        obtain ⟨rels, hrels, hpaths⟩ := bind_eq_ok.mp hrest
        cases hpaths
        intro other hmem
        rcases List.mem_cons.mp hmem with rfl | hold
        · exact frontendFile_of_relPath hrel
        · exact ih hrels other hold
    · cases h
  · cases h

/-- What the checks of `parse_manifest` leave true. -/
structure Accepted (fs : FileSystem B) (folder : Path) (source : Source) (m : PluginManifest) :
    Prop where
  path : m.path = folder
  source : m.source = source
  name : folder.getLast?.getD [] = m.name.toList
  isSlug : isSlug m.name = true
  setup : ∀ text, m.setup = some text →
    strip text ≠ "" ∧ fs.isFile (joinPath folder text) = true
  check : ∀ text, m.check = some text →
    strip text ≠ "" ∧ fs.isFile (joinPath folder text) = true
  frontend : ∀ rel ∈ m.frontendScripts ++ m.frontendStyles, FrontendFile fs folder rel

theorem parseName_eq_ok {data : Table} {folder : Path} {name : String}
    (h : parseName data folder = .ok name) :
    folder.getLast?.getD [] = name.toList ∧ isSlug name = true := by
  unfold parseName at h
  split at h
  · split at h
    · cases h
    · rename_i hslug
      split at h
      · cases h
      · rename_i hname
        cases h
        exact ⟨(not_not.mp hname).symm, by simpa using hslug⟩
  · cases h

/-- **An accepted manifest.** -/
theorem accepted_of_parseManifest {fs : FileSystem B} {loads : B → Option Table} {folder : Path}
    {source : Source} {m : PluginManifest} (h : parseManifest fs loads folder source = .ok m) :
    Accepted fs folder source m := by
  unfold parseManifest at h
  split at h
  · cases h
  · split at h
    · cases h
    · unfold parseTable at h
      obtain ⟨name, hname, h⟩ := bind_eq_ok.mp h
      obtain ⟨version, -, h⟩ := bind_eq_ok.mp h
      obtain ⟨locked, -, h⟩ := bind_eq_ok.mp h
      obtain ⟨apiVersion, -, h⟩ := bind_eq_ok.mp h
      obtain ⟨provides, -, h⟩ := bind_eq_ok.mp h
      obtain ⟨deps, -, h⟩ := bind_eq_ok.mp h
      obtain ⟨apt, -, h⟩ := bind_eq_ok.mp h
      obtain ⟨setup, hsetup, h⟩ := bind_eq_ok.mp h
      obtain ⟨check, hcheck, h⟩ := bind_eq_ok.mp h
      obtain ⟨metaTable, -, h⟩ := bind_eq_ok.mp h
      obtain ⟨frontend, -, h⟩ := bind_eq_ok.mp h
      obtain ⟨⟨scripts, styles⟩, hfrontend, h⟩ := bind_eq_ok.mp h
      obtain ⟨sidebar, -, h⟩ := bind_eq_ok.mp h
      obtain ⟨hook, -, h⟩ := bind_eq_ok.mp h
      obtain ⟨requires, -, h⟩ := bind_eq_ok.mp h
      obtain ⟨description, -, h⟩ := bind_eq_ok.mp h
      obtain ⟨homepage, -, h⟩ := bind_eq_ok.mp h
      obtain ⟨author, -, h⟩ := bind_eq_ok.mp h
      cases h
      obtain ⟨hfolder, hslug⟩ := parseName_eq_ok hname
      refine ⟨rfl, rfl, hfolder, hslug, ?_, ?_, ?_⟩
      · rintro text rfl
        exact isFile_of_depsFile hsetup
      · rintro text rfl
        exact isFile_of_depsFile hcheck
      · unfold parseFrontend at hfrontend
        obtain ⟨scripts', hscripts, hfrontend⟩ := bind_eq_ok.mp hfrontend
        obtain ⟨styles', hstyles, hfrontend⟩ := bind_eq_ok.mp hfrontend
        split at hfrontend
        · cases hfrontend
        · cases hfrontend
          intro rel hmem
          rcases List.mem_append.mp hmem with hscript | hstyle
          · exact frontendFile_of_relPaths hscripts rel hscript
          · exact frontendFile_of_relPaths hstyles rel hstyle

end Meshpoint.ManifestFile
