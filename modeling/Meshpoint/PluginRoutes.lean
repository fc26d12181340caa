import Mathlib.Data.List.Sort
import Mathlib.Data.String.Basic

/-!
# The plugins and the requests that change them

A plugin may name the page it hooks into or another plugin it requires.  Which plugins are
installed is what the two folders hold; which are enabled is what the configuration says of
them.  The requests of the plugin page enable and disable, delete, and install from a source.
-/

namespace Meshpoint.PluginRoutes

/-! ### Manifests -/

/-- Where a plugin folder was found. -/
inductive Source
  | builtin
  | community
deriving DecidableEq

structure SidebarSpec where
  route : String
deriving DecidableEq

structure HookSpec where
  host : String
deriving DecidableEq

/-- The part of `plugin.toml` that the requests read. -/
structure PluginManifest where
  name : String
  source : Source := .community
  locked : Bool := false
  sidebar : Option SidebarSpec := none
  hook : Option HookSpec := none
  requires : Option String := none
  /-- `_parse_requires` refuses the plugin's own name. -/
  requires_ne : requires ≠ some name := by decide
deriving DecidableEq

/-- `plugins.<id>.enabled` as the configuration has it. -/
inductive Setting
  | missing
  | bool (b : Bool)
  | other (truthy : Bool)
deriving DecidableEq

/-- `bool(enabled)`. -/
def Setting.truthy : Setting → Bool
  | .missing => false
  | .bool b => b
  | .other truthy => truthy

/-- `is_plugin_enabled`. -/
def isPluginEnabled (manifest : PluginManifest) (enabled : Setting) : Bool :=
  match manifest.source with
  | .builtin => enabled ≠ .bool false
  | .community => enabled.truthy

abbrev Settings := String → Setting

/-- `_is_enabled`. -/
def isEnabled (config : Settings) (manifest : PluginManifest) : Bool :=
  isPluginEnabled manifest (config manifest.name)

/-- The two folders, one manifest a folder, and the settings. -/
structure Plugins where
  builtins : List PluginManifest
  community : List PluginManifest
  config : Settings
  builtins_source : ∀ m ∈ builtins, m.source = .builtin
  community_source : ∀ m ∈ community, m.source = .community
  builtins_nodup : (builtins.map PluginManifest.name).Nodup
  community_nodup : (community.map PluginManifest.name).Nodup

/-- `discover_plugins`: a built-in id wins an id collision. -/
def Plugins.discover (s : Plugins) : List PluginManifest :=
  s.builtins ++ s.community.filter fun m => m.name ∉ s.builtins.map PluginManifest.name

/-! ### Dependencies -/

/-- `_route_map`: of several plugins with one route the last. -/
def routeMap (manifests : List PluginManifest) (route : String) : Option PluginManifest :=
  manifests.reverse.find? fun m => m.sidebar = some ⟨route⟩

/-- `_name_map`. -/
def nameMap (manifests : List PluginManifest) (name : String) : Option PluginManifest :=
  manifests.reverse.find? fun m => m.name = name

/-- `_dependency_target`: the plugin this one depends on, and the reference it names it by. -/
def dependencyTarget (manifests : List PluginManifest) (manifest : PluginManifest) :
    Option PluginManifest × Option String :=
  match manifest.hook with
  | some hook => (routeMap manifests hook.host, some hook.host)
  | none =>
    match manifest.requires with
    | some requires => (nameMap manifests requires, some requires)
    | none => (none, none)

/-! ### Enabling and disabling -/

/-- `_save_enabled`, in memory. -/
def saveEnabled (config : Settings) (pluginId : String) (enabled : Bool) : Settings :=
  Function.update config pluginId (.bool enabled)

def targetsFrontier (manifests : List PluginManifest) (frontier : List String)
    (m : PluginManifest) : Bool :=
  match dependencyTarget manifests m with
  | (some target, some _) => target.name ∈ frontier
  | _ => false

/-- One round of `_cascade_disable_dependents`, over the manifests still to come: the settings,
    the ids disabled so far and those of this round. -/
def cascadeRound (manifests : List PluginManifest) (frontier : List String) :
    List PluginManifest → Settings → (disabled newlyDisabled : List String) →
      Settings × List String × List String
  | [], config, disabled, newlyDisabled => (config, disabled, newlyDisabled)
  | m :: rest, config, disabled, newlyDisabled =>
    if m.name ∈ disabled ∨ m.name ∈ frontier then
      cascadeRound manifests frontier rest config disabled newlyDisabled
    else if targetsFrontier manifests frontier m = false then
      cascadeRound manifests frontier rest config disabled newlyDisabled
    else if isEnabled config m = false then
      cascadeRound manifests frontier rest config disabled newlyDisabled
    else
      cascadeRound manifests frontier rest (saveEnabled config m.name false)
        (disabled ++ [m.name]) (m.name :: newlyDisabled)

/-- The rounds of `_cascade_disable_dependents`, at most `fuel`. -/
def cascadeRounds (manifests : List PluginManifest) :
    (fuel : Nat) → Settings → (disabled frontier : List String) → Settings × List String
  | 0, config, disabled, _ => (config, disabled)
  | fuel + 1, config, disabled, frontier =>
    if frontier = [] then (config, disabled)
    else
      match cascadeRound manifests frontier manifests config disabled [] with
      | (config, disabled, newlyDisabled) =>
        cascadeRounds manifests fuel config disabled newlyDisabled

/-- `_cascade_disable_dependents`: every round but the last disables a plugin, so there are no
    more than one for each plugin and one. -/
def cascadeDisableDependents (manifests : List PluginManifest) (config : Settings)
    (disabledId : String) : Settings × List String :=
  cascadeRounds manifests (manifests.length + 1) config [] [disabledId]

/-- Why a request is refused. -/
inductive Refusal
  /-- 404 -/
  | noPlugin (pluginId : String)
  /-- 400: hooks into a page that no installed plugin provides -/
  | noPage (pluginId host : String)
  /-- 400: the plugin with the page is not enabled -/
  | enableHostFirst (pluginId target : String)
  /-- 400: requires a plugin that is not installed -/
  | notInstalled (pluginId requires : String)
  /-- 400: the required plugin is not enabled -/
  | enableRequiredFirst (pluginId target : String)
  /-- 403: `local.yaml` is not writable -/
  | notWritable
  /-- 403 -/
  | deleteBuiltin (pluginId : String)
  /-- 403 -/
  | deleteLocked (pluginId : String)
  /-- 403: the folder is not writable -/
  | folderNotWritable (pluginId : String)
  /-- 409 -/
  | replaceBuiltin (pluginId : String)
  /-- 409 -/
  | replaceLocked (pluginId : String)
  /-- 400, 403, 404 or 502: catalog, download, manifest check or folder -/
  | notInstallable (pluginId : String)
deriving DecidableEq

/-- The check before a plugin is enabled: of a plugin with a hook and a requirement it is the
    hook's. -/
def checkDependency (manifests : List PluginManifest) (config : Settings)
    (manifest : PluginManifest) : Option Refusal :=
  match manifest.hook, manifest.requires with
  | none, none => none
  | some hook, _ =>
    match dependencyTarget manifests manifest with
    | (none, _) => some (.noPage manifest.name hook.host)
    | (some target, _) =>
      if isEnabled config target then none else some (.enableHostFirst manifest.name target.name)
  | none, some requires =>
    match dependencyTarget manifests manifest with
    | (none, _) => some (.notInstalled manifest.name requires)
    | (some target, _) =>
      if isEnabled config target then none
      else some (.enableRequiredFirst manifest.name target.name)

def Plugins.findManifest (s : Plugins) (pluginId : String) : Option PluginManifest :=
  s.discover.find? fun m => m.name = pluginId

/-- `update_plugin`: what is left, and the ids that were disabled along; `writable` tells whether
    `local.yaml` takes the write. -/
def Plugins.update (s : Plugins) (pluginId : String) (enabled writable : Bool) :
    Plugins × Except Refusal (List String) :=
  match s.findManifest pluginId with
  | none => (s, .error (.noPlugin pluginId))
  | some manifest =>
    match if enabled then checkDependency s.discover s.config manifest else none with
    | some refusal => (s, .error refusal)
    | none =>
      let config := saveEnabled s.config pluginId enabled
      -- the setting is changed before the file is written
      if writable = false then ({ s with config := config }, .error .notWritable)
      else if enabled then ({ s with config := config }, .ok [])
      else
        match cascadeDisableDependents s.discover config pluginId with
        | (config, alsoDisabled) => ({ s with config := config }, .ok alsoDisabled)

/-! ### Deleting and installing -/

/-- How the removal of a folder ends. -/
inductive RmTree
  | removed
  /-- permission is denied, with or without the manifest gone -/
  | denied (manifestGone : Bool)
deriving DecidableEq

/-- The folders without the community folder of an id. -/
def Plugins.dropFolder (s : Plugins) (pluginId : String) : Plugins :=
  { s with
    community := s.community.filter fun m => m.name ≠ pluginId
    community_source := fun m hm => s.community_source m (List.mem_of_mem_filter hm)
    community_nodup := s.community_nodup.sublist (List.filter_sublist.map _) }

/-- `delete_plugin`. -/
def Plugins.delete (s : Plugins) (pluginId : String) (rmtree : RmTree) :
    Plugins × Except Refusal Unit :=
  match s.findManifest pluginId with
  | none => (s, .error (.noPlugin pluginId))
  | some manifest =>
    if manifest.source ≠ .community then (s, .error (.deleteBuiltin pluginId))
    else if manifest.locked then (s, .error (.deleteLocked pluginId))
    else
      match rmtree with
      | .denied manifestGone =>
        (if manifestGone then s.dropFolder pluginId else s, .error (.folderNotWritable pluginId))
      | .removed =>
        let s := s.dropFolder pluginId
        ({ s with config := Function.update s.config pluginId .missing }, .ok ())

theorem name_ne_of_mem_filter {manifests : List PluginManifest} {name : String} :
    name ∉ (manifests.filter fun m => m.name ≠ name).map PluginManifest.name := by
  intro hmem
  obtain ⟨m, hm, hname⟩ := List.mem_map.mp hmem
  simp only [ne_eq, decide_not, List.mem_filter, Bool.not_eq_true', decide_eq_false_iff_not] at hm
  exact hm.2 hname

/-- `place`: the folder of a manifest goes to its place in the order of names, over any folder of
    the same name. -/
def Plugins.place (s : Plugins) (manifest : PluginManifest) : Plugins :=
  { s with
    community := (s.dropFolder manifest.name).community.orderedInsert
      (fun m m' => m.name ≤ m'.name) { manifest with source := .community }
    community_source := by
      intro m hm
      rcases List.mem_orderedInsert _ |>.mp hm with rfl | hold
      · rfl
      · exact (s.dropFolder manifest.name).community_source m hold
    community_nodup := by
      have hperm := (List.perm_orderedInsert (fun m m' : PluginManifest => m.name ≤ m'.name)
        { manifest with source := .community } (s.dropFolder manifest.name).community).map
          PluginManifest.name
      apply hperm.nodup_iff.mpr
      exact List.nodup_cons.mpr
        ⟨name_ne_of_mem_filter, (s.dropFolder manifest.name).community_nodup⟩ }

/-- What the source has under an id. -/
inductive Fetched
  | refused
  | theme
  | app (manifest : PluginManifest)

/-- `install_from_source_route`, from the checks against the installed plugins on.  The record of
    where the folder came from leaves the setting as it is. -/
def Plugins.install (s : Plugins) (pluginId : String) (fetched : Fetched) :
    Plugins × Except Refusal Unit :=
  let existing := s.findManifest pluginId
  if existing.any fun m => m.source ≠ .community then (s, .error (.replaceBuiltin pluginId))
  else if existing.any fun m => m.locked then (s, .error (.replaceLocked pluginId))
  else
    match fetched with
    | .refused => (s, .error (.notInstallable pluginId))
    | .theme => (s, .ok ())
    | .app manifest =>
      if manifest.name ≠ pluginId ∨ manifest.locked then (s, .error (.notInstallable pluginId))
      else (s.place manifest, .ok ())

/-! ### Requests -/

inductive Request
  | enable (pluginId : String) (writable : Bool)
  | disable (pluginId : String) (writable : Bool)
  | delete (pluginId : String) (rmtree : RmTree)
  | install (pluginId : String) (fetched : Fetched)

def Plugins.handle (s : Plugins) : Request → Plugins
  | .enable pluginId writable => (s.update pluginId true writable).1
  | .disable pluginId writable => (s.update pluginId false writable).1
  | .delete pluginId rmtree => (s.delete pluginId rmtree).1
  | .install pluginId fetched => (s.install pluginId fetched).1

end Meshpoint.PluginRoutes
