import Meshpoint.LockedContent
import Meshpoint.PythonValues

/-!
# The catalog of a plugin source

`_entry` and `parse_catalog` (`src/plugins/sources.py`): the `repo.json` of a source repository.
Whatever `sound_of_parseCatalog` says of its entries is all that an install may rely on.

`F` is the type of floats.
-/

namespace Meshpoint.PluginCatalog

open JsonText MqttFormatter Raising PythonValues ByteCodec PyText ManifestFile LockedContent

abbrev Chars := List Char

/-! ### Slashes -/

def isSlash (c : Char) : Bool := c = '/'

/-- `text.rstrip("/")`. -/
def rstripSlash (text : Chars) : Chars := (text.reverse.dropWhile isSlash).reverse

/-- `text.strip("/")`. -/
def stripSlash (text : Chars) : Chars := rstripSlash (text.dropWhile isSlash)

/-- `text.rsplit("/", 1)[-1]`. -/
def afterLastSlash (text : Chars) : Chars := (text.reverse.takeWhile fun c => !isSlash c).reverse

theorem rstripSlash_le (text : Chars) : rstripSlash text <+: text := by
  have hsplit : text = rstripSlash text ++ (text.reverse.takeWhile isSlash).reverse := by
    rw [rstripSlash, ← List.reverse_append, List.takeWhile_append_dropWhile, List.reverse_reverse]
  exact ⟨_, hsplit.symm⟩

theorem afterLastSlash_append (head : Chars) {tail : Chars} (h : '/' ∉ tail) :
    afterLastSlash (head ++ '/' :: tail) = tail := by
  have hreverse : (head ++ '/' :: tail).reverse = tail.reverse ++ '/' :: head.reverse := by simp
  rw [afterLastSlash, hreverse, List.takeWhile_append_of_pos, List.takeWhile_cons_of_neg,
    List.append_nil, List.reverse_reverse]
  · simp [isSlash]
  · intro c hc
    rw [List.mem_reverse] at hc
    have hne : c ≠ '/' := fun heq => h (heq ▸ hc)
    simpa [isSlash] using hne

/-! ### Entries -/

/-- `PluginSourceError`. -/
structure SourceError where
  code : String
  message : String

/-- What reading a catalog raises: its own error, or one of the Python runtime. -/
inductive CatalogFault
  | source (error : SourceError)
  | raised (error : PyException)

structure Entry where
  id : String
  kind : ContentKind
  path : Chars
  version : String
  meshpointApi : Int
  provides : List String
  description : String
  author : String
  homepage : String
  hasSetup : Bool
  compatible : Bool
  hookHost : Option String
  requires : Option String

def kindName : ContentKind → String
  | .app => "app"
  | .theme => "theme"

def folderName : ContentKind → Chars
  | .app => appsName
  | .theme => themesName

/-- `expected_prefix`. -/
def expectedPrefix (kind : ContentKind) : Chars := folderName kind ++ ['/']

/-- `PluginSourceError("catalog", message)`. -/
def refuse {α : Type} (message : String) : Except CatalogFault α :=
  .error (.source ⟨"catalog", message⟩)

/-- The checks of `path`. -/
def isEntryPath (kind : ContentKind) (pid : String) (path : Chars) : Bool :=
  expectedPrefix kind <+: path && !decide (['.', '.'] <:+: path) &&
    (stripSlash path).count '/' = 1 && afterLastSlash (rstripSlash path) = pid.toList

theorem folderName_spec (kind : ContentKind) :
    '/' ∉ folderName kind ∧ ∀ rest, (folderName kind ++ rest).dropWhile isSlash =
      folderName kind ++ rest := by
  cases kind with
  | app => exact ⟨by decide, fun _ => rfl⟩
  | theme => exact ⟨by decide, fun _ => rfl⟩

/-- The path of an entry is one level below the folder of its kind, and ends in the id. -/
theorem stripSlash_of_isEntryPath {kind : ContentKind} {pid : String} {path : Chars}
    (hpid : pid.toList ≠ []) (h : isEntryPath kind pid path = true) :
    stripSlash path = expectedPrefix kind ++ pid.toList := by
  simp only [isEntryPath, Bool.and_eq_true, decide_eq_true_eq] at h
  obtain ⟨⟨⟨hbegins, -⟩, hcount⟩, hlast⟩ := h
  obtain ⟨hfolder, hdrop⟩ := folderName_spec kind
  have hstrip : stripSlash path = rstripSlash path := by
    obtain ⟨rest, rfl⟩ := hbegins
    rw [stripSlash, expectedPrefix, List.append_assoc, hdrop]
  rw [hstrip] at hcount ⊢
  rcases List.prefix_or_prefix_of_prefix (rstripSlash_le path) hbegins with hshort | hlong
  · -- no more than the folder is left
    exfalso
    rcases List.prefix_concat_iff.mp hshort with heq | hshorter
    · rw [heq, afterLastSlash_append _ List.not_mem_nil] at hlast
      exact hpid hlast.symm
    · have hmem : '/' ∈ rstripSlash path := List.count_pos_iff.mp (by omega)
      exact hfolder (hshorter.subset hmem)
  · obtain ⟨tail, htail⟩ := hlong
    have hsplit : rstripSlash path = folderName kind ++ '/' :: tail := by
      rw [← htail, expectedPrefix, List.append_assoc]
      rfl
    have hnone : '/' ∉ tail := by
      rw [hsplit, List.count_append, List.count_eq_zero_of_not_mem hfolder,
        List.count_cons_self] at hcount
      exact List.count_eq_zero.mp (by omega)
    rw [hsplit, afterLastSlash_append _ hnone] at hlast
    rw [← htail, hlast]

section

variable {F : Type} [StationFloat F]

/-- `_s`. -/
def textField (raw : Entries F) (key : String) : String :=
  match getOr raw key (.str "") with
  | .str text => strip text
  | _ => ""

/-- A slug that is only a hint: anything else counts as none. -/
def hintField (raw : Entries F) (key : String) : String :=
  match getValue raw key with
  | .str text => if isSlug (strip text) then strip text else ""
  | _ => ""

def textsOf : List (Value F) → Option (List String)
  | [] => some []
  | .str text :: rest => (textsOf rest).map (text :: ·)
  | _ :: _ => none

/-- `provides`, which is empty for anything but a list of texts. -/
def providesField (raw : Entries F) : List String :=
  match getOr raw "provides" (.list .nil) with
  | .list values => (textsOf (items values)).getD []
  | _ => []

def appHint (kind : ContentKind) (hint : String) : Option String :=
  match kind with
  | .theme => none
  | .app => if hint = "" then none else some hint

/-- `_entry`. -/
def readEntry (kind : ContentKind) : Value F → Except CatalogFault Entry
  | .dict raw =>
    match getValue raw "id" with
    | .str pid =>
      if !isSlug pid then refuse (kindName kind ++ " 'id' must be a slug [a-z0-9-]")
      else
        match getValue raw "path" with
        | .str path =>
          if !isEntryPath kind pid path.toList then refuse (pathMessage kind pid)
          else
            match getValue raw "version" with
            | .str version =>
              if strip version = "" then refuse (versionMessage kind)
              else
                match getOr raw "meshpoint_api" (.int 1) with
                | .int api =>
                  if api < 1 then refuse (apiMessage kind)
                  else .ok {
                    id := pid
                    kind := kind
                    path := stripSlash path.toList
                    version := strip version
                    meshpointApi := api
                    provides := providesField raw
                    description := textField raw "description"
                    author := textField raw "author"
                    homepage := textField raw "homepage"
                    hasSetup := truthy (getValue raw "has_setup")
                    compatible := api ≤ pluginApiVersion
                    hookHost := appHint kind (hintField raw "hook_host")
                    requires := appHint kind (hintField raw "requires") }
                | _ => refuse (apiMessage kind)
            | _ => refuse (versionMessage kind)
        | _ => refuse (pathMessage kind pid)
    | _ => refuse (kindName kind ++ " 'id' must be a slug [a-z0-9-]")
  | _ => refuse ("each " ++ kindName kind ++ " entry must be an object")
where
  pathMessage (kind : ContentKind) (pid : String) : String :=
    kindName kind ++ " 'path' must be " ++ String.ofList (expectedPrefix kind) ++ pid ++
      " (one level, matching id)"
  versionMessage (kind : ContentKind) : String :=
    kindName kind ++ " 'version' must be a non-empty string"
  apiMessage (kind : ContentKind) : String :=
    kindName kind ++ " 'meshpoint_api' must be an integer >= 1"

end

/-! ### Catalogs -/

structure Catalog where
  name : String
  description : String
  plugins : List Entry
  themes : List Entry

/-- `plugins + themes`. -/
def Catalog.entries (catalog : Catalog) : List Entry := catalog.plugins ++ catalog.themes

/-- What reading a catalog uses of the Python runtime. -/
structure CatalogRuntime (F : Type) where
  /-- `json.loads(data.decode("utf-8"))`. -/
  loads : Bytes → Loaded F
  /-- The text of the error that it raises on bytes which are no JSON. -/
  loadsError : Bytes → String
  /-- `repr(value)`. -/
  pyRepr : Value F → String

/-- The first id that occurs before, in `seen` or in the list. -/
def firstDuplicate (seen : List String) : List String → Option String
  | [] => none
  | id :: rest => if id ∈ seen then some id else firstDuplicate (id :: seen) rest

section

variable {F : Type} [StationFloat F] (rt : CatalogRuntime F)

/-- `[_entry(e, kind) for e in raw.get(key, []) or []]`. -/
def readEntries (kind : ContentKind) (raw : Entries F) (key : String) :
    Except CatalogFault (List Entry) :=
  match iterate (valueOr (getOr raw key (.list .nil)) (.list .nil)) with
  | .error e => .error (.raised e)
  | .ok values => values.mapM (readEntry kind)

/-- `parse_catalog`. -/
def parseCatalog (data : Bytes) : Except CatalogFault Catalog :=
  match rt.loads data with
  | .malformed => refuse ("repo.json is not valid JSON: " ++ rt.loadsError data)
  | .refused e => .error (.raised e)
  | .value (.dict raw) =>
    if !equalsInt 1 (getValue raw "meshpoint_repo") then
      refuse ("'meshpoint_repo' must be 1 (got " ++
        rt.pyRepr (getValue raw "meshpoint_repo") ++ ")")
    else do
      let plugins ← readEntries .app raw "plugins"
      let themes ← readEntries .theme raw "themes"
      match firstDuplicate [] ((plugins ++ themes).map Entry.id) with
      | some id => refuse ("duplicate id " ++ rt.pyRepr (.str id) ++ " in repo.json")
      | none => .ok {
          name := textField raw "name"
          description := textField raw "description"
          plugins := plugins
          themes := themes }
  | .value _ => refuse "repo.json must be a JSON object"

/-! ### What is accepted -/

/-- The entry names one folder, below the folder of its kind. -/
structure Entry.Sound (entry : Entry) : Prop where
  slug : isSlug entry.id = true
  path : entry.path = expectedPrefix entry.kind ++ entry.id.toList
  version : entry.version ≠ ""
  api : 1 ≤ entry.meshpointApi

theorem sound_of_readEntry {kind : ContentKind} {value : Value F} {entry : Entry}
    (h : readEntry kind value = .ok entry) : entry.Sound ∧ entry.kind = kind := by
  unfold readEntry at h
  split at h
  · split at h
    · rename_i pid _
      split at h
      · cases h
      · rename_i hslug
        have hslug' : isSlug pid = true := by simpa using hslug
        split at h
        · split at h
          · cases h
          · rename_i hpath
            split at h
            · split at h
              · cases h
              · rename_i hversion
                split at h
                · split at h
                  · cases h
                  · rename_i hapi
                    cases h
                    have hid := (plain_of_isSlug hslug').2.1
                    exact ⟨⟨hslug', stripSlash_of_isEntryPath hid (by simpa using hpath), hversion,
                      by simpa using hapi⟩, rfl⟩
                · cases h
            · cases h
        · cases h
    · cases h
  · cases h

theorem sound_of_readEntries {kind : ContentKind} {raw : Entries F} {key : String}
    {entries : List Entry} (h : readEntries kind raw key = .ok entries) :
    ∀ entry ∈ entries, entry.Sound ∧ entry.kind = kind := by
  unfold readEntries at h
  split at h
  · cases h
  · rename_i values _
    intro entry hentry
    obtain ⟨value, -, hvalue⟩ := mem_of_mapM_eq_ok h hentry
    exact sound_of_readEntry hvalue

omit [StationFloat F] in
theorem firstDuplicate_eq_none_iff {seen ids : List String} :
    firstDuplicate seen ids = none ↔ ids.Nodup ∧ ∀ id ∈ ids, id ∉ seen := by
  induction ids generalizing seen with
  | nil => simp [firstDuplicate]
  | cons id rest ih =>
    unfold firstDuplicate
    by_cases hseen : id ∈ seen
    · simp [hseen]
    · rw [if_neg hseen, ih, List.nodup_cons, List.forall_mem_cons]
      simp only [List.mem_cons, not_or]
      constructor
      · rintro ⟨hrest, hapart⟩
        exact ⟨⟨fun hmem => (hapart id hmem).1 rfl, hrest⟩, hseen,
          fun other hother => (hapart other hother).2⟩
      · rintro ⟨⟨hfirst, hrest⟩, -, hapart⟩
        refine ⟨hrest, fun other hother => ⟨?_, hapart other hother⟩⟩
        rintro rfl
        exact hfirst hother

/-- **An accepted catalog**: its entries are sound, and no two have one id. -/
theorem sound_of_parseCatalog {data : Bytes} {catalog : Catalog}
    (h : parseCatalog rt data = .ok catalog) :
    (∀ entry ∈ catalog.entries, entry.Sound) ∧ (catalog.entries.map Entry.id).Nodup := by
  unfold parseCatalog at h
  split at h
  · cases h
  · cases h
  · split at h
    · cases h
    · obtain ⟨plugins, hplugins, h⟩ := bind_eq_ok_iff.mp h
      obtain ⟨themes, hthemes, h⟩ := bind_eq_ok_iff.mp h
      split at h
      · cases h
      · rename_i hnone
        cases h
        refine ⟨?_, (firstDuplicate_eq_none_iff.mp hnone).1⟩
        intro entry hentry
        rcases List.mem_append.mp hentry with hplugin | htheme
        · exact (sound_of_readEntries hplugins entry hplugin).1
        · exact (sound_of_readEntries hthemes entry htheme).1
  · cases h

def Entry.listed (entry : Entry) : CatalogEntry := ⟨entry.id, entry.kind, entry.meshpointApi⟩

theorem parseCatalog_listed {data : Bytes} {catalog : Catalog}
    (h : parseCatalog rt data = .ok catalog) :
    LockedContent.parseCatalog (catalog.entries.map Entry.listed) =
      some (catalog.entries.map Entry.listed) := by
  obtain ⟨hsound, hnodup⟩ := sound_of_parseCatalog rt h
  unfold LockedContent.parseCatalog
  rw [if_pos]
  constructor
  · rw [List.all_eq_true]
    intro listed hlisted
    obtain ⟨entry, hentry, rfl⟩ := List.mem_map.mp hlisted
    simp [Entry.listed, (hsound entry hentry).slug, (hsound entry hentry).api]
  · rw [List.map_map]
    exact hnodup

end

end Meshpoint.PluginCatalog
