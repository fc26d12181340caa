import Meshpoint.DependencyGraph
import Meshpoint.PluginCascade

/-!
# Which requests keep the dependencies of the enabled plugins

A plugin may hook into a page and require a plugin besides, but `_dependency_target` reads the
requirement only where there is no hook.  Enabling checks, and disabling follows, that one
dependency; deleting and installing look at none.  `keepsDependencies_iff` says of every sequence
of requests which ones leave every enabled plugin with its dependencies.
-/

namespace Meshpoint.PluginRoutes

open Relation DependencyGraph

/-! ### The property -/

/-- The host of its page and the plugin it requires are installed and enabled. -/
def Satisfied (manifests : List PluginManifest) (config : Settings) (m : PluginManifest) : Prop :=
  ∀ ref ∈ m.references, ∃ t, resolve manifests ref = some t ∧ isEnabled config t

def Sound (s : Plugins) : Prop :=
  ∀ m ∈ s.discover, isEnabled s.config m → Satisfied s.discover s.config m

/-- A disabling disables the plugin and exactly the enabled ones that depend on it, directly or
    through others. -/
def DisablesDependents (s : Plugins) : Request → Prop
  | .disable pluginId writable =>
    ∀ p ∈ s.discover, p.name = pluginId → ∀ m ∈ s.discover,
      isEnabled (s.handle (.disable pluginId writable)).config m ↔
        Without (DependsOn s.discover) (fun m => isEnabled s.config m) p m
  | _ => True

def KeepsDependencies (s : Plugins) : List Request → Prop
  | [] => Sound s
  | r :: rs => Sound s ∧ DisablesDependents s r ∧ KeepsDependencies (s.handle r) rs

/-! ### The condition -/

def withoutId (manifests : List PluginManifest) (pluginId : String) : List PluginManifest :=
  manifests.filter fun m => m.name ≠ pluginId

/-- The one dependency a disabling follows; when the file cannot be written it follows none. -/
def Traced (s : Plugins) (writable : Bool) (m t : PluginManifest) : Prop :=
  writable = true ∧ Follows s.discover m t

/-- The manifest passes the checks of an installation under the id. -/
structure Installable (s : Plugins) (pluginId : String) (manifest : PluginManifest) : Prop where
  replaces : ∀ m ∈ s.discover, m.name = pluginId → m.source = .community ∧ m.locked = false
  name : manifest.name = pluginId
  unlocked : manifest.locked = false

/-- When a request keeps the dependencies.

    * A plugin with a hook and a requirement is enabled only when the required plugin is.
    * A plugin is disabled only when every enabled plugin that depends on it, or on a plugin the
      cascade reaches, is reached itself.
    * A plugin is deleted only when no other enabled plugin requires it, and the pages it provides
      to the hooks of others pass to an enabled plugin.
    * A plugin whose setting is on is installed or updated only when its dependencies are enabled,
      and the pages it takes over or gives up are then provided by an enabled plugin. -/
def KeepsThem (s : Plugins) : Request → Prop
  | .enable pluginId _ =>
    ∀ m ∈ s.discover, m.name = pluginId → ∀ hook requires, m.hook = some hook →
      m.requires = some requires →
      (∃ host, routeMap s.discover hook.host = some host ∧ isEnabled s.config host) →
      isEnabled s.config m ∨
        ∃ t, nameMap s.discover requires = some t ∧ isEnabled s.config t
  | .disable pluginId writable =>
    ∀ p ∈ s.discover, p.name = pluginId → ∀ m ∈ s.discover, isEnabled s.config m → m ≠ p →
      ∀ t, DependsOn s.discover m t → t = p ∨ TransGen (Traced s writable) t p →
        TransGen (Traced s writable) m p
  | .delete pluginId rmtree =>
    ∀ p ∈ s.discover, p.name = pluginId → p.source = .community → p.locked = false →
      rmtree ≠ .denied false → ∀ m ∈ s.discover, isEnabled s.config m → m ≠ p →
        m.requires ≠ some pluginId ∧ ∀ hook, m.hook = some hook →
          routeMap s.discover hook.host = some p →
          ∃ t, routeMap (withoutId s.discover pluginId) hook.host = some t ∧ isEnabled s.config t
  | .install pluginId fetched =>
    ∀ manifest, fetched = .app manifest → Installable s pluginId manifest →
      ((s.config pluginId).truthy → Satisfied (s.place manifest).discover s.config manifest) ∧
      ∀ m ∈ s.discover, isEnabled s.config m → m.name ≠ pluginId → ∀ hook, m.hook = some hook →
        (manifest.sidebar = some ⟨hook.host⟩ ∨
          ∃ old, routeMap s.discover hook.host = some old ∧ old.name = pluginId) →
        ∃ t, routeMap (s.place manifest).discover hook.host = some t ∧ isEnabled s.config t

/-- Every request of the sequence keeps the dependencies. -/
def AllKeepThem (s : Plugins) : List Request → Prop
  | [] => True
  | r :: rs => KeepsThem s r ∧ AllKeepThem (s.handle r) rs

/-! ### Enabling -/

def On (s : Plugins) (m : PluginManifest) : Prop := m ∈ s.discover ∧ isEnabled s.config m

theorem Sound.closed {s : Plugins} (h : Sound s) : Closed (DependsOn s.discover) (On s) := by
  rintro m t ⟨hm, hon⟩ ⟨ref, href, hresolve⟩
  obtain ⟨t', hresolve', hon'⟩ := h m hm hon ref href
  obtain rfl : t' = t := Option.some.inj (hresolve'.symm.trans hresolve)
  exact ⟨resolve_mem hresolve, hon'⟩

theorem sound_iff_closed {s : Plugins} (h : Sound s) {config : Settings}
    (hless : ∀ m ∈ s.discover, isEnabled config m → isEnabled s.config m) :
    Sound { s with config := config } ↔
      Closed (DependsOn s.discover) (On { s with config := config }) := by
  refine ⟨Sound.closed, ?_⟩
  intro hclosed m hm hon ref href
  obtain ⟨t, hresolve, _⟩ := h m hm (hless m hm hon) ref href
  exact ⟨t, hresolve, (hclosed ⟨hm, hon⟩ ⟨ref, href, hresolve⟩).2⟩

theorem checkDependency_eq_none {manifests : List PluginManifest} {config : Settings}
    {m : PluginManifest} : checkDependency manifests config m = none ↔
      (∀ hook, m.hook = some hook →
        ∃ host, routeMap manifests hook.host = some host ∧ isEnabled config host) ∧
      (m.hook = none → ∀ requires, m.requires = some requires →
        ∃ t, nameMap manifests requires = some t ∧ isEnabled config t) := by
  unfold checkDependency dependencyTarget
  cases hhook : m.hook with
  | some hook =>
    simp only [Option.some.injEq, forall_eq', reduceCtorEq, false_implies, and_true]
    cases routeMap manifests hook.host with
    | none => simp
    | some host => by_cases hon : isEnabled config host <;> simp [hon]
  | none =>
    cases hrequires : m.requires with
    | none => simp
    | some requires =>
      simp only [Option.some.injEq, forall_eq', reduceCtorEq, false_implies, implies_true,
        true_implies, true_and]
      cases nameMap manifests requires with
      | none => simp
      | some t => by_cases hon : isEnabled config t <;> simp [hon]

theorem handle_enable (s : Plugins) (pluginId : String) (writable : Bool) :
    s.handle (.enable pluginId writable) =
      match s.findManifest pluginId with
      | none => s
      | some m =>
        match checkDependency s.discover s.config m with
        | some _ => s
        | none => { s with config := saveEnabled s.config pluginId true } := by
  simp only [Plugins.handle, Plugins.update, if_true]
  cases s.findManifest pluginId with
  | none => rfl
  | some m =>
    simp only
    cases checkDependency s.discover s.config m with
    | some refusal => rfl
    | none => cases writable <;> rfl

theorem sound_enable_iff {s : Plugins} (h : Sound s) (pluginId : String) (writable : Bool) :
    Sound (s.handle (.enable pluginId writable)) ↔ KeepsThem s (.enable pluginId writable) := by
  rw [handle_enable]
  cases hfind : s.findManifest pluginId with
  | none =>
    refine iff_of_true h ?_
    intro m hm hname
    have hsome := Plugins.findManifest_eq_some.mpr ⟨hm, hname⟩
    rw [hfind] at hsome
    cases hsome
  | some m =>
    obtain ⟨hm, rfl⟩ := Plugins.findManifest_eq_some.mp hfind
    simp only
    cases hcheck : checkDependency s.discover s.config m with
    | some refusal =>
      refine iff_of_true h ?_
      intro m' hm' hname hook requires hhook _ hhost
      obtain rfl := s.eq_of_name hm' hm hname
      have hnone : checkDependency s.discover s.config m' = none := by
        apply checkDependency_eq_none.mpr
        rw [hhook]
        refine ⟨?_, nofun⟩
        intro hook' heq
        cases heq
        exact hhost
      rw [hcheck] at hnone
      cases hnone
    | none =>
      obtain ⟨hhook, hrequires⟩ := checkDependency_eq_none.mp hcheck
      have hmore : ∀ t, isEnabled s.config t → isEnabled (saveEnabled s.config m.name true) t := by
        intro t ht
        by_cases hname : t.name = m.name
        · rw [← hname]
          exact isEnabled_saveEnabled_self s.config t true
        · rw [isEnabled_saveEnabled_of_ne hname]
          exact ht
      constructor
      · intro hsound m' hm' hname hook requires _ hrequires' _
        obtain rfl := s.eq_of_name hm' hm hname
        obtain ⟨t, hresolve, hon⟩ := hsound m' hm' (isEnabled_saveEnabled_self _ _ _)
          (.plugin requires) (mem_references.mpr (.inr ⟨requires, hrequires', rfl⟩))
        right
        refine ⟨t, hresolve, ?_⟩
        have hne : t.name ≠ m'.name := by
          intro heq
          have hself := m'.requires_ne
          rw [hrequires', ← heq, nameMap_name hresolve] at hself
          exact hself rfl
        rwa [isEnabled_saveEnabled_of_ne hne] at hon
      · intro hkeeps m' hm' hon ref href
        have hbefore : isEnabled s.config m' → ∃ t, resolve s.discover ref = some t ∧
            isEnabled (saveEnabled s.config m.name true) t := by
          intro hon'
          obtain ⟨t, hresolve, ht⟩ := h m' hm' hon' ref href
          exact ⟨t, hresolve, hmore t ht⟩
        by_cases hname : m'.name = m.name
        · obtain rfl := s.eq_of_name hm' hm hname
          rcases mem_references.mp href with ⟨hook, hhook', rfl⟩ | ⟨requires, hrequires', rfl⟩
          · obtain ⟨host, hresolve, hhost⟩ := hhook hook hhook'
            exact ⟨host, hresolve, hmore host hhost⟩
          · cases hhook' : m'.hook with
            | none =>
              obtain ⟨t, hresolve, ht⟩ := hrequires hhook' requires hrequires'
              exact ⟨t, hresolve, hmore t ht⟩
            | some hook =>
              rcases hkeeps m' hm' rfl hook requires hhook' hrequires' (hhook hook hhook') with
                hon' | ⟨t, hresolve, ht⟩
              · exact hbefore hon'
              · exact ⟨t, hresolve, hmore t ht⟩
        · apply hbefore
          rw [← isEnabled_saveEnabled_of_ne hname]
          exact hon

/-! ### Disabling -/

/-- What a disabling leaves of the enabled plugins: all but the plugin and what the cascade
    reaches. -/
theorem on_disable_iff {s : Plugins} (h : Sound s) {p : PluginManifest} (hp : p ∈ s.discover)
    (writable : Bool) :
    ∃ config, s.handle (.disable p.name writable) = { s with config := config } ∧
      (∀ m ∈ s.discover, isEnabled config m → isEnabled s.config m) ∧
      ∀ m, On { s with config := config } m ↔ Without (Traced s writable) (On s) p m := by
  have hfind : s.findManifest p.name = some p := Plugins.findManifest_eq_some.mpr ⟨hp, rfl⟩
  have hoff : isEnabled (saveEnabled s.config p.name false) p = false :=
    isEnabled_saveEnabled_self _ _ _
  have hother : ∀ m ∈ s.discover, m ≠ p →
      isEnabled (saveEnabled s.config p.name false) m = isEnabled s.config m := by
    intro m hm hne
    exact isEnabled_saveEnabled_of_ne (fun hname => hne (s.eq_of_name hm hp hname)) false
  have hless : ∀ m ∈ s.discover, isEnabled (saveEnabled s.config p.name false) m →
      isEnabled s.config m := by
    intro m hm hon
    by_cases heq : m = p
    · rw [heq, hoff] at hon
      cases hon
    · rwa [hother m hm heq] at hon
  cases writable with
  | false =>
    refine ⟨saveEnabled s.config p.name false, ?_, hless, ?_⟩
    · simp only [Plugins.handle, Plugins.update, hfind, Bool.false_eq_true, if_false, if_true]
    · intro m
      have hnone : ¬ TransGen (Traced s false) m p := by
        intro hpath
        cases hpath with
        | single hstep => cases hstep.1
        | tail _ hstep => cases hstep.1
      constructor
      · rintro ⟨hm, hon⟩
        refine ⟨⟨hm, hless m hm hon⟩, ?_, hnone⟩
        rintro rfl
        rw [hoff] at hon
        cases hon
      · rintro ⟨⟨hm, hon⟩, hne, _⟩
        exact ⟨hm, (hother m hm hne).trans hon⟩
  | true =>
    obtain ⟨all, hcascade, hspec⟩ := cascadeDisableDependents_spec hp hoff
    have hfollow : ∀ m t, Traced s true m t ↔ Follows s.discover m t :=
      fun m t => and_iff_right rfl
    refine ⟨disableAll (saveEnabled s.config p.name false) all, ?_, ?_, ?_⟩
    · simp only [Plugins.handle, Plugins.update, hfind, Bool.false_eq_true, if_false,
        Bool.true_eq_false, hcascade]
    · intro m hm hon
      exact hless m hm (isEnabled_disableAll.mp hon).1
    · apply remaining_iff
      · rintro m ⟨hm, hon⟩
        exact ⟨hm, hless m hm (isEnabled_disableAll.mp hon).1⟩
      · rintro ⟨_, hon⟩
        have hself := (isEnabled_disableAll.mp hon).1
        rw [hoff] at hself
        cases hself
      · rintro m ⟨hm, hon⟩ hgone
        by_cases heq : m = p
        · exact .inl heq
        · right
          have hleads : m.name ∈ all := by
            by_contra hleft
            exact hgone ⟨hm, isEnabled_disableAll.mpr ⟨(hother m hm heq).trans hon, hleft⟩⟩
          exact TransGen.mono (fun _ _ hstep => (hfollow _ _).mpr hstep) _ _
            (hspec.leads m hm hleads).2
      · rintro m t ⟨hm, hon⟩ htraced
        have hstep := (hfollow m t).mp htraced
        obtain ⟨hon', hleft⟩ := isEnabled_disableAll.mp hon
        obtain ⟨hne, hleft'⟩ := hspec.closed m hm hon' hleft t hstep
        obtain ⟨ht, hont⟩ := h.closed ⟨hm, hless m hm hon'⟩ hstep.dependsOn
        exact ⟨ht, isEnabled_disableAll.mpr ⟨(hother t ht hne).trans hont, hleft'⟩⟩

/-- **Disabling.**  The enabled plugins keep their dependencies exactly under the condition, and
    then exactly the dependents are disabled. -/
theorem sound_disable_iff {s : Plugins} (h : Sound s) (pluginId : String) (writable : Bool) :
    (Sound (s.handle (.disable pluginId writable)) ↔
        KeepsThem s (.disable pluginId writable)) ∧
      (KeepsThem s (.disable pluginId writable) →
        DisablesDependents s (.disable pluginId writable)) := by
  by_cases hex : ∃ p ∈ s.discover, p.name = pluginId
  · obtain ⟨p, hp, rfl⟩ := hex
    obtain ⟨config, hhandle, hless, hon⟩ := on_disable_iff h hp writable
    have htraced : ∀ m t, Traced s writable m t → DependsOn s.discover m t :=
      fun m t hstep => hstep.2.dependsOn
    have hclosed : Closed (DependsOn s.discover) (On { s with config := config }) ↔
        Closed (DependsOn s.discover) (Without (Traced s writable) (On s) p) := by
      constructor
      · intro hc a b ha hab
        exact (hon b).mp (hc ((hon a).mpr ha) hab)
      · intro hc a b ha hab
        exact (hon b).mpr (hc ((hon a).mp ha) hab)
    have hkeeps : KeepsThem s (.disable p.name writable) ↔
        Closed (DependsOn s.discover) (Without (Traced s writable) (On s) p) := by
      rw [closed_without_iff_step h.closed]
      constructor
      · rintro hk m t ⟨hm, hmon⟩ hne hdep hgone
        exact hk p hp rfl m hm hmon hne t hdep hgone
      · intro hk p' hp' hname m hm hmon hne t hdep hgone
        obtain rfl := s.eq_of_name hp' hp hname
        exact hk m t ⟨hm, hmon⟩ hne hdep hgone
    constructor
    · rw [hhandle, sound_iff_closed h hless, hclosed, hkeeps]
    · intro hk p' hp' hname m hm
      obtain rfl := s.eq_of_name hp' hp hname
      rw [hhandle]
      have hexact := without_iff_of_closed htraced (hkeeps.mp hk) m
      constructor
      · intro hmon
        obtain ⟨⟨_, hbefore⟩, hne, hnot⟩ := hexact.mp ((hon m).mp ⟨hm, hmon⟩)
        exact ⟨hbefore, hne, hnot⟩
      · rintro ⟨hbefore, hne, hnot⟩
        exact ((hon m).mpr (hexact.mpr ⟨⟨hm, hbefore⟩, hne, hnot⟩)).2
  · have hnone : ∀ p ∈ s.discover, p.name ≠ pluginId := by
      intro p hp hname
      exact hex ⟨p, hp, hname⟩
    have hfind : s.findManifest pluginId = none := by
      cases hfind : s.findManifest pluginId with
      | none => rfl
      | some p =>
        obtain ⟨hp, hname⟩ := Plugins.findManifest_eq_some.mp hfind
        exact absurd hname (hnone p hp)
    have hsame : s.handle (.disable pluginId writable) = s := by
      simp only [Plugins.handle, Plugins.update, hfind]
    refine ⟨?_, ?_⟩
    · rw [hsame]
      refine iff_of_true h ?_
      intro p hp hname
      exact absurd hname (hnone p hp)
    · intro _ p hp hname
      exact absurd hname (hnone p hp)

/-! ### Deleting -/

def PluginManifest.answers (m : PluginManifest) : Reference → Bool
  | .page route => m.sidebar = some ⟨route⟩
  | .plugin name => m.name = name

theorem resolve_eq (manifests : List PluginManifest) (ref : Reference) :
    resolve manifests ref = manifests.reverse.find? fun m => m.answers ref := by
  cases ref <;> rfl

theorem find?_filter_of_some {α : Type} {l : List α} {p q : α → Bool} {a : α}
    (h : l.find? p = some a) (hq : q a = true) : (l.filter q).find? p = some a := by
  induction l with
  | nil => cases h
  | cons b l ih =>
    rw [List.find?_cons] at h
    split at h
    · rename_i hb
      cases h
      rw [List.filter_cons, if_pos hq, List.find?_cons, hb]
    · rename_i hb
      rw [List.filter_cons]
      split
      · rw [List.find?_cons, hb]
        exact ih h
      · exact ih h

theorem find?_filter_of_forall {α : Type} {l : List α} {p q : α → Bool}
    (h : ∀ a ∈ l, p a = true → q a = true) : (l.filter q).find? p = l.find? p := by
  induction l with
  | nil => rfl
  | cons b l ih =>
    have hrest := ih fun a ha => h a (List.mem_cons_of_mem b ha)
    rw [List.filter_cons, List.find?_cons]
    cases hp : p b with
    | true => rw [if_pos (h b List.mem_cons_self hp), List.find?_cons, hp]
    | false =>
      split
      · rw [List.find?_cons, hp]
        exact hrest
      · exact hrest

theorem resolve_withoutId {manifests : List PluginManifest} {ref : Reference} {pluginId : String}
    {t : PluginManifest} (h : resolve manifests ref = some t) (hne : t.name ≠ pluginId) :
    resolve (withoutId manifests pluginId) ref = some t := by
  rw [resolve_eq] at h ⊢
  rw [withoutId, ← List.filter_reverse]
  exact find?_filter_of_some h (by simp [hne])

theorem resolve_withoutId_of_not_answers {manifests : List PluginManifest} {ref : Reference}
    {pluginId : String} (h : ∀ m ∈ manifests, m.name = pluginId → m.answers ref = false) :
    resolve (withoutId manifests pluginId) ref = resolve manifests ref := by
  rw [resolve_eq, resolve_eq, withoutId, ← List.filter_reverse]
  apply find?_filter_of_forall
  intro m hm hanswers
  simp only [ne_eq, decide_not, Bool.not_eq_true', decide_eq_false_iff_not]
  intro hname
  rw [h m (List.mem_reverse.mp hm) hname] at hanswers
  cases hanswers

theorem mem_withoutId {manifests : List PluginManifest} {pluginId : String} {m : PluginManifest} :
    m ∈ withoutId manifests pluginId ↔ m ∈ manifests ∧ m.name ≠ pluginId := by
  simp only [withoutId, List.mem_filter, decide_eq_true_eq]

theorem Plugins.not_builtin {s : Plugins} {pluginId : String}
    (h : ∀ m ∈ s.discover, m.name = pluginId → m.source = .community) :
    pluginId ∉ s.builtins.map PluginManifest.name := by
  intro hmem
  obtain ⟨m, hm, hname⟩ := List.mem_map.mp hmem
  have hsource := h m (List.mem_append_left _ hm) hname
  rw [s.builtins_source m hm] at hsource
  cases hsource

theorem withoutId_builtins {s : Plugins} {pluginId : String}
    (h : pluginId ∉ s.builtins.map PluginManifest.name) :
    withoutId s.builtins pluginId = s.builtins := by
  apply List.filter_eq_self.mpr
  intro m hm
  simp only [ne_eq, decide_not, Bool.not_eq_true', decide_eq_false_iff_not]
  intro hname
  exact h (List.mem_map.mpr ⟨m, hm, hname⟩)

theorem discover_dropFolder {s : Plugins} {pluginId : String}
    (h : pluginId ∉ s.builtins.map PluginManifest.name) :
    (s.dropFolder pluginId).discover = withoutId s.discover pluginId := by
  unfold Plugins.discover Plugins.dropFolder
  rw [withoutId, List.filter_append]
  congr 1
  · exact (withoutId_builtins h).symm
  · rw [List.filter_filter, List.filter_filter]
    apply List.filter_congr
    intro m _
    exact Bool.and_comm _ _

theorem sound_removed_iff {s : Plugins} (h : Sound s) {p : PluginManifest} (hp : p ∈ s.discover)
    (hsource : p.source = .community) {config : Settings}
    (hconfig : ∀ pluginId, pluginId ≠ p.name → config pluginId = s.config pluginId) :
    Sound { s.dropFolder p.name with config := config } ↔
      ∀ m ∈ s.discover, isEnabled s.config m → m ≠ p →
        m.requires ≠ some p.name ∧ ∀ hook, m.hook = some hook →
          routeMap s.discover hook.host = some p →
          ∃ t, routeMap (withoutId s.discover p.name) hook.host = some t ∧
            isEnabled s.config t := by
  have hbuiltin : p.name ∉ s.builtins.map PluginManifest.name := by
    apply s.not_builtin
    intro m hm hname
    rw [s.eq_of_name hm hp hname, hsource]
  have hdiscover : Plugins.discover { s.dropFolder p.name with config := config } =
      withoutId s.discover p.name := discover_dropFolder hbuiltin
  have hsame : ∀ m ∈ withoutId s.discover p.name, isEnabled config m = isEnabled s.config m :=
    fun m hm => isEnabled_congr (hconfig m.name (mem_withoutId.mp hm).2)
  have hne_iff : ∀ m ∈ s.discover, m ≠ p ↔ m.name ≠ p.name := by
    intro m hm
    exact not_congr ⟨fun heq => heq ▸ rfl, s.eq_of_name hm hp⟩
  unfold Sound
  rw [hdiscover]
  constructor
  · intro hsound m hm hon hne
    have hm' := mem_withoutId.mpr ⟨hm, (hne_iff m hm).mp hne⟩
    have hsat := hsound m hm' ((hsame m hm').trans hon)
    constructor
    · intro hrequires
      obtain ⟨t, hresolve, _⟩ := hsat (.plugin p.name)
        (mem_references.mpr (.inr ⟨p.name, hrequires, rfl⟩))
      exact (mem_withoutId.mp (resolve_mem hresolve)).2 (nameMap_name hresolve)
    · intro hook hhook _
      obtain ⟨t, hresolve, hton⟩ := hsat (.page hook.host)
        (mem_references.mpr (.inl ⟨hook, hhook, rfl⟩))
      exact ⟨t, hresolve, (hsame t (resolve_mem hresolve)).symm.trans hton⟩
  · intro hkeeps m hm hon ref href
    obtain ⟨hm', hname⟩ := mem_withoutId.mp hm
    have hon' : isEnabled s.config m := (hsame m hm).symm.trans hon
    obtain ⟨hrequires, hhook⟩ := hkeeps m hm' hon' ((hne_iff m hm').mpr hname)
    have hlift : ∀ t, resolve (withoutId s.discover p.name) ref = some t → isEnabled s.config t →
        ∃ t, resolve (withoutId s.discover p.name) ref = some t ∧ isEnabled config t := by
      intro t hresolve hton
      exact ⟨t, hresolve, (hsame t (resolve_mem hresolve)).trans hton⟩
    obtain ⟨t, hresolve, hton⟩ := h m hm' hon' ref href
    by_cases htname : t.name = p.name
    · obtain rfl := s.eq_of_name (resolve_mem hresolve) hp htname
      rcases mem_references.mp href with ⟨hook, hhook', rfl⟩ | ⟨requires, hrequires', rfl⟩
      · obtain ⟨t', hresolve', hton'⟩ := hhook hook hhook' hresolve
        exact hlift t' hresolve' hton'
      · rw [nameMap_name hresolve] at hrequires
        exact absurd hrequires' hrequires
    · exact hlift t (resolve_withoutId hresolve htname) hton

theorem sound_delete_iff {s : Plugins} (h : Sound s) (pluginId : String) (rmtree : RmTree) :
    Sound (s.handle (.delete pluginId rmtree)) ↔ KeepsThem s (.delete pluginId rmtree) := by
  simp only [Plugins.handle, Plugins.delete]
  cases hfind : s.findManifest pluginId with
  | none =>
    refine iff_of_true h ?_
    intro p hp hname
    rw [Plugins.findManifest_eq_some.mpr ⟨hp, hname⟩] at hfind
    cases hfind
  | some p =>
    obtain ⟨hp, rfl⟩ := Plugins.findManifest_eq_some.mp hfind
    have honly : ∀ p' ∈ s.discover, p'.name = p.name → p' = p :=
      fun p' hp' hname => s.eq_of_name hp' hp hname
    simp only
    split
    · rename_i hsource
      refine iff_of_true h ?_
      intro p' hp' hname hsource'
      rw [honly p' hp' hname] at hsource'
      exact absurd hsource' hsource
    · rename_i hsource
      rw [not_not] at hsource
      split
      · rename_i hlocked
        refine iff_of_true h ?_
        intro p' hp' hname _ hunlocked
        rw [honly p' hp' hname, hlocked] at hunlocked
        cases hunlocked
      · rename_i hunlocked
        have hkeeps : rmtree ≠ .denied false →
            (KeepsThem s (.delete p.name rmtree) ↔
              ∀ m ∈ s.discover, isEnabled s.config m → m ≠ p →
                m.requires ≠ some p.name ∧ ∀ hook, m.hook = some hook →
                  routeMap s.discover hook.host = some p →
                  ∃ t, routeMap (withoutId s.discover p.name) hook.host = some t ∧
                    isEnabled s.config t) := by
          intro hrmtree
          constructor
          · intro hk
            exact hk p hp rfl hsource (by simpa using hunlocked) hrmtree
          · intro hk p' hp' hname _ _ _
            rw [honly p' hp' hname]
            exact hk
        cases rmtree with
        | removed =>
          rw [hkeeps (by decide)]
          apply sound_removed_iff h hp hsource
          intro other hne
          exact Function.update_of_ne hne _ _
        | denied manifestGone =>
          cases manifestGone with
          | false =>
            refine iff_of_true h ?_
            intro _ _ _ _ _ hdenied
            exact absurd rfl hdenied
          | true =>
            rw [hkeeps (by decide)]
            exact sound_removed_iff h hp hsource (fun _ _ => rfl)

/-! ### Installing -/

theorem filter_orderedInsert_of_not {α : Type} (r : α → α → Prop) [DecidableRel r]
    {p : α → Bool} {a : α} (ha : p a = false) (l : List α) :
    (l.orderedInsert r a).filter p = l.filter p := by
  rw [List.orderedInsert_eq_take_drop, List.filter_append, List.filter_cons,
    if_neg (by rw [ha]; exact Bool.false_ne_true), ← List.filter_append,
    List.takeWhile_append_dropWhile]

def placed (manifest : PluginManifest) : PluginManifest := { manifest with source := .community }

theorem mem_discover_place {s : Plugins} {manifest : PluginManifest}
    (h : manifest.name ∉ s.builtins.map PluginManifest.name) {m : PluginManifest} :
    m ∈ (s.place manifest).discover ↔
      m = placed manifest ∨ m ∈ s.discover ∧ m.name ≠ manifest.name := by
  have hbuiltin : ∀ m ∈ s.builtins, m.name ≠ manifest.name := by
    intro m hm hname
    exact h (List.mem_map.mpr ⟨m, hm, hname⟩)
  have hplaced : (placed manifest).name ∉ s.builtins.map PluginManifest.name := h
  simp only [Plugins.discover, Plugins.place, Plugins.dropFolder, List.mem_append,
    List.mem_filter, List.mem_orderedInsert, decide_not, Bool.not_eq_true',
    decide_eq_false_iff_not]
  constructor
  · rintro (hm | ⟨rfl | ⟨hm, hname⟩, hnot⟩)
    · exact .inr ⟨.inl hm, hbuiltin m hm⟩
    · exact .inl rfl
    · exact .inr ⟨.inr ⟨hm, hnot⟩, hname⟩
  · rintro (rfl | ⟨hm | ⟨hm, hnot⟩, hname⟩)
    · exact .inr ⟨.inl rfl, hplaced⟩
    · exact .inl hm
    · exact .inr ⟨.inr ⟨hm, hname⟩, hnot⟩

theorem withoutId_place {s : Plugins} {manifest : PluginManifest} :
    withoutId (s.place manifest).discover manifest.name =
      withoutId s.discover manifest.name := by
  simp only [withoutId, Plugins.discover, Plugins.place, Plugins.dropFolder, List.filter_append,
    List.filter_filter]
  congr 1
  rw [filter_orderedInsert_of_not _ (by simp), List.filter_filter]
  apply List.filter_congr
  intro m _
  cases decide (m.name ≠ manifest.name) <;> simp

theorem nameMap_place {s : Plugins} {manifest : PluginManifest}
    (h : manifest.name ∉ s.builtins.map PluginManifest.name) :
    nameMap (s.place manifest).discover manifest.name = some (placed manifest) := by
  have hmem : placed manifest ∈ (s.place manifest).discover :=
    (mem_discover_place h).mpr (.inl rfl)
  cases hfind : nameMap (s.place manifest).discover manifest.name with
  | none =>
    have hnot := List.find?_eq_none.mp hfind _ (List.mem_reverse.mpr hmem)
    simp [placed] at hnot
  | some t =>
    have hresolve : resolve (s.place manifest).discover (.plugin manifest.name) = some t := hfind
    have ht : t ∈ (s.place manifest).discover := resolve_mem hresolve
    rw [(s.place manifest).eq_of_name ht hmem (nameMap_name hfind)]

/-- What an installation leaves is sound exactly when the new manifest, if its setting is on, has
    its dependencies, and the pages that change hands go to enabled plugins. -/
theorem sound_place_iff {s : Plugins} (h : Sound s) {manifest : PluginManifest}
    (hcommunity : ∀ m ∈ s.discover, m.name = manifest.name → m.source = .community) :
    Sound (s.place manifest) ↔
      ((s.config manifest.name).truthy →
        Satisfied (s.place manifest).discover s.config manifest) ∧
      ∀ m ∈ s.discover, isEnabled s.config m → m.name ≠ manifest.name → ∀ hook,
        m.hook = some hook →
        (manifest.sidebar = some ⟨hook.host⟩ ∨
          ∃ old, routeMap s.discover hook.host = some old ∧ old.name = manifest.name) →
        ∃ t, routeMap (s.place manifest).discover hook.host = some t ∧ isEnabled s.config t := by
  have hbuiltin := s.not_builtin hcommunity
  have hmem := fun m => mem_discover_place (s := s) (m := m) hbuiltin
  constructor
  · intro hsound
    constructor
    · intro hon ref href
      exact hsound (placed manifest) ((hmem _).mpr (.inl rfl)) hon ref href
    · intro m hm hon hname hook hhook _
      exact hsound m ((hmem m).mpr (.inr ⟨hm, hname⟩)) hon (.page hook.host)
        (mem_references.mpr (.inl ⟨hook, hhook, rfl⟩))
  · rintro ⟨hnew, hpages⟩ m hm hon ref href
    rcases (hmem m).mp hm with rfl | ⟨hm', hname⟩
    · exact hnew hon ref href
    · obtain ⟨t, hresolve, hton⟩ := h m hm' hon ref href
      -- a reference that the new manifest does not answer and the old one did not is answered
      -- as before
      have hkept : (placed manifest).answers ref = false → t.name ≠ manifest.name →
          resolve (s.place manifest).discover ref = some t := by
        intro hanswers hne
        have hnone : ∀ m' ∈ (s.place manifest).discover, m'.name = manifest.name →
            m'.answers ref = false := by
          intro m' hm' hname'
          rcases (hmem m').mp hm' with rfl | ⟨_, hne'⟩
          · exact hanswers
          · exact absurd hname' hne'
        rw [← resolve_withoutId_of_not_answers hnone, withoutId_place]
        exact resolve_withoutId hresolve hne
      rcases mem_references.mp href with ⟨hook, hhook, rfl⟩ | ⟨requires, hrequires, rfl⟩
      · by_cases hchanged : manifest.sidebar = some ⟨hook.host⟩ ∨ t.name = manifest.name
        · apply hpages m hm' hon hname hook hhook
          rcases hchanged with hclaims | hgives
          · exact .inl hclaims
          · exact .inr ⟨t, hresolve, hgives⟩
        · rw [not_or] at hchanged
          refine ⟨t, hkept ?_ hchanged.2, hton⟩
          exact decide_eq_false hchanged.1
      · have htname : t.name = requires := nameMap_name hresolve
        by_cases hself : requires = manifest.name
        · subst hself
          refine ⟨placed manifest, nameMap_place hbuiltin, ?_⟩
          have hsource := hcommunity t (resolve_mem hresolve) htname
          unfold isEnabled isPluginEnabled at hton
          rw [hsource, htname] at hton
          exact hton
        · refine ⟨t, hkept ?_ (htname ▸ hself), hton⟩
          exact decide_eq_false (Ne.symm hself)

theorem sound_install_iff {s : Plugins} (h : Sound s) (pluginId : String) (fetched : Fetched) :
    Sound (s.handle (.install pluginId fetched)) ↔ KeepsThem s (.install pluginId fetched) := by
  -- a refused request changes nothing, and the condition asks nothing
  have hrefused : (∀ manifest, fetched = .app manifest → ¬ Installable s pluginId manifest) →
      (Sound s ↔ KeepsThem s (.install pluginId fetched)) := by
    intro hnot
    refine iff_of_true h ?_
    intro manifest hfetched hinstallable
    exact absurd hinstallable (hnot manifest hfetched)
  simp only [Plugins.handle, Plugins.install]
  split
  · rename_i hbuiltin
    apply hrefused
    intro manifest _ hinstallable
    obtain ⟨m, hfind, hsource⟩ := Option.any_eq_true .. |>.mp hbuiltin
    obtain ⟨hm, hname⟩ := Plugins.findManifest_eq_some.mp hfind
    rw [(hinstallable.replaces m hm hname).1] at hsource
    simp at hsource
  · rename_i hcommunity
    split
    · rename_i hlocked
      apply hrefused
      intro manifest _ hinstallable
      obtain ⟨m, hfind, hlocked⟩ := Option.any_eq_true .. |>.mp hlocked
      obtain ⟨hm, hname⟩ := Plugins.findManifest_eq_some.mp hfind
      rw [(hinstallable.replaces m hm hname).2] at hlocked
      cases hlocked
    · rename_i hunlocked
      cases fetched with
      | refused => exact hrefused nofun
      | theme => exact hrefused nofun
      | app manifest =>
        simp only
        split
        · rename_i hinvalid
          apply hrefused
          intro manifest' hfetched hinstallable
          cases hfetched
          rcases hinvalid with hname | hlocked
          · exact hname hinstallable.name
          · rw [hinstallable.unlocked] at hlocked
            cases hlocked
        · rename_i hvalid
          rw [not_or, not_not, Bool.not_eq_true] at hvalid
          obtain ⟨rfl, hlocked⟩ := hvalid
          have hreplaces : ∀ m ∈ s.discover, m.name = manifest.name →
              m.source = .community ∧ m.locked = false := by
            intro m hm hname
            have hfind := Plugins.findManifest_eq_some.mpr ⟨hm, hname⟩
            rw [hfind] at hcommunity hunlocked
            simpa using And.intro hcommunity hunlocked
          rw [sound_place_iff h fun m hm hname => (hreplaces m hm hname).1]
          constructor
          · intro hk manifest' hfetched _
            cases hfetched
            exact hk
          · intro hk
            exact hk manifest rfl ⟨hreplaces, rfl, hlocked⟩

/-! ### Sequences of requests -/

/-- **One request.**  From a state whose enabled plugins have their dependencies it leads to one
    again, and disables exactly the dependents, exactly when it keeps them. -/
theorem sound_handle_iff {s : Plugins} (h : Sound s) (r : Request) :
    Sound (s.handle r) ∧ DisablesDependents s r ↔ KeepsThem s r := by
  cases r with
  | enable pluginId writable =>
    rw [sound_enable_iff h]
    exact and_iff_left trivial
  | disable pluginId writable =>
    obtain ⟨hsound, hexact⟩ := sound_disable_iff h pluginId writable
    rw [hsound]
    exact and_iff_left_of_imp hexact
  | delete pluginId rmtree =>
    rw [sound_delete_iff h]
    exact and_iff_left trivial
  | install pluginId fetched =>
    rw [sound_install_iff h]
    exact and_iff_left trivial

/-- A sequence that starts where the enabled plugins lack a dependency keeps nothing. -/
theorem KeepsDependencies.sound {s : Plugins} {requests : List Request}
    (h : KeepsDependencies s requests) : Sound s := by
  cases requests with
  | nil => exact h
  | cons r rs => exact h.1

def reticulum : PluginManifest :=
  { name := "reticulum", sidebar := some ⟨"reticulum"⟩ }

def reticulumDashboard : PluginManifest :=
  { name := "reticulum-dashboard", requires := some "reticulum" }

/-- Two community plugins, both enabled, one of which requires the other. -/
def dashboardEnabled : Plugins where
  builtins := []
  community := [reticulum, reticulumDashboard]
  config := fun _ => .bool true
  builtins_source := nofun
  community_source := by decide
  builtins_nodup := by decide
  community_nodup := by decide

theorem discover_dashboardEnabled :
    dashboardEnabled.discover = [reticulum, reticulumDashboard] := by
  decide

theorem sound_dashboardEnabled : Sound dashboardEnabled := by
  intro m hm _ ref href
  rw [discover_dashboardEnabled] at hm ⊢
  rcases List.mem_cons.mp hm with rfl | hm
  · cases href
  · obtain rfl := List.mem_singleton.mp hm
    obtain rfl := List.mem_singleton.mp href
    exact ⟨reticulum, by decide, rfl⟩

end Meshpoint.PluginRoutes
