import Meshpoint.PluginRoutes

/-!
# The cascade of a disabled plugin

`_cascade_disable_dependents` goes from the disabled plugin to the enabled ones that depend on it,
round by round, until a round disables none.  `cascadeDisableDependents_spec` says what it owes:
all it disables lead to the plugin, and nothing that is left depends on what is disabled, as far
as `_dependency_target` tells.
-/

namespace Meshpoint.PluginRoutes

open Relation

/-! ### The dependencies of a plugin -/

/-- What a plugin names another one by. -/
inductive Reference
  | page (route : String)
  | plugin (name : String)
deriving DecidableEq

/-- The references of a manifest, the hook and the requirement. -/
def PluginManifest.references (m : PluginManifest) : List Reference :=
  m.hook.toList.map (fun hook => .page hook.host) ++ m.requires.toList.map .plugin

def resolve (manifests : List PluginManifest) : Reference → Option PluginManifest
  | .page route => routeMap manifests route
  | .plugin name => nameMap manifests name

/-- `m` depends on `t`, by its hook or by its requirement. -/
def DependsOn (manifests : List PluginManifest) (m t : PluginManifest) : Prop :=
  ∃ ref ∈ m.references, resolve manifests ref = some t

/-- `t` is the one dependency of `m` that the requests look at. -/
def Follows (manifests : List PluginManifest) (m t : PluginManifest) : Prop :=
  (dependencyTarget manifests m).1 = some t

@[simp] theorem mem_references {m : PluginManifest} {ref : Reference} :
    ref ∈ m.references ↔ (∃ hook, m.hook = some hook ∧ ref = .page hook.host) ∨
      ∃ requires, m.requires = some requires ∧ ref = .plugin requires := by
  simp only [PluginManifest.references, List.mem_append, List.mem_map, Option.mem_toList]
  constructor
  · rintro (⟨hook, hhook, rfl⟩ | ⟨requires, hrequires, rfl⟩)
    · exact .inl ⟨hook, hhook, rfl⟩
    · exact .inr ⟨requires, hrequires, rfl⟩
  · rintro (⟨hook, hhook, rfl⟩ | ⟨requires, hrequires, rfl⟩)
    · exact .inl ⟨hook, hhook, rfl⟩
    · exact .inr ⟨requires, hrequires, rfl⟩

theorem Follows.dependsOn {manifests : List PluginManifest} {m t : PluginManifest}
    (h : Follows manifests m t) : DependsOn manifests m t := by
  unfold Follows dependencyTarget at h
  split at h
  · rename_i hook hhook
    exact ⟨.page hook.host, mem_references.mpr (.inl ⟨hook, hhook, rfl⟩), h⟩
  · split at h
    · rename_i requires hrequires
      exact ⟨.plugin requires, mem_references.mpr (.inr ⟨requires, hrequires, rfl⟩), h⟩
    · cases h

/-! ### The installed plugins -/

theorem Plugins.discover_nodup (s : Plugins) :
    (s.discover.map PluginManifest.name).Nodup := by
  unfold Plugins.discover
  rw [List.map_append]
  apply List.nodup_append.mpr
  refine ⟨s.builtins_nodup, s.community_nodup.sublist (List.filter_sublist.map _), ?_⟩
  rintro _ hbuiltin _ hcommunity rfl
  obtain ⟨m, hm, hname⟩ := List.mem_map.mp hcommunity
  have hnot := (List.mem_filter.mp hm).2
  rw [hname] at hnot
  simp only [hbuiltin, not_true, decide_false, Bool.false_eq_true] at hnot

theorem Plugins.eq_of_name {s : Plugins} {m m' : PluginManifest} (hm : m ∈ s.discover)
    (hm' : m' ∈ s.discover) (h : m.name = m'.name) : m = m' :=
  List.inj_on_of_nodup_map s.discover_nodup hm hm' h

theorem Plugins.findManifest_eq_some {s : Plugins} {pluginId : String} {m : PluginManifest} :
    s.findManifest pluginId = some m ↔ m ∈ s.discover ∧ m.name = pluginId := by
  unfold Plugins.findManifest
  constructor
  · intro h
    exact ⟨List.mem_of_find?_eq_some h, by simpa using List.find?_some h⟩
  · rintro ⟨hm, hname⟩
    cases hfind : s.discover.find? (fun m => m.name = pluginId) with
    | none =>
      have hnot := List.find?_eq_none.mp hfind m hm
      simp only [hname, decide_true, not_true] at hnot
    | some m' =>
      have hname' : m'.name = pluginId := by simpa using List.find?_some hfind
      rw [s.eq_of_name (List.mem_of_find?_eq_some hfind) hm (hname'.trans hname.symm)]

theorem resolve_mem {manifests : List PluginManifest} {ref : Reference} {t : PluginManifest}
    (h : resolve manifests ref = some t) : t ∈ manifests := by
  cases ref with
  | page route => exact List.mem_reverse.mp (List.mem_of_find?_eq_some h)
  | plugin name => exact List.mem_reverse.mp (List.mem_of_find?_eq_some h)

theorem nameMap_name {manifests : List PluginManifest} {name : String} {t : PluginManifest}
    (h : nameMap manifests name = some t) : t.name = name := by
  simpa using List.find?_some h

theorem DependsOn.mem {manifests : List PluginManifest} {m t : PluginManifest}
    (h : DependsOn manifests m t) : t ∈ manifests := by
  obtain ⟨ref, _, hresolve⟩ := h
  exact resolve_mem hresolve

/-! ### Settings -/

def disableAll (config : Settings) (ids : List String) : Settings :=
  fun pluginId => if pluginId ∈ ids then .bool false else config pluginId

theorem isEnabled_congr {config config' : Settings} {m : PluginManifest}
    (h : config m.name = config' m.name) : isEnabled config m = isEnabled config' m := by
  unfold isEnabled
  rw [h]

theorem isPluginEnabled_bool (m : PluginManifest) (b : Bool) :
    isPluginEnabled m (.bool b) = b := by
  unfold isPluginEnabled
  cases m.source with
  | builtin => cases b <;> rfl
  | community => rfl

theorem isEnabled_saveEnabled_self (config : Settings) (m : PluginManifest) (b : Bool) :
    isEnabled (saveEnabled config m.name b) m = b := by
  unfold isEnabled saveEnabled
  rw [Function.update_self, isPluginEnabled_bool]

theorem isEnabled_saveEnabled_of_ne {config : Settings} {m : PluginManifest} {pluginId : String}
    (h : m.name ≠ pluginId) (b : Bool) :
    isEnabled (saveEnabled config pluginId b) m = isEnabled config m :=
  isEnabled_congr (Function.update_of_ne h _ _)

theorem isEnabled_disableAll {config : Settings} {ids : List String} {m : PluginManifest} :
    isEnabled (disableAll config ids) m ↔ isEnabled config m ∧ m.name ∉ ids := by
  by_cases hmem : m.name ∈ ids
  · have hoff : isEnabled (disableAll config ids) m = false := by
      unfold isEnabled disableAll
      rw [if_pos hmem, isPluginEnabled_bool]
    simp only [hoff, hmem, not_true, and_false, Bool.false_eq_true]
  · have hsame : isEnabled (disableAll config ids) m = isEnabled config m :=
      isEnabled_congr (if_neg hmem)
    simp only [hsame, hmem, not_false_eq_true, and_true]

theorem saveEnabled_disableAll (config : Settings) (ids : List String) (pluginId : String) :
    saveEnabled (disableAll config ids) pluginId false = disableAll config (ids ++ [pluginId]) := by
  funext other
  unfold saveEnabled disableAll
  by_cases heq : other = pluginId
  · subst heq
    simp
  · rw [Function.update_of_ne heq]
    simp [heq]

/-! ### The cascade -/

theorem targetsFrontier_iff {manifests : List PluginManifest} {frontier : List String}
    {m : PluginManifest} :
    targetsFrontier manifests frontier m ↔ ∃ t, Follows manifests m t ∧ t.name ∈ frontier := by
  unfold targetsFrontier Follows dependencyTarget
  cases m.hook with
  | some hook =>
    simp only
    cases routeMap manifests hook.host <;> simp
  | none =>
    cases m.requires with
    | some requires =>
      simp only
      cases nameMap manifests requires <;> simp
    | none => simp

def Hit (manifests : List PluginManifest) (frontier disabled : List String) (config : Settings)
    (m : PluginManifest) : Bool :=
  m.name ∉ disabled ∧ m.name ∉ frontier ∧ targetsFrontier manifests frontier m ∧
    isEnabled config m

def hits (manifests : List PluginManifest) (frontier disabled : List String) (config : Settings)
    (rest : List PluginManifest) : List String :=
  (rest.filter (Hit manifests frontier disabled config)).map PluginManifest.name

theorem hits_after {manifests rest : List PluginManifest} {frontier disabled : List String}
    {config : Settings} {pluginId : String}
    (hother : pluginId ∉ rest.map PluginManifest.name) :
    hits manifests frontier (disabled ++ [pluginId]) (saveEnabled config pluginId false) rest =
      hits manifests frontier disabled config rest := by
  unfold hits
  congr 1
  apply List.filter_congr
  intro m hm
  have hne : m.name ≠ pluginId := by
    rintro rfl
    exact hother (List.mem_map_of_mem hm)
  simp only [Hit, isEnabled_saveEnabled_of_ne hne, List.mem_append, List.mem_singleton, hne, or_false]

theorem cascadeRound_eq {manifests : List PluginManifest} {frontier : List String} :
    ∀ (rest : List PluginManifest) (config : Settings) (disabled newlyDisabled : List String),
      (rest.map PluginManifest.name).Nodup →
      cascadeRound manifests frontier rest (disableAll config disabled) disabled newlyDisabled =
        let new := hits manifests frontier disabled (disableAll config disabled) rest
        (disableAll config (disabled ++ new), disabled ++ new, new.reverse ++ newlyDisabled) := by
  intro rest
  induction rest with
  | nil =>
    intro config disabled newlyDisabled _
    simp only [cascadeRound, hits, List.filter_nil, List.map_nil, List.append_nil,
      List.reverse_nil, List.nil_append]
  | cons m rest ih =>
    intro config disabled newlyDisabled hnodup
    obtain ⟨hother, hrest⟩ := List.nodup_cons.mp hnodup
    have hskip : Hit manifests frontier disabled (disableAll config disabled) m = false →
        hits manifests frontier disabled (disableAll config disabled) (m :: rest) =
          hits manifests frontier disabled (disableAll config disabled) rest := by
      intro hmiss
      simp only [hits, List.filter_cons, hmiss, Bool.false_eq_true, if_false]
    simp only [cascadeRound]
    split
    · rename_i hknown
      rw [hskip (by unfold Hit; simp only [decide_eq_false_iff_not]; tauto)]
      exact ih config disabled newlyDisabled hrest
    · rename_i hunknown
      split
      · rename_i haim
        rw [hskip (by unfold Hit; simp only [haim, Bool.false_eq_true, false_and, and_false,
          decide_false])]
        exact ih config disabled newlyDisabled hrest
      · rename_i haim
        split
        · rename_i hoff
          rw [hskip (by unfold Hit; simp only [hoff, Bool.false_eq_true, and_false, decide_false])]
          exact ih config disabled newlyDisabled hrest
        · rename_i hon
          have hhit : Hit manifests frontier disabled (disableAll config disabled) m = true := by
            rw [not_or] at hunknown
            simp only [Bool.not_eq_false] at haim hon
            simp only [Hit, hunknown.1, hunknown.2, haim, hon, not_false_eq_true, and_self,
              decide_true]
          have hcons : hits manifests frontier disabled (disableAll config disabled) (m :: rest) =
              m.name :: hits manifests frontier disabled (disableAll config disabled) rest := by
            simp only [hits, List.filter_cons, hhit, if_true, List.map_cons]
          rw [saveEnabled_disableAll, ih config (disabled ++ [m.name]) _ hrest,
            ← saveEnabled_disableAll, hits_after hother, hcons]
          simp only [List.append_assoc, List.singleton_append, List.reverse_cons]

/-- What the cascade owes: it disables plugins that were enabled and lead to the disabled one, and
    none that is left depends on any of them. -/
structure Cascaded (manifests : List PluginManifest) (config : Settings) (p : PluginManifest)
    (disabled : List String) : Prop where
  leads : ∀ m ∈ manifests, m.name ∈ disabled →
    isEnabled config m ∧ TransGen (Follows manifests) m p
  closed : ∀ m ∈ manifests, isEnabled config m → m.name ∉ disabled →
    ∀ t, Follows manifests m t → t ≠ p ∧ t.name ∉ disabled

/-- What holds before a round: only the frontier may still be depended on. -/
structure Cascading (manifests : List PluginManifest) (config : Settings) (p : PluginManifest)
    (disabled frontier : List String) : Prop where
  leads : ∀ m ∈ manifests, m.name ∈ disabled →
    isEnabled config m ∧ TransGen (Follows manifests) m p
  pending : ∀ m ∈ manifests, isEnabled config m → m.name ∉ disabled →
    ∀ t, Follows manifests m t → t = p ∨ t.name ∈ disabled → t.name ∈ frontier
  frontier : ∀ pluginId ∈ frontier, pluginId = p.name ∨ pluginId ∈ disabled

section

variable {s : Plugins} {config : Settings} {p : PluginManifest} {disabled frontier : List String}

theorem mem_hits {manifests rest : List PluginManifest} {m : PluginManifest}
    (hunique : ∀ m' ∈ rest, m'.name = m.name → m' = m) :
    m.name ∈ hits manifests frontier disabled (disableAll config disabled) rest ↔
      m ∈ rest ∧ m.name ∉ disabled ∧ m.name ∉ frontier ∧
        (∃ t, Follows manifests m t ∧ t.name ∈ frontier) ∧ isEnabled config m := by
  unfold hits
  simp only [List.mem_map, List.mem_filter, Hit, decide_eq_true_eq, targetsFrontier_iff,
    isEnabled_disableAll]
  constructor
  · rintro ⟨m', ⟨hmem, hdisabled, hfrontier, haim, hon, _⟩, hname⟩
    obtain rfl := hunique m' hmem hname
    exact ⟨hmem, hdisabled, hfrontier, haim, hon⟩
  · rintro ⟨hmem, hdisabled, hfrontier, haim, hon⟩
    exact ⟨m, ⟨hmem, hdisabled, hfrontier, haim, hon, hdisabled⟩, rfl⟩

theorem Cascading.round (h : Cascading s.discover config p disabled frontier)
    (hp : p ∈ s.discover) (hoff : isEnabled config p = false) {new : List String}
    (hnew : new = hits s.discover frontier disabled (disableAll config disabled) s.discover) :
    Cascading s.discover config p (disabled ++ new) new.reverse := by
  have hmem : ∀ m ∈ s.discover, m.name ∈ new ↔ m.name ∉ disabled ∧ m.name ∉ frontier ∧
      (∃ t, Follows s.discover m t ∧ t.name ∈ frontier) ∧ isEnabled config m := by
    intro m hm
    rw [hnew, mem_hits fun m' hm' hname => s.eq_of_name hm' hm hname]
    exact and_iff_right hm
  refine ⟨?_, ?_, ?_⟩
  · intro m hm hdisabled
    rcases List.mem_append.mp hdisabled with hold | hhit
    · exact h.leads m hm hold
    · obtain ⟨_, _, ⟨t, hfollows, hfrontier⟩, hon⟩ := (hmem m hm).mp hhit
      have ht := hfollows.dependsOn.mem
      refine ⟨hon, ?_⟩
      rcases h.frontier t.name hfrontier with hname | hgone
      · exact .single (s.eq_of_name ht hp hname ▸ hfollows)
      · exact .head hfollows (h.leads t ht hgone).2
  · intro m hm hon hleft t hfollows hgone
    rw [List.mem_append, not_or] at hleft
    rw [List.mem_reverse]
    by_contra hnot
    have hfrontier : t.name ∈ frontier := by
      apply h.pending m hm hon hleft.1 t hfollows
      rcases hgone with heq | hdisabled
      · exact .inl heq
      · exact .inr ((List.mem_append.mp hdisabled).resolve_right hnot)
    apply hleft.2
    apply (hmem m hm).mpr
    refine ⟨hleft.1, ?_, ⟨t, hfollows, hfrontier⟩, hon⟩
    -- an enabled plugin that is left is not in the frontier
    intro hself
    rcases h.frontier m.name hself with hname | hdisabled
    · rw [s.eq_of_name hm hp hname, hoff] at hon
      cases hon
    · exact hleft.1 hdisabled
  · intro pluginId hmem'
    exact .inr (List.mem_append_right _ (List.mem_reverse.mp hmem'))

def leftCount (manifests : List PluginManifest) (config : Settings) (disabled : List String) :
    Nat :=
  (manifests.filter fun m => isEnabled config m ∧ m.name ∉ disabled).length

theorem leftCount_lt {m : PluginManifest} (hm : m ∈ s.discover) (hon : isEnabled config m)
    (hleft : m.name ∉ disabled) {new : List String} (hnew : m.name ∈ new) :
    leftCount s.discover config (disabled ++ new) < leftCount s.discover config disabled := by
  unfold leftCount
  have hsub : (s.discover.filter fun m => isEnabled config m ∧ m.name ∉ disabled ++ new) =
      (s.discover.filter fun m => isEnabled config m ∧ m.name ∉ disabled).filter
        fun m => m.name ∉ new := by
    rw [List.filter_filter]
    apply List.filter_congr
    intro m' _
    simp only [List.mem_append, not_or, Bool.decide_and, decide_not, Bool.decide_eq_true]
    cases isEnabled config m' <;> simp [Bool.and_comm]
  rw [hsub]
  apply List.length_filter_lt_length_iff_exists.mpr
  exact ⟨m, by simp [hm, hon, hleft], by simp [hnew]⟩

theorem cascadeRounds_spec (hp : p ∈ s.discover) (hoff : isEnabled config p = false) :
    ∀ (fuel : Nat) (disabled frontier : List String),
      Cascading s.discover config p disabled frontier →
      leftCount s.discover config disabled < fuel →
      ∃ all, cascadeRounds s.discover fuel (disableAll config disabled) disabled frontier =
          (disableAll config all, all) ∧ Cascaded s.discover config p all := by
  intro fuel
  induction fuel with
  | zero =>
    intro disabled frontier _ hfuel
    omega
  | succ fuel ih =>
    intro disabled frontier h hfuel
    have hfinished : ∀ {disabled : List String}, Cascading s.discover config p disabled [] →
        Cascaded s.discover config p disabled := by
      intro disabled h
      refine ⟨h.leads, ?_⟩
      intro m hm hon hleft t hfollows
      have hnone := h.pending m hm hon hleft t hfollows
      simpa only [List.not_mem_nil, imp_false, not_or] using hnone
    simp only [cascadeRounds]
    by_cases hempty : frontier = []
    · subst hempty
      rw [if_pos rfl]
      exact ⟨disabled, rfl, hfinished h⟩
    · rw [if_neg hempty, cascadeRound_eq s.discover config disabled [] s.discover_nodup]
      simp only [List.append_nil]
      obtain ⟨new, hnew⟩ :
          ∃ new, new = hits s.discover frontier disabled (disableAll config disabled) s.discover :=
        ⟨_, rfl⟩
      rw [← hnew]
      have hnext := h.round hp hoff hnew
      cases new with
      | nil =>
        simp only [List.append_nil, List.reverse_nil] at hnext ⊢
        refine ⟨disabled, ?_, hfinished hnext⟩
        cases fuel <;> rfl
      | cons pluginId new =>
        have hhit : pluginId ∈ hits s.discover frontier disabled (disableAll config disabled)
            s.discover := by
          rw [← hnew]
          exact List.mem_cons_self
        obtain ⟨m, hm, rfl⟩ := List.mem_map.mp hhit
        have hmem := List.mem_of_mem_filter hm
        obtain ⟨_, hleft, _, _, hon⟩ :=
          (mem_hits fun m' hm' hname => s.eq_of_name hm' hmem hname).mp hhit
        apply ih _ _ hnext
        have hfewer := leftCount_lt hmem hon hleft
          (show m.name ∈ m.name :: new from List.mem_cons_self)
        omega

/-- **The cascade.**  It disables enabled plugins that lead to the disabled one, and leaves no
    plugin enabled whose one dependency it looks at is disabled. -/
theorem cascadeDisableDependents_spec (hp : p ∈ s.discover) (hoff : isEnabled config p = false) :
    ∃ all, cascadeDisableDependents s.discover config p.name = (disableAll config all, all) ∧
      Cascaded s.discover config p all := by
  apply cascadeRounds_spec hp hoff (s.discover.length + 1) [] [p.name]
  · refine ⟨nofun, ?_, ?_⟩
    · intro m _ _ _ t _ hgone
      rcases hgone with rfl | hnone
      · exact List.mem_singleton.mpr rfl
      · cases hnone
    · intro pluginId hmem
      exact .inl (List.mem_singleton.mp hmem)
  · exact Nat.lt_succ_of_le (List.length_filter_le _ _)

end

end Meshpoint.PluginRoutes
