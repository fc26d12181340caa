import Meshpoint.FlashStreams

/-!
# Flash streams with esptool

The streams of the Meshtastic and MeshCore routes have no `finally` block: `body_givenBack_iff` says
that the port is given back exactly when no interrupt comes and nothing raises between stopping and
starting the source.
-/

namespace Meshpoint.FlashStreams

open AsyncGenerators

variable {φ : Type}

/-- The stream is not interrupted, and when a source is stopped for it, neither stopping it nor
    starting the tool raises afterwards. -/
def EsptoolFits (released : Bool) (script : List (Answer φ)) : Prop :=
  ∀ answer ∈ script, answer.how.interrupts = false ∧
    (released = true → answer.how.raisesStopped = false ∧ answer.how.raisesSpawn = false)

namespace EsptoolRoute

variable {released : Bool}

theorem fits_append {past : List (Answer φ)} {answer : Answer φ} :
    EsptoolFits released (past ++ [answer]) ↔ EsptoolFits released past ∧
      answer.how.interrupts = false ∧
        (released = true → answer.how.raisesStopped = false ∧ answer.how.raisesSpawn = false) := by
  unfold EsptoolFits
  rw [List.forall_mem_append, List.forall_mem_singleton]

theorem fits_comes {past : List (Answer φ)} (h : EsptoolFits released past) (exits : Option Int)
    (reply : Reply φ) : EsptoolFits released (past ++ [⟨exits, .comes reply⟩]) :=
  fits_append.mpr ⟨h, rfl, fun _ => ⟨rfl, rfl⟩⟩

theorem keeps_fits : Keeps (EsptoolFits released : List (Answer φ) → Prop) :=
  fun _ exits reply h _ => fits_comes h exits reply

variable {down bluetooth : Bool}

theorem breaks_fits : Breaks (EsptoolFits released : List (Answer φ) → Prop) down
    (Off (EsptoolFits released) bluetooth) where
  waiting _ _ := trivial
  interrupted past h exits how took hstands := by
    refine ⟨?_, fun hfits => ?_⟩
    · rw [Host.entries_after, Host.entries_meanwhile, hstands.unlogged]
    · cases (fits_append.mp hfits).2.1

theorem closes_of_stands {past : List (Answer φ)} {h : Host}
    (hstands : Stands (EsptoolFits released) down past h)
    (hdown : down = true → bluetooth = true ∧ h.exitStatus = some 0) :
    Closes (EsptoolFits released) bluetooth past h := by
  refine ⟨hstands.unlogged, iff_of_true ⟨fun hstopped => hdown ?_, hstands.alone⟩ hstands.kind⟩
  rw [← hstands.down, hstopped]

/-- The tool has ended, and the flag tells whether it succeeded. -/
def Judged (success : Bool) (h : Host) : Prop :=
  h.running = false ∧ (success = true ↔ h.exitStatus = some 0)

theorem steady_judged (success : Bool) : Steady (Judged success) where
  meanwhile h exits hjudged := by rwa [Host.meanwhile_of_idle hjudged.1]
  send _ _ hjudged := hjudged

theorem meets_streamSubprocess (cmd : List String) :
    Meets (Phase (EsptoolFits released) released (Idle none)) (streamSubprocess cmd : Flow φ Bool)
      (fun success => Phase (EsptoolFits released) released (Judged success))
      (Off (EsptoolFits released) bluetooth) := by
  have hbreaks : ToolBreaks (EsptoolFits released : List (Answer φ) → Prop) released (Idle none)
      false (Off (EsptoolFits released) bluetooth) := by
    refine ⟨breaks_fits, fun past exits exc hfits hos => ?_, ?_, nofun⟩
    · exact fits_append.mpr ⟨hfits, rfl, fun _ => ⟨rfl, by simp [How.raisesSpawn, hos]⟩⟩
    · rintro past h exits exc ⟨hstands, hidle⟩ hother
      rw [Host.meanwhile_of_idle hidle.1]
      refine ⟨hstands.unlogged, ?_⟩
      cases released with
      | false =>
        refine iff_of_true ⟨fun hstopped => ?_, hstands.alone⟩ ?_
        · rw [hstands.down] at hstopped
          cases hstopped
        · exact fits_append.mpr ⟨hstands.kind, rfl, nofun⟩
      | true =>
        refine iff_of_false (fun hrestored => ?_) fun hfits => ?_
        · have hstatus := (hrestored.1 hstands.down).2
          rw [hidle.2] at hstatus
          cases hstatus
        · have hspawn := ((fits_append.mp hfits).2.2 rfl).2
          simp [How.raisesSpawn, hother] at hspawn
  refine meets_runTool keeps_fits hbreaks (steady_idle none) (fun h hidle => hidle.1) cmd _ _ _ _
    (fun h hidle => ⟨hidle.1, ?_⟩) fun seen returncode h hidle => ⟨hidle.1, ?_⟩
  · simp [hidle.2]
  · simp [hidle.2]

theorem meets_startSource :
    Meets (Phase (EsptoolFits released) down fun h => h.running = false)
      (startSource : Flow φ Bool)
      (fun _ => Phase (EsptoolFits released) false fun h => h.running = false)
      (Off (EsptoolFits released) bluetooth) := by
  refine meets_bind (Q := fun _ => Phase (EsptoolFits released) false fun h => h.running = false)
    (meets_act ?_) fun _ => ?_
  · rintro past h ⟨hstands, hidle⟩
    refine ⟨⟨hstands.kind, hstands.runs, rfl, ?_, hstands.unlogged⟩, hidle⟩
    simp [Host.restart, hstands.alone, hidle]
  refine meets_pause (fun _ _ _ => trivial) ?_ ?_
    fun past h exits how took hP => breaks_fits.interrupted past h exits how took hP.1
  · rintro past h exits reply a ⟨hstands, hidle⟩ hreply
    cases reply with
    | started connected =>
      refine ⟨hstands.answer (fits_comes hstands.kind exits _) rfl, ?_⟩
      rw [Host.meanwhile_of_idle hidle]
      exact hidle
    | _ => cases hreply
  · rintro past h exits point exc f ⟨hstands, hidle⟩ hraising
    obtain ⟨rfl, rfl⟩ := eq_of_raisesAt hraising
    refine closes_of_stands (hstands.answer ?_ rfl) nofun
    exact fits_append.mpr ⟨hstands.kind, rfl, fun _ => ⟨rfl, rfl⟩⟩

theorem meets_chunk {T : Host → Prop} (hsteady : Steady T) (chunk : Chunk) :
    Meets (Phase (EsptoolFits released) down T) (yieldChunk chunk : Flow φ PUnit)
      (fun _ => Phase (EsptoolFits released) down T) (Off (EsptoolFits released) bluetooth) :=
  meets_yieldChunk keeps_fits breaks_fits hsteady chunk

variable (route : EsptoolRoute φ)

theorem meets_stopSource :
    Meets (Phase (EsptoolFits true) false (Idle none)) (stopSource : Flow φ PUnit)
      (fun _ => Phase (EsptoolFits true) true (Idle none))
      (Off (EsptoolFits true) bluetooth) := by
  refine meets_pause (fun _ _ _ => trivial) ?_ ?_
    fun past h exits how took hP => breaks_fits.interrupted past h exits how took hP.1
  · rintro past h exits reply a ⟨hstands, hidle⟩ hreply
    cases reply with
    | stopped =>
      refine ⟨hstands.stopped (fits_comes hstands.kind exits _) rfl, ?_⟩
      rw [Host.meanwhile_of_idle hidle.1]
      exact hidle
    | _ => cases hreply
  · rintro past h exits point exc f ⟨hstands, hidle⟩ hraising
    rw [Host.meanwhile_of_idle hidle.1]
    cases point with
    | stop stopped =>
      cases hraising
      cases stopped with
      | false =>
        have hfits : EsptoolFits true (past ++ [⟨exits, .raises (.stop false) exc⟩]) :=
          fits_append.mpr ⟨hstands.kind, rfl, fun _ => ⟨rfl, rfl⟩⟩
        have hanswer := hstands.answer hfits rfl
        rw [Host.meanwhile_of_idle hidle.1] at hanswer
        exact closes_of_stands hanswer nofun
      | true =>
        refine ⟨hstands.unlogged, iff_of_false (fun hrestored => ?_) fun hfits => ?_⟩
        · have hstatus := (hrestored.1 rfl).2
          have hnone : h.exitStatus = some 0 := hstatus
          rw [hidle.2] at hnone
          cases hnone
        · cases ((fits_append.mp hfits).2.2 rfl).1
    | _ => cases hraising

theorem meets_releasePort :
    Meets (Phase (EsptoolFits route.source.isSome) false (Idle none)) route.releasePort
      (fun _ => Phase (EsptoolFits route.source.isSome) route.source.isSome (Idle none))
      (Off (EsptoolFits route.source.isSome) bluetooth) := by
  unfold releasePort
  cases route.source with
  | none => exact meets_pure fun _ _ hP => hP
  | some source =>
    exact meets_bind (meets_chunk (steady_idle none) _) fun _ => meets_stopSource

/-- After the tool has ended, the port is given back unless the board has Bluetooth firmware now. -/
theorem meets_restorePort (success : Bool) :
    Meets (Phase (EsptoolFits route.source.isSome) route.source.isSome (Judged success))
      (route.restorePort success)
      (fun _ => Closes (EsptoolFits route.source.isSome) route.bluetooth)
      (Off (EsptoolFits route.source.isSome) route.bluetooth) := by
  have hstarted : ∀ chunk : Chunk,
      Meets (Phase (EsptoolFits true) false fun h => h.running = false)
        (yieldChunk chunk : Flow φ PUnit) (fun _ => Closes (EsptoolFits true) route.bluetooth)
        (Off (EsptoolFits true) route.bluetooth) :=
    fun chunk => meets_imp (meets_chunk steady_running chunk) (fun _ _ hP => hP)
      (fun _ _ _ hP => closes_of_stands hP.1 nofun) fun _ _ _ hE => hE
  unfold restorePort
  cases route.source with
  | none => exact meets_pure fun past h hP => closes_of_stands hP.1 nofun
  | some source =>
    cases success with
    | false =>
      refine meets_bind (meets_chunk (steady_judged false) _) fun _ => ?_
      refine meets_bind (meets_imp meets_startSource (fun _ _ hP => ⟨hP.1, hP.2.1⟩)
        (fun _ _ _ hP => hP) fun _ _ _ hE => hE) fun connected => ?_
      exact hstarted _
    | true =>
      cases hbluetooth : route.bluetooth with
      | true =>
        refine meets_imp (meets_chunk (steady_judged true) _) (fun _ _ hP => hP) ?_
          fun _ _ _ hE => hE
        exact fun _ past h hP => closes_of_stands hP.1 fun _ => ⟨rfl, hP.2.2.mp rfl⟩
      | false =>
        rw [hbluetooth] at hstarted
        refine meets_bind (meets_chunk (steady_judged true) _) fun _ => ?_
        refine meets_bind (meets_sleep keeps_fits breaks_fits (steady_judged true)) fun _ => ?_
        refine meets_bind (meets_imp meets_startSource (fun _ _ hP => ⟨hP.1, hP.2.1⟩)
          (fun _ _ _ hP => hP) fun _ _ _ hE => hE) fun connected => ?_
        exact hstarted _

theorem meets_flashFetched (fw : φ) :
    Meets (Phase (EsptoolFits route.source.isSome) false (Idle none)) (route.flashFetched fw)
      (fun _ => Closes (EsptoolFits route.source.isSome) route.bluetooth)
      (Off (EsptoolFits route.source.isSome) route.bluetooth) := by
  unfold flashFetched
  refine meets_bind (meets_chunk (steady_idle none) _) fun _ => ?_
  refine meets_bind (meets_releasePort route) fun _ => ?_
  refine meets_bind (meets_streamSubprocess (route.cmd fw)) fun success => ?_
  refine meets_bind (meets_restorePort route success) fun _ => ?_
  exact meets_pure fun _ _ hP => hP

theorem meets_reportFetch (exc : Exc) :
    Meets (Phase (EsptoolFits released) false (Idle none)) (reportFetch exc : Flow φ _)
      (fun _ => Closes (EsptoolFits released) bluetooth)
      (Off (EsptoolFits released) bluetooth) := by
  unfold reportFetch
  refine meets_bind (meets_chunk (steady_idle none) _) fun _ => ?_
  refine meets_bind (meets_chunk (steady_idle none) _) fun _ => ?_
  exact meets_pure fun past h hP => closes_of_stands hP.1 nofun

/-- Inside the `try` an exception of the fetch leaves the phase as it is. -/
def Fetching (released bluetooth : Bool) : Stop Exc → Assertion Host (Answer φ)
  | .raised _ => Phase (EsptoolFits released) false (Idle none)
  | .interrupted how => Off (EsptoolFits released) bluetooth (.interrupted how)
  | .dropped => Off (EsptoolFits released) bluetooth .dropped
  | .waiting => Off (EsptoolFits released) bluetooth .waiting

theorem meets_fetchFirmware :
    Meets (Phase (EsptoolFits released) false (Idle none))
      (attempt (fun _ => true) (fetchFirmware : Flow φ φ))
      (fun _ => Phase (EsptoolFits released) false (Idle none))
      (Off (EsptoolFits released) bluetooth) := by
  have hoff : Breaks (EsptoolFits released : List (Answer φ) → Prop) false
      (Off (EsptoolFits released) bluetooth) := breaks_fits
  have hbreaks : Breaks (EsptoolFits released : List (Answer φ) → Prop) false
      (Fetching released bluetooth) := ⟨fun _ _ => trivial, hoff.interrupted⟩
  refine meets_attempt (Q := fun _ => Phase (EsptoolFits released) false (Idle none))
    (F := Fetching released bluetooth) ?_ (fun _ _ _ hP => hP) (fun exc past h hE _ => hE) ?_
  · refine meets_plain keeps_fits hbreaks (steady_idle none) (fun h reply a hreply => ?_) ?_
    · cases reply with
      | fetched fw => exact ⟨rfl, rfl⟩
      | _ => cases hreply
    · rintro past h exits point exc f ⟨hstands, hidle⟩ hraising
      obtain ⟨rfl, rfl⟩ := eq_of_raisesAt hraising
      refine ⟨hstands.answer (fits_append.mpr ⟨hstands.kind, rfl, fun _ => ⟨rfl, rfl⟩⟩) rfl, ?_⟩
      exact (steady_idle none).meanwhile h exits hidle
  · intro stop past h hE hnot
    cases stop with
    | raised exc => exact absurd (hnot exc rfl) (by decide)
    | interrupted how => exact hE
    | dropped => exact hE
    | waiting => exact hE

theorem meets_block :
    Meets (fun past h => past = [] ∧ h = .start) route.block
      (fun _ => Closes (EsptoolFits route.source.isSome) route.bluetooth)
      (Off (EsptoolFits route.source.isSome) route.bluetooth) := by
  refine meets_imp (O := Phase (EsptoolFits route.source.isSome) false (Idle none)) ?_ ?_
    (fun _ _ _ hP => hP) fun _ _ _ hE => hE
  · unfold block
    refine meets_bind (meets_chunk (steady_idle none) _) fun _ => ?_
    refine meets_bind meets_fetchFirmware fun fetched => ?_
    cases fetched with
    | error exc => exact meets_reportFetch exc
    | ok fw => exact meets_flashFetched route fw
  · rintro past h ⟨rfl, rfl⟩
    exact ⟨⟨nofun, rfl, rfl, rfl, rfl⟩, rfl, rfl⟩

/-- **The routes with esptool.** A stream gives the port back exactly when its script fits. -/
theorem body_givenBack_iff {script : List (Answer φ)} {h : Host}
    (houtcome : outcome route.body script = some h) :
    GivenBack route.bluetooth h ↔ EsptoolFits route.source.isSome script :=
  givenBack_of_meets (meets_block route) houtcome

end EsptoolRoute

end Meshpoint.FlashStreams
