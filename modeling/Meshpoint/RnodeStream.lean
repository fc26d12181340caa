import Meshpoint.EsptoolStreams

/-!
# The flash stream of rnodeconf

The stream of the RNode route starts the daemon in a `finally` block that yields. A stream that is
closed is dropped at that `yield`; one that is cancelled goes on there, while the tool may still
run, and is not logged unless the restart itself raises.
-/

namespace Meshpoint.FlashStreams

open AsyncGenerators

/-- The stream is not interrupted, unless it ends with an exception after all; stopping the daemon
    does not raise afterwards; and the tool has ended when the daemon is asked to start. -/
structure RnodeFits (script : List (Answer PUnit)) : Prop where
  uncut : (∀ answer ∈ script, answer.how.interrupts = false) ∨
    ∃ before answer, script = before ++ [answer] ∧ answer.how.isRaise = true
  stopping : ∀ answer ∈ script, answer.how.raisesStopped = false
  idle : IdleAtStart script

namespace RnodeRoute

/-- The answers before the daemon is asked to start; `cut` tells whether one is an interrupt. -/
structure Before (cut : Bool) (past : List (Answer PUnit)) : Prop where
  cut_iff : cut = true ↔ ∃ answer ∈ past, answer.how.interrupts = true
  stopping : ∀ answer ∈ past, answer.how.raisesStopped = false
  unasked : ∀ answer ∈ past, answer.how.isStart = false

variable {cut down : Bool} {past : List (Answer PUnit)} {answer : Answer PUnit} {h : Host}

theorem before_nil : Before false [] :=
  ⟨by simp, nofun, nofun⟩

theorem Before.append (hbefore : Before cut past) {cut' : Bool}
    (hcut : cut' = (cut || answer.how.interrupts)) (hstopping : answer.how.raisesStopped = false)
    (hstart : answer.how.isStart = false) : Before cut' (past ++ [answer]) where
  cut_iff := by
    subst hcut
    rw [Bool.or_eq_true, hbefore.cut_iff]
    simp only [List.mem_append, List.mem_singleton]
    constructor
    · rintro (⟨other, hmem, hother⟩ | hanswer)
      · exact ⟨other, .inl hmem, hother⟩
      · exact ⟨answer, .inr rfl, hanswer⟩
    · rintro ⟨other, hmem | rfl, hother⟩
      · exact .inl ⟨other, hmem, hother⟩
      · exact .inr hother
  stopping := by
    rw [List.forall_mem_append, List.forall_mem_singleton]
    exact ⟨hbefore.stopping, hstopping⟩
  unasked := by
    rw [List.forall_mem_append, List.forall_mem_singleton]
    exact ⟨hbefore.unasked, hstart⟩

theorem keeps_before : Keeps (Before cut) :=
  fun _ _ _ hbefore hstart => hbefore.append (by simp [How.interrupts]) rfl hstart

theorem not_fits_of_cut (hcut : ∃ other ∈ past ++ [answer], other.how.interrupts = true)
    (hlast : answer.how.isRaise = false) : ¬ RnodeFits (past ++ [answer]) := by
  rintro ⟨huncut | ⟨before, other, heq, hraise⟩, -, -⟩
  · obtain ⟨other, hmem, hinterrupts⟩ := hcut
    rw [huncut other hmem] at hinterrupts
    cases hinterrupts
  · obtain ⟨-, hother⟩ := List.append_inj' heq rfl
    cases hother
    rw [hlast] at hraise
    cases hraise

theorem not_fits_of_interrupts (hanswer : answer.how.interrupts = true) :
    ¬ RnodeFits (past ++ [answer]) := by
  refine not_fits_of_cut ⟨answer, by simp, hanswer⟩ ?_
  revert hanswer
  cases answer.how <;> simp [How.interrupts, How.isRaise]

theorem fits_of_before (hbefore : Before false past) : RnodeFits past := by
  refine ⟨.inl fun answer hmem => ?_, hbefore.stopping, idleAtStart_of_none hbefore.unasked⟩
  by_contra hinterrupts
  have hcut := hbefore.cut_iff.mpr ⟨answer, hmem, by simpa using hinterrupts⟩
  cases hcut

theorem breaks_before : Breaks (Before cut) down (Off RnodeFits false) where
  waiting _ _ := trivial
  interrupted past h exits how took hstands := by
    refine ⟨?_, not_fits_of_interrupts rfl⟩
    rw [Host.entries_after, Host.entries_meanwhile, hstands.unlogged]

theorem closes_of_before (hstands : Stands (Before false) false past h) :
    Closes RnodeFits false past h := by
  refine ⟨hstands.unlogged, iff_of_true ⟨fun hdown => ?_, hstands.alone⟩
    (fits_of_before hstands.kind)⟩
  rw [hstands.down] at hdown
  cases hdown

/-! ### Stopping the daemon -/

theorem meets_systemctlStop :
    Meets (Phase (Before false) false (Idle none)) systemctlStop
      (fun _ => Phase (Before false) true (Idle none)) (Off RnodeFits false) := by
  refine meets_pause (fun _ _ _ => trivial) ?_ ?_
    fun past h exits how took hP => breaks_before.interrupted past h exits how took hP.1
  · rintro past h exits reply a ⟨hstands, hidle⟩ hreply
    cases reply with
    | status verb returncode output =>
      unfold statusOf at hreply
      simp only at hreply
      split at hreply
      · rename_i hverb
        subst hverb
        refine ⟨hstands.stopped (keeps_before past exits _ hstands.kind rfl) rfl, ?_⟩
        rw [Host.meanwhile_of_idle hidle.1]
        exact hidle
      · cases hreply
    | _ => cases hreply
  · rintro past h exits point exc f ⟨hstands, hidle⟩ hraising
    cases point with
    | stop stopped =>
      cases hraising
      rw [Host.meanwhile_of_idle hidle.1]
      refine ⟨?_, ?_⟩
      · cases stopped <;> exact hstands.unlogged
      · cases stopped with
        | false =>
          have hbefore : Before false (past ++ [⟨exits, .raises (.stop false) exc⟩]) :=
            hstands.kind.append rfl rfl rfl
          refine iff_of_true ⟨fun hdown => ?_, hstands.alone⟩ (fits_of_before hbefore)
          have hstopped : h.down = true := hdown
          rw [hstands.down] at hstopped
          cases hstopped
        | true =>
          refine iff_of_false (fun hrestored => ?_) fun hfits => ?_
          · cases (hrestored.1 rfl).1
          · cases hfits.stopping ⟨exits, .raises (.stop true) exc⟩ (by simp)
    | _ => cases hraising

variable (route : RnodeRoute)

theorem meets_chunk {T : Host → Prop} (hsteady : Steady T) (chunk : Chunk) :
    Meets (Phase (Before cut) down T) (yieldChunk chunk) (fun _ => Phase (Before cut) down T)
      (Off RnodeFits false) :=
  meets_yieldChunk keeps_before breaks_before hsteady chunk

theorem meets_releasePort :
    Meets (Phase (Before false) false (Idle none)) route.releasePort
      (fun _ => Phase (Before false) route.releaseRnsd (Idle none)) (Off RnodeFits false) := by
  unfold releasePort
  cases route.releaseRnsd with
  | false => exact meets_pure fun _ _ hP => hP
  | true =>
    refine meets_bind (meets_chunk (steady_idle none) _) fun _ => ?_
    refine meets_bind meets_systemctlStop fun status => ?_
    dsimp only
    split
    · exact meets_chunk (steady_idle none) _
    · exact meets_pure fun _ _ hP => hP

/-! ### The `try` block -/

def EndsCut (past : List (Answer PUnit)) : Prop :=
  ∃ before answer, past = before ++ [answer] ∧ answer.how.interrupts = true

/-- How the `try` block stops. -/
def Trying (down : Bool) : Stop Exc → Assertion Host (Answer PUnit)
  | .raised _ => Phase (Before false) down fun _ => True
  | .interrupted _ => fun past h => EndsCut past ∧ ∃ down, Stands (Before true) down past h
  | .dropped => fun _ _ => False
  | .waiting => fun _ _ => True

theorem breaks_trying : Breaks (Before false) down (Trying down) where
  waiting _ _ := trivial
  interrupted past h exits how took hstands := by
    have hbefore : Before true (past ++ [⟨exits, .interrupted how took⟩]) :=
      hstands.kind.append rfl rfl rfl
    refine ⟨⟨past, _, rfl, rfl⟩, ?_⟩
    rcases took with _ | _ | _
    · exact ⟨down, hstands.answer hbefore rfl⟩
    · exact ⟨true, hstands.stopped hbefore rfl⟩
    · exact ⟨down, hstands.spawned hbefore rfl⟩

theorem meets_tool {μ : Type} (cmd : List String) (feeds : Bool) (see : μ → String → μ) (seen : μ)
    (succeeded : μ → Int → Bool) (already : μ → Option Bool) :
    Meets (Phase (Before false) down fun h => h.running = false)
      (runTool cmd feeds see seen succeeded already)
      (fun _ => Phase (Before false) down fun h => h.running = false) (Trying down) := by
  have hbreaks : ToolBreaks (Before false) down (fun h => h.running = false) feeds
      (Trying down) := by
    refine ⟨breaks_trying, fun past exits exc hbefore _ => hbefore.append rfl rfl rfl, ?_, ?_⟩
    · intro past h exits exc hP _
      exact ⟨hP.1.answer (hP.1.kind.append rfl rfl rfl) rfl, trivial⟩
    · intro _ past h exits exc hstands
      exact ⟨hstands.answer (hstands.kind.append rfl rfl rfl) rfl, trivial⟩
  exact meets_runTool keeps_before hbreaks steady_running (fun h hidle => hidle) cmd see seen
    succeeded already (fun h hidle => hidle) fun _ _ h hidle => hidle.1

theorem meets_tryChunk {T : Host → Prop} (hsteady : Steady T) (chunk : Chunk) :
    Meets (Phase (Before false) down T) (yieldChunk chunk)
      (fun _ => Phase (Before false) down T) (Trying down) :=
  meets_yieldChunk keeps_before breaks_trying hsteady chunk

theorem meets_eraseBoard :
    Meets (Phase (Before false) down fun h => h.running = false) route.eraseBoard
      (fun _ => Phase (Before false) down fun h => h.running = false) (Trying down) := by
  unfold eraseBoard
  split
  · refine meets_bind (meets_tryChunk steady_running _) fun _ => ?_
    refine meets_bind (meets_tool _ _ _ _ _ _) fun wipeOk => ?_
    split
    · refine meets_bind (meets_tryChunk steady_running _) fun _ => ?_
      refine meets_bind (meets_sleep keeps_before breaks_trying steady_running) fun _ => ?_
      exact meets_pure fun _ _ hP => hP
    · refine meets_bind (meets_tryChunk steady_running _) fun _ => ?_
      exact meets_pure fun _ _ hP => hP
  · exact meets_pure fun _ _ hP => hP

theorem meets_flashBoard :
    Meets (Phase (Before false) down fun h => h.running = false) route.flashBoard
      (fun _ => Phase (Before false) down fun h => h.running = false) (Trying down) := by
  unfold flashBoard
  refine meets_bind (meets_eraseBoard route) fun erased => ?_
  split
  · refine meets_bind (meets_tool _ _ _ _ _ _) fun success => ?_
    exact meets_pure fun _ _ hP => hP
  · exact meets_pure fun _ _ hP => hP

/-! ### The `finally` block -/

/-- The daemon was asked to start, and the last answer goes on. -/
structure Asked (cut : Bool) (past : List (Answer PUnit)) (h : Host) : Prop where
  cut_iff : cut = true ↔ ∃ answer ∈ past, answer.how.interrupts = true
  stopping : ∀ answer ∈ past, answer.how.raisesStopped = false
  alone_iff : h.clashed = false ↔ IdleAtStart past
  down : h.down = false
  unlogged : h.entries = []
  goes : ∃ before exits reply, past = before ++ [⟨exits, .comes reply⟩]

theorem Asked.goOn {exits : Option Int} {reply : Reply PUnit} (hasked : Asked cut past h)
    (hstart : (How.comes reply : How PUnit).isStart = false) :
    Asked cut (past ++ [⟨exits, .comes reply⟩]) (h.meanwhile exits) where
  cut_iff := by
    rw [hasked.cut_iff]
    simp [How.interrupts]
  stopping := by
    rw [List.forall_mem_append, List.forall_mem_singleton]
    exact ⟨hasked.stopping, rfl⟩
  alone_iff := by
    rw [Host.clashed_meanwhile, hasked.alone_iff, idleAtStart_append]
    exact ⟨fun hidle => ⟨hidle, fun hasks => by rw [hstart] at hasks; cases hasks⟩, And.left⟩
  down := (h.down_meanwhile exits).trans hasked.down
  unlogged := (h.entries_meanwhile exits).trans hasked.unlogged
  goes := ⟨past, exits, reply, rfl⟩

theorem restored_iff {h : Host} (hdown : h.down = false) :
    Restored false h ↔ h.clashed = false := by
  refine ⟨And.right, fun halone => ⟨fun hstopped => ?_, halone⟩⟩
  rw [hdown] at hstopped
  cases hstopped

theorem closes_of_raise {exits : Option Int} {point : Point} {exc : Exc}
    (hstopping : ∀ answer ∈ past, answer.how.raisesStopped = false)
    (hpoint : (How.raises point exc : How PUnit).raisesStopped = false) (hdown : h.down = false)
    (hentries : h.entries = [])
    (halone : h.clashed = false ↔ IdleAtStart (past ++ [⟨exits, .raises point exc⟩])) :
    Closes RnodeFits false (past ++ [⟨exits, .raises point exc⟩]) h := by
  refine ⟨hentries, (restored_iff hdown).trans (halone.trans ⟨fun hidle => ?_, RnodeFits.idle⟩)⟩
  refine ⟨.inr ⟨past, _, rfl, rfl⟩, ?_, hidle⟩
  rw [List.forall_mem_append, List.forall_mem_singleton]
  exact ⟨hstopping, hpoint⟩

theorem closes_of_asked (hasked : Asked false past h) : Closes RnodeFits false past h := by
  refine ⟨hasked.unlogged, (restored_iff hasked.down).trans (hasked.alone_iff.trans
    ⟨fun hidle => ⟨.inl fun answer hmem => ?_, hasked.stopping, hidle⟩, RnodeFits.idle⟩)⟩
  by_contra hinterrupts
  have hcut := hasked.cut_iff.mpr ⟨answer, hmem, by simpa using hinterrupts⟩
  cases hcut

theorem not_fits_of_asked (hasked : Asked true past h) : ¬ RnodeFits past := by
  obtain ⟨before, exits, reply, rfl⟩ := hasked.goes
  exact not_fits_of_cut (hasked.cut_iff.mp rfl) rfl

theorem meets_afterStart {α : Type} {raising : Point → Option (Host → Host)}
    {accept : Host → Reply PUnit → Option α}
    (haccept : ∀ h reply a, accept h reply = some a →
      (How.comes reply : How PUnit).isStart = false)
    (hraising : ∀ point f, raising point = some f → point = .status ∧ f = id) :
    Meets (Asked cut) (pause raising accept none) (fun _ => Asked cut) (Off RnodeFits false) := by
  refine meets_pause (fun _ _ _ => trivial) ?_ ?_ ?_
  · exact fun past h exits reply a hasked hreply => hasked.goOn (haccept _ _ _ hreply)
  · intro past h exits point exc f hasked hraises
    obtain ⟨rfl, rfl⟩ := hraising point f hraises
    refine closes_of_raise hasked.stopping rfl ((h.down_meanwhile exits).trans hasked.down)
      ((h.entries_meanwhile exits).trans hasked.unlogged) ?_
    rw [id, Host.clashed_meanwhile, hasked.alone_iff, idleAtStart_append]
    exact ⟨fun hidle => ⟨hidle, nofun⟩, And.left⟩
  · intro past h exits how took hasked
    refine ⟨?_, not_fits_of_interrupts rfl⟩
    rw [Host.entries_after, Host.entries_meanwhile, hasked.unlogged]

/-- The daemon is being asked to start. -/
structure Asking (cut : Bool) (past : List (Answer PUnit)) (h : Host) : Prop where
  before : Before cut past
  clashed : h.clashed = toolRuns past
  down : h.down = false
  unlogged : h.entries = []

theorem Asking.alone_iff (hasking : Asking cut past h) {exits : Option Int} {how : How PUnit}
    (hstart : how.isStart = true) :
    (h.meanwhile exits).clashed = false ↔ IdleAtStart (past ++ [⟨exits, how⟩]) := by
  rw [Host.clashed_meanwhile, hasking.clashed, idleAtStart_append]
  exact ⟨fun hidle => ⟨idleAtStart_of_none hasking.before.unasked, fun _ => hidle⟩,
    fun hidle => hidle.2 hstart⟩

theorem asked_of_asking (hasking : Asking cut past h) {exits : Option Int} {reply : Reply PUnit}
    (hstart : (How.comes reply : How PUnit).isStart = true) :
    Asked cut (past ++ [⟨exits, .comes reply⟩]) (h.meanwhile exits) where
  cut_iff := by
    rw [hasking.before.cut_iff]
    simp [How.interrupts]
  stopping := by
    rw [List.forall_mem_append, List.forall_mem_singleton]
    exact ⟨hasking.before.stopping, rfl⟩
  alone_iff := hasking.alone_iff hstart
  down := (h.down_meanwhile exits).trans hasking.down
  unlogged := (h.entries_meanwhile exits).trans hasking.unlogged
  goes := ⟨past, exits, reply, rfl⟩

theorem eq_of_statusOf {verb : Verb} {reply : Reply PUnit} {status : Int × String}
    (hreply : statusOf verb h reply = some status) :
    reply = .status verb status.1 status.2 := by
  cases reply with
  | status verb' returncode output =>
    simp only [statusOf] at hreply
    split at hreply
    · cases hreply
      subst verb'
      rfl
    · cases hreply
  | _ => cases hreply

theorem meets_systemctlStart :
    Meets (Phase (Before cut) down fun _ => True) systemctlStart (fun _ => Asked cut)
      (Off RnodeFits false) := by
  refine meets_bind (Q := fun _ => Asking cut) (meets_act ?_) fun _ => ?_
  · rintro past h ⟨hstands, -⟩
    exact ⟨hstands.kind, by simp [Host.restart, hstands.alone, hstands.runs], rfl,
      hstands.unlogged⟩
  refine meets_pause (fun _ _ _ => trivial) ?_ ?_ ?_
  · intro past h exits reply status hasking hreply
    cases eq_of_statusOf hreply
    exact asked_of_asking hasking rfl
  · intro past h exits point exc f hasking hraising
    obtain ⟨rfl, rfl⟩ := eq_of_raisesAt hraising
    exact closes_of_raise hasking.before.stopping rfl
      ((h.down_meanwhile exits).trans hasking.down)
      ((h.entries_meanwhile exits).trans hasking.unlogged) (hasking.alone_iff rfl)
  · intro past h exits how took hasking
    refine ⟨?_, not_fits_of_interrupts rfl⟩
    rw [Host.entries_after, Host.entries_meanwhile, hasking.unlogged]

theorem meets_restorePort (hreleased : route.releaseRnsd = true) :
    Meets (Phase (Before cut) down fun _ => True) (route.restorePort false) (fun _ => Asked cut)
      (Off RnodeFits false) := by
  unfold restorePort
  rw [if_pos hreleased, yieldUnless, if_neg (by decide)]
  refine meets_bind (meets_chunk steady_true _) fun _ => ?_
  refine meets_bind (meets_sleep keeps_before breaks_before steady_true) fun _ => ?_
  refine meets_bind (meets_chunk steady_true _) fun _ => ?_
  refine meets_bind meets_systemctlStart fun _ => ?_
  refine meets_bind (Q := fun _ => Asked cut) (meets_afterStart ?_ ?_) fun status => ?_
  · intro h reply status hreply
    cases eq_of_statusOf hreply
    rfl
  · exact fun point f hraises => eq_of_raisesAt hraises
  refine meets_bind (Q := fun _ => Asked cut) (meets_act ?_) fun _ => meets_afterStart ?_ nofun
  · exact fun past h hasked => ⟨hasked.cut_iff, hasked.stopping, hasked.alone_iff, hasked.down,
      hasked.unlogged, hasked.goes⟩
  · intro h reply a hreply
    cases reply with
    | resumed => rfl
    | _ => cases hreply

theorem meets_final_uncut :
    Meets (Phase (Before false) route.releaseRnsd fun _ => True) (route.restorePort false)
      (fun _ => Closes RnodeFits false) (Off RnodeFits false) := by
  cases hreleased : route.releaseRnsd with
  | true =>
    exact meets_imp (meets_restorePort route hreleased) (fun _ _ hP => hP)
      (fun _ _ _ hasked => closes_of_asked hasked) fun _ _ _ hE => hE
  | false =>
    unfold restorePort
    rw [hreleased]
    exact meets_pure fun _ _ hP => closes_of_before hP.1

theorem not_fits_of_endsCut (hends : EndsCut past) : ¬ RnodeFits past := by
  obtain ⟨before, answer, rfl, hinterrupts⟩ := hends
  exact not_fits_of_interrupts hinterrupts

theorem meets_final_cut (how : Interrupt) :
    Meets (Trying down (.interrupted how)) (route.restorePort (how = .closed))
      (fun _ => Off RnodeFits false (.interrupted how)) (Off RnodeFits false) := by
  cases hreleased : route.releaseRnsd with
  | false =>
    unfold restorePort
    rw [hreleased]
    refine meets_pure fun past h hP => ?_
    obtain ⟨hends, down', hstands⟩ := hP
    exact ⟨hstands.unlogged, not_fits_of_endsCut hends⟩
  | true =>
    cases how with
    | closed =>
      unfold restorePort
      rw [hreleased]
      refine meets_halt fun past h hP => ?_
      obtain ⟨hends, down', hstands⟩ := hP
      exact ⟨hstands.unlogged, not_fits_of_endsCut hends⟩
    | cancelled =>
      have hrestore : ∀ down', Meets (Phase (Before true) down' fun _ => True)
          (route.restorePort false) (fun _ => Asked true) (Off RnodeFits false) :=
        fun down' => meets_restorePort route hreleased
      refine meets_imp (meets_exists hrestore) (fun past h hP => ?_) (fun _ _ _ hasked => ?_)
        fun _ _ _ hE => hE
      · obtain ⟨-, down', hstands⟩ := hP
        exact ⟨down', hstands, trivial⟩
      · exact ⟨hasked.unlogged, not_fits_of_asked hasked⟩

/-! ### The stream -/

theorem meets_block :
    Meets (fun past h => past = [] ∧ h = .start) route.block (fun _ => Closes RnodeFits false)
      (Off RnodeFits false) := by
  refine meets_imp (O := Phase (Before false) false (Idle none)) ?_ ?_ (fun _ _ _ hP => hP)
    fun _ _ _ hE => hE
  · unfold block
    refine meets_bind (meets_releasePort route) fun _ => ?_
    refine meets_bind (Q := fun _ => Closes RnodeFits false) ?_ fun flashed =>
      meets_pure fun _ _ hP => hP
    refine meets_imp (O := Phase (Before false) route.releaseRnsd fun h => h.running = false) ?_
      (fun _ _ hP => ⟨hP.1, hP.2.1⟩) (fun _ _ _ hP => hP) fun _ _ _ hE => hE
    refine meets_tryFinally (meets_flashBoard route) (fun _ => ?_)
      (fun exc => meets_final_uncut route) (fun how => meets_final_cut route how) ?_
    · exact meets_imp (meets_final_uncut route) (fun _ _ hP => ⟨hP.1, trivial⟩)
        (fun _ _ _ hP => hP) fun _ _ _ hE => hE
    · rintro stop past h (rfl | rfl) hE
      · exact hE.elim
      · trivial
  · rintro past h ⟨rfl, rfl⟩
    exact ⟨⟨before_nil, rfl, rfl, rfl, rfl⟩, rfl, rfl⟩

/-- **The route with rnodeconf.** A stream gives the port back exactly when its script fits. -/
theorem body_givenBack_iff {script : List (Answer PUnit)} {h : Host}
    (houtcome : outcome route.body script = some h) : GivenBack false h ↔ RnodeFits script :=
  givenBack_of_meets (meets_block route) houtcome

end RnodeRoute

/-! ### All routes -/

def usbSource : Source := ⟨"serial", true⟩

/-- Meshtastic for a board on the port of a source. -/
def heltecStream : EsptoolRoute MeshtasticFirmware :=
  flashMeshtasticStream "heltec-v3" "" "/dev/ttyUSB0" true (some usbSource)

def bluetoothStream : EsptoolRoute MeshcoreFirmware :=
  flashMeshcoreStream "Heltec_v3" "" "ble" "/dev/ttyUSB0" true (some usbSource)

def rnodeStream : RnodeRoute := ⟨"rnodeconf", "/dev/ttyUSB0", true, false⟩

def answers {φ : Type} (replies : List (Reply φ)) : List (Answer φ) :=
  replies.map fun reply => ⟨none, .comes reply⟩

def toolRun {φ : Type} (returncode : Int) : List (Answer φ) :=
  answers [.resumed, .spawned, .item (some ⟨"stdout", "Hash of data verified."⟩), .resumed,
    .item none, .item none, .joined, .joined] ++
  [⟨some returncode, .comes .exited⟩] ++ answers [.resumed]

def heltecFlash : List (Answer MeshtasticFirmware) :=
  answers [.resumed,
    .fetched ⟨"2.5.0", "esp32s3", "factory.bin", some "littlefs.bin", some 0x300000⟩, .resumed,
    .resumed, .stopped] ++
  toolRun 0 ++ answers [.resumed, .slept, .started true, .resumed]

def bluetoothFlash : List (Answer MeshcoreFirmware) :=
  answers [.resumed, .fetched ⟨"companion-v1.7.0", "ble", "merged.bin"⟩, .resumed, .resumed,
    .stopped] ++
  toolRun 0 ++ answers [.resumed]

/-- The daemon is stopped, rnodeconf runs to its end, and the daemon is asked to start. -/
def rnodeFlash : List (Answer PUnit) :=
  answers [.resumed, .status .stop 0 ""] ++
  answers [.resumed, .spawned, .fed, .item (some ⟨"stdout", SUCCESS_MARKER⟩), .resumed, .item none,
    .item none, .joined, .joined] ++
  [⟨some 0, .comes .exited⟩] ++ answers [.resumed, .resumed, .slept, .resumed]

def rnodeRestart : List (Answer PUnit) :=
  rnodeFlash ++ [⟨none, .comes (.status .start 0 "")⟩] ++
    [⟨none, .comes (.status .isActive 0 "")⟩] ++ [⟨none, .comes .resumed⟩]

/-- **Flashing gives the port back.** A stream that has ended started what it had stopped (but after
    a Bluetooth firmware that was written), not while the tool ran, and left one entry in the log,
    exactly when its script fits its route. -/
theorem flash_givenBack_iff (board tag flavor port : String) (eraseAll : Bool)
    (source : Option Source) (route : RnodeRoute) :
    (∀ (script : List (Answer MeshtasticFirmware)) (h : Host),
      outcome (flashMeshtasticStream board tag port eraseAll source).body script = some h →
        (GivenBack false h ↔ EsptoolFits source.isSome script)) ∧
    (∀ (script : List (Answer MeshcoreFirmware)) (h : Host),
      outcome (flashMeshcoreStream board tag flavor port eraseAll source).body script = some h →
        (GivenBack (flavor = "ble") h ↔ EsptoolFits source.isSome script)) ∧
    ∀ (script : List (Answer PUnit)) (h : Host),
      outcome route.body script = some h → (GivenBack false h ↔ RnodeFits script) := by
  refine ⟨fun script h houtcome => ?_, fun script h houtcome => ?_,
    fun script h houtcome => route.body_givenBack_iff houtcome⟩
  · exact EsptoolRoute.body_givenBack_iff _ houtcome
  · exact EsptoolRoute.body_givenBack_iff _ houtcome

theorem flash_givenBack_flashes :
    (∃ h, outcome heltecStream.body heltecFlash = some h ∧ GivenBack false h) ∧
    (∃ h, outcome bluetoothStream.body bluetoothFlash = some h ∧ GivenBack true h) ∧
      ∃ h, outcome rnodeStream.body rnodeRestart = some h ∧ GivenBack false h := by
  have hmeshtastic := (flash_givenBack_iff "heltec-v3" "" "" "/dev/ttyUSB0" true (some usbSource)
    rnodeStream).1
  obtain ⟨-, hmeshcore, hrnode⟩ := flash_givenBack_iff "Heltec_v3" "" "ble" "/dev/ttyUSB0" true
    (some usbSource) rnodeStream
  refine ⟨?_, ?_, ?_⟩
  · obtain ⟨h, houtcome⟩ := Option.isSome_iff_exists.mp
      (show (outcome heltecStream.body heltecFlash).isSome = true by decide +kernel)
    refine ⟨h, houtcome, (hmeshtastic _ _ houtcome).mpr ?_⟩
    unfold EsptoolFits
    decide
  · obtain ⟨h, houtcome⟩ := Option.isSome_iff_exists.mp
      (show (outcome bluetoothStream.body bluetoothFlash).isSome = true by decide +kernel)
    refine ⟨h, houtcome, (hmeshcore _ _ houtcome).mpr ?_⟩
    unfold EsptoolFits
    decide
  · obtain ⟨h, houtcome⟩ := Option.isSome_iff_exists.mp
      (show (outcome rnodeStream.body rnodeRestart).isSome = true by decide +kernel)
    refine ⟨h, houtcome, (hrnode _ _ houtcome).mpr ⟨.inl ?_, ?_, ?_⟩⟩
    · decide
    · decide
    · unfold rnodeRestart
      rw [idleAtStart_append, idleAtStart_append, idleAtStart_append]
      exact ⟨⟨⟨idleAtStart_of_none (by decide), fun _ => by decide⟩, nofun⟩, nofun⟩

def closedFlash : List (Answer MeshtasticFirmware) :=
  heltecFlash.take 8 ++ [⟨none, .interrupted .closed none⟩]

def cancelledFlash : List (Answer MeshcoreFirmware) :=
  bluetoothFlash.take 8 ++ [⟨none, .interrupted .cancelled none⟩]

/-- The stream is cancelled while rnodeconf runs, and goes on in its `finally` block. -/
def cancelledRnode : List (Answer PUnit) :=
  rnodeFlash.take 5 ++ [⟨none, .interrupted .cancelled none⟩] ++
  answers [.resumed, .slept, .resumed, .status .start 0 "", .status .isActive 0 "", .resumed]

/-- The source stays stopped, and the daemon is started beside the tool; nothing is logged. -/
theorem flash_keeps_port :
    (∃ h, outcome heltecStream.body closedFlash = some h ∧ h.down = true ∧ ¬ GivenBack false h) ∧
    (∃ h, outcome bluetoothStream.body cancelledFlash = some h ∧ h.down = true ∧
      ¬ GivenBack true h) ∧
      ∃ h, outcome rnodeStream.body cancelledRnode = some h ∧ h.clashed = true ∧
        ¬ GivenBack false h := by
  have hheltec : (outcome heltecStream.body closedFlash).map (fun h => (h.down, h.entries)) =
      some (true, []) := by decide +kernel
  have hbluetooth : (outcome bluetoothStream.body cancelledFlash).map
      (fun h => (h.down, h.entries)) = some (true, []) := by decide +kernel
  have hrnode : (outcome rnodeStream.body cancelledRnode).map (fun h => (h.clashed, h.entries)) =
      some (true, []) := by decide +kernel
  refine ⟨?_, ?_, ?_⟩
  · obtain ⟨h, houtcome, hleft⟩ := Option.map_eq_some_iff.mp hheltec
    exact ⟨h, houtcome, congrArg Prod.fst hleft, not_givenBack (congrArg Prod.snd hleft)⟩
  · obtain ⟨h, houtcome, hleft⟩ := Option.map_eq_some_iff.mp hbluetooth
    exact ⟨h, houtcome, congrArg Prod.fst hleft, not_givenBack (congrArg Prod.snd hleft)⟩
  · obtain ⟨h, houtcome, hleft⟩ := Option.map_eq_some_iff.mp hrnode
    exact ⟨h, houtcome, congrArg Prod.fst hleft, not_givenBack (congrArg Prod.snd hleft)⟩

end Meshpoint.FlashStreams
