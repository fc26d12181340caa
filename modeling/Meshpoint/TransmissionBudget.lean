import Meshpoint.JsonText
import Meshpoint.PyText
import Meshpoint.SendInterleaving

/-!
# Every transmission against the budget

Model of `send_pager_message` (`src/api/routes/emergency_pager_routes.py`) beside the sends of
`SendInterleaving`, and of the `transmit.enabled` switch that both run under.

A send of `TxService` looks at the switch when it starts, is tested against the budget when its
airtime is known, hands its frame over from a worker thread and books the airtime when it is
resumed.  In between the switch can be turned, and the coroutine can end at any await (an
exception of the HAL wrapper, a cancelled task).  A pager message goes straight to the wrapper.

The lists `accepted`, `handed` and `recorded` are ghosts.  `throughout_budgeted_iff` says in
which runs every frame is budgeted.
-/

namespace Meshpoint.TransmissionBudget

open GuardedRun DutyCycle SendInterleaving JsonText

/-! ### Pager messages -/

structure PagerSendRequest where
  toCapcode : Int
  text : String

/-- What the pager route reads: the concentrator source, with its `_pager_enabled`, and
    `radio.pager_capcode`. -/
structure PagerRoute where
  pagerEnabled : Option Bool
  capcode : Int
deriving DecidableEq

structure HttpError where
  status : Nat
  detail : String
deriving DecidableEq, Repr

def envelope (capcode : Int) (req : PagerSendRequest) (text msgId : String) : List Char :=
  dumps (F := Empty) (.dict (Entries.ofList
    [("from", .int capcode), ("to", .int req.toCapcode), ("text", .str text),
      ("id", .str msgId)]))

/-- `send_pager_message` and `send_fsk_packet` up to the HAL: the payload that is handed over,
    or the refusal.  The text of the envelope is ASCII. -/
def pagerPayload (route : PagerRoute) (req : PagerSendRequest) (msgId : String) :
    Except HttpError (List UInt8) :=
  let text := PyText.strip req.text
  if text = "" then .error ⟨400, "Message text required"⟩
  else
    match route.pagerEnabled with
    | none => .error ⟨503, "Concentrator not available"⟩
    | some false => .error ⟨503, "Pager channel (ch9) is not enabled"⟩
    | some true =>
      if route.capcode = 0 then
        .error ⟨400, "No pager capcode configured -- set one in Configuration -> " ++
          "Radio (Pager) first"⟩
      else
        let payload := (envelope route.capcode req text msgId).map fun c => UInt8.ofNat c.toNat
        if 255 < payload.length then
          .error ⟨400, "FSK payload too long (" ++ toString payload.length ++
            " bytes, max 255)"⟩
        else .ok payload

/-! ### The service -/

/-- A frame that the concentrator was handed: by the coroutine of a send, or by the pager
    route; with what held at that moment. -/
structure Frame where
  sender : Option Nat
  airtimeMs : Nat
  resultCode : Int
  /-- `transmit.enabled`. -/
  enabled : Bool
  /-- `check_budget` has accepted this airtime for this sender. -/
  accepted : Bool
deriving DecidableEq, Repr

structure Service where
  sends : SendInterleaving.State
  /-- `transmit.enabled` of the configuration. -/
  enabled : Bool
  /-- A `TxService` with a concentrator wrapper was built at startup. -/
  available : Bool
  pager : PagerRoute
  /-- The coroutines that ended at an await. -/
  ended : List Nat
  accepted : List (Nat × Nat)
  handed : List Frame
  recorded : List (Nat × TxRecord)

inductive Event where
  | send (e : SendInterleaving.Event)
  /-- `PUT /config/transmit` with `enabled`. -/
  | setEnabled (enabled : Bool)
  /-- `PUT /config/radio/pager` with `pager_capcode`. -/
  | setCapcode (capcode : Int)
  /-- The coroutine of a send ends at the await it is suspended in. -/
  | ends (task : Nat)
  /-- `POST /api/pager/send`.  `msgId` is drawn at random, `airtimeMs` is how long the frame
      is on the air, and the wrapper returns `resultCode`, or raises when it is not started. -/
  | pager (req : PagerSendRequest) (msgId : String) (airtimeMs : Nat)
      (resultCode : Option Int)

def resumes : SendInterleaving.Event → Option Nat
  | .tick _ | .start _ | .halReturns _ _ => none
  | .airtimeKnown task _ | .statusRead task | .resume task | .polled task _ => some task

/-- A send starts only while `meshtastic_enabled`, and an ended coroutine is not resumed. -/
def permitted (s : Service) (e : SendInterleaving.Event) : Bool :=
  match e with
  | .start _ => s.enabled && s.available
  | e => (resumes e).all fun task => !s.ended.contains task

def accepts (s : SendInterleaving.State) : SendInterleaving.Event → List (Nat × Nat)
  | .airtimeKnown task airtimeMs =>
    if (s.tracker.checkBudget s.clock airtimeMs).2 then [(task, airtimeMs)] else []
  | _ => []

def handsOver (s : Service) : SendInterleaving.Event → List Frame
  | .halReturns task resultCode =>
    match s.sends.tasks[task]? with
    | some (.halSend _ airtimeMs) =>
      [⟨some task, airtimeMs, resultCode, s.enabled, s.accepted.contains (task, airtimeMs)⟩]
    | _ => []
  | _ => []

/-- The call of `record_tx` in an event. -/
def records (s : SendInterleaving.State) : SendInterleaving.Event → List (Nat × TxRecord)
  | .resume task =>
    match s.tasks[task]? with
    | some (.halDone kind airtimeMs resultCode) =>
      if resultCode = 0 ∧ kind ≠ .text then [(task, ⟨s.clock, airtimeMs⟩)] else []
    | _ => []
  | .polled task status =>
    match s.tasks[task]? with
    | some (.polling airtimeMs delaysLeft) =>
      if status = TX_FREE ∨ delaysLeft ≤ 1 then [(task, ⟨s.clock, airtimeMs⟩)] else []
    | _ => []
  | _ => []

def step (s : Service) : Event → Option Service
  | .send e =>
    if permitted s e then
      (SendInterleaving.step s.sends e).map fun sends =>
        { s with
          sends := sends
          accepted := s.accepted ++ accepts s.sends e
          handed := s.handed ++ handsOver s e
          recorded := s.recorded ++ records s.sends e }
    else none
  | .setEnabled enabled => some { s with enabled := enabled }
  | .setCapcode capcode => some { s with pager := { s.pager with capcode := capcode } }
  | .ends task =>
    if s.sends.tasks[task]?.any fun phase => decide (phase ≠ .finished) then
      some { s with ended := task :: s.ended }
    else none
  | .pager req msgId airtimeMs resultCode =>
    match pagerPayload s.pager req msgId, resultCode with
    | .ok _, some resultCode =>
      some { s with handed := s.handed ++ [⟨none, airtimeMs, resultCode, s.enabled, false⟩] }
    | _, _ => some s

def start (limits : DutyLimits) (now : ℚ) (enabled available : Bool) (pager : PagerRoute) :
    Service where
  sends := initial limits now
  enabled := enabled
  available := available
  pager := pager
  ended := []
  accepted := []
  handed := []
  recorded := []

/-! ### What a budgeted frame is -/

def recordsOf (s : Service) (task : Nat) : List Nat :=
  (s.recorded.filter fun entry => entry.1 = task).map fun entry => entry.2.airtimeMs

def onAir : Phase → Bool
  | .halDone _ _ resultCode => resultCode = 0
  | .polling _ _ => true
  | _ => false

/-- The coroutine of a send is alive and books the airtime before it ends. -/
def Books (s : Service) (task : Nat) : Prop :=
  task ∉ s.ended ∧ ∃ phase, s.sends.tasks[task]? = some phase ∧ onAir phase = true

/-- The airtime is recorded once, or about to be, when the send succeeded; and not at all
    otherwise. -/
def Recorded (s : Service) (task : Nat) (f : Frame) : Prop :=
  if f.resultCode = 0 then
    recordsOf s task = [f.airtimeMs] ∨ (recordsOf s task = [] ∧ Books s task)
  else recordsOf s task = []

/-- A frame that was sent while transmit was enabled, after the budget test, and is accounted
    for. -/
structure Frame.Budgeted (s : Service) (f : Frame) : Prop where
  enabled : f.enabled = true
  accepted : f.accepted = true
  recorded : ∃ task, f.sender = some task ∧ Recorded s task f

/-- Every frame is budgeted, and the tracker holds the latest of what was recorded. -/
structure Budgeted (s : Service) : Prop where
  frames : ∀ f ∈ s.handed, f.Budgeted s
  ledger : s.sends.tracker.records <:+ s.recorded.map Prod.snd

/-- The guard: a frame is handed over while transmit is still enabled, and a successful one by
    a coroutine that is still alive; no coroutine ends between success and booking; no pager
    message gets as far as the concentrator. -/
def staysBudgeted (s : Service) : Event → Prop
  | .send (.halReturns task resultCode) =>
    s.enabled = true ∧ (resultCode = 0 → task ∉ s.ended)
  | .ends task => ∀ phase ∈ s.sends.tasks[task]?, onAir phase = false
  | .pager req msgId _ resultCode =>
    (pagerPayload s.pager req msgId).isOk = true → resultCode = none
  | _ => True

instance (s : Service) : (e : Event) → Decidable (staysBudgeted s e)
  | .send (.halReturns _ _) => inferInstanceAs (Decidable (_ ∧ _))
  | .ends task => inferInstanceAs (Decidable (∀ phase ∈ s.sends.tasks[task]?, onAir phase = false))
  | .pager _ _ _ _ => inferInstanceAs (Decidable (_ → _))
  | .send (.tick _) | .send (.start _) | .send (.airtimeKnown _ _) | .send (.statusRead _)
  | .send (.resume _) | .send (.polled _ _) | .setEnabled _ | .setCapcode _ => isTrue trivial

/-! ### What one segment of a send does -/

/-- The phase before and after a segment, with the ghost entries it makes. -/
inductive Move (s : Service) (task : Nat) :
    Phase → Phase → List (Nat × Nat) → List Frame → List (Nat × TxRecord) → Prop
  | accepted {kind : SendKind} {a : Nat} {y : Phase}
      (hy : y = .txStatus a ∨ ∃ kind, y = .halSend kind a) :
      Move s task (.airtime kind) y [(task, a)] [] []
  | rejected {kind : SendKind} : Move s task (.airtime kind) .finished [] [] []
  | asked {a : Nat} : Move s task (.txStatus a) (.halSend .text a) [] [] []
  | handed {kind : SendKind} {a : Nat} {code : Int} :
      Move s task (.halSend kind a) (.halDone kind a code) []
        [⟨some task, a, code, s.enabled, s.accepted.contains (task, a)⟩] []
  | polls {kind : SendKind} {a n : Nat} :
      Move s task (.halDone kind a 0) (.polling a n) [] [] []
  | pollsAgain {a n m : Nat} : Move s task (.polling a n) (.polling a m) [] [] []
  | failed {kind : SendKind} {a : Nat} {code : Int} (hcode : code ≠ 0) :
      Move s task (.halDone kind a code) .finished [] [] []
  | booked {kind : SendKind} {a n : Nat} {now : ℚ} {x : Phase}
      (hx : x = .halDone kind a 0 ∨ x = .polling a n) :
      Move s task x .finished [] [] [(task, ⟨now, a⟩)]

/-- The service after a segment of the coroutine `task`. -/
structure Acted (s s' : Service) (task : Nat) (y : Phase) (tests : List (Nat × Nat))
    (frames : List Frame) (entries : List (Nat × TxRecord)) : Prop where
  tasks : s'.sends.tasks = s.sends.tasks.set task y
  accepted : s'.accepted = s.accepted ++ tests
  handed : s'.handed = s.handed ++ frames
  recorded : s'.recorded = s.recorded ++ entries
  ended : s'.ended = s.ended
  ledger : s'.sends.tracker.records <:+ s.sends.tracker.records ++ entries.map Prod.snd

/-- The service after the clock has moved or a send has started. -/
structure Idle (s s' : Service) : Prop where
  tasks : s'.sends.tasks = s.sends.tasks ∨
    ∃ kind, s'.sends.tasks = s.sends.tasks ++ [.airtime kind]
  tracker : s'.sends.tracker = s.sends.tracker
  accepted : s'.accepted = s.accepted
  handed : s'.handed = s.handed
  recorded : s'.recorded = s.recorded
  ended : s'.ended = s.ended

/-- A coroutine takes a segment; only a worker thread does for one that has ended. -/
def Takes (s s' : Service) (e : SendInterleaving.Event) : Prop :=
  ∃ task x y tests frames entries, Move s task x y tests frames entries ∧
    s.sends.tasks[task]? = some x ∧ Acted s s' task y tests frames entries ∧
    (staysBudgeted s (.send e) ↔
      ∀ f ∈ frames, f.enabled = true ∧ (f.resultCode = 0 → task ∉ s.ended)) ∧
    (frames = [] → task ∉ s.ended)

theorem pruneExpired_suffix (tracker : DutyCycleTracker) (now : ℚ) :
    (tracker.pruneExpired now).records <:+ tracker.records :=
  List.dropWhile_suffix _

theorem recordTx_suffix (tracker : DutyCycleTracker) (now : ℚ) (a : Nat) :
    (tracker.recordTx now a).records <:+ tracker.records ++ [⟨now, a⟩] :=
  List.dropWhile_suffix _

theorem not_ended_of_permitted {s : Service} {e : SendInterleaving.Event} {task : Nat}
    (h : permitted s e = true) (hresumes : resumes e = some task) : task ∉ s.ended := by
  have hall : (resumes e).all (fun task => !s.ended.contains task) = true := by
    cases e with
    | start kind => cases hresumes
    | tick | airtimeKnown | statusRead | halReturns | resume | polled => exact h
  rw [hresumes] at hall
  intro hmem
  have hcontains : s.ended.contains task = true := List.contains_iff_mem.mpr hmem
  simp only [Option.all_some, hcontains, Bool.not_true, Bool.false_eq_true] at hall

theorem send_cases {s s' : Service} {e : SendInterleaving.Event}
    (h : step s (.send e) = some s') :
    (Idle s s' ∧ staysBudgeted s (.send e)) ∨ Takes s s' e := by
  simp only [step] at h
  split at h
  · rename_i hpermitted
    obtain ⟨sends, hsends, hs'⟩ := Option.map_eq_some_iff.mp h
    obtain rfl := hs'
    have hendedOf : ∀ task, resumes e = some task → task ∉ s.ended :=
      fun task => not_ended_of_permitted hpermitted
    cases e with
    | tick now =>
      simp only [SendInterleaving.step] at hsends
      split at hsends
      · obtain rfl := Option.some.inj hsends
        exact Or.inl ⟨⟨Or.inl rfl, rfl, List.append_nil _, List.append_nil _,
          List.append_nil _, rfl⟩, trivial⟩
      · cases hsends
    | start kind =>
      obtain rfl := Option.some.inj hsends
      exact Or.inl ⟨⟨Or.inr ⟨kind, rfl⟩, rfl, List.append_nil _, List.append_nil _,
        List.append_nil _, rfl⟩, trivial⟩
    | airtimeKnown task a =>
      right
      simp only [SendInterleaving.step] at hsends
      split at hsends
      · rename_i kind hx
        obtain rfl := Option.some.inj hsends
        have hprune : (s.sends.tracker.pruneExpired s.sends.clock).records <:+
            s.sends.tracker.records ++ [] := by
          rw [List.append_nil]
          exact pruneExpired_suffix _ _
        by_cases hpass : (s.sends.tracker.checkBudget s.sends.clock a).2 = true
        · refine ⟨task, _, _, _, [], [], .accepted (a := a) ?_, hx,
            ⟨rfl, ?_, rfl, rfl, rfl, hprune⟩, ?_, fun _ => hendedOf task rfl⟩
          · rw [if_pos hpass]
            cases kind with
            | text => exact Or.inl rfl
            | nodeinfo | builtPacket | rawRelay => exact Or.inr ⟨_, rfl⟩
          · simp only [accepts, hpass, if_true]
          · exact iff_of_true trivial (List.forall_mem_nil _)
        · refine ⟨task, _, _, [], [], [], .rejected, hx,
            ⟨?_, ?_, rfl, rfl, rfl, hprune⟩, ?_, fun _ => hendedOf task rfl⟩
          · simp only [hpass, Bool.false_eq_true, if_false]
          · simp only [accepts, hpass, Bool.false_eq_true, if_false]
          · exact iff_of_true trivial (List.forall_mem_nil _)
      · cases hsends
    | statusRead task =>
      right
      simp only [SendInterleaving.step] at hsends
      split at hsends
      · rename_i a hx
        obtain rfl := Option.some.inj hsends
        exact ⟨task, _, _, [], [], [], .asked, hx,
          ⟨rfl, rfl, rfl, rfl, rfl, by simp⟩,
          iff_of_true trivial (List.forall_mem_nil _), fun _ => hendedOf task rfl⟩
      · cases hsends
    | halReturns task code =>
      right
      simp only [SendInterleaving.step] at hsends
      split at hsends
      · rename_i kind a hx
        obtain rfl := Option.some.inj hsends
        refine ⟨task, _, _, [], _, [], .handed, hx,
          ⟨rfl, rfl, ?_, rfl, rfl, by simp⟩, ?_, fun hnil => absurd hnil (List.cons_ne_nil _ _)⟩
        · simp only [handsOver, hx]
        · simp only [staysBudgeted, List.mem_singleton, forall_eq]
      · cases hsends
    | resume task =>
      right
      simp only [SendInterleaving.step] at hsends
      split at hsends
      · rename_i kind a code hx
        split at hsends
        · rename_i hcode
          rw [hcode] at hx
          cases kind with
          | text =>
            obtain rfl := Option.some.inj hsends
            refine ⟨task, _, _, [], [], [], .polls, hx,
              ⟨rfl, rfl, rfl, ?_, rfl, by simp⟩,
              iff_of_true trivial (List.forall_mem_nil _), fun _ => hendedOf task rfl⟩
            simp only [records, hx, ne_eq, not_true_eq_false, and_false, if_false]
          | nodeinfo | builtPacket | rawRelay =>
            obtain rfl := Option.some.inj hsends
            refine ⟨task, _, _, [], [], _, .booked (n := 0) (Or.inl rfl), hx,
              ⟨rfl, rfl, rfl, ?_, rfl, recordTx_suffix _ _ _⟩,
              iff_of_true trivial (List.forall_mem_nil _), fun _ => hendedOf task rfl⟩
            simp [records, hx]
        · rename_i hcode
          obtain rfl := Option.some.inj hsends
          refine ⟨task, _, _, [], [], [], .failed hcode, hx,
            ⟨rfl, rfl, rfl, ?_, rfl, by simp⟩,
            iff_of_true trivial (List.forall_mem_nil _), fun _ => hendedOf task rfl⟩
          simp only [records, hx, hcode, false_and, if_false]
      · cases hsends
    | polled task status =>
      right
      simp only [SendInterleaving.step] at hsends
      split at hsends
      · rename_i a left hx
        split at hsends
        · rename_i hfree
          obtain rfl := Option.some.inj hsends
          refine ⟨task, _, _, [], [], _, @Move.booked _ _ .text _ _ _ _ (Or.inr rfl), hx,
            ⟨rfl, rfl, rfl, ?_, rfl, recordTx_suffix _ _ _⟩,
            iff_of_true trivial (List.forall_mem_nil _), fun _ => hendedOf task rfl⟩
          simp only [records, hx, hfree, if_true]
        · rename_i hbusy
          obtain rfl := Option.some.inj hsends
          refine ⟨task, _, _, [], [], [], .pollsAgain, hx,
            ⟨rfl, rfl, rfl, ?_, rfl, by simp⟩,
            iff_of_true trivial (List.forall_mem_nil _), fun _ => hendedOf task rfl⟩
          simp only [records, hx, hbusy, if_false]
      · cases hsends
  · cases h

/-! ### The ghosts follow the coroutines -/

def framesOf (s : Service) (task : Nat) : List Frame :=
  s.handed.filter fun f => f.sender = some task

/-- Where a coroutine is tells what it has handed over and recorded. -/
def Follows (s : Service) (task : Nat) : Option Phase → Prop
  | none | some (.airtime _) => framesOf s task = [] ∧ recordsOf s task = []
  | some (.txStatus a) | some (.halSend _ a) =>
    framesOf s task = [] ∧ recordsOf s task = [] ∧ (task, a) ∈ s.accepted
  | some (.halDone _ a code) =>
    ∃ f, framesOf s task = [f] ∧ f.airtimeMs = a ∧ f.resultCode = code ∧ recordsOf s task = []
  | some (.polling a _) =>
    ∃ f, framesOf s task = [f] ∧ f.airtimeMs = a ∧ f.resultCode = 0 ∧ recordsOf s task = []
  | some .finished =>
    (framesOf s task = [] ∧ recordsOf s task = []) ∨
      ∃ f, framesOf s task = [f] ∧
        recordsOf s task = if f.resultCode = 0 then [f.airtimeMs] else []

/-- What holds in every state of every run. -/
structure Invariant (s : Service) : Prop where
  follows : ∀ task, Follows s task s.sends.tasks[task]?
  ledger : s.sends.tracker.records <:+ s.recorded.map Prod.snd
  pager : ∀ f ∈ s.handed, f.sender = none → f.accepted = false

/-- Nobody handed over a frame that was not cleared, and no coroutine ended with a frame on
    the air. -/
structure Clean (s : Service) : Prop where
  cleared : ∀ f ∈ s.handed, f.enabled = true ∧ f.accepted = true
  alive : ∀ task phase, s.sends.tasks[task]? = some phase → onAir phase = true → task ∉ s.ended

theorem recorded_of_follows {s : Service} {task : Nat} {f : Frame} (hf : f ∈ framesOf s task)
    (hfollows : Follows s task s.sends.tasks[task]?)
    (halive : ∀ phase, s.sends.tasks[task]? = some phase → onAir phase = true →
      task ∉ s.ended) : Recorded s task f := by
  unfold Recorded
  cases hphase : s.sends.tasks[task]? with
  | none =>
    rw [hphase] at hfollows
    rw [hfollows.1] at hf
    cases hf
  | some phase =>
    rw [hphase] at hfollows
    have hbooks : onAir phase = true → Books s task := fun hair =>
      ⟨halive phase hphase hair, phase, hphase, hair⟩
    cases phase with
    | airtime | txStatus | halSend =>
      rw [hfollows.1] at hf
      cases hf
    | halDone kind a code =>
      obtain ⟨g, hframes, -, hcode, hnone⟩ := hfollows
      rw [hframes, List.mem_singleton] at hf
      rw [hf, hcode]
      split
      · rename_i hzero
        exact Or.inr ⟨hnone, hbooks (decide_eq_true hzero)⟩
      · exact hnone
    | polling a n =>
      obtain ⟨g, hframes, -, hcode, hnone⟩ := hfollows
      rw [hframes, List.mem_singleton] at hf
      rw [hf, if_pos hcode]
      exact Or.inr ⟨hnone, hbooks rfl⟩
    | finished =>
      rcases hfollows with ⟨hnil, -⟩ | ⟨g, hframes, hrecords⟩
      · rw [hnil] at hf
        cases hf
      · rw [hframes, List.mem_singleton] at hf
        rw [hf, hrecords]
        split
        · exact Or.inl rfl
        · rfl

/-- In a state of a run, budgeted frames are a matter of what was handed over and who is
    still alive. -/
theorem budgeted_iff {s : Service} (hI : Invariant s) : Budgeted s ↔ Clean s := by
  constructor
  · rintro ⟨hframes, -⟩
    refine ⟨fun f hf => ⟨(hframes f hf).enabled, (hframes f hf).accepted⟩, ?_⟩
    intro task phase hphase hair
    have hfollows := hI.follows task
    rw [hphase] at hfollows
    have hone : ∃ f, framesOf s task = [f] ∧ f.resultCode = 0 ∧ recordsOf s task = [] := by
      cases phase with
      | halDone kind a code =>
        obtain ⟨f, hframes, -, hcode, hnone⟩ := hfollows
        exact ⟨f, hframes, hcode.trans (of_decide_eq_true hair), hnone⟩
      | polling a n =>
        obtain ⟨f, hframes, -, hcode, hnone⟩ := hfollows
        exact ⟨f, hframes, hcode, hnone⟩
      | airtime | txStatus | halSend | finished => cases hair
    obtain ⟨f, hframesOf, hcode, hnone⟩ := hone
    have hmem : f ∈ framesOf s task := by
      rw [hframesOf]
      exact List.mem_singleton_self f
    obtain ⟨hhanded, hsender⟩ := List.mem_filter.mp hmem
    obtain ⟨task', hsender', hrecorded⟩ := (hframes f hhanded).recorded
    rw [of_decide_eq_true hsender] at hsender'
    obtain rfl := Option.some.inj hsender'
    unfold Recorded at hrecorded
    rw [if_pos hcode, hnone] at hrecorded
    rcases hrecorded with hone | ⟨-, hbooks⟩
    · cases hone
    · exact hbooks.1
  · rintro ⟨hcleared, halive⟩
    refine ⟨fun f hf => ?_, hI.ledger⟩
    obtain ⟨henabled, haccepted⟩ := hcleared f hf
    cases hsender : f.sender with
    | none =>
      rw [hI.pager f hf hsender] at haccepted
      cases haccepted
    | some task =>
      refine ⟨henabled, haccepted, task, hsender, ?_⟩
      apply recorded_of_follows _ (hI.follows task) (halive task)
      exact List.mem_filter.mpr ⟨hf, decide_eq_true hsender⟩

/-! ### One step -/

theorem framesOf_eq {s s' : Service} {task : Nat} {frames : List Frame}
    (h : s'.handed = s.handed ++ frames) :
    framesOf s' task = framesOf s task ++ frames.filter fun f => f.sender = some task := by
  unfold framesOf
  rw [h, List.filter_append]

theorem recordsOf_eq {s s' : Service} {task : Nat} {entries : List (Nat × TxRecord)}
    (h : s'.recorded = s.recorded ++ entries) :
    recordsOf s' task = recordsOf s task ++
      (entries.filter fun entry => entry.1 = task).map fun entry => entry.2.airtimeMs := by
  unfold recordsOf
  rw [h, List.filter_append, List.map_append]

theorem Follows.congr {s s' : Service} {task : Nat} {phase : Option Phase}
    (h : Follows s task phase) (hframes : framesOf s' task = framesOf s task)
    (hrecords : recordsOf s' task = recordsOf s task)
    (haccepted : ∀ entry ∈ s.accepted, entry ∈ s'.accepted) : Follows s' task phase := by
  cases phase with
  | none => exact ⟨hframes.trans h.1, hrecords.trans h.2⟩
  | some phase =>
    cases phase with
    | airtime => exact ⟨hframes.trans h.1, hrecords.trans h.2⟩
    | txStatus | halSend => exact ⟨hframes.trans h.1, hrecords.trans h.2.1, haccepted _ h.2.2⟩
    | halDone | polling =>
      obtain ⟨f, hf, ha, hcode, hnone⟩ := h
      exact ⟨f, hframes.trans hf, ha, hcode, hrecords.trans hnone⟩
    | finished =>
      rcases h with h | ⟨f, hf, hr⟩
      · exact Or.inl ⟨hframes.trans h.1, hrecords.trans h.2⟩
      · exact Or.inr ⟨f, hframes.trans hf, hrecords.trans hr⟩

theorem Move.own {s : Service} {task : Nat} {x y : Phase} {tests : List (Nat × Nat)}
    {frames : List Frame} {entries : List (Nat × TxRecord)}
    (h : Move s task x y tests frames entries) :
    (∀ f ∈ frames, f.sender = some task) ∧ ∀ entry ∈ entries, entry.1 = task := by
  cases h with
  | handed =>
    refine ⟨fun f hf => ?_, fun entry hentry => nomatch hentry⟩
    rw [List.mem_singleton.mp hf]
  | booked hx =>
    refine ⟨fun f hf => (nomatch hf), fun entry hentry => ?_⟩
    rw [List.mem_singleton.mp hentry]
  | accepted | rejected | asked | polls | pollsAgain | failed =>
    constructor
    · intro f hf
      cases hf
    · intro entry hentry
      cases hentry

theorem follows_move {s s' : Service} {task : Nat} {x y : Phase} {tests : List (Nat × Nat)}
    {frames : List Frame} {entries : List (Nat × TxRecord)}
    (hmove : Move s task x y tests frames entries) (hacted : Acted s s' task y tests frames entries)
    (h : Follows s task (some x)) : Follows s' task (some y) := by
  have hframes : framesOf s' task = _ := framesOf_eq hacted.handed
  have hrecords : recordsOf s' task = _ := recordsOf_eq hacted.recorded
  have haccepted := hacted.accepted
  cases hmove with
  | @accepted _ a _ hy =>
    simp only [List.filter_nil, List.map_nil, List.append_nil] at hframes hrecords
    have hmem : (task, a) ∈ s'.accepted := by
      rw [haccepted]
      exact List.mem_append_right _ (List.mem_singleton_self _)
    rcases hy with rfl | ⟨kind, rfl⟩
    · exact ⟨hframes.trans h.1, hrecords.trans h.2, hmem⟩
    · exact ⟨hframes.trans h.1, hrecords.trans h.2, hmem⟩
  | rejected =>
    simp only [List.filter_nil, List.map_nil, List.append_nil] at hframes hrecords
    exact Or.inl ⟨hframes.trans h.1, hrecords.trans h.2⟩
  | asked =>
    simp only [List.filter_nil, List.map_nil, List.append_nil] at hframes hrecords haccepted
    exact ⟨hframes.trans h.1, hrecords.trans h.2.1, haccepted ▸ h.2.2⟩
  | handed =>
    simp only [List.filter_nil, List.map_nil, List.append_nil] at hrecords
    rw [h.1, List.nil_append] at hframes
    refine ⟨_, hframes.trans (List.filter_cons_of_pos (decide_eq_true rfl)), rfl, rfl,
      hrecords.trans h.2.1⟩
  | polls =>
    simp only [List.filter_nil, List.map_nil, List.append_nil] at hframes hrecords
    obtain ⟨f, hf, ha, hcode, hnone⟩ := h
    exact ⟨f, hframes.trans hf, ha, hcode, hrecords.trans hnone⟩
  | pollsAgain =>
    simp only [List.filter_nil, List.map_nil, List.append_nil] at hframes hrecords
    obtain ⟨f, hf, ha, hcode, hnone⟩ := h
    exact ⟨f, hframes.trans hf, ha, hcode, hrecords.trans hnone⟩
  | failed hcode =>
    simp only [List.filter_nil, List.map_nil, List.append_nil] at hframes hrecords
    obtain ⟨f, hf, ha, hcode', hnone⟩ := h
    refine Or.inr ⟨f, hframes.trans hf, ?_⟩
    rw [if_neg (hcode' ▸ hcode)]
    exact hrecords.trans hnone
  | @booked _ a _ _ _ hx =>
    simp only [List.filter_nil, List.append_nil] at hframes
    have hone : ∃ f, framesOf s task = [f] ∧ f.airtimeMs = a ∧ f.resultCode = 0 ∧
        recordsOf s task = [] := by
      rcases hx with rfl | rfl
      · exact h
      · exact h
    obtain ⟨f, hf, ha, hcode, hnone⟩ := hone
    refine Or.inr ⟨f, hframes.trans hf, ?_⟩
    rw [if_pos hcode, hrecords, hnone, ha]
    simp only [decide_true, List.filter_cons_of_pos, List.filter_nil, List.map_cons,
      List.map_nil, List.nil_append]

theorem follows_other {s s' : Service} {task other : Nat} {x y : Phase} {tests : List (Nat × Nat)}
    {frames : List Frame} {entries : List (Nat × TxRecord)} {phase : Option Phase}
    (hmove : Move s task x y tests frames entries) (hacted : Acted s s' task y tests frames entries)
    (hne : other ≠ task) (h : Follows s other phase) : Follows s' other phase := by
  obtain ⟨hframes, hentries⟩ := hmove.own
  apply h.congr
  · rw [framesOf_eq hacted.handed, List.filter_eq_nil_iff.mpr, List.append_nil]
    intro f hf hsender
    have hsame := (hframes f hf).symm.trans (of_decide_eq_true hsender)
    exact hne (Option.some.inj hsame).symm
  · rw [recordsOf_eq hacted.recorded, List.filter_eq_nil_iff.mpr, List.map_nil, List.append_nil]
    intro entry hentry howner
    exact hne ((of_decide_eq_true howner).symm.trans (hentries entry hentry))
  · intro entry hentry
    rw [hacted.accepted]
    exact List.mem_append_left _ hentry

theorem invariant_acted {s s' : Service} {task : Nat} {x y : Phase} {tests : List (Nat × Nat)}
    {frames : List Frame} {entries : List (Nat × TxRecord)} (hI : Invariant s)
    (hmove : Move s task x y tests frames entries) (hx : s.sends.tasks[task]? = some x)
    (hacted : Acted s s' task y tests frames entries) : Invariant s' where
  follows := by
    intro other
    rw [hacted.tasks]
    by_cases hother : other = task
    · have hlt : task < s.sends.tasks.length := (List.getElem?_eq_some_iff.mp hx).1
      rw [hother, List.getElem?_set_self hlt]
      exact follows_move hmove hacted (hx ▸ hI.follows task)
    · rw [List.getElem?_set_ne (fun h => hother h.symm)]
      exact follows_other hmove hacted hother (hI.follows other)
  ledger := by
    rw [hacted.recorded, List.map_append]
    exact hacted.ledger.trans ((List.suffix_append_inj_of_length_eq rfl).mpr ⟨hI.ledger, rfl⟩)
  pager := by
    intro f hf hsender
    rw [hacted.handed] at hf
    rcases List.mem_append.mp hf with hf | hf
    · exact hI.pager f hf hsender
    · rw [hmove.own.1 f hf] at hsender
      cases hsender

theorem invariant_idle {s s' : Service} (hI : Invariant s) (hidle : Idle s s') :
    Invariant s' where
  follows := by
    intro task
    have hcongr : ∀ phase, Follows s task phase → Follows s' task phase := by
      intro phase h
      apply h.congr
      · rw [framesOf, hidle.handed, framesOf]
      · rw [recordsOf, hidle.recorded, recordsOf]
      · intro entry hentry
        rw [hidle.accepted]
        exact hentry
    rcases hidle.tasks with htasks | ⟨kind, htasks⟩
    · rw [htasks]
      exact hcongr _ (hI.follows task)
    · rw [htasks]
      by_cases hlt : task < s.sends.tasks.length
      · rw [List.getElem?_append_left hlt]
        exact hcongr _ (hI.follows task)
      · have hnone := hI.follows task
        rw [List.getElem?_eq_none (not_lt.mp hlt)] at hnone
        rw [List.getElem?_append_right (not_lt.mp hlt), List.getElem?_singleton]
        split
        · exact hcongr _ hnone
        · exact hcongr _ hnone
  ledger := by
    rw [hidle.tracker, hidle.recorded]
    exact hI.ledger
  pager := by
    rw [hidle.handed]
    exact hI.pager

/-- In a segment of a send nobody but its own coroutine can lose the frame on the air, and
    only by handing it over after its end. -/
theorem clean_acted_iff {s s' : Service} {task : Nat} {x y : Phase} {tests : List (Nat × Nat)}
    {frames : List Frame} {entries : List (Nat × TxRecord)} (hI : Invariant s) (hclean : Clean s)
    (hmove : Move s task x y tests frames entries) (hx : s.sends.tasks[task]? = some x)
    (hacted : Acted s s' task y tests frames entries)
    (hended : frames = [] → task ∉ s.ended) :
    Clean s' ↔ ∀ f ∈ frames, f.enabled = true ∧ (f.resultCode = 0 → task ∉ s.ended) := by
  have hlt : task < s.sends.tasks.length := (List.getElem?_eq_some_iff.mp hx).1
  have hself : s'.sends.tasks[task]? = some y := by
    rw [hacted.tasks, List.getElem?_set_self hlt]
  -- every frame of a segment has passed the test, and is on the air when it was taken
  have hframes : ∀ f ∈ frames, f.accepted = true ∧ (f.resultCode = 0 → onAir y = true) := by
    intro f hf
    cases hmove with
    | handed =>
      have haccepted := (hx ▸ hI.follows task).2.2
      rw [List.mem_singleton.mp hf]
      exact ⟨List.contains_iff_mem.mpr haccepted, fun hcode => decide_eq_true hcode⟩
    | accepted | rejected | asked | polls | pollsAgain | failed | booked => cases hf
  constructor
  · intro hclean' f hf
    refine ⟨(hclean'.cleared f ?_).1, fun hcode => ?_⟩
    · rw [hacted.handed]
      exact List.mem_append_right _ hf
    · rw [← hacted.ended]
      exact hclean'.alive task y hself ((hframes f hf).2 hcode)
  · intro hguard
    constructor
    · intro f hf
      rw [hacted.handed] at hf
      rcases List.mem_append.mp hf with hf | hf
      · exact hclean.cleared f hf
      · exact ⟨(hguard f hf).1, (hframes f hf).1⟩
    · intro other phase hphase hair
      rw [hacted.ended]
      by_cases hother : other = task
      · rw [hother, hself] at hphase
        obtain rfl := Option.some.inj hphase
        rw [hother]
        cases hmove with
        | handed => exact (hguard _ (List.mem_singleton_self _)).2 (of_decide_eq_true hair)
        | accepted | rejected | asked | polls | pollsAgain | failed | booked => exact hended rfl
      · rw [hacted.tasks, List.getElem?_set_ne (fun h => hother h.symm)] at hphase
        exact hclean.alive other phase hphase hair

theorem clean_idle {s s' : Service} (hclean : Clean s) (hidle : Idle s s') : Clean s' where
  cleared := by
    rw [hidle.handed]
    exact hclean.cleared
  alive := by
    intro task phase hphase hair
    rw [hidle.ended]
    rcases hidle.tasks with htasks | ⟨kind, htasks⟩
    · rw [htasks] at hphase
      exact hclean.alive task phase hphase hair
    · rw [htasks, List.getElem?_append] at hphase
      split at hphase
      · exact hclean.alive task phase hphase hair
      · rw [List.getElem?_singleton] at hphase
        split at hphase
        · obtain rfl := Option.some.inj hphase
          cases hair
        · cases hphase

/-- Step lemma: every step keeps the invariant, and leads from a clean state to a clean state
    exactly when it meets the guard. -/
theorem step_spec {s s' : Service} {e : Event} (hI : Invariant s) (hclean : Clean s)
    (h : step s e = some s') : Invariant s' ∧ (Clean s' ↔ staysBudgeted s e) := by
  cases e with
  | send e =>
    rcases send_cases h with ⟨hidle, hguard⟩ |
      ⟨task, x, y, tests, frames, entries, hmove, hx, hacted, hguard, hended⟩
    · exact ⟨invariant_idle hI hidle, iff_of_true (clean_idle hclean hidle) hguard⟩
    · refine ⟨invariant_acted hI hmove hx hacted, ?_⟩
      rw [hguard]
      exact clean_acted_iff hI hclean hmove hx hacted hended
  | setEnabled enabled =>
    obtain rfl := Option.some.inj h
    exact ⟨⟨hI.follows, hI.ledger, hI.pager⟩, iff_of_true ⟨hclean.cleared, hclean.alive⟩ trivial⟩
  | setCapcode capcode =>
    obtain rfl := Option.some.inj h
    exact ⟨⟨hI.follows, hI.ledger, hI.pager⟩, iff_of_true ⟨hclean.cleared, hclean.alive⟩ trivial⟩
  | ends task =>
    simp only [step] at h
    split at h
    · obtain rfl := Option.some.inj h
      refine ⟨⟨hI.follows, hI.ledger, hI.pager⟩, ?_⟩
      constructor
      · intro hclean' phase hphase
        rw [Bool.eq_false_iff]
        intro hair
        exact hclean'.alive task phase hphase hair List.mem_cons_self
      · intro hguard
        refine ⟨hclean.cleared, fun other phase hphase hair hmem => ?_⟩
        rcases List.mem_cons.mp hmem with rfl | hmem
        · rw [hguard phase hphase] at hair
          cases hair
        · exact hclean.alive other phase hphase hair hmem
    · cases h
  | pager req msgId airtimeMs resultCode =>
    simp only [step] at h
    cases hpayload : pagerPayload s.pager req msgId with
    | error e =>
      simp only [hpayload] at h
      obtain rfl := Option.some.inj h
      refine ⟨hI, iff_of_true hclean ?_⟩
      intro hok
      rw [hpayload] at hok
      cases hok
    | ok payload =>
      cases resultCode with
      | none =>
        simp only [hpayload] at h
        obtain rfl := Option.some.inj h
        exact ⟨hI, iff_of_true hclean (fun _ => rfl)⟩
      | some code =>
        simp only [hpayload] at h
        obtain rfl := Option.some.inj h
        refine ⟨⟨?_, hI.ledger, ?_⟩, iff_of_false ?_ ?_⟩
        · intro task
          apply (hI.follows task).congr
          · rw [framesOf_eq rfl]
            exact List.append_nil _
          · rfl
          · exact fun entry hentry => hentry
        · intro f hf hsender
          rcases List.mem_append.mp hf with hf | hf
          · exact hI.pager f hf hsender
          · rw [List.mem_singleton.mp hf]
        · intro hclean'
          cases (hclean'.cleared _ (List.mem_append_right _ (List.mem_singleton_self _))).2
        · intro hguard
          cases hguard (by rw [hpayload]; rfl)

/-! ### Every run -/

theorem invariant_start (limits : DutyLimits) (now : ℚ) (enabled available : Bool)
    (pager : PagerRoute) : Invariant (start limits now enabled available pager) :=
  ⟨fun _ => ⟨rfl, rfl⟩, List.suffix_refl _, fun _ hf => nomatch hf⟩

theorem clean_start (limits : DutyLimits) (now : ℚ) (enabled available : Bool)
    (pager : PagerRoute) : Clean (start limits now enabled available pager) :=
  ⟨fun _ hf => (nomatch hf), fun _ _ hphase => (nomatch hphase)⟩

theorem throughout_budgeted_of_clean {s₀ s : Service} {events : List Event} (hI : Invariant s₀)
    (hclean : Clean s₀) (hrun : replay step Always s₀ events = some s) :
    Throughout step Budgeted s₀ events ↔ replay step staysBudgeted s₀ events = some s := by
  apply throughout_iff_replay (I := Invariant) _ hI ((budgeted_iff hI).mpr hclean) hrun
  intro s e s' hI hbudgeted hstep
  obtain ⟨hI', hclean⟩ := step_spec hI ((budgeted_iff hI).mp hbudgeted) hstep
  exact ⟨hI', (budgeted_iff hI').trans hclean⟩

/-- The EU868 service with transmit and the pager enabled. -/
def eu868Start : Service := start eu868 0 true true ⟨some true, 1234⟩

/-- A text, during which transmit is disabled once the frame is out, a send that the budget
    refuses, and a pager message without text. -/
def orderlyEvents : List Event :=
  [.send (.start .text), .send (.start .nodeinfo), .send (.airtimeKnown 0 8000),
    .send (.statusRead 0), .send (.halReturns 0 0), .send (.resume 0), .setEnabled false,
    .send (.polled 0 2), .send (.airtimeKnown 1 30000), .pager ⟨5678, " "⟩ "00" 90 (some 0)]

/-- A run of the EU868 service with a frame that is not budgeted. -/
def Unbudgeted (events : List Event) : Prop :=
  ∃ s, replay step Always eu868Start events = some s ∧
    ¬ Throughout step Budgeted eu868Start events

theorem unbudgeted_of_replay {events : List Event}
    (hrun : (replay step Always eu868Start events).isSome = true)
    (hguard : replay step staysBudgeted eu868Start events = none) : Unbudgeted events := by
  obtain ⟨s, hrun⟩ := Option.isSome_iff_exists.mp hrun
  have hiff : Throughout step Budgeted eu868Start events ↔ _ :=
    throughout_budgeted_of_clean (invariant_start _ _ _ _ _) (clean_start _ _ _ _ _) hrun
  refine ⟨s, hrun, fun hthroughout => ?_⟩
  have hreplay := hiff.mp hthroughout
  rw [hguard] at hreplay
  cases hreplay

end Meshpoint.TransmissionBudget
