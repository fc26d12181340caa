import Meshpoint.GuardedRun
import Meshpoint.InboundReplies

/-!
# Replies to replies

Nodes that run the handler of `src/transmit/meshtastic_inbound_handler.py` and hear each
other.  A frame on the air stays there: it is delivered to any node, at any time and any
number of times, or never.  The handler decides as soon as a packet is decoded and sends in
a task of its own.

A frame that answers another one never asks for an ACK (`asksAck_of_transmit`), so only its
type can make a node answer it; `Quiet` is the condition that it does not.
-/

namespace Meshpoint.ReplyChains

open GuardedRun ByteCodec JsonText PyText MeshtasticHeader MeshtasticDecoder MeshtasticBuilder PortnumHandlers
  TextSending InboundReplies

/-! ### The network -/

/-- A frame on the air and, when the handler has sent it, the frame that it answers. -/
structure Sent where
  bytes : Bytes
  answers : Option Nat := none

/-- A reply that the handler of a node has decided on. -/
structure Task (F : Type) where
  node : Nat
  packet : Packet F
  reply : Reply
  frame : Nat

structure Network (F : Type) where
  nodes : List TxService
  air : List Sent := []
  tasks : List (Task F) := []
  answered : List Nat := []

/-- A capture is the frame itself, or what a stick writes anew of it with the want_ack flag
    that it has heard. -/
inductive Event (F : Type) where
  | userSend (bytes : Bytes)
  | change (node : Nat) (tx : TxService)
  | deliver (node frame : Nat) (raw : Bytes) (preDecoded : Option PreDecoded)
      (signal : Option (SignalMetrics F)) (now : Int)
  | respond (task : Nat) (draws : ReplyDraws F)

def asksAck (raw : Bytes) : Bool :=
  (parseHeader (raw.take MESHTASTIC_HEADER_SIZE)).any Header.wantAck

section

variable {F : Type} [PyFloat F] (py : Casing) (prim : CryptoPrimitives) (pb : AppProtobuf F)
  (proto : ReplyProtobuf F)

def receive (tx : TxService) (raw : Bytes) (preDecoded : Option PreDecoded)
    (signal : Option (SignalMetrics F)) (now : Int) : Option (Packet F) × CryptoService :=
  decode prim pb tx.crypto (some tx.sourceNodeId) raw signal preDecoded now

/-- A node hears a frame and decides whether to answer. -/
def deliver (s : Network F) (node frame : Nat) (raw : Bytes) (preDecoded : Option PreDecoded)
    (signal : Option (SignalMetrics F)) (now : Int) : Option (Network F) :=
  match s.nodes[node]?, s.air[frame]? with
  | some tx, some sent =>
    if asksAck raw && !asksAck sent.bytes then none
    else
      let (packet, crypto) := receive prim pb tx raw preDecoded signal now
      let s := { s with nodes := s.nodes.set node { tx with crypto := crypto } }
      match packet with
      | some packet =>
        match handle py tx.sourceNodeId packet with
        | some reply =>
          some { s with
            tasks := s.tasks ++ [⟨node, packet, reply, frame⟩]
            answered := s.answered ++ [frame] }
        | none => some s
      | none => some s
  | _, _ => none

def respond (s : Network F) (task : Nat) (draws : ReplyDraws F) : Option (Network F) :=
  match s.tasks[task]? with
  | some ⟨node, packet, reply, frame⟩ =>
    match s.nodes[node]? with
    | some tx =>
      let (prepared, crypto) := send proto tx packet draws reply
      some { s with
        nodes := s.nodes.set node { tx with crypto := crypto }
        air := s.air ++ ((transmit prim crypto draws prepared).map fun bytes =>
          (⟨bytes, some frame⟩ : Sent)).toList
        tasks := s.tasks.eraseIdx task }
    | none => none
  | none => none

def step (s : Network F) : Event F → Option (Network F)
  | .userSend bytes => some { s with air := s.air ++ [⟨bytes, none⟩] }
  | .change node tx =>
    (s.nodes[node]?).map fun old =>
      { s with nodes := s.nodes.set node { tx with sourceNodeId := old.sourceNodeId } }
  | .deliver node frame raw preDecoded signal now =>
    deliver py prim pb s node frame raw preDecoded signal now
  | .respond task draws => respond prim proto s task draws

/-- A packet that the handler takes for a request of metrics or of a route. -/
def IsRequest (ourNodeId : Nat) (packet : Packet F) : Prop :=
  shouldHandleInbound py (hex8 ourNodeId) packet = true ∧
    (packet.packetType = .traceroute ∨ packet.packetType = .telemetry)

instance (ourNodeId : Nat) (packet : Packet F) : Decidable (IsRequest py ourNodeId packet) :=
  inferInstanceAs (Decidable (_ ∧ _))

def Quiet (s : Network F) : Event F → Prop
  | .deliver node frame raw preDecoded signal now =>
    ∀ tx ∈ s.nodes[node]?, ∀ sent ∈ s.air[frame]?, sent.answers.isSome = true →
      ∀ packet ∈ (receive prim pb tx raw preDecoded signal now).1,
        ¬ IsRequest py tx.sourceNodeId packet
  | _ => True

instance : ∀ (s : Network F) (e : Event F), Decidable (Quiet py prim pb s e)
  | s, .deliver node frame raw preDecoded signal now =>
    inferInstanceAs (Decidable (∀ tx ∈ s.nodes[node]?, ∀ sent ∈ s.air[frame]?,
      sent.answers.isSome = true → ∀ packet ∈ (receive prim pb tx raw preDecoded signal now).1,
        ¬ IsRequest py tx.sourceNodeId packet))
  | _, .userSend _ => inferInstanceAs (Decidable True)
  | _, .change _ _ => inferInstanceAs (Decidable True)
  | _, .respond _ _ => inferInstanceAs (Decidable True)

end

/-! ### The handler and its frames -/

section

variable {F : Type} [PyFloat F] {py : Casing} {prim : CryptoPrimitives} {pb : AppProtobuf F}
  {proto : ReplyProtobuf F}

omit [PyFloat F] in
theorem handle_of_isRequest {ourNodeId : Nat} {packet : Packet F}
    (h : IsRequest py ourNodeId packet) : ∃ reply, handle py ourNodeId packet = some reply := by
  obtain ⟨hinbound, htype | htype⟩ := h
  · refine ⟨.traceroute, ?_⟩
    unfold handle
    rw [if_pos hinbound, if_pos htype]
  · refine ⟨.telemetry, ?_⟩
    unfold handle
    rw [if_pos hinbound, htype]
    rfl

omit [PyFloat F] in
theorem isRequest_or_wantAck_of_handle {ourNodeId : Nat} {packet : Packet F} {reply : Reply}
    (h : handle py ourNodeId packet = some reply) :
    IsRequest py ourNodeId packet ∨ packet.wantAck = true := by
  unfold handle at h
  split at h
  · rename_i hinbound
    split at h
    · rename_i htype
      exact Or.inl ⟨hinbound, Or.inl htype⟩
    · split at h
      · rename_i htype
        exact Or.inl ⟨hinbound, Or.inr htype⟩
      · split at h
        · rename_i hack
          exact Or.inr hack.2
        · cases h
  · cases h

theorem asksAck_of_receive {tx : TxService} {raw : Bytes} {preDecoded : Option PreDecoded}
    {signal : Option (SignalMetrics F)} {now : Int} {packet : Packet F}
    (h : (receive prim pb tx raw preDecoded signal now).1 = some packet)
    (hack : packet.wantAck = true) : asksAck raw = true := by
  obtain ⟨header, attempt, decrypted, matched, name, hheader, rfl⟩ := decode_eq_assemble prim pb h
  unfold asksAck
  rw [hheader]
  exact hack

omit [PyFloat F] in
theorem replyArgs_flags {tx : TxService} {original : Packet F} {dest packetId : Nat}
    {args : FrameArgs} {crypto : CryptoService}
    (h : replyArgs tx original dest packetId = (some args, crypto)) :
    args.wantAck = false ∧ args.hopStart = args.hopLimit := by
  unfold replyArgs at h
  simp only [Prod.mk.injEq] at h
  obtain ⟨hargs, -⟩ := h
  split at hargs
  · cases hargs
  · obtain rfl := Option.some.inj hargs
    exact ⟨rfl, rfl⟩

theorem asksAck_of_transmit {tx : TxService} {original : Packet F} {draws : ReplyDraws F}
    {reply : Reply} {prepared : Prepared} {crypto : CryptoService} {bytes : Bytes}
    (hsend : send proto tx original draws reply = (prepared, crypto))
    (h : transmit prim crypto draws prepared = some bytes) : asksAck bytes = false := by
  cases prepared with
  | unavailable => cases h
  | failed => cases h
  | ready args inner =>
    obtain ⟨requester, -, hargs⟩ := send_ready hsend
    obtain ⟨hack, hhops⟩ := replyArgs_flags hargs
    obtain ⟨hframe, -⟩ := Option.filter_eq_some_iff.mp h
    unfold buildFrame buildHeader at hframe
    simp only [Option.bind_eq_bind, Option.bind_eq_some_iff] at hframe
    obtain ⟨ciphertext, -, header, hheader, hframe⟩ := hframe
    obtain rfl := Option.some.inj hframe
    rw [hack, hhops] at hheader
    unfold asksAck
    rw [← length_of_packHeader hheader, List.take_left,
      parseHeader_packHeader hheader (Nat.le_refl _)]
    rfl

/-! ### One event -/

theorem deliver_cases {s s' : Network F} {node frame : Nat} {raw : Bytes}
    {preDecoded : Option PreDecoded} {signal : Option (SignalMetrics F)} {now : Int}
    (h : deliver py prim pb s node frame raw preDecoded signal now = some s') :
    ∃ tx sent, s.nodes[node]? = some tx ∧ s.air[frame]? = some sent ∧
      (asksAck raw = true → asksAck sent.bytes = true) ∧ s'.air = s.air ∧
      ((s'.tasks = s.tasks ∧ s'.answered = s.answered ∧
          ∀ packet, (receive prim pb tx raw preDecoded signal now).1 = some packet →
            handle py tx.sourceNodeId packet = none) ∨
        ∃ packet reply, (receive prim pb tx raw preDecoded signal now).1 = some packet ∧
          handle py tx.sourceNodeId packet = some reply ∧
          s'.tasks = s.tasks ++ [⟨node, packet, reply, frame⟩] ∧
          s'.answered = s.answered ++ [frame]) := by
  unfold deliver at h
  split at h
  · rename_i tx sent htx hsent
    refine ⟨tx, sent, htx, hsent, ?_⟩
    split at h
    · cases h
    · rename_i hflags
      have hack : asksAck raw = true → asksAck sent.bytes = true := by
        intro hraw
        by_contra hbytes
        rw [Bool.not_eq_true] at hbytes
        apply hflags
        rw [hraw, hbytes]
        rfl
      refine ⟨hack, ?_⟩
      simp only at h
      split at h
      · rename_i packet hpacket
        split at h
        · rename_i reply hreply
          cases h
          exact ⟨rfl, Or.inr ⟨packet, reply, hpacket, hreply, rfl, rfl⟩⟩
        · rename_i hreply
          cases h
          refine ⟨rfl, Or.inl ⟨rfl, rfl, ?_⟩⟩
          intro other hother
          rw [hpacket] at hother
          cases hother
          exact hreply
      · rename_i hpacket
        cases h
        refine ⟨rfl, Or.inl ⟨rfl, rfl, ?_⟩⟩
        intro other hother
        rw [hpacket] at hother
        cases hother
  · cases h

theorem respond_cases {s s' : Network F} {task : Nat} {draws : ReplyDraws F}
    (h : respond prim proto s task draws = some s') :
    ∃ t, s.tasks[task]? = some t ∧ s'.tasks = s.tasks.eraseIdx task ∧ s'.answered = s.answered ∧
      (s'.air = s.air ∨
        ∃ bytes, asksAck bytes = false ∧ s'.air = s.air ++ [⟨bytes, some t.frame⟩]) := by
  unfold respond at h
  split at h
  · rename_i node packet reply frame htask
    split at h
    · rename_i tx htx
      refine ⟨_, htask, ?_⟩
      simp only at h
      cases h
      refine ⟨rfl, rfl, ?_⟩
      cases hbytes : transmit prim (send proto tx packet draws reply).2 draws
          (send proto tx packet draws reply).1 with
      | none => exact Or.inl (List.append_nil _)
      | some bytes => exact Or.inr ⟨bytes, asksAck_of_transmit rfl hbytes, rfl⟩
    · cases h
  · cases h

/-! ### What holds in every run -/

omit [PyFloat F] in
theorem countP_eraseIdx {α : Type} {p : α → Bool} {l : List α} {i : Nat} {x : α}
    (h : l[i]? = some x) : (l.eraseIdx i).countP p + (if p x then 1 else 0) = l.countP p := by
  induction l generalizing i with
  | nil => cases h
  | cons y rest ih =>
    cases i with
    | zero =>
      cases h
      rw [List.eraseIdx_cons_zero, List.countP_cons]
    | succ i =>
      rw [List.eraseIdx_cons_succ, List.countP_cons, List.countP_cons, ← ih h]
      omega

/-- How many frames on the air answer the frame `i`. -/
def answersTo (s : Network F) (i : Nat) : Nat :=
  s.air.countP fun sent => decide (sent.answers = some i)

def pendingFor (s : Network F) (i : Nat) : Nat := s.tasks.countP fun t => decide (t.frame = i)

/-- Answers do not ask for ACKs, and each belongs to one decision to answer a frame that is on
    the air. -/
structure Inv (s : Network F) : Prop where
  noAck : ∀ sent ∈ s.air, sent.answers.isSome = true → asksAck sent.bytes = false
  inRange : ∀ i ∈ s.answered, i < s.air.length
  counted : ∀ i, answersTo s i + pendingFor s i ≤ s.answered.count i

def Unanswered (s : Network F) : Prop :=
  ∀ i ∈ s.answered, ∀ sent, s.air[i]? = some sent → sent.answers = none

omit [PyFloat F] in
theorem inv_start (nodes : List TxService) : Inv ({ nodes := nodes } : Network F) where
  noAck := by
    intro sent hsent
    cases hsent
  inRange := by
    intro i hi
    cases hi
  counted := fun i => Nat.le_refl 0

omit [PyFloat F] in
theorem unanswered_append {s s' : Network F} {sent : Sent}
    (hrange : ∀ i ∈ s.answered, i < s.air.length) (hair : s'.air = s.air ++ [sent])
    (hanswered : s'.answered = s.answered) : Unanswered s' ↔ Unanswered s := by
  unfold Unanswered
  rw [hair, hanswered]
  constructor
  · intro h i hi other hother
    apply h i hi other
    rw [List.getElem?_append_left (hrange i hi)]
    exact hother
  · intro h i hi other hother
    apply h i hi other
    rw [List.getElem?_append_left (hrange i hi)] at hother
    exact hother

omit [PyFloat F] in
theorem userSend_spec {s : Network F} (hinv : Inv s) (bytes : Bytes) :
    Inv { s with air := s.air ++ [⟨bytes, none⟩] } := by
  constructor
  · intro sent hsent hanswers
    rcases List.mem_append.mp hsent with hold | hnew
    · exact hinv.noAck sent hold hanswers
    · rw [List.mem_singleton.mp hnew] at hanswers
      cases hanswers
  · intro i hi
    rw [List.length_append]
    exact Nat.lt_add_right 1 (hinv.inRange i hi)
  · intro i
    have hcount := hinv.counted i
    unfold answersTo at hcount ⊢
    rw [List.countP_append]
    exact hcount

theorem deliver_spec {s s' : Network F} {node frame : Nat} {raw : Bytes}
    {preDecoded : Option PreDecoded} {signal : Option (SignalMetrics F)} {now : Int} (hinv : Inv s)
    (h : deliver py prim pb s node frame raw preDecoded signal now = some s') :
    Inv s' ∧ (Unanswered s' ↔ Unanswered s ∧
      Quiet py prim pb s (.deliver node frame raw preDecoded signal now)) := by
  obtain ⟨tx, sent, htx, hsent, hack, hair, hdecided⟩ := deliver_cases h
  have hquiet : Quiet py prim pb s (.deliver node frame raw preDecoded signal now) ↔
      (sent.answers.isSome = true → ∀ packet,
        (receive prim pb tx raw preDecoded signal now).1 = some packet →
          ¬ IsRequest py tx.sourceNodeId packet) := by
    constructor
    · intro hq hanswers packet hpacket
      exact hq tx htx sent hsent hanswers packet hpacket
    · intro hq tx' htx' sent' hsent' hanswers packet hpacket
      rw [Option.mem_def, htx] at htx'
      rw [Option.mem_def, hsent] at hsent'
      cases htx'
      cases hsent'
      exact hq hanswers packet hpacket
  rw [hquiet]
  rcases hdecided with ⟨htasks, hanswered, hnone⟩ | ⟨packet, reply, hpacket, hreply, htasks, hanswered⟩
  · refine ⟨⟨?_, ?_, ?_⟩, ?_⟩
    · rw [hair]
      exact hinv.noAck
    · rw [hair, hanswered]
      exact hinv.inRange
    · intro i
      unfold answersTo pendingFor
      rw [hair, htasks, hanswered]
      exact hinv.counted i
    · unfold Unanswered
      rw [hair, hanswered]
      constructor
      · intro hun
        refine ⟨hun, ?_⟩
        intro _ packet hpacket hrequest
        obtain ⟨reply, hreply⟩ := handle_of_isRequest hrequest
        rw [hnone packet hpacket] at hreply
        cases hreply
      · exact And.left
  · refine ⟨⟨?_, ?_, ?_⟩, ?_⟩
    · rw [hair]
      exact hinv.noAck
    · rw [hair, hanswered]
      intro i hi
      rcases List.mem_append.mp hi with hold | hnew
      · exact hinv.inRange i hold
      · rw [List.mem_singleton.mp hnew]
        exact (List.getElem?_eq_some_iff.mp hsent).1
    · intro i
      have hcount := hinv.counted i
      unfold answersTo pendingFor at hcount ⊢
      rw [hair, htasks, hanswered, List.countP_append, List.count_append]
      have hlast : List.countP (fun t : Task F => decide (t.frame = i))
          [⟨node, packet, reply, frame⟩] = [frame].count i := by
        rw [List.countP_singleton, List.count_singleton]
        simp
      omega
    · unfold Unanswered
      rw [hair, hanswered]
      constructor
      · intro hun
        refine ⟨fun i hi => hun i (List.mem_append_left _ hi), ?_⟩
        intro hanswers
        have hnone := hun frame (List.mem_append_right _ (List.mem_singleton.mpr rfl)) sent hsent
        rw [hnone] at hanswers
        cases hanswers
      · rintro ⟨hun, hrequests⟩ i hi other hother
        rcases List.mem_append.mp hi with hold | hnew
        · exact hun i hold other hother
        · rw [List.mem_singleton.mp hnew, hsent] at hother
          cases hother
          -- an answer asks for no ACK, so the handler took the packet for a request
          by_contra hanswers
          rw [← ne_eq, Option.ne_none_iff_isSome] at hanswers
          rcases isRequest_or_wantAck_of_handle hreply with hrequest | hwant
          · exact hrequests hanswers packet hpacket hrequest
          · have hflag := hack (asksAck_of_receive hpacket hwant)
            rw [hinv.noAck sent (List.mem_of_getElem? hsent) hanswers] at hflag
            cases hflag

theorem respond_spec {s s' : Network F} {task : Nat} {draws : ReplyDraws F} (hinv : Inv s)
    (h : respond prim proto s task draws = some s') : Inv s' ∧ (Unanswered s' ↔ Unanswered s) := by
  obtain ⟨t, htask, htasks, hanswered, hair⟩ := respond_cases h
  have hpending : ∀ i, pendingFor s' i + (if t.frame = i then 1 else 0) = pendingFor s i := by
    intro i
    unfold pendingFor
    rw [htasks, ← countP_eraseIdx htask]
    simp
  rcases hair with hair | ⟨bytes, hbytes, hair⟩
  · refine ⟨⟨?_, ?_, ?_⟩, ?_⟩
    · rw [hair]
      exact hinv.noAck
    · rw [hair, hanswered]
      exact hinv.inRange
    · intro i
      have hcount := hinv.counted i
      rw [← hpending i] at hcount
      unfold answersTo at hcount ⊢
      rw [hair, hanswered]
      omega
    · unfold Unanswered
      rw [hair, hanswered]
  · refine ⟨⟨?_, ?_, ?_⟩, unanswered_append hinv.inRange hair hanswered⟩
    · rw [hair]
      intro sent hsent hanswers
      rcases List.mem_append.mp hsent with hold | hnew
      · exact hinv.noAck sent hold hanswers
      · rw [List.mem_singleton.mp hnew]
        exact hbytes
    · rw [hair, hanswered, List.length_append]
      intro i hi
      exact Nat.lt_add_right 1 (hinv.inRange i hi)
    · intro i
      have hcount := hinv.counted i
      rw [← hpending i] at hcount
      unfold answersTo at hcount ⊢
      rw [hair, hanswered, List.countP_append, List.countP_singleton]
      simp only [Option.some.injEq, decide_eq_true_eq]
      omega

/-- **One event.**  The invariant is kept, and an answer is answered exactly when a node takes
    one for a request. -/
theorem step_spec {s s' : Network F} {e : Event F} (hinv : Inv s)
    (h : step py prim pb proto s e = some s') :
    Inv s' ∧ (Unanswered s' ↔ Unanswered s ∧ Quiet py prim pb s e) := by
  cases e with
  | userSend bytes =>
    cases h
    have hun : Unanswered ({ s with air := s.air ++ [⟨bytes, none⟩] } : Network F) ↔ Unanswered s :=
      unanswered_append hinv.inRange rfl rfl
    exact ⟨userSend_spec hinv bytes, hun.trans (and_iff_left trivial).symm⟩
  | change node tx =>
    obtain ⟨old, -, rfl⟩ := Option.map_eq_some_iff.mp h
    exact ⟨⟨hinv.noAck, hinv.inRange, hinv.counted⟩, (and_iff_left trivial).symm⟩
  | deliver node frame raw preDecoded signal now => exact deliver_spec hinv h
  | respond task draws =>
    obtain ⟨hinv', hun⟩ := respond_spec hinv h
    exact ⟨hinv', hun.trans (and_iff_left trivial).symm⟩

def deliveries (i : Nat) (events : List (Event F)) : Nat :=
  events.countP fun
    | .deliver _ frame _ _ _ _ => decide (frame = i)
    | _ => false

/-- Automatic frames answer frames of users only, and no more of them than deliveries of the
    frame they answer. -/
structure AnswersUsers (s : Network F) (events : List (Event F)) : Prop where
  unanswered : Unanswered s
  fromUser : ∀ sent ∈ s.air, ∀ i, sent.answers = some i →
    ∃ user, s.air[i]? = some user ∧ user.answers = none
  bounded : ∀ i, answersTo s i ≤ deliveries i events

theorem count_answered_step {s s' : Network F} {e : Event F} (i : Nat)
    (h : step py prim pb proto s e = some s') :
    s'.answered.count i ≤ s.answered.count i + deliveries i [e] := by
  cases e with
  | userSend bytes =>
    cases h
    exact Nat.le_refl _
  | change node tx =>
    obtain ⟨old, -, rfl⟩ := Option.map_eq_some_iff.mp h
    exact Nat.le_refl _
  | deliver node frame raw preDecoded signal now =>
    obtain ⟨tx, sent, -, -, -, -, hdecided⟩ := deliver_cases h
    rcases hdecided with ⟨-, hanswered, -⟩ | ⟨packet, reply, -, -, -, hanswered⟩
    · rw [hanswered]
      exact Nat.le_add_right _ _
    · rw [hanswered, List.count_append, List.count_singleton]
      unfold deliveries
      rw [List.countP_singleton]
      simp
  | respond task draws =>
    obtain ⟨t, -, -, hanswered, -⟩ := respond_cases h
    rw [hanswered]
    exact Nat.le_add_right _ _

theorem count_answered_replay {s s' : Network F} (i : Nat) (events : List (Event F))
    (h : replay (step py prim pb proto) Always s events = some s') :
    s'.answered.count i ≤ s.answered.count i + deliveries i events := by
  induction events generalizing s with
  | nil =>
    cases h
    exact Nat.le_refl _
  | cons e rest ih =>
    simp only [replay] at h
    have halways : Always s e := trivial
    rw [if_pos halways] at h
    obtain ⟨s₁, hstep, hrest⟩ := Option.bind_eq_some_iff.mp h
    have hone := count_answered_step i hstep
    have hall := ih hrest
    have hsplit : deliveries i (e :: rest) = deliveries i [e] + deliveries i rest := by
      unfold deliveries
      rw [← List.countP_append, List.singleton_append]
    omega

/-- **Replies over all runs.**  Whatever is delivered, in whatever order, again or not at all:
    automatic frames answer only frames of users, and at most one for each delivery, exactly
    when no delivered answer is taken for a request. -/
theorem answersUsers_replay_iff {nodes : List TxService} {events : List (Event F)}
    {s : Network F}
    (h : replay (step py prim pb proto) Always { nodes := nodes } events = some s) :
    AnswersUsers s events ↔
      replay (step py prim pb proto) (Quiet py prim pb) { nodes := nodes } events = some s := by
  obtain ⟨hinv, hiff⟩ := replay_guard_iff (fun hinv hstep => step_spec hinv hstep)
    (inv_start nodes) h
  have hstart : Unanswered ({ nodes := nodes } : Network F) := by
    intro i hi
    cases hi
  rw [and_iff_right hstart] at hiff
  constructor
  · intro hanswers
    exact hiff.mp hanswers.unanswered
  · intro hquiet
    have hun := hiff.mpr hquiet
    refine ⟨hun, ?_, ?_⟩
    · intro sent hsent i hanswers
      have hpos : 0 < answersTo s i := by
        apply List.countP_pos_iff.mpr
        exact ⟨sent, hsent, decide_eq_true hanswers⟩
      have hmem : i ∈ s.answered := by
        apply List.count_pos_iff.mp
        have hle := hinv.counted i
        omega
      have hlt := hinv.inRange i hmem
      exact ⟨s.air[i], List.getElem?_eq_getElem hlt,
        hun i hmem _ (List.getElem?_eq_getElem hlt)⟩
    · intro i
      have hle := hinv.counted i
      have hdeliveries := count_answered_replay i events h
      rw [List.count_nil, Nat.zero_add] at hdeliveries
      omega

end

/-! ### Two nodes answering each other -/

def tracePrimitives : CryptoPrimitives :=
  let channel := MESHTASTIC_DEFAULT_PSK
  .ofTable
    [(channel, ofHex "2a000000000000000100aaaa00000000", ofHex "40b14f2262c2aa64cfb13408cfa9d7e5"),
      (channel, ofHex "01100000000000000200bbbb00000000", ofHex "1094a51b449502168188123207263a73"),
      (channel, ofHex "01100000000000000200bbbb00000001", ofHex "f0b6f45dbb990574272efdfe8d78eadf"),
      (channel, ofHex "01200000000000000100aaaa00000000", ofHex "898ed938b791f711588dc30698f0e075"),
      (channel, ofHex "01200000000000000100aaaa00000001", ofHex "aa0f434fb8775e7fa814298546d8baa2"),
      (channel, ofHex "02100000000000000200bbbb00000000", ofHex "9e31911f958c75a053eca4bb737efffb"),
      (channel, ofHex "02100000000000000200bbbb00000001", ofHex "2a3814606d01ba271351e823b7980677")]
    [] []

def traceNode (nodeId : Nat) : TxService where
  crypto := { defaultKey := some (ChannelKeys.expandKey [1]), keys := OrderedDict.empty }
  primaryChannelName := "LongFast"
  presetName := "LongFast"
  sourceNodeId := nodeId
  hopLimit := 3
  enabled := true
  hasWrapper := true
  meshcoreEnabled := false
  companions := []
  sticks := []
  latestCaptureSource _ := none

/-- A packed field of a message; an empty one is left out. -/
def packedField (tag : UInt8) (bytes : Bytes) : Bytes :=
  if bytes = [] then [] else tag :: UInt8.ofNat bytes.length :: bytes

/-- The serialiser of `RouteDiscovery`, for node numbers and small positive signals. -/
def traceProtobuf : ReplyProtobuf WholeFloat where
  telemetry _ := none
  routeDiscovery message := some <|
    packedField 0x0A (message.route.flatMap fun n => ByteCodec.leBytes 4 n.toNat) ++
      packedField 0x12 (message.snrTowards.map fun n => UInt8.ofNat n.toNat) ++
      packedField 0x1A (message.routeBack.flatMap fun n => ByteCodec.leBytes 4 n.toNat) ++
      packedField 0x22 (message.snrBack.map fun n => UInt8.ofNat n.toNat)

/-- The parsers, on the payloads of the frames here. -/
def traceParsers : AppProtobuf WholeFloat :=
  { (default : AppProtobuf WholeFloat) with
    routing := fun payload => if payload = [] then some ⟨0, none, none⟩ else none
    routeDiscovery := fun payload => [
      (([] : Bytes), (⟨[], [], []⟩ : RouteDiscovery)),
      (ofHex "1201141a040100aaaa220114", ⟨[], [20], [20]⟩),
      (ofHex "120214141a040200bbbb220114", ⟨[], [20, 20], [20]⟩)].lookup payload }

def userFrame (inner : Bytes) (wantAck : Bool) : Option Bytes :=
  buildFrame tracePrimitives (traceNode 0xaaaa0001).crypto
    { dest := 0xbbbb0002, sourceId := 0xaaaa0001, packetId := 42, channelKey := none,
      channelHash := 8, hopLimit := 3, hopStart := 3, wantAck := wantAck } inner 0

def traceStart : Network WholeFloat := { nodes := [traceNode 0xaaaa0001, traceNode 0xbbbb0002] }

def traceDraws (packetId : Nat) : ReplyDraws WholeFloat :=
  { packetId := packetId, encodedSnr := fun x => some (4 * x.value) }

def hear (node frame : Nat) (raw : Bytes) : Event WholeFloat :=
  .deliver node frame raw none (some ⟨⟨-40⟩, ⟨5⟩⟩) 0

def traceStep : Network WholeFloat → Event WholeFloat → Option (Network WholeFloat) :=
  step Casing.ascii tracePrimitives traceParsers traceProtobuf

/-- A text with a request for an ACK, the ACK, and the ACK reaching its node. -/
def textEvents : List (Event WholeFloat) :=
  let text := (userFrame (serializeData PORTNUM_TEXT_MESSAGE (utf8 "hi") 0) true).get
    (by decide +kernel)
  [.userSend text, hear 1 0 text, .respond 0 (traceDraws 0x1001),
    hear 0 1 (ofHex "0100aaaa0200bbbb01100000420800001891b71b71bf021681")]

def textEnd : Network WholeFloat :=
  (replay traceStep (Quiet Casing.ascii tracePrimitives traceParsers) traceStart textEvents).get
    (by decide +kernel)

theorem answersUsers_textEnd : AnswersUsers textEnd textEvents := by
  have hquiet : replay traceStep (Quiet Casing.ascii tracePrimitives traceParsers) traceStart
      textEvents = some textEnd := (Option.some_get _).symm
  exact (answersUsers_replay_iff (replay_mono (fun _ _ _ => trivial) hquiet)).mpr hquiet

/-- A traceroute request; then each node hears what the other one has sent last. -/
def traceEvents : List (Event WholeFloat) :=
  let request := (userFrame (serializeData PORTNUM_TRACEROUTE [] 0) false).get (by decide +kernel)
  [.userSend request, hear 1 0 request, .respond 0 (traceDraws 0x1001),
    hear 0 1 (ofHex "0100aaaa0200bbbb011000004208000018d2b7175694160c85891298ad043b67c59cf45dbb"),
    .respond 0 (traceDraws 0x2001),
    hear 1 2 (ofHex "0200bbbb0100aaaa012000004208000081c8cb35a593e3054289c106234bc274be3a425fb877"),
    .respond 0 (traceDraws 0x1002)]

/-- The reply to the request is answered, and so is the answer to it. -/
theorem traceroute_replies_answered :
    (replay traceStep Always traceStart traceEvents).map
        (fun s => (s.answered, s.air.map Sent.answers)) =
      some ([0, 1, 2], [none, some 0, some 1, some 2]) ∧
    ∀ s, replay traceStep Always traceStart traceEvents = some s → ¬ AnswersUsers s traceEvents := by
  have hends : (replay traceStep Always traceStart traceEvents).map
      (fun s => (s.answered, s.air.map Sent.answers)) =
        some ([0, 1, 2], [none, some 0, some 1, some 2]) := by decide +kernel
  refine ⟨hends, ?_⟩
  intro s hs hanswers
  rw [hs, Option.map_some, Option.some.injEq, Prod.mk.injEq] at hends
  obtain ⟨hanswered, hair⟩ := hends
  have hone : (1 : Nat) ∈ s.answered := by
    rw [hanswered]
    decide
  have hfirst : (s.air[1]?).map Sent.answers = some (some 0) := by
    rw [← List.getElem?_map, hair]
    rfl
  obtain ⟨sent, hsent, hreply⟩ := Option.map_eq_some_iff.mp hfirst
  rw [hanswers.unanswered 1 hone sent hsent] at hreply
  cases hreply

end Meshpoint.ReplyChains
