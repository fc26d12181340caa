import Meshpoint.UpstreamClient

/-!
# What the upstream buffer loses

A flush pops whatever is the oldest message when its send returns.  An append to the full queue
during the send has dropped the message that was sent, and then another one is popped that
nobody was given.  `losesNothing_iff` says of every run that this is the only way to lose a
message: nothing is lost exactly when no send that returns was overtaken by such an append.
-/

namespace Meshpoint.UpstreamClient

variable {M F N : Type} {bufferMaxSize : Nat}

/-! ### The property -/

/-- Each acknowledged send removed the message that was sent. -/
def AcksMatch (o : Outbox M bufferMaxSize) : Prop :=
  ∀ sent popped, .acknowledged sent popped ∈ o.removed → popped = sent

/-- Messages leave the queue only as the oldest one at an overflow or by an acknowledged send,
    which removes the message the socket was handed; they are handed over in the order they
    were queued. -/
structure LosesNothing (o : Outbox M bufferMaxSize) : Prop where
  kept : ∀ n < o.queued, (∃ m ∈ o.buffer.items, m.number = n) ∨
    ∃ r ∈ o.removed, r.message.number = n
  overflow : ∀ message items, .overflow message items ∈ o.removed →
    items.head? = some message ∧ items.length = bufferMaxSize + 1
  acknowledged : ∀ sent popped, .acknowledged sent popped ∈ o.removed →
    popped = sent ∧ sent ∈ o.handed
  ordered : (o.handed.map Queued.number).Pairwise (· ≤ ·)

/-- The flush in relation to the queue: it sends the oldest message, unless an append has
    overtaken it, and then one that is older than all. -/
structure FlushFits (o : Outbox M bufferMaxSize) (sending : Sending M) : Prop where
  nonempty : o.buffer.items ≠ []
  head : sending.overtaken = false → o.buffer.items.head? = some sending.message
  overtaken : sending.overtaken = true → ∀ m ∈ o.buffer.items, sending.message.number < m.number
  below : sending.message.number < o.queued
  handed : sending.handed = true → sending.message ∈ o.handed
  after : ∀ h ∈ o.handed, h.number ≤ sending.message.number

/-- What holds in every state, whether messages are lost or not. -/
structure Consistent (o : Outbox M bufferMaxSize) : Prop where
  sorted : o.buffer.items.Pairwise fun m m' => m.number < m'.number
  below : ∀ m ∈ o.buffer.items, m.number < o.queued
  flush : ∀ sending ∈ o.flush, FlushFits o sending
  handedBefore : ∀ h ∈ o.handed, ∀ m ∈ o.buffer.items, h.number ≤ m.number
  handedBelow : ∀ h ∈ o.handed, h.number < o.queued
  kept : ∀ n < o.queued, (∃ m ∈ o.buffer.items, m.number = n) ∨
    ∃ r ∈ o.removed, r.message.number = n
  overflow : ∀ message items, .overflow message items ∈ o.removed →
    items.head? = some message ∧ items.length = bufferMaxSize + 1
  acknowledged : ∀ sent popped, .acknowledged sent popped ∈ o.removed → sent ∈ o.handed
  ordered : (o.handed.map Queued.number).Pairwise (· ≤ ·)

theorem losesNothing_iff_acksMatch {o : Outbox M bufferMaxSize} (h : Consistent o) :
    LosesNothing o ↔ AcksMatch o := by
  constructor
  · intro hloses sent popped hmem
    exact (hloses.acknowledged sent popped hmem).1
  · intro hacks
    refine ⟨h.kept, h.overflow, ?_, h.ordered⟩
    intro sent popped hmem
    exact ⟨hacks sent popped hmem, h.acknowledged sent popped hmem⟩

theorem consistent_empty : Consistent ({} : Outbox M bufferMaxSize) where
  sorted := List.Pairwise.nil
  below := by
    intro m hm
    cases hm
  flush := by
    intro sending h
    cases h
  handedBefore := by
    intro h hmem
    cases hmem
  handedBelow := by
    intro h hmem
    cases hmem
  kept := by
    intro n hn
    exact absurd hn (Nat.not_lt_zero n)
  overflow := by
    intro message items hmem
    cases hmem
  acknowledged := by
    intro sent popped hmem
    cases hmem
  ordered := List.Pairwise.nil

/-! ### One step of the queue -/

namespace Outbox

variable {o o' : Outbox M bufferMaxSize}

theorem append_of_not_full (message : M) (h : o.buffer.isFull = false) :
    o.append message =
      { o with buffer := o.buffer.append ⟨o.queued, message⟩, queued := o.queued + 1 } := by
  rw [append, h]

theorem append_of_full (message : M) (h : o.buffer.isFull = true) {oldest : Queued M}
    {rest : List (Queued M)} (hitems : o.buffer.items ++ [⟨o.queued, message⟩] = oldest :: rest) :
    o.append message =
      { o with
        buffer := o.buffer.append ⟨o.queued, message⟩
        queued := o.queued + 1
        removed := o.removed ++ [.overflow oldest (oldest :: rest)]
        flush := o.flush.map fun sending => { sending with overtaken := true } } := by
  rw [append, h, hitems]

theorem exists_items_eq_cons (o : Outbox M bufferMaxSize) (message : M) :
    ∃ oldest rest, o.buffer.items ++ [⟨o.queued, message⟩] = oldest :: rest :=
  List.exists_cons_of_ne_nil (List.append_ne_nil_of_right_ne_nil _ (List.cons_ne_nil _ _))

theorem sorted_with_new (h : Consistent o) (message : M) :
    List.Pairwise (fun m m' : Queued M => m.number < m'.number)
      (o.buffer.items ++ [⟨o.queued, message⟩]) := by
  rw [List.pairwise_append]
  refine ⟨h.sorted, List.pairwise_singleton _ _, ?_⟩
  intro m hm m' hm'
  rw [List.mem_singleton.mp hm']
  exact h.below m hm

theorem below_with_new (h : Consistent o) (message : M) {m : Queued M}
    (hm : m ∈ o.buffer.items ++ [⟨o.queued, message⟩]) : m.number < o.queued + 1 := by
  rcases List.mem_append.mp hm with hm | hm
  · exact Nat.lt_succ_of_lt (h.below m hm)
  · rw [List.mem_singleton.mp hm]
    exact Nat.lt_succ_self _

theorem handedBefore_with_new (h : Consistent o) (message : M) {m m' : Queued M}
    (hm : m ∈ o.handed) (hm' : m' ∈ o.buffer.items ++ [⟨o.queued, message⟩]) :
    m.number ≤ m'.number := by
  rcases List.mem_append.mp hm' with hm' | hm'
  · exact h.handedBefore m hm m' hm'
  · rw [List.mem_singleton.mp hm']
    exact Nat.le_of_lt (h.handedBelow m hm)

theorem kept_with_new (h : Consistent o) (message : M) {n : Nat} (hn : n < o.queued + 1) :
    (∃ m ∈ o.buffer.items ++ [⟨o.queued, message⟩], m.number = n) ∨
      ∃ r ∈ o.removed, r.message.number = n := by
  rcases Nat.lt_succ_iff_lt_or_eq.mp hn with hn | rfl
  · rcases h.kept n hn with ⟨m, hm, hnumber⟩ | hremoved
    · exact Or.inl ⟨m, List.mem_append_left _ hm, hnumber⟩
    · exact Or.inr hremoved
  · exact Or.inl ⟨_, List.mem_append_right _ (List.mem_singleton_self _), rfl⟩

theorem consistent_append_of_not_full (h : Consistent o) (message : M)
    (hfull : o.buffer.isFull = false) : Consistent (o.append message) := by
  rw [append_of_not_full message hfull]
  have hitems := BoundedDeque.items_append_of_not_full hfull ⟨o.queued, message⟩
  exact
    { sorted := by
        rw [hitems]
        exact sorted_with_new h message
      below := by
        intro m hm
        rw [hitems] at hm
        exact below_with_new h message hm
      flush := by
        intro sending hsending
        have hfits := h.flush sending hsending
        refine ⟨?_, ?_, ?_, Nat.lt_succ_of_lt hfits.below, hfits.handed, hfits.after⟩
        · rw [hitems]
          exact List.append_ne_nil_of_left_ne_nil hfits.nonempty _
        · intro hover
          rw [hitems, List.head?_append, hfits.head hover]
          rfl
        · intro hover m hm
          rw [hitems] at hm
          rcases List.mem_append.mp hm with hm | hm
          · exact hfits.overtaken hover m hm
          · rw [List.mem_singleton.mp hm]
            exact hfits.below
      handedBefore := by
        intro m hm m' hm'
        rw [hitems] at hm'
        exact handedBefore_with_new h message hm hm'
      handedBelow := by
        intro m hm
        exact Nat.lt_succ_of_lt (h.handedBelow m hm)
      kept := by
        intro n hn
        rw [hitems]
        exact kept_with_new h message hn
      overflow := h.overflow
      acknowledged := h.acknowledged
      ordered := h.ordered }

theorem consistent_append_of_full (h : Consistent o) (message : M)
    (hfull : o.buffer.isFull = true) : Consistent (o.append message) := by
  obtain ⟨oldest, rest, hcons⟩ := o.exists_items_eq_cons message
  have hsorted := sorted_with_new h message
  have hbelow : ∀ m ∈ oldest :: rest, m.number < o.queued + 1 := by
    intro m hm
    exact below_with_new h message (hcons ▸ hm)
  have hbefore : ∀ m ∈ o.handed, ∀ m' ∈ oldest :: rest, m.number ≤ m'.number := by
    intro m hm m' hm'
    exact handedBefore_with_new h message hm (hcons ▸ hm')
  rw [append_of_full message hfull hcons]
  have hitems : (o.buffer.append ⟨o.queued, message⟩).items = rest := by
    rw [BoundedDeque.items_append_of_full hfull, hcons, List.tail_cons]
  rw [hcons, List.pairwise_cons] at hsorted
  exact
    { sorted := by
        rw [hitems]
        exact hsorted.2
      below := by
        intro m hm
        rw [hitems] at hm
        exact hbelow m (List.mem_cons_of_mem _ hm)
      flush := by
        intro sending hsending
        obtain ⟨before, hmem, rfl⟩ := Option.map_eq_some_iff.mp hsending
        have hfits := h.flush before hmem
        refine ⟨?_, fun hover => absurd hover Bool.false_ne_true.symm, ?_,
          Nat.lt_succ_of_lt hfits.below, hfits.handed, hfits.after⟩
        · intro hnil
          have hlength := congrArg List.length hcons
          rw [hitems] at hnil
          rw [hnil, List.length_append, List.length_singleton, List.length_singleton] at hlength
          exact hfits.nonempty (List.length_eq_zero_iff.mp (Nat.succ.inj hlength))
        intro _ m hm
        rw [hitems] at hm
        -- the message of the flush is not newer than the oldest item
        have hle : before.message.number ≤ oldest.number := by
          cases hover : before.overtaken with
          | false =>
            have hhead := hfits.head hover
            have hnew : (oldest :: rest).head? = some before.message := by
              rw [← hcons, List.head?_append, hhead]
              rfl
            rw [Option.some.inj hnew]
          | true =>
            have hmem' : oldest ∈ o.buffer.items ++ [⟨o.queued, message⟩] := by
              rw [hcons]
              exact List.mem_cons_self
            rcases List.mem_append.mp hmem' with hold | hnew
            · exact Nat.le_of_lt (hfits.overtaken hover oldest hold)
            · rw [List.mem_singleton.mp hnew]
              exact Nat.le_of_lt hfits.below
        exact Nat.lt_of_le_of_lt hle (hsorted.1 m hm)
      handedBefore := by
        intro m hm m' hm'
        rw [hitems] at hm'
        exact hbefore m hm m' (List.mem_cons_of_mem _ hm')
      handedBelow := by
        intro m hm
        exact Nat.lt_succ_of_lt (h.handedBelow m hm)
      kept := by
        intro n hn
        rw [hitems]
        have hplace : (∃ m ∈ oldest :: rest, m.number = n) ∨
            ∃ r ∈ o.removed, r.message.number = n := by
          rw [← hcons]
          exact kept_with_new h message hn
        rcases hplace with ⟨m, hm, hnumber⟩ | ⟨r, hr, hnumber⟩
        · rcases List.mem_cons.mp hm with rfl | hm
          · exact Or.inr ⟨_, List.mem_append_right _ (List.mem_singleton_self _), hnumber⟩
          · exact Or.inl ⟨m, hm, hnumber⟩
        · exact Or.inr ⟨r, List.mem_append_left _ hr, hnumber⟩
      overflow := by
        intro dropped items hmem
        rcases List.mem_append.mp hmem with hmem | hmem
        · exact h.overflow dropped items hmem
        · cases List.mem_singleton.mp hmem
          refine ⟨rfl, ?_⟩
          have hlength : o.buffer.items.length = bufferMaxSize := by
            simpa [BoundedDeque.isFull] using hfull
          rw [← hcons, List.length_append, hlength, List.length_singleton]
      acknowledged := by
        intro sent popped hmem
        rcases List.mem_append.mp hmem with hmem | hmem
        · exact h.acknowledged sent popped hmem
        · cases List.mem_singleton.mp hmem
      ordered := h.ordered }

theorem consistent_append (h : Consistent o) (message : M) : Consistent (o.append message) := by
  cases hfull : o.buffer.isFull with
  | false => exact consistent_append_of_not_full h message hfull
  | true => exact consistent_append_of_full h message hfull

theorem consistent_abandon (h : Consistent o) : Consistent o.abandon :=
  { h with
    flush := by
      intro sending hsending
      cases hsending }

theorem consistent_peek (h : Consistent o) (hpeek : o.peek = some o') : Consistent o' := by
  unfold peek at hpeek
  split at hpeek
  · rename_i oldest rest hflush hitems
    cases hpeek
    have hmem : oldest ∈ o.buffer.items := by
      rw [hitems]
      exact List.mem_cons_self
    refine { h with flush := ?_ }
    intro sending hsending
    cases hsending
    refine ⟨List.ne_nil_of_mem hmem, ?_, fun hover => absurd hover Bool.false_ne_true,
      h.below oldest hmem, fun hhanded => absurd hhanded Bool.false_ne_true,
      fun m hm => h.handedBefore m hm oldest hmem⟩
    intro _
    change o.buffer.items.head? = some oldest
    rw [hitems, List.head?_cons]
  · cases hpeek

theorem consistent_hand (h : Consistent o) (hhand : o.hand = some o') : Consistent o' := by
  unfold hand at hhand
  split at hhand
  · rename_i message overtaken hflush
    cases hhand
    have hfits := h.flush ⟨message, false, overtaken⟩ hflush
    have hnotAfter : ∀ m ∈ o.buffer.items, message.number ≤ m.number := by
      intro m hm
      cases hover : overtaken with
      | true => exact Nat.le_of_lt (hfits.overtaken hover m hm)
      | false =>
        have hhead := hfits.head hover
        obtain ⟨rest, hitems⟩ := List.head?_eq_some_iff.mp hhead
        have hsorted := h.sorted
        rw [hitems] at hm hsorted
        rcases List.mem_cons.mp hm with rfl | hm
        · exact Nat.le_refl _
        · exact Nat.le_of_lt ((List.pairwise_cons.mp hsorted).1 m hm)
    refine { h with
      flush := ?_, handedBefore := ?_, handedBelow := ?_, acknowledged := ?_, ordered := ?_ }
    · intro sending hsending
      cases hsending
      refine ⟨hfits.nonempty, hfits.head, hfits.overtaken, hfits.below,
        fun _ => List.mem_append_right _ (List.mem_singleton_self _), ?_⟩
      intro m hm
      rcases List.mem_append.mp hm with hm | hm
      · exact hfits.after m hm
      · rw [List.mem_singleton.mp hm]
    · intro m hm m' hm'
      rcases List.mem_append.mp hm with hm | hm
      · exact h.handedBefore m hm m' hm'
      · rw [List.mem_singleton.mp hm]
        exact hnotAfter m' hm'
    · intro m hm
      rcases List.mem_append.mp hm with hm | hm
      · exact h.handedBelow m hm
      · rw [List.mem_singleton.mp hm]
        exact hfits.below
    · intro sent popped hmem
      exact List.mem_append_left _ (h.acknowledged sent popped hmem)
    · rw [List.map_append, List.pairwise_append]
      refine ⟨h.ordered, List.pairwise_singleton _ _, ?_⟩
      intro n hn n' hn'
      obtain ⟨m, hm, rfl⟩ := List.mem_map.mp hn
      rw [List.mem_singleton.mp hn']
      exact hfits.after m hm
  · cases hhand

/-- An acknowledged send keeps the queue consistent, and pops the message that was sent exactly
    when it was not overtaken. -/
theorem consistent_acknowledge (h : Consistent o) (hack : o.acknowledge = some (some o')) :
    Consistent o' ∧ (AcksMatch o' ↔
      AcksMatch o ∧ ∀ sending ∈ o.flush, sending.overtaken = false) := by
  unfold acknowledge at hack
  split at hack
  swap
  · cases hack
  rename_i message overtaken hflush
  rw [Option.some.injEq, Option.map_eq_some_iff] at hack
  obtain ⟨⟨popped, rest⟩, hpop, rfl⟩ := hack
  rw [BoundedDeque.popleft_eq_some_iff] at hpop
  have hfits := h.flush ⟨message, true, overtaken⟩ hflush
  have hsorted := h.sorted
  rw [hpop, List.pairwise_cons] at hsorted
  have hrest : ∀ m ∈ rest.items, m ∈ o.buffer.items := by
    intro m hm
    rw [hpop]
    exact List.mem_cons_of_mem _ hm
  constructor
  · refine { h with
      sorted := hsorted.2, below := fun m hm => h.below m (hrest m hm)
      flush := ?_, handedBefore := fun m hm m' hm' => h.handedBefore m hm m' (hrest m' hm')
      kept := ?_, overflow := ?_, acknowledged := ?_ }
    · intro sending hsending
      cases hsending
    · intro n hn
      rcases h.kept n hn with ⟨m, hm, hnumber⟩ | ⟨r, hr, hnumber⟩
      · rw [hpop] at hm
        rcases List.mem_cons.mp hm with rfl | hm
        · exact Or.inr ⟨_, List.mem_append_right _ (List.mem_singleton_self _), hnumber⟩
        · exact Or.inl ⟨m, hm, hnumber⟩
      · exact Or.inr ⟨r, List.mem_append_left _ hr, hnumber⟩
    · intro dropped items hmem
      rcases List.mem_append.mp hmem with hmem | hmem
      · exact h.overflow dropped items hmem
      · cases List.mem_singleton.mp hmem
    · intro sent popped' hmem
      rcases List.mem_append.mp hmem with hmem | hmem
      · exact h.acknowledged sent popped' hmem
      · cases List.mem_singleton.mp hmem
        exact hfits.handed rfl
  · have hpopped : popped = message ↔ overtaken = false := by
      cases hover : overtaken with
      | false =>
        have hhead := hfits.head hover
        rw [hpop, List.head?_cons, Option.some.injEq] at hhead
        exact iff_of_true hhead rfl
      | true =>
        have hlt := hfits.overtaken hover popped (by rw [hpop]; exact List.mem_cons_self)
        refine iff_of_false ?_ Bool.false_ne_true.symm
        rintro rfl
        exact Nat.lt_irrefl _ hlt
    constructor
    · intro hacks
      refine ⟨fun sent popped' hmem => hacks sent popped' (List.mem_append_left _ hmem), ?_⟩
      intro sending hsending
      rw [hflush, Option.mem_some_iff] at hsending
      subst hsending
      exact hpopped.mp (hacks message popped
        (List.mem_append_right _ (List.mem_singleton_self _)))
    · rintro ⟨hacks, hover⟩ sent popped' hmem
      rcases List.mem_append.mp hmem with hmem | hmem
      · exact hacks sent popped' hmem
      · cases List.mem_singleton.mp hmem
        exact hpopped.mpr (hover _ hflush)

theorem removed_of_peek (h : o.peek = some o') : o'.removed = o.removed := by
  unfold peek at h
  split at h
  · cases h
    rfl
  · cases h

theorem removed_of_hand (h : o.hand = some o') : o'.removed = o.removed := by
  unfold hand at h
  split at h
  · cases h
    rfl
  · cases h

theorem acknowledge_ne_raise (h : Consistent o) : o.acknowledge ≠ some none := by
  unfold acknowledge
  split
  · rename_i message overtaken hflush
    have hfits := h.flush ⟨message, true, overtaken⟩ hflush
    obtain ⟨popped, rest, hpop⟩ := BoundedDeque.popleft_isSome hfits.nonempty
    rw [hpop]
    exact fun h => by cases h
  · exact fun h => by cases h

end Outbox

/-! ### Runs -/

section Runs

variable [StationFloat F] {s s' : Client M F N bufferMaxSize}

def Event.isAcknowledgement : Event M F N → Bool
  | .flushAcknowledged => true
  | _ => false

/-- No append has overtaken the flush whose send returns. -/
def Undisturbed (s : Client M F N bufferMaxSize) (e : Event M F N) : Prop :=
  e.isAcknowledgement = true → ∀ sending ∈ s.flush, sending.overtaken = false

instance (s : Client M F N bufferMaxSize) (e : Event M F N) : Decidable (Undisturbed s e) :=
  inferInstanceAs (Decidable (_ → ∀ sending ∈ s.flush, _))

theorem acksMatch_append (o : Outbox M bufferMaxSize) (message : M) :
    AcksMatch (o.append message) ↔ AcksMatch o := by
  cases hfull : o.buffer.isFull with
  | false => rw [Outbox.append_of_not_full message hfull]; rfl
  | true =>
    obtain ⟨oldest, rest, hcons⟩ := o.exists_items_eq_cons message
    rw [Outbox.append_of_full message hfull hcons]
    constructor
    · intro h sent popped hmem
      exact h sent popped (List.mem_append_left _ hmem)
    · intro h sent popped hmem
      rcases List.mem_append.mp hmem with hmem | hmem
      · exact h sent popped hmem
      · cases List.mem_singleton.mp hmem

theorem outbox_step {e : Event M F N} (h : s.step e = some s')
    (he : e.isAcknowledgement = false) :
    s'.toOutbox = s.toOutbox ∨ (∃ message, s'.toOutbox = s.toOutbox.append message) ∨
      s'.toOutbox = s.toOutbox.abandon ∨ s.toOutbox.peek = some s'.toOutbox ∨
      s.toOutbox.hand = some s'.toOutbox := by
  cases e with
  | sendPacket now message =>
    cases h
    unfold Client.sendPacket
    split
    · exact Or.inl rfl
    · split
      · exact Or.inl rfl
      · exact Or.inr (Or.inl ⟨message, rfl⟩)
  | recordPacket protocol packetType signal hopStart hopLimit =>
    cases h
    exact Or.inl rfl
  | recordNode nodeId data =>
    cases h
    split <;> exact Or.inl rfl
  | connect =>
    rw [Client.step] at h
    split at h
    · cases h
    · cases h
      exact Or.inr (Or.inr (Or.inl rfl))
  | disconnect =>
    rw [Client.step] at h
    split at h
    · cases h
      exact Or.inr (Or.inr (Or.inl rfl))
    · cases h
  | peek =>
    rw [Client.step] at h
    split at h
    · obtain ⟨outbox, houtbox, rfl⟩ := Option.map_eq_some_iff.mp h
      exact Or.inr (Or.inr (Or.inr (Or.inl houtbox)))
    · cases h
  | flushHand =>
    rw [Client.step] at h
    split at h
    · obtain ⟨outbox, houtbox, rfl⟩ := Option.map_eq_some_iff.mp h
      exact Or.inr (Or.inr (Or.inr (Or.inr houtbox)))
    · cases h
  | flushAcknowledged => cases he
  | heartbeatBuild timestamp elapsed =>
    rw [Client.step] at h
    split at h
    · split at h <;> cases h <;> exact Or.inl rfl
    · cases h
  | heartbeatHand =>
    rw [Client.step] at h
    split at h
    · cases h
      exact Or.inl rfl
    · cases h
  | heartbeatSent =>
    rw [Client.step] at h
    split at h
    · cases h
      exact Or.inl rfl
    · cases h
  | heartbeatFailed =>
    rw [Client.step] at h
    split at h
    · cases h
      exact Or.inl rfl
    · cases h
  | otherTakes =>
    rw [Client.step] at h
    split at h
    · cases h
      exact Or.inl rfl
    · cases h
  | otherLeaves =>
    rw [Client.step] at h
    split at h
    · cases h
      exact Or.inl rfl
    · cases h

/-- **One event.**  The queue stays consistent, and messages are lost exactly by an
    acknowledgement of a flush that was overtaken. -/
theorem consistent_step {e : Event M F N} (hinv : Consistent s.toOutbox)
    (h : s.step e = some s') :
    Consistent s'.toOutbox ∧ (AcksMatch s'.toOutbox ↔ AcksMatch s.toOutbox ∧ Undisturbed s e) := by
  cases he : e.isAcknowledgement with
  | false =>
    have hguard : Undisturbed s e := by
      intro htrue
      rw [he] at htrue
      cases htrue
    rw [and_iff_left hguard]
    rcases outbox_step h he with hsame | ⟨message, happend⟩ | habandon | hpeek | hhand
    · rw [hsame]
      exact ⟨hinv, Iff.rfl⟩
    · rw [happend]
      exact ⟨Outbox.consistent_append hinv message, acksMatch_append s.toOutbox message⟩
    · rw [habandon]
      exact ⟨Outbox.consistent_abandon hinv, Iff.rfl⟩
    · refine ⟨Outbox.consistent_peek hinv hpeek, ?_⟩
      rw [AcksMatch, AcksMatch, Outbox.removed_of_peek hpeek]
    · refine ⟨Outbox.consistent_hand hinv hhand, ?_⟩
      rw [AcksMatch, AcksMatch, Outbox.removed_of_hand hhand]
  | true =>
    cases e with
    | flushAcknowledged =>
      rw [Client.step] at h
      obtain ⟨outcome, hoocome, hs'⟩ := Option.map_eq_some_iff.mp h
      cases outcome with
      | none => exact absurd hoocome (Outbox.acknowledge_ne_raise hinv)
      | some outbox =>
        cases hs'
        obtain ⟨hcons, hacks⟩ := Outbox.consistent_acknowledge hinv hoocome
        refine ⟨hcons, hacks.trans (and_congr_right fun _ => ?_)⟩
        exact ⟨fun hover _ => hover, fun hguard => hguard rfl⟩
    | _ => cases he

/-- **What the upstream buffer loses.**  Over every run from the start, messages leave the queue
    only as the oldest at an overflow or by being handed to the socket, in order and each
    acknowledgement removing the message that was sent, exactly when no send that returned was
    overtaken by an append to the full queue. -/
theorem losesNothing_iff (deviceId : String) (enabled : Bool) (events : List (Event M F N))
    (s : Client M F N bufferMaxSize)
    (hrun : GuardedRun.replay Client.step GuardedRun.Always (.fresh deviceId enabled) events =
      some s) :
    LosesNothing s.toOutbox ↔
      GuardedRun.replay Client.step Undisturbed (.fresh deviceId enabled) events = some s := by
  have hinit : Consistent (Client.fresh deviceId enabled : Client M F N bufferMaxSize).toOutbox :=
    consistent_empty
  have hacks : AcksMatch (Client.fresh deviceId enabled : Client M F N bufferMaxSize).toOutbox := by
    intro sent popped hmem
    cases hmem
  obtain ⟨hinv, hiff⟩ := GuardedRun.replay_guard_iff
    (I := fun s : Client M F N bufferMaxSize => Consistent s.toOutbox)
    (P := fun s : Client M F N bufferMaxSize => AcksMatch s.toOutbox) consistent_step hinit hrun
  rw [losesNothing_iff_acksMatch hinv, hiff]
  exact and_iff_right hacks

end Runs

/-! ### A queue of one message -/

def onePacket : List (Event String WholeFloat Unit) :=
  [.connect, .sendPacket 0 "first", .peek, .flushHand, .flushAcknowledged]

/-- The same, but a second packet is queued during the send. -/
def twoPackets : List (Event String WholeFloat Unit) :=
  [.connect, .sendPacket 0 "first", .peek, .flushHand, .sendPacket 1 "second", .flushAcknowledged]

def afterOnePacket : Client String WholeFloat Unit 1 :=
  (GuardedRun.replay Client.step GuardedRun.Always (.fresh "station" true) onePacket).get
    (by decide +kernel)

def afterTwoPackets : Client String WholeFloat Unit 1 :=
  (GuardedRun.replay Client.step GuardedRun.Always (.fresh "station" true) twoPackets).get
    (by decide +kernel)

theorem losesNothing_iff_onePacket :
    LosesNothing afterOnePacket.toOutbox ↔
      GuardedRun.replay Client.step Undisturbed (.fresh "station" true) onePacket =
        some afterOnePacket :=
  losesNothing_iff "station" true onePacket afterOnePacket (Option.some_get _).symm

/-- The second packet leaves the queue unsent, as if it had been acknowledged. -/
theorem second_packet_lost :
    GuardedRun.replay Client.step GuardedRun.Always (.fresh "station" true) twoPackets =
        some afterTwoPackets ∧
      afterTwoPackets.handed.map Queued.message = ["first"] ∧
      afterTwoPackets.buffer.items.map Queued.message = [] ∧
      ¬ LosesNothing afterTwoPackets.toOutbox := by
  refine ⟨(Option.some_get _).symm, by decide +kernel, by decide +kernel, ?_⟩
  intro h
  have hmem : Removal.acknowledged ⟨0, "first"⟩ ⟨1, "second"⟩ ∈ afterTwoPackets.removed := by
    decide +kernel
  exact absurd (h.acknowledged _ _ hmem).1 (by decide)

end Meshpoint.UpstreamClient
