import Meshpoint.InboundReplies
import Meshpoint.PkiAcceptance

/-!
# The key of a reply

A request is decrypted with a key of the table; its reply looks a key up again, by the
channel hash in the header and the public key of the requester.  `KeyFor` says in terms
of the table which key the second lookup gives, and `replies_stayOnKey_iff` when it is the
first one.
-/

namespace Meshpoint.ReplyKeys

open PyText ChannelKeys ChannelAgreement MeshtasticHeader MeshtasticDecoder PortnumHandlers
  InboundReplies TextSending PkiAcceptance MeshtasticBuilder

/-! ### The lookup by hash -/

/-- The channels the search by hash goes through: the primary name with the first key, and
    each named channel with the key at its index; with the hash of the two. -/
def channelAt (table : KeyTable) (primaryChannelName : String) : Nat → Option (UInt8 × AesKey)
  | 0 => table.getAllKeys[0]?.map fun key => (computeChannelHash primaryChannelName key, key)
  | j + 1 => (table.keys.items[j]?).bind fun entry =>
      table.getAllKeys[j + 1]?.map fun key => (computeChannelHash entry.1 key, key)

/-- The key the table gives for a hash: that of the first channel with the hash, or the
    primary key when no channel has it. -/
inductive KeyFor (table : KeyTable) (primaryChannelName : String) (hash : UInt8) (key : AesKey) :
    Prop
  | first (j : Nat) (hat : channelAt table primaryChannelName j = some (hash, key))
      (hbefore : ∀ k < j, ∀ other, channelAt table primaryChannelName k ≠ some (hash, other))
  | fallback (hprimary : table.getAllKeys[0]? = some key)
      (hno : ∀ j other, channelAt table primaryChannelName j ≠ some (hash, other))

theorem findSome?_zipIdx_eq_some_iff {α β : Type} {l : List α} {n : Nat} {f : α × Nat → Option β}
    {b : β} : (l.zipIdx n).findSome? f = some b ↔
      ∃ j, (∃ a, l[j]? = some a ∧ f (a, n + j) = some b) ∧
        ∀ k < j, ∀ a, l[k]? = some a → f (a, n + k) = none := by
  induction l generalizing n with
  | nil => simp
  | cons x rest ih =>
    rw [List.zipIdx_cons, List.findSome?_cons]
    cases hx : f (x, n) with
    | some c =>
      constructor
      · intro h
        cases h
        exact ⟨0, ⟨x, rfl, hx⟩, fun k hk => absurd hk (Nat.not_lt_zero k)⟩
      · rintro ⟨j, ⟨a, ha, hfa⟩, hbefore⟩
        cases j with
        | zero =>
          cases ha
          rw [Nat.add_zero, hx] at hfa
          exact hfa
        | succ j =>
          have hfirst := hbefore 0 (Nat.succ_pos j) x rfl
          rw [Nat.add_zero, hx] at hfirst
          cases hfirst
    | none =>
      simp only
      rw [ih]
      constructor
      · rintro ⟨j, ⟨a, ha, hfa⟩, hbefore⟩
        refine ⟨j + 1, ⟨a, ha, ?_⟩, ?_⟩
        · rw [← Nat.add_assoc, Nat.add_right_comm]
          exact hfa
        · intro k hk a' ha'
          cases k with
          | zero =>
            cases ha'
            exact hx
          | succ k =>
            rw [← Nat.add_assoc, Nat.add_right_comm]
            exact hbefore k (Nat.lt_of_succ_lt_succ hk) a' ha'
      · rintro ⟨j, ⟨a, ha, hfa⟩, hbefore⟩
        cases j with
        | zero =>
          cases ha
          rw [Nat.add_zero, hx] at hfa
          cases hfa
        | succ j =>
          refine ⟨j, ⟨a, ha, ?_⟩, ?_⟩
          · rw [Nat.add_right_comm, Nat.add_assoc]
            exact hfa
          · intro k hk a' ha'
            rw [Nat.add_right_comm, Nat.add_assoc]
            exact hbefore (k + 1) (Nat.succ_lt_succ hk) a' ha'

section

variable {table : KeyTable} {primaryChannelName : String} {hash : UInt8} {key : AesKey}

theorem byHash_eq_some_iff {j : Nat} {entry : String × AesKey}
    (hentry : table.keys.items[j]? = some entry) :
    ((table.getAllKeys[1 + j]?).filter fun key => decide (computeChannelHash entry.1 key = hash)) =
        some key ↔ channelAt table primaryChannelName (j + 1) = some (hash, key) := by
  rw [Nat.add_comm 1 j, channelAt, hentry, Option.bind_some]
  cases table.getAllKeys[j + 1]? with
  | none => simp
  | some k =>
    rw [Option.filter_some, Option.map_some, Option.some.injEq, Prod.mk.injEq]
    constructor
    · intro h
      split at h
      · rename_i hhash
        cases h
        exact ⟨of_decide_eq_true hhash, rfl⟩
      · cases h
    · rintro ⟨hhash, rfl⟩
      rw [if_pos (decide_eq_true hhash)]

theorem channelAt_succ_of_none {j : Nat} (h : table.keys.items[j]? = none) :
    channelAt table primaryChannelName (j + 1) = none := by
  rw [channelAt, h]
  rfl

theorem search_eq_some_iff :
    ((table.keys.items.zipIdx 1).findSome? fun p =>
        (table.getAllKeys[p.2]?).filter fun key => decide (computeChannelHash p.1.1 key = hash)) =
        some key ↔
      ∃ j, channelAt table primaryChannelName (j + 1) = some (hash, key) ∧
        ∀ k < j, ∀ other, channelAt table primaryChannelName (k + 1) ≠ some (hash, other) := by
  rw [findSome?_zipIdx_eq_some_iff]
  constructor
  · rintro ⟨j, ⟨entry, hentry, hkey⟩, hbefore⟩
    refine ⟨j, (byHash_eq_some_iff hentry).mp hkey, ?_⟩
    intro k hk other hother
    cases hget : table.keys.items[k]? with
    | none =>
      rw [channelAt_succ_of_none hget] at hother
      cases hother
    | some e =>
      have hnone := hbefore k hk e hget
      rw [(byHash_eq_some_iff hget).mpr hother] at hnone
      cases hnone
  · rintro ⟨j, hat, hbefore⟩
    cases hget : table.keys.items[j]? with
    | none =>
      rw [channelAt_succ_of_none hget] at hat
      cases hat
    | some entry =>
      refine ⟨j, ⟨entry, hget, (byHash_eq_some_iff hget).mpr hat⟩, ?_⟩
      intro k hk e he
      rw [Option.eq_none_iff_forall_ne_some]
      intro other hother
      exact hbefore k hk other ((byHash_eq_some_iff he).mp hother)

theorem channelAt_zero {primaryKey : AesKey} {rest : List AesKey}
    (hkeys : table.getAllKeys = primaryKey :: rest) :
    channelAt table primaryChannelName 0 =
      some (computeChannelHash primaryChannelName primaryKey, primaryKey) := by
  rw [channelAt, hkeys]
  rfl

theorem channelAt_succ_of_search_none
    (hsearch : ((table.keys.items.zipIdx 1).findSome? fun p =>
      (table.getAllKeys[p.2]?).filter fun key =>
        decide (computeChannelHash p.1.1 key = hash)) = none) (j : Nat) (other : AesKey) :
    channelAt table primaryChannelName (j + 1) ≠ some (hash, other) := by
  intro hat
  cases hget : table.keys.items[j]? with
  | none =>
    rw [channelAt_succ_of_none hget] at hat
    cases hat
  | some entry =>
    have hmem : (entry, 1 + j) ∈ table.keys.items.zipIdx 1 := by
      rw [List.mk_mem_zipIdx_iff_le_and_getElem?_sub]
      exact ⟨Nat.le_add_right 1 j, by rw [Nat.add_sub_cancel_left]; exact hget⟩
    have hnone := List.findSome?_eq_none_iff.mp hsearch _ hmem
    rw [(byHash_eq_some_iff hget).mpr hat] at hnone
    cases hnone

/-! ### The key for a hash -/

theorem not_keyFor_of_noKeys (hkeys : table.getAllKeys = []) :
    ¬ KeyFor table primaryChannelName hash key := by
  intro h
  cases h with
  | first j hat _ =>
    cases j with
    | zero =>
      rw [channelAt, hkeys] at hat
      cases hat
    | succ j =>
      rw [channelAt, hkeys] at hat
      cases hget : table.keys.items[j]? with
      | none =>
        rw [hget] at hat
        cases hat
      | some entry =>
        rw [hget] at hat
        cases hat
  | fallback hprimary _ =>
    rw [hkeys] at hprimary
    cases hprimary

theorem keyFor_iff_of_primary {primaryKey : AesKey}
    (hzero : channelAt table primaryChannelName 0 = some (hash, primaryKey)) :
    KeyFor table primaryChannelName hash key ↔ primaryKey = key := by
  constructor
  · intro h
    cases h with
    | first j hat hbefore =>
      cases j with
      | zero =>
        rw [hzero] at hat
        cases hat
        rfl
      | succ j => exact absurd hzero (hbefore 0 (Nat.succ_pos j) primaryKey)
    | fallback _ hno => exact absurd hzero (hno 0 primaryKey)
  · rintro rfl
    exact .first 0 hzero fun k hk => absurd hk (Nat.not_lt_zero k)

theorem keyFor_iff_of_none {primaryKey : AesKey} (hprimary : table.getAllKeys[0]? = some primaryKey)
    (hno : ∀ j other, channelAt table primaryChannelName j ≠ some (hash, other)) :
    KeyFor table primaryChannelName hash key ↔ primaryKey = key := by
  constructor
  · intro h
    cases h with
    | first j hat _ => exact absurd hat (hno j key)
    | fallback hfirst _ => exact Option.some.inj (hprimary.symm.trans hfirst)
  · rintro rfl
    exact .fallback hprimary hno

theorem keyFor_iff_of_search
    (hzero : ∀ other, channelAt table primaryChannelName 0 ≠ some (hash, other)) {found : AesKey}
    (hsearch : ((table.keys.items.zipIdx 1).findSome? fun p =>
      (table.getAllKeys[p.2]?).filter fun key =>
        decide (computeChannelHash p.1.1 key = hash)) = some found) :
    KeyFor table primaryChannelName hash key ↔ found = key := by
  obtain ⟨j, hat, hbefore⟩ := search_eq_some_iff.mp hsearch
  constructor
  · intro h
    cases h with
    | first j' hat' hbefore' =>
      cases j' with
      | zero => exact absurd hat' (hzero key)
      | succ j' =>
        have hsame := search_eq_some_iff.mpr ⟨j', hat', fun k hk =>
          hbefore' (k + 1) (Nat.succ_lt_succ hk)⟩
        exact Option.some.inj (hsearch.symm.trans hsame)
    | fallback _ hno => exact absurd hat (hno (j + 1) found)
  · rintro rfl
    refine .first (j + 1) hat ?_
    intro k hk
    cases k with
    | zero => exact hzero
    | succ k => exact hbefore k (Nat.lt_of_succ_lt_succ hk)

/-- **The lookup by hash.** -/
theorem resolveChannelByHash_eq_iff :
    (resolveChannelByHash table primaryChannelName hash).2 = some key ↔
      KeyFor table primaryChannelName hash key := by
  unfold resolveChannelByHash
  cases hkeys : table.getAllKeys with
  | nil => exact iff_of_false nofun (not_keyFor_of_noKeys hkeys)
  | cons primaryKey rest =>
    have hzero : channelAt table primaryChannelName 0 =
        some (computeChannelHash primaryChannelName primaryKey, primaryKey) := channelAt_zero hkeys
    simp only
    by_cases hprimary : computeChannelHash primaryChannelName primaryKey = hash
    · rw [hprimary] at hzero
      rw [if_pos hprimary, keyFor_iff_of_primary hzero, Option.some.injEq]
    · have hzeroNe : ∀ other, channelAt table primaryChannelName 0 ≠ some (hash, other) := by
        intro other h
        rw [hzero] at h
        cases h
        exact hprimary rfl
      rw [if_neg hprimary, ← hkeys, Option.some.injEq]
      cases hsearch : (table.keys.items.zipIdx 1).findSome? fun p =>
          (table.getAllKeys[p.2]?).filter fun key =>
            decide (computeChannelHash p.1.1 key = hash) with
      | none =>
        have hno : ∀ j other, channelAt table primaryChannelName j ≠ some (hash, other) := by
          intro j other
          cases j with
          | zero => exact hzeroNe other
          | succ j => exact channelAt_succ_of_search_none hsearch j other
        have hfirst : table.getAllKeys[0]? = some primaryKey := by
          rw [hkeys]
          rfl
        rw [Option.getD_none, keyFor_iff_of_none hfirst hno]
      | some found => rw [Option.getD_some, keyFor_iff_of_search hzeroNe hsearch]

end

/-! ### The encryption of a reply -/

section

variable {F : Type}

theorem recipientPubkeyForReply_crypto (original : Packet F) (requester : Nat)
    (crypto : CryptoService) :
    (recipientPubkeyForReply original requester crypto).2.toKeyTable = crypto.toKeyTable ∧
      (recipientPubkeyForReply original requester crypto).2.hasPki = crypto.hasPki := by
  have htable := crypto.lookupPublicKey_toKeyTable requester
  have hpair := lookupPublicKey_pair crypto requester
  unfold recipientPubkeyForReply
  split
  · exact ⟨rfl, rfl⟩
  · split
    · rename_i key c hlookup
      rw [hlookup] at htable hpair
      exact ⟨htable, hasPki_congr hpair⟩
    · rename_i c hlookup
      rw [hlookup] at htable hpair
      have hpair' := refreshPublicKeyFromDb_pair c requester
      exact ⟨(c.refreshPublicKeyFromDb_toKeyTable requester).trans htable,
        (hasPki_congr hpair').trans (hasPki_congr hpair)⟩

/-- A recipient key that the builder encrypts with. -/
def CanUsePki (crypto : CryptoService) (requester : Nat) (recipient : Bytes) : Prop :=
  recipient ≠ [] ∧ requester ≠ BROADCAST_ADDR ∧ crypto.hasPki = true

instance (crypto : CryptoService) (requester : Nat) (recipient : Bytes) :
    Decidable (CanUsePki crypto requester recipient) := inferInstanceAs (Decidable (_ ∧ _ ∧ _))

def tableKey (crypto : CryptoService) (primaryChannelName : String) (original : Packet F) :
    Option AesKey :=
  (resolveChannelByHash crypto.toKeyTable primaryChannelName (UInt8.ofNat original.channelHash)).2

theorem tableKey_or_default (crypto : CryptoService) (primaryChannelName : String)
    (original : Packet F) :
    (tableKey crypto primaryChannelName original).or crypto.defaultKey =
      tableKey crypto primaryChannelName original := by
  unfold tableKey resolveChannelByHash
  cases hkeys : crypto.getAllKeys with
  | nil =>
    cases hdefault : crypto.defaultKey with
    | none => rfl
    | some key =>
      rw [KeyTable.getAllKeys, hdefault] at hkeys
      cases hkeys
  | cons primaryKey rest =>
    simp only
    split <;> rfl

/-- A reply has arguments: with hash 0 it needs a key of the requester. -/
def HasArgs (crypto : CryptoService) (original : Packet F) (requester : Nat) : Prop :=
  original.channelHash = 0 →
    ∃ recipient, (recipientPubkeyForReply original requester crypto).1 = some recipient

def replyEncryption (crypto : CryptoService) (primaryChannelName : String) (original : Packet F)
    (requester : Nat) : Option Encryption :=
  match (recipientPubkeyForReply original requester crypto).1 with
  | some recipient =>
    if CanUsePki crypto requester recipient then some (.pki recipient)
    else (tableKey crypto primaryChannelName original).map .channel
  | none => (tableKey crypto primaryChannelName original).map .channel

theorem replyArgs_exists {tx : TxService} {original : Packet F} {dest : Nat}
    (h : HasArgs tx.crypto original dest) (packetId : Nat) :
    ∃ args crypto, replyArgs tx original dest packetId = (some args, crypto) := by
  have hrecipient : ¬ (original.channelHash = 0 ∧
      (recipientPubkeyForReply original dest tx.crypto).1 = none) := by
    rintro ⟨hzero, hnone⟩
    obtain ⟨recipient, hsome⟩ := h hzero
    rw [hnone] at hsome
    cases hsome
  unfold replyArgs
  simp only [if_neg hrecipient, Prod.mk.injEq, Option.some.injEq]
  exact ⟨_, _, rfl, rfl⟩

theorem replyArgs_encryption {tx : TxService} {original : Packet F} {dest packetId : Nat}
    {args : FrameArgs} {crypto : CryptoService}
    (h : replyArgs tx original dest packetId = (some args, crypto)) :
    HasArgs tx.crypto original dest ∧ args.encryption crypto =
      replyEncryption tx.crypto tx.primaryChannelName original dest := by
  have hcrypto := recipientPubkeyForReply_crypto original dest tx.crypto
  unfold replyArgs at h
  simp only [Prod.mk.injEq] at h
  obtain ⟨hargs, rfl⟩ := h
  split at hargs
  · cases hargs
  · rename_i hrecipient
    obtain rfl := Option.some.inj hargs
    constructor
    · intro hzero
      rw [← Option.ne_none_iff_exists']
      exact fun hnone => hrecipient ⟨hzero, hnone⟩
    · have hdefault : (recipientPubkeyForReply original dest tx.crypto).2.defaultKey =
          tx.crypto.defaultKey := congrArg KeyTable.defaultKey hcrypto.1
      have hkey := tableKey_or_default tx.crypto tx.primaryChannelName original
      unfold FrameArgs.encryption replyEncryption
      simp only [hdefault, hcrypto.2]
      unfold tableKey at hkey ⊢
      rw [hkey]
      rfl

end

/-! ### A decoded request -/

section

variable {F : Type} [PyFloat F] (prim : CryptoPrimitives) (pb : AppProtobuf F)

theorem decode_cases {crypto crypto' : CryptoService} {ourNodeId : Option Nat} {raw : Bytes}
    {signal : Option (SignalMetrics F)} {now : Int} {packet : Packet F}
    (h : decode prim pb crypto ourNodeId raw signal none now = (some packet, crypto')) :
    ∃ header, parseHeader (raw.take MESHTASTIC_HEADER_SIZE) = some header ∧
      crypto' = (pkiAttempt prim pb crypto ourNodeId header (raw.drop MESHTASTIC_HEADER_SIZE)).2 ∧
      (((pkiAttempt prim pb crypto ourNodeId header
            (raw.drop MESHTASTIC_HEADER_SIZE)).1.decodedPayload.isSome = true ∧
          ∃ attempt, packet = assemble raw header attempt true none none signal now) ∨
        ∃ attempt matched last, tryKeys pb
            (channelPlaintext prim header (raw.drop MESHTASTIC_HEADER_SIZE))
            crypto'.getAllKeys 0 last = (attempt, matched) ∧
          packet = assemble raw header attempt matched.isSome matched none signal now) := by
  unfold decode at h
  split at h
  · cases h
  · split at h
    · cases h
    · rename_i header hheader
      refine ⟨header, hheader, ?_⟩
      simp only at h
      split at h
      · rename_i hsome
        rw [Prod.mk.injEq] at h
        exact ⟨h.2.symm, Or.inl ⟨hsome, _, (Option.some.inj h.1).symm⟩⟩
      · rw [Prod.mk.injEq] at h
        obtain ⟨hpacket, rfl⟩ := h
        exact ⟨rfl, Or.inr ⟨_, _, _, rfl, (Option.some.inj hpacket).symm⟩⟩

theorem lookupPublicKey_again {crypto crypto' : CryptoService} {nodeId : Nat} {key : Bytes}
    (h : crypto.lookupPublicKey nodeId = (some key, crypto')) :
    (crypto'.lookupPublicKey nodeId).1 = some key := by
  have hcached : crypto'.publicKeys.get? nodeId = some key := by
    unfold CryptoService.lookupPublicKey at h
    split at h
    · rename_i k hget
      cases h
      exact hget
    · split at h
      · cases h
        rw [OrderedDict.get?_set, if_pos rfl]
      · cases h
  unfold CryptoService.lookupPublicKey
  rw [hcached]

theorem length_of_decryptMeshtasticPki {crypto : CryptoService} {body plaintext key : Bytes}
    {packetId sourceId : Nat}
    (h : crypto.decryptMeshtasticPki prim body packetId sourceId key = some plaintext) :
    key.length = 32 := by
  obtain ⟨privateKey, -, h⟩ := Option.bind_eq_some_iff.mp h
  unfold PkiCrypto.decryptPkiPayload at h
  split at h
  · cases h
  · obtain ⟨shared, hshared, -⟩ := Option.bind_eq_some_iff.mp h
    unfold PkiCrypto.deriveSharedKey at hshared
    split at hshared
    · cases hshared
    · rename_i hlengths
      by_contra hne
      exact hlengths (Or.inr hne)

theorem lookup_after_tryPki {crypto crypto' : CryptoService} {header : Header} {body : Bytes}
    {attempt : Attempt F} (h : tryPki prim pb crypto header body = (attempt, crypto'))
    (hsome : attempt.decodedPayload.isSome = true) :
    (∃ key, (crypto'.lookupPublicKey header.sourceId).1 = some key ∧ key ≠ []) ∧
      crypto'.hasPki = true := by
  have hne : ∀ {key : Bytes}, key.length = 32 → key ≠ [] := by
    rintro key hlength rfl
    cases hlength
  have hempty : ∀ {c}, ¬ (({} : Attempt F), c) = (attempt, crypto') := by
    intro c heq
    rw [Prod.mk.injEq] at heq
    rw [← heq.1] at hsome
    cases hsome
  unfold tryPki at h
  split at h
  · exact absurd h hempty
  · rename_i senderKey c hlookup
    split at h
    · exact absurd h hempty
    · rename_i hpki
      rw [Bool.not_eq_false] at hpki
      split at h
      · rename_i plaintext hdecrypt
        cases h
        exact ⟨⟨senderKey, lookupPublicKey_again hlookup,
          hne (length_of_decryptMeshtasticPki prim hdecrypt)⟩, hpki⟩
      · split at h
        · rename_i refreshedKey c' hrefresh
          have hpair := refreshPublicKeyFromDb_pair c header.sourceId
          rw [hrefresh] at hpair
          split at h
          · exact absurd h hempty
          · split at h
            · rename_i plaintext hdecrypt
              cases h
              exact ⟨⟨refreshedKey, lookupPublicKey_again hrefresh,
                hne (length_of_decryptMeshtasticPki prim hdecrypt)⟩,
                (hasPki_congr hpair).trans hpki⟩
            · exact absurd h hempty
        · exact absurd h hempty

theorem idNumber_hex8 {n : Nat} (h : n < 2 ^ 32) : idNumber (hex8 n) = some n := by
  unfold idNumber hex8
  rw [PyText.intOfText_hexFixed (by decide) (by simpa using h)]
  rfl

/-- What decoding has established about a request that it decrypted: the ids are numbers,
    a matched key is in the table, and otherwise the sender's key is known. -/
structure DecodedRequest (crypto : CryptoService) (packet : Packet F) (requester : Nat) : Prop where
  source : idNumber packet.sourceId = some requester
  requestId : ∃ requestId, idNumber packet.packetId = some requestId
  matched : ∀ i, packet.matchedChannelIndex = some i → ∃ key, crypto.getAllKeys[i]? = some key
  pki : packet.matchedChannelIndex = none → packet.channelHash = 0 ∧
    (∃ key, (crypto.lookupPublicKey requester).1 = some key ∧ key ≠ []) ∧ crypto.hasPki = true

theorem decodedRequest_of_decode {crypto crypto' : CryptoService} {ourNodeId : Option Nat}
    {raw : Bytes} {signal : Option (SignalMetrics F)} {now : Int} {packet : Packet F}
    (h : decode prim pb crypto ourNodeId raw signal none now = (some packet, crypto'))
    (hdecrypted : packet.decrypted = true) :
    ∃ requester, DecodedRequest crypto' packet requester := by
  obtain ⟨header, hheader, hcrypto, hcases⟩ := decode_cases prim pb h
  obtain ⟨-, hsource, hid⟩ := parseHeader_ids_lt hheader
  refine ⟨header.sourceId, ?_⟩
  rcases hcases with ⟨hsome, attempt, rfl⟩ | ⟨attempt, matched, last, htry, rfl⟩
  · refine ⟨idNumber_hex8 hsource, ⟨_, idNumber_hex8 hid⟩, ?_, ?_⟩
    · intro i hi
      cases hi
    intro _
    unfold pkiAttempt at hsome hcrypto
    split at hsome
    · rename_i hpki
      rw [if_pos hpki] at hcrypto
      have hzero : header.channelHash = 0 := by
        unfold CryptoService.isPkiPacket at hpki
        simp only [Bool.and_eq_true, decide_eq_true_eq] at hpki
        exact hpki.1.1.1
      have htry : tryPki prim pb crypto header (raw.drop MESHTASTIC_HEADER_SIZE) =
          ((tryPki prim pb crypto header (raw.drop MESHTASTIC_HEADER_SIZE)).1, crypto') := by
        rw [hcrypto]
      exact ⟨hzero, lookup_after_tryPki prim pb htry hsome⟩
    · cases hsome
  · refine ⟨idNumber_hex8 hsource, ⟨_, idNumber_hex8 hid⟩, ?_, ?_⟩
    · intro i hi
      change matched = some i at hi
      subst hi
      obtain ⟨key, hkey, -⟩ := tryKeys_getElem? pb htry
      exact ⟨key, hkey⟩
    · intro hnone
      change matched = none at hnone
      change matched.isSome = true at hdecrypted
      rw [hnone] at hdecrypted
      cases hdecrypted

end

/-! ### The key a reply stays on -/

section

variable {F : Type} [PyFloat F]

/-- The encryption is that of the request: the key of the table it was decrypted with, or
    PKI for a request that was decrypted as a direct message. -/
def StaysOnKey (crypto : CryptoService) (packet : Packet F) (encryption : Option Encryption) :
    Prop :=
  match packet.matchedChannelIndex with
  | some i => ∃ key, crypto.getAllKeys[i]? = some key ∧ encryption = some (.channel key)
  | none => ∃ recipient, encryption = some (.pki recipient)

/-- The request lets its reply find the key again: its channel hash leads to the key it was
    decrypted with, and with hash 0 no key of the requester takes the reply to PKI; or it was
    a direct message, and not from the broadcast address. -/
def LeadsToKey (crypto : CryptoService) (primaryChannelName : String) (packet : Packet F)
    (requester : Nat) : Prop :=
  match packet.matchedChannelIndex with
  | some i => ∃ key, crypto.getAllKeys[i]? = some key ∧
      if packet.channelHash = 0 then
        ∀ recipient, (recipientPubkeyForReply packet requester crypto).1 = some recipient →
          ¬ CanUsePki crypto requester recipient ∧
            KeyFor crypto.toKeyTable primaryChannelName 0 key
      else KeyFor crypto.toKeyTable primaryChannelName (UInt8.ofNat packet.channelHash) key
  | none => requester ≠ BROADCAST_ADDR

omit [PyFloat F] in
theorem sendRoutingAck_ready {tx : TxService} {original : Packet F} {draws : ReplyDraws F}
    {requester requestId : Nat} {args : FrameArgs} {crypto : CryptoService}
    (henabled : (tx.enabled && tx.hasWrapper) = true)
    (hrequester : idNumber original.sourceId = some requester)
    (hrequestId : idNumber original.packetId = some requestId)
    (hargs : replyArgs tx original requester draws.packetId = (some args, crypto)) :
    ∃ inner, sendRoutingAck tx original draws = (.ready args inner, crypto) := by
  refine ⟨MeshtasticBuilder.serializeData PORTNUM_ROUTING [] requestId, ?_⟩
  unfold sendRoutingAck sendReply
  rw [if_pos henabled, hrequester, hrequestId]
  simp only [hargs]
  rfl

omit [PyFloat F] in
theorem tableKey_eq_iff {crypto : CryptoService} {primaryChannelName : String}
    {original : Packet F} {key : AesKey} :
    tableKey crypto primaryChannelName original = some key ↔
      KeyFor crypto.toKeyTable primaryChannelName (UInt8.ofNat original.channelHash) key :=
  resolveChannelByHash_eq_iff

omit [PyFloat F] in
/-- A request leads to its key exactly when the reply that it has arguments for stays on it. -/
theorem leadsToKey_iff {crypto : CryptoService} {primaryChannelName : String} {packet : Packet F}
    {requester : Nat} (hrequest : DecodedRequest crypto packet requester) :
    LeadsToKey crypto primaryChannelName packet requester ↔
      (HasArgs crypto packet requester →
        StaysOnKey crypto packet (replyEncryption crypto primaryChannelName packet requester)) := by
  unfold LeadsToKey StaysOnKey
  cases hmatched : packet.matchedChannelIndex with
  | some i =>
    obtain ⟨key, hkey⟩ := hrequest.matched i hmatched
    simp only [hkey, Option.some.injEq, exists_eq_left']
    by_cases hzero : packet.channelHash = 0
    · have hhash : UInt8.ofNat packet.channelHash = 0 := by rw [hzero]; rfl
      rw [if_pos hzero]
      constructor
      · intro hleads hargs
        obtain ⟨recipient, hrecipient⟩ := hargs hzero
        obtain ⟨hno, hfor⟩ := hleads recipient hrecipient
        rw [← hhash] at hfor
        simp only [replyEncryption, hrecipient, if_neg hno, tableKey_eq_iff.mpr hfor,
          Option.map_some]
      · intro hstays recipient hrecipient
        have henc := hstays fun _ => ⟨recipient, hrecipient⟩
        simp only [replyEncryption, hrecipient] at henc
        split at henc
        · cases henc
        · rename_i hno
          obtain ⟨key', hkey', heq⟩ := Option.map_eq_some_iff.mp henc
          cases heq
          rw [← hhash]
          exact ⟨hno, tableKey_eq_iff.mp hkey'⟩
    · rw [if_neg hzero]
      have hnone : (recipientPubkeyForReply packet requester crypto).1 = none := by
        unfold recipientPubkeyForReply
        rw [if_pos hzero]
      simp only [replyEncryption, hnone]
      constructor
      · intro hfor _
        rw [tableKey_eq_iff.mpr hfor]
        rfl
      · intro hstays
        obtain ⟨key', hkey', heq⟩ :=
          Option.map_eq_some_iff.mp (hstays fun h => absurd h hzero)
        cases heq
        exact tableKey_eq_iff.mp hkey'
  | none =>
    obtain ⟨hzero, ⟨recipient, hlookup, hne⟩, hpki⟩ := hrequest.pki hmatched
    have hrecipient : (recipientPubkeyForReply packet requester crypto).1 = some recipient := by
      unfold recipientPubkeyForReply
      rw [if_neg (not_not_intro hzero)]
      split
      · rename_i key' c hfound
        rw [hfound] at hlookup
        exact hlookup
      · rename_i c hfound
        rw [hfound] at hlookup
        cases hlookup
    simp only [replyEncryption, hrecipient]
    constructor
    · intro hbroadcast _
      exact ⟨recipient, if_pos ⟨hne, hbroadcast, hpki⟩⟩
    · intro hstays
      obtain ⟨recipient', henc⟩ := hstays fun _ => ⟨recipient, hrecipient⟩
      split at henc
      · rename_i hcan
        exact hcan.2.1
      · obtain ⟨key', -, heq⟩ := Option.map_eq_some_iff.mp henc
        cases heq

/-- A service with the given keys and primary channel name that can send. -/
def sendingService (crypto : CryptoService) (primaryChannelName : String) : TxService where
  crypto := crypto
  primaryChannelName := primaryChannelName
  presetName := "LongFast"
  sourceNodeId := 0
  hopLimit := 3
  enabled := true
  hasWrapper := true
  meshcoreEnabled := false
  companions := []
  sticks := []
  latestCaptureSource _ := none

/-- **Replies on the key of the request.**  For a request that the decoder decrypted, every
    reply of every service with the decoder's keys stays on the key exactly when the request
    leads to it. -/
theorem replies_stayOnKey_iff (prim : CryptoPrimitives) (pb : AppProtobuf F)
    {crypto crypto' : CryptoService} {ourNodeId : Option Nat} {raw : Bytes}
    {signal : Option (SignalMetrics F)} {now : Int} {packet : Packet F}
    (hdecode : decode prim pb crypto ourNodeId raw signal none now = (some packet, crypto'))
    (hdecrypted : packet.decrypted = true) (primaryChannelName : String) :
    (∀ (tx : TxService) (proto : ReplyProtobuf F) (draws : ReplyDraws F) (reply : Reply)
        (args : FrameArgs) (inner : Bytes) (crypto'' : CryptoService),
        tx.crypto = crypto' → tx.primaryChannelName = primaryChannelName →
        send proto tx packet draws reply = (.ready args inner, crypto'') →
        StaysOnKey crypto' packet (args.encryption crypto'')) ↔
      ∃ requester, idNumber packet.sourceId = some requester ∧
        LeadsToKey crypto' primaryChannelName packet requester := by
  obtain ⟨requester, hrequest⟩ := decodedRequest_of_decode prim pb hdecode hdecrypted
  obtain ⟨requestId, hrequestId⟩ := hrequest.requestId
  constructor
  · intro h
    refine ⟨requester, hrequest.source, (leadsToKey_iff hrequest).mpr ?_⟩
    -- the routing ACK of a service that can send is the reply to look at
    intro hhas
    let tx := sendingService crypto' primaryChannelName
    let draws : ReplyDraws F := { packetId := 0, encodedSnr := fun _ => none }
    have hexists : ∃ args c, replyArgs tx packet requester draws.packetId = (some args, c) :=
      replyArgs_exists hhas draws.packetId
    obtain ⟨args, crypto'', hargs⟩ := hexists
    obtain ⟨inner, hready⟩ := sendRoutingAck_ready rfl hrequest.source hrequestId hargs
    have henc : args.encryption crypto'' =
        replyEncryption crypto' primaryChannelName packet requester := (replyArgs_encryption hargs).2
    rw [← henc]
    exact h tx ⟨fun _ => none, fun _ => none⟩ draws .routingAck args inner crypto'' rfl rfl hready
  · rintro ⟨requester', hsource', hleads⟩ tx proto draws reply args inner crypto'' rfl rfl hready
    obtain ⟨requester'', hsource, hargs⟩ := send_ready hready
    rw [hrequest.source] at hsource hsource'
    cases hsource
    cases hsource'
    obtain ⟨hhas, henc⟩ := replyArgs_encryption hargs
    rw [henc]
    exact (leadsToKey_iff hrequest).mp hleads hhas

end

/-! ### Two requests on a second channel -/

/-- A text on the second channel for node bbbb0002, with a channel hash of its sender. -/
def hikingRequest (hash : Nat) : Option Bytes :=
  buildTextMessage stationPrimitives stationCrypto "meet at nine" 0xbbbb0002 0xaaaa0001 42
    (some hikingKey) hash 3 3 true none 0

def receive (raw : Bytes) : Option (Packet WholeFloat) × CryptoService :=
  decode stationPrimitives default stationCrypto (some 0xbbbb0002) raw none none 0

/-- The hash of the name the station gives the channel. -/
def namedRequest : Bytes := (hikingRequest 0x2a).get (by decide +kernel)

def namedPacket : Packet WholeFloat := (receive namedRequest).1.get (by decide +kernel)

theorem receive_namedRequest :
    namedPacket.decrypted = true ∧ idNumber namedPacket.sourceId = some 0xaaaa0001 ∧
      namedPacket.matchedChannelIndex = some 1 ∧ namedPacket.channelHash = 0x2a ∧
      (receive namedRequest).2.toKeyTable = stationCrypto.toKeyTable := by decide +kernel

theorem leadsToKey_named :
    LeadsToKey (receive namedRequest).2 "LongFast" namedPacket 0xaaaa0001 := by
  obtain ⟨-, -, hmatched, hhash, htable⟩ := receive_namedRequest
  unfold LeadsToKey
  rw [hmatched]
  refine ⟨hikingKey, ?_, ?_⟩
  · rw [htable]
    decide +kernel
  · rw [hhash, if_neg (by decide), htable]
    rw [← resolveChannelByHash_eq_iff]
    decide +kernel

theorem decode_namedRequest :
    decode stationPrimitives default stationCrypto (some 0xbbbb0002) namedRequest none none 0 =
      (some namedPacket, (receive namedRequest).2) :=
  Prod.ext (Option.some_get _).symm rfl

def ackArgs (channelKey : Option AesKey) (channelHash : Nat) : FrameArgs where
  dest := 0xaaaa0001
  sourceId := 0
  packetId := 7
  channelKey := channelKey
  channelHash := channelHash
  hopLimit := 2
  hopStart := 2

/-- The routing ACK for the packet stays on the key of the second channel. -/
theorem replies_stayOnKey_iff_named :
    StaysOnKey (receive namedRequest).2 namedPacket
      ((ackArgs (some hikingKey) 0x2a).encryption (receive namedRequest).2) :=
  (replies_stayOnKey_iff stationPrimitives default decode_namedRequest receive_namedRequest.1
    "LongFast").mpr ⟨0xaaaa0001, receive_namedRequest.2.1, leadsToKey_named⟩
    (sendingService (receive namedRequest).2 "LongFast") ⟨fun _ => none, fun _ => none⟩
    { packetId := 7, encodedSnr := fun _ => none } .routingAck _
    (serializeData PORTNUM_ROUTING [] 42) _ rfl rfl rfl

/-- A sender that names the channel otherwise: no channel of the station has its hash. -/
def renamedRequest : Bytes := (hikingRequest 0x55).get (by decide +kernel)

def renamedPacket : Packet WholeFloat := (receive renamedRequest).1.get (by decide +kernel)

/-- The request is decrypted with the key of the second channel, the handler answers it with a
    routing ACK, and the ACK is encrypted with the key of the primary channel. -/
theorem ack_renamedRequest_primaryKey :
    decode stationPrimitives default stationCrypto (some 0xbbbb0002) renamedRequest none none 0 =
        (some renamedPacket, stationCrypto) ∧
      renamedPacket.decrypted = true ∧ renamedPacket.matchedChannelIndex = some 1 ∧
      handle Casing.ascii 0xbbbb0002 renamedPacket = some .routingAck ∧
      send ⟨fun _ => none, fun _ => none⟩ (sendingService stationCrypto "LongFast") renamedPacket
          { packetId := 7, encodedSnr := fun _ => none } .routingAck =
        (.ready (ackArgs stationCrypto.defaultKey 0x55) (serializeData PORTNUM_ROUTING [] 42),
          stationCrypto) ∧
      (ackArgs stationCrypto.defaultKey 0x55).encryption stationCrypto =
        stationCrypto.defaultKey.map .channel ∧
      ¬ StaysOnKey stationCrypto renamedPacket
        ((ackArgs stationCrypto.defaultKey 0x55).encryption stationCrypto) := by
  obtain ⟨hdecrypted, hmatched, hhandle⟩ : renamedPacket.decrypted = true ∧
      renamedPacket.matchedChannelIndex = some 1 ∧
      handle Casing.ascii 0xbbbb0002 renamedPacket = some .routingAck := by decide +kernel
  refine ⟨Prod.ext (Option.some_get _).symm rfl, hdecrypted, hmatched, hhandle, rfl,
    by decide +kernel, ?_⟩
  unfold StaysOnKey
  rw [hmatched]
  rintro ⟨key, hkey, henc⟩
  have hhiking : stationCrypto.getAllKeys[1]? = some hikingKey := by decide +kernel
  rw [hhiking] at hkey
  cases hkey
  revert henc
  decide +kernel

end Meshpoint.ReplyKeys
