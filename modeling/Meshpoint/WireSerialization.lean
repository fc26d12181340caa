import Meshpoint.PacketIds

/-!
# The hand-written serialisers

What a parser of the wire format makes of `_serialize_data` and `_serialize_user` of
`src/transmit/meshtastic_builder.py`. Both write what the writer of the format writes for their
list of fields (`serializeData_eq`, `serializeUser_eq`), so that the round trip of the format
applies; the fields come back exactly when the numbers fit the wire (`serialized_iff`).
-/

namespace Meshpoint.WireSerialization

open ByteCodec ProtoWire MeshtasticBuilder PacketIds

/-! ### The fields -/

/-- The fields of `mesh_pb2.Data`, with the four bytes of the request id; no request is no field. -/
def dataFields (portnum : Nat) (payload : Bytes) (requestId : Nat) (word : Bytes) :
    List (Nat × WireValue) :=
  (1, .varint portnum) :: (2, .bytes payload) ::
    if requestId = 0 then [] else [(6, .fixed32 word)]

/-- The fields of `mesh_pb2.User`; no key, and a key without bytes, is no field. -/
def userFields (nodeIdStr longName shortName : String) (hwModel : Nat)
    (publicKey : Option Bytes) : List (Nat × WireValue) :=
  [(1, .bytes (utf8 nodeIdStr)), (2, .bytes (utf8 longName)), (3, .bytes (utf8 shortName)),
    (5, .varint hwModel)] ++
    match publicKey with
    | some key => if key = [] then [] else [(8, .bytes key)]
    | none => []

/-- A parser gives the three arguments back, and no other field. -/
def DataParses (portnum : Nat) (payload : Bytes) (requestId : Nat) : Prop :=
  ∃ word, leValue word = requestId ∧
    parseFields (serializeData portnum payload requestId) =
      some (dataFields portnum payload requestId word)

/-- A parser gives the five arguments back, and no other field. -/
def UserParses (nodeIdStr longName shortName : String) (hwModel : Nat)
    (publicKey : Option Bytes) : Prop :=
  parseFields (serializeUser nodeIdStr longName shortName hwModel publicKey) =
    some (userFields nodeIdStr longName shortName hwModel publicKey)

def Sized (bs : Bytes) : Prop := bs.length < 2 ^ 63

instance (bs : Bytes) : Decidable (Sized bs) := inferInstanceAs (Decidable (_ < _))

/-! ### Both write the wire format -/

theorem serializeData_eq (portnum : Nat) (payload : Bytes) (requestId : Nat) :
    serializeData portnum payload requestId =
      (dataFields portnum payload requestId (leBytes 4 (requestId % 2 ^ 32))).flatMap
        writeField := by
  have htags : encodeVarint (1 * 8) = [0x08] ∧ encodeVarint (2 * 8 + 2) = [0x12] ∧
      encodeVarint (6 * 8 + 5) = [0x35] := by decide
  by_cases hzero : requestId = 0
  · simp [serializeData, dataFields, writeField, htags, hzero]
  · simp [serializeData, dataFields, writeField, htags, hzero]

theorem serializeUser_eq (nodeIdStr longName shortName : String) (hwModel : Nat)
    (publicKey : Option Bytes) :
    serializeUser nodeIdStr longName shortName hwModel publicKey =
      (userFields nodeIdStr longName shortName hwModel publicKey).flatMap writeField := by
  have htags : encodeVarint (1 * 8 + 2) = [0x0A] ∧ encodeVarint (2 * 8 + 2) = [0x12] ∧
      encodeVarint (3 * 8 + 2) = [0x1A] ∧ encodeVarint (5 * 8) = [0x28] ∧
      encodeVarint (8 * 8 + 2) = [0x42] := by decide
  cases publicKey with
  | none => simp [serializeUser, userFields, writeField, htags]
  | some key =>
    by_cases hkey : key = []
    · simp [serializeUser, userFields, writeField, htags, hkey]
    · simp [serializeUser, userFields, writeField, htags, hkey]

/-! ### Exactly when the fields come back -/

theorem fieldFits {number : Nat} {value : WireValue} (hnumber : 0 < number ∧ number < 2 ^ 29)
    (hvalue : value.Fits) : FieldFits (number, value) :=
  ⟨hnumber.1, hnumber.2, hvalue⟩

theorem dataParses_iff {portnum requestId : Nat} {payload : Bytes} (hsized : Sized payload) :
    DataParses portnum payload requestId ↔ portnum < 2 ^ 64 ∧ requestId < 2 ^ 32 := by
  constructor
  · rintro ⟨word, hword, hparse⟩
    have hwire := onWire_of_parseFields hparse
    refine ⟨hwire (1, .varint portnum) (by simp [dataFields]), ?_⟩
    by_cases hzero : requestId = 0
    · omega
    · have hlength : word.length = 4 := hwire (6, .fixed32 word) (by simp [dataFields, hzero])
      have hlt := leValue_lt word
      rw [hlength, hword] at hlt
      exact hlt
  · rintro ⟨hport, hrequest⟩
    refine ⟨leBytes 4 (requestId % 2 ^ 32), ?_, ?_⟩
    · rw [Nat.mod_eq_of_lt hrequest]
      exact leValue_leBytes hrequest
    · rw [serializeData_eq]
      apply parseFields_writeFields
      intro field hfield
      have hcases : field = (1, .varint portnum) ∨ field = (2, .bytes payload) ∨
          field = (6, .fixed32 (leBytes 4 (requestId % 2 ^ 32))) := by
        unfold dataFields at hfield
        split at hfield <;> simp only [List.mem_cons, List.not_mem_nil, or_false] at hfield
        · tauto
        · exact hfield
      rcases hcases with rfl | rfl | rfl
      · exact fieldFits (by decide) hport
      · exact fieldFits (by decide) (Nat.lt_trans hsized (by decide))
      · exact fieldFits (by decide) (length_leBytes 4 _)

theorem userParses_iff {nodeIdStr longName shortName : String} {hwModel : Nat}
    {publicKey : Option Bytes} (hid : Sized (utf8 nodeIdStr)) (hlong : Sized (utf8 longName))
    (hshort : Sized (utf8 shortName)) (hkey : ∀ key ∈ publicKey, Sized key) :
    UserParses nodeIdStr longName shortName hwModel publicKey ↔ hwModel < 2 ^ 64 := by
  have hbytes : ∀ {bs : Bytes}, Sized bs → (WireValue.bytes bs).Fits :=
    fun hsized => Nat.lt_trans hsized (by decide)
  constructor
  · intro hparse
    exact onWire_of_parseFields hparse (5, .varint hwModel) (by simp [userFields])
  · intro hmodel
    rw [UserParses, serializeUser_eq]
    apply parseFields_writeFields
    intro field hfield
    simp only [userFields, List.mem_append] at hfield
    rcases hfield with hfield | hfield
    · simp only [List.mem_cons, List.not_mem_nil, or_false] at hfield
      rcases hfield with rfl | rfl | rfl | rfl
      · exact fieldFits (by decide) (hbytes hid)
      · exact fieldFits (by decide) (hbytes hlong)
      · exact fieldFits (by decide) (hbytes hshort)
      · exact fieldFits (by decide) hmodel
    · cases publicKey with
      | none => cases hfield
      | some key =>
        simp only at hfield
        split at hfield
        · cases hfield
        · rw [List.mem_singleton.mp hfield]
          exact fieldFits (by decide) (hbytes (hkey key rfl))

/-- **The serialisers.** The fields come back exactly when the port number and the hardware model
    are less than 2⁶⁴ and the request id, which is masked, less than 2³². The varint of a number is
    what a decoder reads back, whatever follows, and the only bytes of its length or less that
    read as the number. -/
theorem serialized_iff :
    (∀ (portnum : Nat) (payload : Bytes) (requestId : Nat), Sized payload →
      (DataParses portnum payload requestId ↔ portnum < 2 ^ 64 ∧ requestId < 2 ^ 32)) ∧
    (∀ (nodeIdStr longName shortName : String) (hwModel : Nat) (publicKey : Option Bytes),
      Sized (utf8 nodeIdStr) → Sized (utf8 longName) → Sized (utf8 shortName) →
      (∀ key ∈ publicKey, Sized key) →
      (UserParses nodeIdStr longName shortName hwModel publicKey ↔ hwModel < 2 ^ 64)) ∧
    ∀ value : Nat,
      (∀ rest, decodeVarint (encodeVarint value ++ rest) = some (value, rest)) ∧
      ∀ bs, decodeVarint bs = some (value, []) → (encodeVarint value).length ≤ bs.length ∧
        (bs.length = (encodeVarint value).length → bs = encodeVarint value) := by
  refine ⟨fun _ _ _ hsized => dataParses_iff hsized, ?_, fun value => ⟨?_, ?_⟩⟩
  · intro _ _ _ _ _ hid hlong hshort hkey
    exact userParses_iff hid hlong hshort hkey
  · exact decodeVarint_encodeVarint value
  · exact fun bs hread => readVarint_minimal hread

/-! ### An acknowledgement and a node -/

theorem serialized_hello :
    DataParses 1 (utf8 "hello") 0xFFFFFFFF ∧
      UserParses "!0a0b0c0d" "Meshpoint" "MPNT" 37 (some [1, 2, 3]) := by
  have hsized : ∀ bs : Bytes, bs.length ≤ 9 → Sized bs :=
    fun bs h => Nat.lt_of_le_of_lt h (by decide)
  refine ⟨(serialized_iff.1 1 (utf8 "hello") 0xFFFFFFFF (hsized _ (by decide +kernel))).mpr
    ⟨by decide, by decide⟩, (serialized_iff.2.1 "!0a0b0c0d" "Meshpoint" "MPNT" 37 (some [1, 2, 3])
      (hsized _ (by decide +kernel)) (hsized _ (by decide +kernel)) (hsized _ (by decide +kernel))
      fun key hkey => ?_).mpr (by decide)⟩
  cases hkey
  exact hsized _ (by decide)

/-- A request id of 33 bits is masked to zero, and its field is there all the same; numbers of 65 bits
    have no varint on the wire. -/
theorem not_parses_too_wide : ¬ DataParses 5 [] (2 ^ 32) ∧ ¬ DataParses (2 ^ 64) [] 0 ∧
    ¬ UserParses "" "" "" (2 ^ 64) none := by
  have hempty : Sized [] := by decide
  refine ⟨?_, ?_, ?_⟩
  · rw [dataParses_iff hempty]
    decide
  · rw [dataParses_iff hempty]
    decide
  · have htext : Sized (utf8 "") := by decide
    have hkey : ∀ key ∈ (none : Option Bytes), Sized key := by simp
    rw [userParses_iff htext htext htext hkey]
    decide

end Meshpoint.WireSerialization
