import Meshpoint.PacketModel
import Meshpoint.JsonAgreement

/-!
# The location filter of the MQTT outputs

Model of `src/relay/mqtt_privacy.py`: the broadcast test and `prepare_packet`,
which copies a packet with its decoded payload filtered by the configured
location precision.  The filter removes the entries named in `_LOCATION_FIELDS`
at every level and, for `approximate`, writes the rounded coordinates back.

`filtered_eq_scrub` identifies the filter with the general key scrubber, from
which `filtered_eq_iff` reads off exactly which payloads it cannot tell apart.
-/

namespace Meshpoint.MqttPrivacy

open JsonText

variable {F : Type}

def LOCATION_FIELDS : List String :=
  ["latitude", "longitude", "latitude_i", "longitude_i", "altitude", "altitude_hae",
    "altitude_geoidal_separation", "precision_bits", "ground_speed", "ground_track"]

def isLocationField (key : String) : Bool := LOCATION_FIELDS.contains key

/-- `is_broadcast`; `lower` is `str.lower`. -/
def isBroadcast (lower : String → String) (packet : Packet F) : Bool :=
  match packet.protocol with
  | .meshtastic => lower packet.destinationId = "ffffffff"
  | .meshcore => lower packet.destinationId = "ffff" || lower packet.destinationId = "broadcast"
  | _ => false

theorem set_coordinates {es : Entries F} (h : es.AllKeys fun k => (!isLocationField k) = true)
    (lat lon : Value F) :
    (es.set "latitude" lat).set "longitude" lon =
      es.append (Entries.ofList [("latitude", lat), ("longitude", lon)]) := by
  have hne : ∀ key, isLocationField key = true → es.AllKeys fun k => k ≠ key := by
    intro key hkey
    refine allKeys_mono (fun k hk heq => ?_) h
    rw [heq, hkey] at hk
    cases hk
  rw [set_of_allKeys_ne (hne "latitude" (by decide))]
  have hlon : (es.append (.cons "latitude" lat .nil)).AllKeys fun k => k ≠ "longitude" :=
    allKeys_append (hne "longitude" (by decide)) ⟨by decide, trivial⟩
  rw [set_of_allKeys_ne hlon, Entries.append_assoc]
  rfl

/-! ### The policy -/

inductive LocationPolicy where
  | exact
  | approximate
  | none
deriving DecidableEq, Repr

def locationPolicy (precision : String) : LocationPolicy :=
  if precision = "exact" then .exact
  else if precision = "approximate" then .approximate
  else .none

/-- The least magnitude that `float(n)` rejects. -/
def FLOAT_OVERFLOW : Nat := 2 ^ 1024 - 2 ^ 970

section Floats

variable [PyFloat F]

/-- `type(value) in (int, float)`. -/
def isNumber : Value F → Bool
  | .int _ => true
  | .float _ => true
  | _ => false

/-- `math.isfinite(value)` of a number; `none` when it raises `OverflowError`. -/
def isfinite : Value F → Option Bool
  | .int n => if n.natAbs < FLOAT_OVERFLOW then some true else none
  | .float x => some (PyFloat.isFinite x)
  | _ => some false

/-- `-bound <= value <= bound` of a number. -/
def withinBound (bound : Int) : Value F → Bool
  | .int n => -bound ≤ n && n ≤ bound
  | .float x => PyFloat.geInt x (-bound) && PyFloat.leInt x bound
  | _ => false

/-- `round(value, 2)` of a number. -/
def roundTwo : Value F → Value F
  | .float x => .float (PyFloat.round2 x)
  | v => v

/-- The outcome of the validity test on a dictionary. -/
inductive Coordinates (F : Type) where
  | overflow
  | invalid
  | valid (lat lon : Value F)

def checkNumbers (lat lon : Value F) : Coordinates F :=
  match isfinite lat with
  | none => .overflow
  | some false => .invalid
  | some true =>
    match isfinite lon with
    | none => .overflow
    | some false => .invalid
    | some true =>
      if withinBound 90 lat && withinBound 180 lon then .valid lat lon else .invalid

theorem checkNumbers_valid {lat lon lat' lon' : Value F}
    (h : checkNumbers lat lon = .valid lat' lon') :
    (lat' = lat ∧ lon' = lon) ∧ isfinite lat = some true ∧ isfinite lon = some true ∧
      (withinBound 90 lat && withinBound 180 lon) = true := by
  unfold checkNumbers at h
  split at h
  · cases h
  · cases h
  · rename_i hlat
    split at h
    · cases h
    · cases h
    · rename_i hlon
      split at h
      · rename_i hwithin
        cases h
        exact ⟨⟨rfl, rfl⟩, hlat, hlon, hwithin⟩
      · cases h

/-- The `latitude` and `longitude` of a dictionary, checked. -/
def coordinates (result : Entries F) : Coordinates F :=
  match result.get? "latitude", result.get? "longitude" with
  | some lat, some lon => if isNumber lat && isNumber lon then checkNumbers lat lon else .invalid
  | _, _ => .invalid

/-! ### The filter -/

/-- What `filtered` does with a dictionary whose values are filtered. -/
def filterDict (policy : LocationPolicy) (result : Entries F) : Entries F :=
  let removed := result.filterKeys fun key => !isLocationField key
  match policy with
  | .none => removed
  | .exact =>
    match coordinates result with
    | .valid _ _ => result
    | _ => removed
  | .approximate =>
    match coordinates result with
    | .valid lat lon =>
      (removed.set "latitude" (roundTwo lat)).set "longitude" (roundTwo lon)
    | _ => removed

mutual

/-- `filtered`. -/
def filtered (policy : LocationPolicy) : Value F → Value F
  | .null => .null
  | .bool b => .bool b
  | .int n => .int n
  | .float x => .float x
  | .str s => .str s
  | .list items => .list (filteredItems policy items)
  | .dict entries => .dict (filterDict policy (filteredEntries policy entries))

def filteredItems (policy : LocationPolicy) : Values F → Values F
  | .nil => .nil
  | .cons v vs => .cons (filtered policy v) (filteredItems policy vs)

def filteredEntries (policy : LocationPolicy) : Entries F → Entries F
  | .nil => .nil
  | .cons k v es => .cons k (filtered policy v) (filteredEntries policy es)

end

/-- The validity test of a dictionary is made, and raises. -/
def overflowsHere (policy : LocationPolicy) (entries : Entries F) : Bool :=
  match policy, coordinates entries with
  | .none, _ => false
  | _, .overflow => true
  | _, _ => false

mutual

/-- `filtered` raises `OverflowError`: some dictionary has a coordinate that is no float. -/
def overflows (policy : LocationPolicy) : Value F → Bool
  | .list items => overflowsItems policy items
  | .dict entries => overflowsEntries policy entries || overflowsHere policy entries
  | _ => false

def overflowsItems (policy : LocationPolicy) : Values F → Bool
  | .nil => false
  | .cons v vs => overflows policy v || overflowsItems policy vs

def overflowsEntries (policy : LocationPolicy) : Entries F → Bool
  | .nil => false
  | .cons _ v es => overflows policy v || overflowsEntries policy es

end

/-- `filtered` of a decoded payload. -/
def filteredPayload (policy : LocationPolicy) (payload : Option (Entries F)) :
    Option (Entries F) :=
  payload.map fun entries => filterDict policy (filteredEntries policy entries)

/-- `prepare_packet`; `none` when it raises. -/
def preparePacket (packet : Packet F) (precision : String) : Option (Packet F) :=
  let policy := locationPolicy precision
  if packet.decodedPayload.any fun entries => overflows policy (.dict entries) then none
  else some
    { packet with
      decodedPayload := filteredPayload policy packet.decodedPayload
      encryptedPayload := none
      rawAppPayload := none
      rawRadioPacket := none }

/-! ### The filter is a key scrubber -/

/-- What a policy other than `exact` still says about the coordinates of a dictionary. -/
def reported (policy : LocationPolicy) (entries : Entries F) : Entries F :=
  match policy, coordinates entries with
  | .approximate, .valid lat lon =>
    Entries.ofList [("latitude", roundTwo lat), ("longitude", roundTwo lon)]
  | _, _ => .nil

theorem reported_writesHidden (policy : LocationPolicy) :
    WritesHidden isLocationField (reported (F := F) policy) := by
  intro es
  unfold reported
  split
  · exact ⟨by decide, by decide, trivial⟩
  · trivial

theorem get?_filteredEntries (policy : LocationPolicy) (key : String) (es : Entries F) :
    (filteredEntries policy es).get? key = (es.get? key).map (filtered policy) := by
  match es with
  | .nil => rfl
  | .cons k v es =>
    simp only [filteredEntries, Entries.get?]
    split
    · rfl
    · exact get?_filteredEntries policy key es

theorem filtered_number (policy : LocationPolicy) (v : Value F) :
    isNumber (filtered policy v) = isNumber v ∧
      (isNumber v = true → filtered policy v = v) := by
  cases v <;> simp [filtered, isNumber]

theorem coordinates_filteredEntries (policy : LocationPolicy) (es : Entries F) :
    coordinates (filteredEntries policy es) = coordinates es := by
  unfold coordinates
  rw [get?_filteredEntries, get?_filteredEntries]
  cases es.get? "latitude" with
  | none => rfl
  | some lat =>
    cases es.get? "longitude" with
    | none => rfl
    | some lon =>
      obtain ⟨hlat, hlat'⟩ := filtered_number policy lat
      obtain ⟨hlon, hlon'⟩ := filtered_number policy lon
      simp only [Option.map_some, hlat, hlon]
      split
      · rename_i hnum
        rw [Bool.and_eq_true] at hnum
        rw [hlat' hnum.1, hlon' hnum.2]
      · rfl

theorem filterDict_filteredEntries {policy : LocationPolicy} (hp : policy ≠ .exact)
    (es : Entries F) : filterDict policy (filteredEntries policy es) =
      ((filteredEntries policy es).filterKeys fun key => !isLocationField key).append
        (reported policy es) := by
  have hvisible := allKeys_filterKeys (fun key => !isLocationField key) (filteredEntries policy es)
  unfold filterDict reported
  rw [coordinates_filteredEntries]
  cases policy with
  | exact => exact absurd rfl hp
  | none => exact (Entries.append_nil _).symm
  | approximate =>
    cases coordinates es with
    | valid lat lon => exact set_coordinates hvisible _ _
    | _ => exact (Entries.append_nil _).symm

section Scrub

variable {policy : LocationPolicy}

mutual

theorem filtered_eq_scrub (hp : policy ≠ .exact) : ∀ v : Value F,
    filtered policy v = scrub isLocationField (reported policy) v
  | .null => rfl
  | .bool _ => rfl
  | .int _ => rfl
  | .float _ => rfl
  | .str _ => rfl
  | .list vs => by
    simp only [filtered, scrub]
    rw [filteredItems_eq_scrub hp vs]
  | .dict es => by
    simp only [filtered, scrub]
    rw [filterDict_filteredEntries hp, filteredEntries_eq_scrub hp es]

theorem filteredItems_eq_scrub (hp : policy ≠ .exact) : ∀ vs : Values F,
    filteredItems policy vs = scrubItems isLocationField (reported policy) vs
  | .nil => rfl
  | .cons v vs => by
    simp only [filteredItems, scrubItems]
    rw [filtered_eq_scrub hp v, filteredItems_eq_scrub hp vs]

theorem filteredEntries_eq_scrub (hp : policy ≠ .exact) : ∀ es : Entries F,
    (filteredEntries policy es).filterKeys (fun key => !isLocationField key) =
      scrubEntries isLocationField (reported policy) es
  | .nil => rfl
  | .cons k v es => by
    have ih := filteredEntries_eq_scrub hp es
    cases hk : isLocationField k with
    | true => simpa [filteredEntries, Entries.filterKeys, scrubEntries, hk] using ih
    | false =>
      simp only [filteredEntries, Entries.filterKeys, scrubEntries, hk, Bool.not_false, if_true,
        Bool.false_eq_true, if_false]
      rw [filtered_eq_scrub hp v, ih]

end

end Scrub

/-- Two payloads the policy makes the same: they agree outside the location
    fields at every level, and every pair of dictionaries reports the same
    rounded coordinates (none at all under the policy `none`). -/
def SameView (policy : LocationPolicy) (v w : Value F) : Prop :=
  Agree isLocationField (reported policy) v w

/-- **What the filter cannot tell apart.** -/
theorem filtered_eq_iff {policy : LocationPolicy} (hp : policy ≠ .exact) (v w : Value F) :
    filtered policy v = filtered policy w ↔ SameView policy v w := by
  rw [filtered_eq_scrub hp, filtered_eq_scrub hp]
  exact scrub_eq_iff (reported_writesHidden policy) v w

end Floats

end Meshpoint.MqttPrivacy
