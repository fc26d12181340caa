import Meshpoint.MqttFormatter
import Meshpoint.Raising

/-!
# What the pipeline handles

Captured JSON and decoded packets as `PipelineCoordinator._process_capture` handles them.  A
companion event fills some fields of its packet with whatever its JSON holds; `Heard` keeps
those beside the packet, as values.
-/

namespace Meshpoint

open JsonText MqttFormatter Raising

/-- What `json.loads` does with a payload: it is no JSON or no UTF-8, which every caller
    catches; it is refused with another exception (an integer of too many digits, too deep a
    nesting); or it is a value. -/
inductive Loaded (F : Type) where
  | malformed
  | refused (e : PyException)
  | value (v : Value F)

/-- What the adapters use of the Python runtime. -/
structure EventRuntime (F : Type) extends Runtime F where
  /-- `json.loads(payload)`. -/
  loads : Bytes → Loaded F
  /-- `datetime.fromtimestamp(n)`, in microseconds; `none` when it raises. -/
  fromTimestampInt : Int → Option Int
  /-- `datetime.fromtimestamp(x)`, in microseconds; `none` when it raises. -/
  fromTimestampFloat : F → Option Int

/-- A decoded packet with the fields that may hold any value: the source, the channel, the
    hops it started with, and whether `json.dumps` takes its payload. -/
structure Heard (F : Type) where
  packet : Packet F
  sourceId : Value F
  channelHash : Value F
  hopStart : Int
  dumps : Bool := true

def Heard.ofPacket {F : Type} (packet : Packet F) : Heard F where
  packet := packet
  sourceId := .str packet.sourceId
  channelHash := .int packet.channelHash
  hopStart := packet.hopStart

/-- `packet.capture_source = source`. -/
def Heard.withSource {F : Type} (heard : Heard F) (source : String) : Heard F :=
  { heard with packet := { heard.packet with captureSource := source } }

section

variable {F : Type}

/-- `d.get(key, default)`. -/
def getOr (data : Entries F) (key : String) (default : Value F) : Value F :=
  (data.get? key).getD default

/-- Whether `hash(value)` returns. -/
def hashable : Value F → Bool
  | .list _ => false
  | .dict _ => false
  | _ => true

def bindable : Value F → Bool
  | .int n => decide (-2 ^ 63 ≤ n ∧ n < 2 ^ 63)
  | .list _ => false
  | .dict _ => false
  | _ => true

variable [PyFloat F]

/-- Whether a `NOT NULL` column takes the value: a NaN is stored as `NULL`. -/
def bindableNotNull : Value F → Bool
  | .null => false
  | .float x => !PyFloat.isNaN x
  | v => bindable v

/-- `value == n`. -/
def equalsInt (n : Int) : Value F → Bool
  | .bool b => decide ((if b then 1 else 0) = n)
  | .int m => decide (m = n)
  | .float x => PyFloat.geInt x n && PyFloat.leInt x n
  | _ => false

/-- Scalars up to equality: what a dictionary tells apart. -/
inductive DictKey where
  | none
  | number (n : Int)
  | fraction (text : List Char)
  | text (s : String)
deriving DecidableEq

/-- The key of a float: the integer it equals, if there is one. -/
def floatKey (x : F) : DictKey :=
  match (PyFloat.toInt x).filter fun n => equalsInt n (.float x) with
  | some n => .number n
  | none => .fraction (FloatText.text x)

/-- The key that a value is; `none` for a value without a hash. -/
def dictKey : Value F → Option DictKey
  | .null => some .none
  | .bool b => some (.number (if b then 1 else 0))
  | .int n => some (.number n)
  | .float x => some (floatKey x)
  | .str s => some (.text s)
  | .list _ => none
  | .dict _ => none

end

end Meshpoint
