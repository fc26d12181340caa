import Mathlib.Data.List.Infix
import Meshpoint.HeardPacket

/-!
# Operators on JSON values

What `or`, `in` and a loop of Python make of a value that `json.loads` gave.
-/

namespace Meshpoint.PythonValues

open JsonText MqttFormatter Raising

variable {F : Type} [StationFloat F]

/-- `value or default`. -/
def valueOr (value default : Value F) : Value F := if truthy value then value else default

def items : Values F → List (Value F)
  | .nil => []
  | .cons v rest => v :: items rest

def keys : Entries F → List String
  | .nil => []
  | .cons k _ rest => k :: keys rest

/-- What `for entry in value` goes through. -/
def iterate : Value F → Except PyException (List (Value F))
  | .list vs => .ok (items vs)
  | .dict es => .ok ((keys es).map .str)
  | .str s => .ok (s.toList.map fun c => .str (String.singleton c))
  | _ => .error .typeError

/-- `needle in text`. -/
def holds (needle text : String) : Bool := decide (needle.toList <:+: text.toList)

end Meshpoint.PythonValues
