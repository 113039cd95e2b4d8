import Orbetra.Framework.Instances

/-!
# The normalized record

The value that flows through the whole worker pipeline: one row of `positions`.  Times are
milliseconds since the epoch, as `Date.getTime()` returns them; a JavaScript number that is not a
count is a rational.  `attrs` is the decoded IO map of the record in the order its keys were set.
-/

namespace Orbetra

abbrev DeviceId := ℤ

instance lawfulBEq_device : LawfulBEq (String × DeviceId) := inferInstance

/-- `Date.getTime()`. -/
abbrev Ms := ℤ

namespace MsOrder

/-- The order of times, for `List.argmax`, by instances that compute. -/
scoped instance (priority := high) msPreorder : Preorder Ms := Int.instLinearOrder.toPreorder

end MsOrder

/-- A value of `attrs`: a number, or the text that stands for an unsafe integer or for bytes. -/
inductive AttrValue
  | num (v : ℚ)
  | str (v : String)
  deriving DecidableEq

structure NormalizedRecord where
  deviceId : DeviceId
  fixTime : Ms
  serverTime : Ms
  lat : ℚ
  lon : ℚ
  altitude : Option ℤ
  speed : Option ℚ
  course : Option ℤ
  satellites : ℤ
  fixValid : Bool
  ignition : Option Bool
  movement : Option Bool
  odometerM : Option ℤ
  priority : Fin 3
  recHash : ℤ
  attrs : List (String × AttrValue)
  deriving DecidableEq

namespace NormalizedRecord

/-- The primary key of `positions`. -/
def key (r : NormalizedRecord) : DeviceId × Ms × ℤ := (r.deviceId, r.fixTime, r.recHash)

def attr (r : NormalizedRecord) (name : String) : Option AttrValue := r.attrs.lookup name

end NormalizedRecord

/-- How far ahead of the server's clock a device clock may run before it is distrusted. -/
def maxClockSkewMs : Ms := 5 * 60000

/-- The device's clock runs ahead of the server's: its `fixTime` orders nothing. -/
def isClockSkewed (r : NormalizedRecord) : Bool := r.serverTime + maxClockSkewMs < r.fixTime

end Orbetra
