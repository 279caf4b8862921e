import Transceiver.Fault
import Transceiver.Frequency.Grid
import Transceiver.Number.Arithmetic
import Transceiver.TuningStep

/-! Frequencies as loosely typed values. A measured frequency is a floating-point number; it is
written and put on the grids by the same rules as a whole one, with its own arithmetic. -/
namespace Transceiver.Frequency

open Number

/-- Measured hertz as megahertz. -/
def formatMeasured (hertz : Binary64) : Except Fault String :=
  match (hertz.floorDiv 1000000).value?, (hertz.floorMod 1000000).value? with
  | some mega, some rest => .ok (showInt mega.floor ++ "." ++ padded 6 rest.floor.toNat)
  | _, _ => .error .notInteger

def formatValue : Value → Except Fault String
  | .float hertz => formatMeasured hertz
  | v =>
    match v.int? with
    | some hertz => if isWritable hertz then .ok (format hertz) else .error .notInteger
    | none => .error .mistyped

def nearestMeasured (hertz : Binary64) (grid : Nat) : Binary64 :=
  ((hertz.add (.finite (grid / 2 : Nat))).floorDiv grid).mul (.finite grid)

/-- The closest storable frequency to a measured one, and the code of its step. -/
def snapMeasured (hertz : Binary64) : Binary64 × Fin 11 :=
  let five := nearestMeasured hertz 5000
  let six := nearestMeasured hertz 6250
  let fine := if (six.sub hertz).abs.less (five.sub hertz).abs then (six, sixStep) else (five, fiveStep)
  let threshold := Binary64.finite coarseThreshold
  if threshold.less fine.1 || threshold.same fine.1 then (nearestMeasured hertz 10000, coarseStep)
  else fine

def snapValue : Value → Except Fault (Value × Fin 11)
  | .float hertz => .ok (.float (snapMeasured hertz).1, (snapMeasured hertz).2)
  | v =>
    match v.int? with
    | some hertz => .ok (.int (snap hertz).hertz, (snap hertz).step)
    | none => .error .mistyped

end Transceiver.Frequency
