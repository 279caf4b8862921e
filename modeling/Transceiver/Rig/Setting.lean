import Transceiver.Frequency.Grid
import Transceiver.Mode
import Transceiver.Shift
import Transceiver.Tone
import Transceiver.TuningStep
import Transceiver.Rig.Selection

/-! The settings of a VFO. Each is kept in certain fields of the record of the channel that
stands in for the VFO: setting it changes these fields only, and it is read off them. -/
namespace Transceiver

open Number (Binary64)

/-- The settings besides frequency and mode; split does not redirect them. -/
inductive Setting where
  | step
  | tone
  | squelchTone
  | dcsCode
  | shift
  | offset
  deriving DecidableEq, Repr

/-- The storable frequency closest to a receivable one. -/
def frequencyUpdate (hertz : Value) : Except Fault MemoryUpdate :=
  match hertz.int? with
  | none => .error (.ofArgument .notHertz)
  | some n =>
    if Frequency.receivable n then
      let snapped := Frequency.snap n
      .ok { freq := some (.int snapped.hertz), step := some (.ofNat snapped.step) }
    else .error (.ofArgument (.unreceivable n))

def modeUpdate (mode : Value) : Except Fault MemoryUpdate :=
  match mode.text?.bind Mode.ofName? with
  | some m => .ok { mode := some (.ofNat m.code) }
  | none => .error (if mode.isKey then .ofArgument (.mode mode) else .mistyped)

def Mode.ofRecord (record : MemoryRecord) : Mode := .ofCode record.mode

def Shift.ofRecord (record : MemoryRecord) : Except RadioFault Shift :=
  match Shift.ofCode? record.shift with
  | some shift => .ok shift
  | none => .error (.unknownShift record.shift)

namespace Setting

def stepUpdate (v : Value) : Except Fault MemoryUpdate :=
  match stepIndex? v with
  | some i => .ok { step := some (.ofNat i) }
  | none => .error (.ofArgument (.step v))

/-- A tone switches the other kinds of tone off. No tone switches only this kind off. -/
def toneUpdate (v : Value) : Except Fault MemoryUpdate :=
  if v.truth then
    match toneIndex? v with
    | some i =>
      .ok {
        toneOn := some (.ofNat 1)
        ctcssOn := some (.ofNat 0)
        dcsOn := some (.ofNat 0)
        toneIndex := some (.ofNat i) }
    | none => .error (.ofArgument (.tone v))
  else .ok { toneOn := some (.ofNat 0) }

def squelchToneUpdate (v : Value) : Except Fault MemoryUpdate :=
  if v.truth then
    match toneIndex? v with
    | some i =>
      .ok {
        toneOn := some (.ofNat 0)
        ctcssOn := some (.ofNat 1)
        dcsOn := some (.ofNat 0)
        ctcssIndex := some (.ofNat i) }
    | none => .error (.ofArgument (.tone v))
  else .ok { ctcssOn := some (.ofNat 0) }

def dcsCodeUpdate (v : Value) : Except Fault MemoryUpdate :=
  if v.truth then
    match dcsIndex? v with
    | some i =>
      .ok {
        toneOn := some (.ofNat 0)
        ctcssOn := some (.ofNat 0)
        dcsOn := some (.ofNat 1)
        dcsIndex := some (.ofNat i) }
    | none => .error (.ofArgument (.dcsCode v))
  else .ok { dcsOn := some (.ofNat 0) }

def shiftUpdate (v : Value) : Except Fault MemoryUpdate :=
  match v.text?.bind Shift.ofName? with
  | some s => .ok { shift := some (.ofNat s.code) }
  | none => .error (if v.isKey then .ofArgument (.shift v) else .mistyped)

/-- Offsets are put on the same grids as frequencies. -/
def offsetUpdate (v : Value) : Except Fault MemoryUpdate :=
  match v.intBelow? 100000000 with
  | some n => .ok { offset := some (.int (Frequency.snap n).hertz) }
  | none => .error (.ofArgument (.offset v))

def update (setting : Setting) (v : Value) : Except Fault MemoryUpdate :=
  match setting with
  | .step => stepUpdate v
  | .tone => toneUpdate v
  | .squelchTone => squelchToneUpdate v
  | .dcsCode => dcsCodeUpdate v
  | .shift => shiftUpdate v
  | .offset => offsetUpdate v

def inUse (flag : Fin 2) (v : Value) : Value := if Record.isOn flag then v else .int 0

/-- The value that a record holds; a tone or code that is off is zero. -/
def reading (setting : Setting) (record : MemoryRecord) : Except RadioFault Value :=
  match setting with
  | .step => .ok (.float (tuningSteps.get record.step))
  | .tone => .ok (inUse record.toneOn (.float (tones.get record.toneIndex)))
  | .squelchTone => .ok (inUse record.ctcssOn (.float (tones.get record.ctcssIndex)))
  | .dcsCode => .ok (inUse record.dcsOn (.ofNat (dcsCodes.get record.dcsIndex)))
  | .shift => (Shift.ofRecord record).map fun s => .text s.name
  | .offset => .ok (.ofNat record.offset)

end Setting

namespace Rig

open Dialogue

def readVfoMemory (vfo : Value) : Dialogue MemoryRecord := do
  readMemory (← channelOf vfo)

def changeVfo (vfo : Value) (update : MemoryUpdate) : Dialogue Unit := do
  discard (changeMemory (← channelOf vfo) update)

def setFrequency (r : Rig) (vfo hertz : Value) : Dialogue Unit := do
  let vfo ← r.receivingVfo vfo
  changeVfo vfo (← frequencyUpdate hertz)

def frequency (r : Rig) (vfo : Value) : Dialogue (Fin 10000000000) := do
  return (← readVfoMemory (← r.receivingVfo vfo)).freq

def setSplitFrequency (r : Rig) (vfo hertz : Value) : Dialogue Unit := do
  let vfo ← r.transmittingVfo vfo
  changeVfo vfo (← frequencyUpdate hertz)

def splitFrequency (r : Rig) (vfo : Value) : Dialogue (Fin 10000000000) := do
  return (← readVfoMemory (← r.transmittingVfo vfo)).freq

def setMode (r : Rig) (vfo mode : Value) : Dialogue Unit := do
  let update ← modeUpdate mode
  changeVfo (← r.receivingVfo vfo) update

def mode (r : Rig) (vfo : Value) : Dialogue Mode := do
  return .ofRecord (← readVfoMemory (← r.receivingVfo vfo))

def set (setting : Setting) (vfo v : Value) : Dialogue Unit := do
  changeVfo vfo (← setting.update v)

def get (setting : Setting) (vfo : Value) : Dialogue Value := do
  setting.reading (← readVfoMemory vfo)

end Rig

end Transceiver
