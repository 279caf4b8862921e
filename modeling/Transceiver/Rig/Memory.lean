import Transceiver.Channel.Text
import Transceiver.Rig.Setting

/-! Ordinary memories. A memory is read as a channel and a channel is stored as a memory;
the channels that stand in for the VFOs can be read but not stored to. -/
namespace Transceiver

def checkNumber (v : Value) : Except ArgumentFault (Fin 1000) :=
  match v.intBelow? 1000 with
  | some n => .ok n
  | none => .error .number

/-- The number of a memory that no VFO uses. -/
def checkUnreserved (v : Value) : Except ArgumentFault (Fin 1000) := do
  let number ← checkNumber v
  match Band.ofChannel? number with
  | some band => throw (.reserved number band)
  | none => return number

namespace Channel

open Attribute Record in
/-- The values that a record gives to the attributes of a channel. -/
def recordValue (record : MemoryRecord) (shift : Shift) : Attribute → Option Value
  | .freq => some (.ofNat record.freq)
  | .mode => some (.text (Mode.ofRecord record).name)
  | .width => some (.ofNat (Mode.ofRecord record).passband)
  | .tuningStep => some (.float (tuningSteps.get record.step))
  | .duplex => some (.text shift.name)
  | .offset => some (.ofNat record.offset)
  | .reverse => some (.bool (isOn record.reverse))
  | .tone => if isOn record.toneOn then some (.float (tones.get record.toneIndex)) else none
  | .squelchTone => if isOn record.ctcssOn then some (.float (tones.get record.ctcssIndex)) else none
  | .dcsCode => if isOn record.dcsOn then some (.ofNat (dcsCodes.get record.dcsIndex)) else none
  | .txFreq => some (.ofNat record.txFreq)
  | .txStep => some (.ofNat record.txStep)
  | .skip => some (.text (if isOn record.lockout then "L" else ""))
  | _ => none

/-- Lays the values of a record over a channel. -/
def withRecord (c : Channel) (record : MemoryRecord) (shift : Shift) : Channel :=
  { c with value := fun a => (recordValue record shift a).getD (c.value a) }

def flagValue : Value → Except Fault Int
  | .text s =>
    match Number.readInt? s with
    | some n => .ok n
    | none => .error .notInteger
  | v => v.wholePart

def codeOf {n : Nat} (code? : String → Option (Fin n)) (v : Value) : Except (Option Unstorable) (Fin n) :=
  match v.text?.bind code? with
  | some code => .ok code
  | none => .error (if v.isKey then some (.unknownName v) else none)

def placeOf {n : Nat} (place? : Value → Option (Fin n)) (v : Value) :
    Except (Option Unstorable) (Fin n) :=
  match place? v with
  | some place => .ok place
  | none => .error (some .notInTable)

/-- Like `placeOf`, with the first place for a tone or code that is not in use. -/
def placeInUse {n : Nat} (place? : Value → Option (Fin (n + 1))) (v : Value) :
    Except (Option Unstorable) (Fin (n + 1)) :=
  if v.truth then placeOf place? v else .ok 0

/-- The table entries that a channel's settings are stored as. -/
structure Codes where
  mode : Fin 3
  step : Fin 11
  shift : Fin 10
  tone : Fin 42
  squelchTone : Fin 42
  dcsCode : Fin 104

/-- Nothing as a reason means that a value is of an unsuitable kind. -/
def codes (c : Channel) : Except (Option Unstorable) Codes := do
  let mode ← codeOf (fun s => (Mode.ofName? s).map Mode.code) (c.value .mode)
  let step ← placeOf stepIndex? (c.value .tuningStep)
  let shift ← codeOf (fun s => (Shift.ofName? s).map Shift.code) (c.value .duplex)
  let tone ← placeInUse toneIndex? (c.value .tone)
  let squelchTone ← placeInUse toneIndex? (c.value .squelchTone)
  let dcsCode ← placeInUse dcsIndex? (c.value .dcsCode)
  return { mode, step, shift, tone, squelchTone, dcsCode }

/-- The codes, or a fault that names the channel by its number. -/
def storableCodes (c : Channel) : Except Fault Codes :=
  match c.codes with
  | .ok codes => .ok codes
  | .error none => .error .mistyped
  | .error (some why) => do throw (.ofArgument (.channelSettings (← (c.value .number).wholePart) why))

/-- The memory that a channel is stored as. Of several tones the first one is on. -/
def toDraft (c : Channel) : Except Fault MemoryDraft := do
  let codes ← c.storableCodes
  let mode := c.toneMode
  let flag := fun (b : Bool) => Value.ofNat (if b then 1 else 0)
  let reverse ← flagValue (c.value .reverse)
  return {
    channel := c.value .number
    freq := c.value .freq
    step := .ofNat codes.step
    shift := .ofNat codes.shift
    reverse := .int reverse
    toneOn := flag (mode = "Tone")
    ctcssOn := flag (mode = "TSQL")
    dcsOn := flag (mode = "DTCS")
    toneIndex := .ofNat codes.tone
    ctcssIndex := .ofNat codes.squelchTone
    dcsIndex := .ofNat codes.dcsCode
    offset := c.value .offset
    mode := .ofNat codes.mode
    txFreq := c.value .txFreq
    txStep := c.value .txStep
    lockout := flag ((c.value .skip).same (.text "L")) }

end Channel

namespace Rig

open Dialogue

def setMemory (vfo number : Value) : Dialogue Unit := do
  let channel ← checkUnreserved number
  let band ← bandOf vfo
  discard (writeSelection ⟨band, channel⟩)

def memory (vfo : Value) : Dialogue (Fin 1000) := do
  return (← readSelection (← bandOf vfo)).channel

def getChannel (number : Value) : Dialogue Channel := do
  let n ← checkNumber number
  let record ← readMemory n
  let numbered ← (Channel.make number (.text "")).mapError Fault.ofAttribute
  let shift ← Shift.ofRecord record
  let name ← readName n
  (numbered.withRecord record shift).assign .name (.text name.name) |>.mapError Fault.ofAttribute

/-- Stores a channel and its name. Both are checked before anything is sent. -/
def setChannel (c : Channel) : Dialogue Unit := do
  let number ← checkUnreserved (c.value .number)
  let draft ← c.toDraft
  let name ← checkSentName (c.value .name)
  let record ← draft.check
  discard (writeMemory record)
  discard (writeName number (← name.written))

def setTransmit (on : Value) : Dialogue Unit :=
  if on.truth then startTransmitting else stopTransmitting

def hearsSignal (vfo : Value) : Dialogue Bool := do
  return Record.isOn (← readBusy (← bandOf vfo)).busy

end Rig

end Transceiver
