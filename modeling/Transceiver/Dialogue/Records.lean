import Transceiver.Dialogue
import Transceiver.Record.Any

/-! Reading and writing one record. A write answers with the record that the radio echoes.
A memory and a busy state are refused if they are about something else than was asked. -/
namespace Transceiver.Dialogue

def readMemory (channel : Fin 1000) : Dialogue MemoryRecord := do
  let record ← MemoryRecord.parse (← ask (.readMemory channel))
  if record.channel ≠ channel then throw (.radio (.otherChannel channel record.channel))
  return record

def writeMemory (record : MemoryRecord) : Dialogue MemoryRecord := do
  MemoryRecord.parse (← ask (.writeMemory record))

def readVfo (band : Band) : Dialogue VfoRecord := do
  VfoRecord.parse (← ask (.readVfo band))

def writeVfo (record : VfoRecord) : Dialogue VfoRecord := do
  VfoRecord.parse (← ask (.writeVfo record))

def readControl : Dialogue BandControl := do
  BandControl.parse (← ask .readControl)

def writeControl (control : BandControl) : Dialogue BandControl := do
  BandControl.parse (← ask (.writeControl control))

def readTuning (band : Band) : Dialogue BandTuning := do
  BandTuning.parse (← ask (.readTuning band))

def writeTuning (tuning : BandTuning) : Dialogue BandTuning := do
  BandTuning.parse (← ask (.writeTuning tuning))

def readSelection (band : Band) : Dialogue MemorySelection := do
  MemorySelection.parse (← ask (.readSelection band))

def writeSelection (selection : MemorySelection) : Dialogue MemorySelection := do
  MemorySelection.parse (← ask (.writeSelection selection))

def readName (channel : Fin 1000) : Dialogue MemoryName := do
  MemoryName.parse (← ask (.readName channel))

def writeName (channel : Fin 1000) (name : SentName) : Dialogue MemoryName := do
  MemoryName.parse (← ask (.writeName channel name))

def readBusy (band : Band) : Dialogue BusyState := do
  let state ← BusyState.parse (← ask (.readBusy band))
  if state.band ≠ band then throw (.radio (.otherBand band state.band))
  return state

def readAny (kind : RecordKind) (about : List Value) : Dialogue AnyRecord :=
  match kind, about with
  | .memory, [channel] => do return .memory (← readMemory (← Record.namedChannel channel))
  | .name, [channel] => do return .name (← readName (← Record.namedChannel channel))
  | .vfo, [band] => do return .vfo (← readVfo (← Record.namedBand band))
  | .tuning, [band] => do return .tuning (← readTuning (← Record.namedBand band))
  | .selection, [band] => do return .selection (← readSelection (← Record.namedBand band))
  | .busy, [band] => do return .busy (← readBusy (← Record.namedBand band))
  | .control, [] => do return .control (← readControl)
  | _, _ => throw .mistyped

def writeAny (kind : RecordKind) (row : Row) : Dialogue AnyRecord := do
  kind.parse (← ask (← kind.writing row))

/-- Accepts an answer that is the name of the line, alone or with fields. -/
def expectLine (line : String) (answer : String) : Except RadioFault Unit :=
  if answer = line ∨ Text.startsWith (line ++ " ") answer then .ok ()
  else .error (.unexpectedReply line answer)

def startTransmitting : Dialogue Unit := do
  expectLine "TX" (← ask .transmit)

def stopTransmitting : Dialogue Unit := do
  expectLine "RX" (← ask .receive)

/-- Reads a memory, lays the update over it, and writes the result back. -/
def changeMemory (channel : Fin 1000) (update : MemoryUpdate) : Dialogue MemoryRecord := do
  let record ← readMemory channel
  let changed ← (record.toDraft.overlay update).check
  writeMemory changed

/-- Reads a memory, lays a row over it, and writes the result back. The row may name another channel
to write to; what is no row is refused only after the reading. -/
def fillMemory (channel : Fin 1000) (row : Option Row) : Dialogue MemoryRecord := do
  let record ← readMemory channel
  match row with
  | none => throw .missingAttribute
  | some row =>
    let draft ← row.overlay record.toDraft
    let changed ← draft.check
    writeMemory changed

end Transceiver.Dialogue
