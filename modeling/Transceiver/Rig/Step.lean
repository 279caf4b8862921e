import Transceiver.Rig.Argument
import Transceiver.Rig.Request

/-! The steps that the operations of a rig are made of, by name, for a host that tries one on its
own. A step reads the session at most. -/
namespace Transceiver

/-- The name of the shift that a code stands for. -/
def Shift.decode (code : Value) : Except Fault String :=
  match code.below? 3 with
  | some n =>
    match all.find? (·.code.val == n.val) with
    | some shift => .ok shift.name
    | none => .error .missingAttribute
  | none => do
    discard code.wholeText
    throw (.radio (.unknownShift (← code.wholePart)))

namespace Argument

def answer : Argument → Answer
  | .value v => .value v
  | .row r => .value (.table r.labels r.values)
  | .channel c => .channel c

def draft : Argument → Except Fault MemoryDraft
  | .channel c => c.toDraft
  | .row r =>
    .error (if (r.entries.lookup "mode").all Value.isKey then .missingAttribute else .mistyped)
  | .value _ => .error .missingAttribute

end Argument

namespace Rig

open Dialogue

def redirected (r : Rig) (chosen : Session → Band) (vfo : Argument) : Except RadioFault Answer := do
  let s ← r.openSession
  return if s.split then .value (.text (chosen s).vfo) else vfo.answer

/-- Stores an empty record in a channel whose memory cannot be read, if its number is an integer. -/
def provisionGiven (channel : Value) : Dialogue Unit := do
  let contents := (MemoryDraft.empty channel (.ofNat 146500000)).check.mapError .ofArgument
  provisionWith (← Record.namedChannel channel) contents

/-- The step of that name, with the value that it leads to. -/
def step (r : Rig) (name : String) (arguments : List Argument) : Dialogue Answer :=
  match name, arguments with
  | "_current_band", [] => do return .value (.ofNat (← currentBand).index)
  | "_vfo_to_band", [vfo] => do return .value (.ofNat (← bandOf vfo.unnamed).index)
  | "_rx_vfo", [vfo] => do r.redirected Session.receive vfo
  | "_tx_vfo", [vfo] => do r.redirected Session.transmit vfo
  | "_pull", [vfo] => do return .memory (← readVfoMemory vfo.unnamed)
  | "_update", [vfo] => do return .memory (← changeMemory (← channelOf vfo.unnamed) {})
  | "_provision", [channel] => do
    provisionGiven (← channel.quoted)
    return .nothing
  | "_check_freq", [hertz] => do
    discard (frequencyUpdate hertz.unnamed)
    return .nothing
  | "_set_freq", [vfo, hertz] => do
    changeVfo vfo.unnamed (← frequencyUpdate hertz.unnamed)
    return .nothing
  | "_decode_shift", [code] => do return .value (.text (← Shift.decode code.unnamed))
  | "_check_memory", [number] => do
    discard (checkNumber number.unnamed)
    return .nothing
  | "_check_unreserved", [number] => do
    discard (checkUnreserved number.unnamed)
    return .nothing
  | "_make_record", [channel] => do
    return .value (.table MemoryRecord.labels (← channel.draft).values)
  | _, _ => throw .mistyped

def steps : List String :=
  ["_current_band", "_vfo_to_band", "_rx_vfo", "_tx_vfo", "_pull", "_update", "_provision",
   "_check_freq", "_set_freq", "_decode_shift", "_check_memory", "_check_unreserved",
   "_make_record"]

def step? (r : Rig) (name : String) (arguments : List Argument) : Option (Dialogue Answer) :=
  if steps.contains name then some (r.step name arguments) else none

end Rig

end Transceiver
