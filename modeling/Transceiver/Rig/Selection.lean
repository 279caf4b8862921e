import Transceiver.Dialogue.Records
import Transceiver.Rig.Work

/-! Which VFO and band an operation is about, and how a VFO is selected. The current VFO,
the memory of the current band and no VFO at all all mean the band that has control. -/
namespace Transceiver

inductive VfoChoice where
  | named (band : Band)
  | current
  deriving DecidableEq, Repr

namespace VfoChoice

/-- The choice that a value stands for. Only texts and nothing can stand for one. -/
def ofValue : Value → Except Fault VfoChoice
  | .null => .ok .current
  | .text name =>
    match Band.ofVfo? name with
    | some band => .ok (.named band)
    | none =>
      if name = "currVFO" ∨ name = "MEM" then .ok .current
      else .error (.ofArgument (.vfo (.text name)))
  | v => .error (if v.isKey then .ofArgument (.vfo v) else .mistyped)

end VfoChoice

namespace Rig

open Dialogue

def currentBand : Dialogue Band := do
  return (← readControl).control

def bandOf (vfo : Value) : Dialogue Band := do
  match ← VfoChoice.ofValue vfo with
  | .named band => return band
  | .current => currentBand

/-- The first band stands in for a current band that the radio does not tell. -/
def currentBandOrFirst : Dialogue Band :=
  tryCatch currentBand fun why =>
    match why with
    | .radio fault => do
      say Level.warning ("Unable to resolve current VFO (" ++ fault.message ++ "), using VFOA")
      return .a
    | _ => throw why

/-- The memory channel that stands in for a VFO. -/
def channelOf (vfo : Value) : Dialogue (Fin 1000) := do
  match ← VfoChoice.ofValue vfo with
  | .named band => return band.channel
  | .current => return (← currentBandOrFirst).channel

/-- Split directs what is received to the receiving VFO, whichever was asked for. -/
def receivingVfo (r : Rig) (vfo : Value) : Except RadioFault Value := do
  let s ← r.openSession
  return if s.split then .text s.receive.vfo else vfo

def transmittingVfo (r : Rig) (vfo : Value) : Except RadioFault Value := do
  let s ← r.openSession
  return if s.split then .text s.transmit.vfo else vfo

/-- Stores a record in a channel whose memory cannot be read. -/
def provisionWith (channel : Fin 1000) (contents : Except Fault MemoryRecord) : Dialogue Unit :=
  tryCatch (discard (readMemory channel)) fun why =>
    match why with
    | .radio fault =>
      if fault.kind = .rejected then do
        say Level.info ("Channel " ++ Number.showNat channel ++ " is empty, creating it")
        discard (writeMemory (← contents))
      else throw why
    | _ => throw why

/-- Stores an empty record in a channel whose memory cannot be read. -/
def provision (channel : Fin 1000) : Dialogue Unit := provisionWith channel (.ok (.empty channel))

/-- Puts a band on the channel of its VFO, in memory mode and with control and transmission. -/
def selectBand (band : Band) : Dialogue Unit := do
  discard (writeTuning ⟨band, .memory⟩)
  provision band.channel
  discard (writeSelection ⟨band, band.channel⟩)
  discard (writeControl ⟨band, band⟩)

/-- What a host selects: a VFO, or the memory of the current band. VFO mode alone means
the first VFO. -/
inductive SelectionChoice where
  | named (band : Band)
  | memory

def SelectionChoice.ofValue : Value → Except Fault SelectionChoice
  | .text name =>
    if name = "VFO" then .ok (.named .a)
    else
      match Band.ofVfo? name with
      | some band => .ok (.named band)
      | none => if name = "MEM" then .ok .memory else .error (.ofArgument (.vfo (.text name)))
  | v => .error (if v.isKey then .ofArgument (.vfo v) else .mistyped)

def selectVfo (vfo : Value) : Work Unit := do
  say Level.debug ("set_vfo " ++ (← vfo.written).shown)
  let s ← Work.session
  match ← SelectionChoice.ofValue vfo with
  | .named band =>
    selectBand band
    Work.keep (s.select band)
  | .memory =>
    let band ← currentBand
    (discard (writeTuning ⟨band, .memory⟩) : Dialogue Unit)

/-- The VFO whose channel the current band is on, or memory if it is on another one. -/
def selectedVfo : Dialogue String := do
  let band ← currentBand
  let channel := (← readSelection band).channel
  let vfo := ((Band.ofChannel? channel).map Band.vfo).getD "MEM"
  say Level.debug ("Band " ++ Number.showNat band.index ++ " is on channel " ++
    Number.showNat channel ++ " (" ++ vfo ++ ")")
  return vfo

/-- The transmitting VFO that a host asks for; no VFO and the current one mean the band
that has control. -/
def transmitChoice (vfo : Value) : Dialogue Band := do
  match vfo with
  | .null => currentBand
  | .text name =>
    if name = "currVFO" then currentBand
    else
      match Band.ofVfo? name with
      | some band => return band
      | none => throw (.ofArgument (.transmitVfo vfo))
  | _ => throw (if vfo.isKey then .ofArgument (.transmitVfo vfo) else .mistyped)

def setSplit (split transmit : Value) : Work Unit := do
  let s ← Work.session
  let band ← transmitChoice transmit
  (discard (writeControl ⟨band, band⟩) : Dialogue Unit)
  if split.truth then
    Work.keep (.splitOn band)
    say Level.debug ("Split on, TX " ++ band.vfo ++ " RX " ++ band.other.vfo)
  else Work.keep s.splitOff

/-- The split flag and the transmitting VFO as the host last set them. Where the radio
transmits on another band, the policy decides whether to follow it. -/
def readSplit : Work (Bool × Band) := do
  let s ← Work.session
  let band := (← readControl).transmit
  if band = s.transmit then return (s.split, s.transmit)
  say Level.warning ("The PTT band has been changed on the radio to " ++ band.vfo ++
    ", but the TX VFO is " ++ s.transmit.vfo)
  match (← Work.rig).policy with
  | .warn => return (s.split, s.transmit)
  | .adopt =>
    Work.keep (s.adopt band)
    say Level.info ("Using " ++ band.vfo ++ " as the TX VFO")
    return (s.split, band)

end Rig

end Transceiver
