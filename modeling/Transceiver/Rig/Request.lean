import Transceiver.Capabilities
import Transceiver.Directory
import Transceiver.Rig.Memory

/-! The operations that a rig offers to a host, as requests with loosely typed arguments. -/
namespace Transceiver

inductive Request where
  | start
  | finish
  | session
  | capabilities
  | name
  | selectVfo (vfo : Value)
  | selectedVfo
  | setSplit (split transmit : Value)
  | split
  | setFrequency (vfo hertz : Value)
  | frequency (vfo : Value)
  | setSplitFrequency (vfo hertz : Value)
  | splitFrequency (vfo : Value)
  | setMode (vfo mode : Value)
  | mode (vfo : Value)
  | set (setting : Setting) (vfo value : Value)
  | get (setting : Setting) (vfo : Value)
  | setMemory (vfo number : Value)
  | memory (vfo : Value)
  | setChannel (channel : Channel)
  | channel (number : Value)
  | setTransmit (on : Value)
  | hearsSignal (vfo : Value)
  | channelOf (vfo : Value)
  | fillMemory (number : Value) (row : Option Row)

inductive Answer where
  | value (v : Value)
  | channel (c : Channel)
  | memory (record : MemoryRecord)
  | capabilities (c : Capabilities)

namespace Answer

def nothing : Answer := .value .null

end Answer

namespace Rig

open Dialogue

/-- Work that is answered with the value that a dialogue of the rig comes to. -/
def answering (d : Rig → Dialogue Value) : Work Answer := do return .value (← d (← Work.rig))

/-- Work that is answered with nothing. -/
def doing (d : Rig → Dialogue Unit) : Work Answer := do
  d (← Work.rig)
  return .nothing

def changing (work : Work Unit) : Work Answer := do
  work
  return .nothing

def work : Request → Work Answer
  | .start => changing do Work.become (← Work.rig).opened
  | .finish => changing do Work.become (← Work.rig).close
  | .session => answering fun r => do return .text (← r.openSession).text
  | .capabilities => return .capabilities .ofRig
  | .name => return .value (.text RigKind.driven.name)
  | .selectVfo vfo => changing (selectVfo vfo)
  | .selectedVfo => answering fun _ => do return .text (← selectedVfo)
  | .setSplit split transmit => changing (setSplit split transmit)
  | .split => do
    let (split, band) ← readSplit
    return .value (.list [.bool split, .text band.vfo])
  | .setFrequency vfo hertz => doing fun r => r.setFrequency vfo hertz
  | .frequency vfo => answering fun r => do return .ofNat (← r.frequency vfo)
  | .setSplitFrequency vfo hertz => doing fun r => r.setSplitFrequency vfo hertz
  | .splitFrequency vfo => answering fun r => do return .ofNat (← r.splitFrequency vfo)
  | .setMode vfo mode => doing fun r => r.setMode vfo mode
  | .mode vfo => answering fun r => do
    let mode ← r.mode vfo
    return .list [.text mode.name, .ofNat mode.passband]
  | .set setting vfo v => doing fun _ => set setting vfo v
  | .get setting vfo => answering fun _ => get setting vfo
  | .setMemory vfo number => doing fun _ => setMemory vfo number
  | .memory vfo => answering fun _ => do return .ofNat (← memory vfo)
  | .setChannel c => doing fun _ => setChannel c
  | .channel number => do return .channel (← getChannel number)
  | .setTransmit on => doing fun _ => setTransmit on
  | .hearsSignal vfo => answering fun _ => do return .bool (← hearsSignal vfo)
  | .channelOf vfo => answering fun _ => do return .ofNat (← channelOf vfo)
  | .fillMemory number row => do
    let channel ← Record.namedChannel number
    return .memory (← Dialogue.fillMemory channel row)

def carryOut {σ : Type} (link : Link) (port : Port σ) (r : Rig) (request : Request) (s : σ) :
    Outcome σ Answer × Rig :=
  (work request).run link port r s

end Rig

end Transceiver
