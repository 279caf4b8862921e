import Transceiver.Record.Memory
import Transceiver.Record.Vfo
import Transceiver.Record.Control
import Transceiver.Record.Name

/-! The commands that a rig sends. Each is one line of text: a two-letter name, and for
most a space and comma-separated fields. -/
namespace Transceiver

open Record

inductive Command where
  | identify
  | readControl
  | writeControl (control : BandControl)
  | readTuning (band : Band)
  | writeTuning (tuning : BandTuning)
  | readSelection (band : Band)
  | writeSelection (selection : MemorySelection)
  | readVfo (band : Band)
  | writeVfo (record : VfoRecord)
  | readMemory (channel : Fin 1000)
  | writeMemory (record : MemoryRecord)
  | readName (channel : Fin 1000)
  | writeName (channel : Fin 1000) (name : SentName)
  | readBusy (band : Band)
  | transmit
  | receive
  /-- A line that a host's row is spelled as. -/
  | spelled (text : String)

namespace Command

def bandDigit (band : Band) : String := Number.padded 1 band.index

def line : Command → String
  | .identify => "ID"
  | .readControl => "BC"
  | .writeControl control => control.line
  | .readTuning band => lineText "VM" [bandDigit band]
  | .writeTuning tuning => tuning.line
  | .readSelection band => lineText "MR" [bandDigit band]
  | .writeSelection selection => selection.line
  | .readVfo band => lineText "FO" [bandDigit band]
  | .writeVfo record => record.line
  | .readMemory channel => lineText "ME" [channelDigits channel]
  | .writeMemory record => record.line
  | .readName channel => lineText "MN" [channelDigits channel]
  | .writeName channel name => lineText "MN" [channelDigits channel, name.text]
  | .readBusy band => lineText "BY" [bandDigit band]
  | .transmit => "TX"
  | .receive => "RX"
  | .spelled text => text

end Command

end Transceiver
