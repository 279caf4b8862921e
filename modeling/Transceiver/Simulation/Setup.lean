import Transceiver.Simulation.Bench

/-! Setting a bench up, before a session or in the midst of one. -/
namespace Transceiver.Simulation

structure Setup where
  forget : List Int := []
  memories : List (Int × String) := []
  names : List (Int × String) := []
  replies : List (String × String) := []
  unreply : List String := []
  /-- The band in control and the one that transmits. -/
  control : Option (PerBand Int) := none
  tuning : Option (PerBand Int) := none
  selection : Option (PerBand Int) := none
  busy : Option (PerBand Int) := none
  vfo : Option (PerBand String) := none
  onlyRate : Option (Option Rate) := none
  faults : List (String × List LineFault) := []

namespace LineFault

def ofName? : String → Option LineFault
  | "silent" => some .silent
  | "write_error" => some .writeError
  | "read_error" => some .readError
  | "ok" => some .none
  | _ => none

end LineFault

namespace Setup

/-- A memory without contents is created with the ones of an unused channel. -/
def memoryText (channel : Int) (text : String) : String :=
  if text = "" then emptyMemory channel else text

def radio (setup : Setup) (r : Radio) : Radio where
  memories :=
    setup.memories.foldl (fun t (channel, text) => t.put channel (memoryText channel text))
      (setup.forget.foldl Table.erase r.memories)
  names := setup.names.foldl (fun t (channel, name) => t.put channel name) r.names
  control := (setup.control.map PerBand.a).getD r.control
  transmit := (setup.control.map PerBand.b).getD r.transmit
  tuning := setup.tuning.getD r.tuning
  selection := setup.selection.getD r.selection
  busy := setup.busy.getD r.busy
  vfo := setup.vfo.getD r.vfo
  transmitting := r.transmitting

def file {α : Type} (entries : List (String × α)) (entry : String × α) : List (String × α) :=
  entry :: entries.filter (·.1 != entry.1)

def bench (setup : Setup) (s : Bench) : Bench :=
  { s with
    radio := setup.radio s.radio
    replies := (setup.replies.foldl file s.replies).filter (!setup.unreply.contains ·.1)
    onlyRate := setup.onlyRate.getD s.onlyRate
    faults := setup.faults.foldl file s.faults }

end Setup

end Transceiver.Simulation
