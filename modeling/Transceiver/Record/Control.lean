import Transceiver.Record.Field

/-! The short records about bands: which band has control and which transmits (BC), the
mode of a band (VM), the memory channel it is on (MR), and whether it hears a signal (BY). -/
namespace Transceiver

open Record

structure BandControl where
  control : Band
  transmit : Band
  deriving DecidableEq, Repr

inductive Tuning where
  | vfo
  | memory
  | call
  | weather
  deriving DecidableEq, Repr

structure BandTuning where
  band : Band
  tuning : Tuning
  deriving DecidableEq, Repr

structure MemorySelection where
  band : Band
  channel : Fin 1000
  deriving DecidableEq, Repr

structure BusyState where
  band : Band
  busy : Fin 2
  deriving DecidableEq, Repr

namespace Tuning

def code : Tuning → Fin 4
  | .vfo => 0
  | .memory => 1
  | .call => 2
  | .weather => 3

def ofCode : Fin 4 → Tuning
  | 0 => .vfo
  | 1 => .memory
  | 2 => .call
  | 3 => .weather

def check (v : Value) : Except ArgumentFault Tuning :=
  match v.below? 4 with
  | some n => .ok (ofCode n)
  | none => .error (.bandMode v)

@[simp] theorem ofCode_code (t : Tuning) : ofCode t.code = t := by cases t <;> rfl

end Tuning

namespace BandControl

def formats : List Format := [⟨"ctrl", 1, 2⟩, ⟨"ptt", 1, 2⟩]

def values (r : BandControl) : List Nat := [r.control.index, r.transmit.index]

def line (r : BandControl) : String := lineText "BC" (fieldTexts formats r.values)

def parse (reply : String) : Except Fault BandControl := do
  match ← fieldsOf "BC" reply with
  | [control, transmit] =>
    return { control := ← bandNumber reply control, transmit := ← bandNumber reply transmit }
  | fields => throw (.radio (.fieldCount "BC" fields.length 2 reply))

end BandControl

namespace BandTuning

def formats : List Format := [⟨"band", 1, 2⟩, ⟨"mode", 1, 4⟩]

def values (r : BandTuning) : List Nat := [r.band.index, r.tuning.code]

def line (r : BandTuning) : String := lineText "VM" (fieldTexts formats r.values)

def parse (reply : String) : Except Fault BandTuning := do
  match ← fieldsOf "VM" reply with
  | [band, tuning] =>
    return { band := ← bandNumber reply band, tuning := .ofCode (← number _ reply tuning) }
  | fields => throw (.radio (.fieldCount "VM" fields.length 2 reply))

end BandTuning

namespace MemorySelection

def formats : List Format := [⟨"band", 1, 2⟩, ⟨"channel", 3, 1000⟩]

def values (r : MemorySelection) : List Nat := [r.band.index, r.channel]

def line (r : MemorySelection) : String := lineText "MR" (fieldTexts formats r.values)

def parse (reply : String) : Except Fault MemorySelection := do
  match ← fieldsOf "MR" reply with
  | [band, channel] =>
    return { band := ← bandNumber reply band, channel := ← number _ reply channel }
  | fields => throw (.radio (.fieldCount "MR" fields.length 2 reply))

end MemorySelection

namespace BusyState

def formats : List Format := [⟨"band", 1, 2⟩, ⟨"busy", 1, 2⟩]

def values (r : BusyState) : List Nat := [r.band.index, r.busy]

def parse (reply : String) : Except Fault BusyState := do
  match ← fieldsOf "BY" reply with
  | [band, busy] => return { band := ← bandNumber reply band, busy := ← number _ reply busy }
  | fields => throw (.radio (.fieldCount "BY" fields.length 2 reply))

end BusyState

end Transceiver
