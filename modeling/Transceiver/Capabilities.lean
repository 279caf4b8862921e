import Transceiver.Fault
import Transceiver.Frequency.Grid
import Transceiver.Mode
import Transceiver.Shift
import Transceiver.Tone
import Transceiver.TuningStep
import Transceiver.Record.Name

/-! What a rig declares that it can do. Each capability has a kind of value that it takes;
entries whose name starts with an underscore are free notes beside them. A note can take the
place of the rules, and then nothing can be assigned any more. -/
namespace Transceiver

inductive Capability where
  | hasGet
  | hasSet
  | modes
  | vfos
  | shifts
  | tuningSteps
  | tones
  | dcsCodes
  | nameLength
  | characters
  | receiveRanges
  | transmitRanges
  | filters
  | channelRanges
  | serialRateMin
  | serialRateMax
  | timeout
  | retry
  | targetableFreq
  deriving DecidableEq, Repr

namespace Capability

def all : List Capability :=
  [.hasGet, .hasSet, .modes, .vfos, .shifts, .tuningSteps, .tones, .dcsCodes, .nameLength,
   .characters, .receiveRanges, .transmitRanges, .filters, .channelRanges, .serialRateMin,
   .serialRateMax, .timeout, .retry, .targetableFreq]

def label : Capability → String
  | .hasGet => "has_get"
  | .hasSet => "has_set"
  | .modes => "valid_modes"
  | .vfos => "valid_vfos"
  | .shifts => "valid_shifts"
  | .tuningSteps => "valid_tuning_steps"
  | .tones => "valid_tones"
  | .dcsCodes => "valid_dtcs_codes"
  | .nameLength => "valid_name_length"
  | .characters => "valid_characters"
  | .receiveRanges => "rx_ranges"
  | .transmitRanges => "tx_ranges"
  | .filters => "filters"
  | .channelRanges => "channel_ranges"
  | .serialRateMin => "serial_rate_min"
  | .serialRateMax => "serial_rate_max"
  | .timeout => "timeout"
  | .retry => "retry"
  | .targetableFreq => "targetable_freq"

def ofLabel? (s : String) : Option Capability := all.find? (·.label == s)

/-- Whether a capability takes a value; nothing if the question makes no sense for it. -/
def accepts? : Capability → Value → Option Bool
  | .tones, v => v.members?.map fun items => items.all isToneFrequency
  | .nameLength, v | .serialRateMin, v | .serialRateMax, v | .timeout, v | .retry, v =>
    some (v.int?.any (0 ≤ ·))
  | .targetableFreq, v => some (v.below? 2).isSome
  | _, v => some v.members?.isSome

def texts (names : List String) : Value := .list (names.map .text)

/-- The value that a rig has if it declares nothing. -/
def initial : Capability → Value
  | .shifts => texts (Shift.all.map Shift.name)
  | .tuningSteps => .list (Transceiver.tuningSteps.toList.map .float)
  | .tones => .list (Transceiver.tones.toList.map .float)
  | .dcsCodes => .list (Transceiver.dcsCodes.toList.map .ofNat)
  | .nameLength => .ofNat Transceiver.nameLength
  | .characters => .text nameCharacters
  | .serialRateMin | .serialRateMax => .int 9600
  | .timeout => .int 1000
  | .retry => .int 3
  | .targetableFreq => .bool false
  | _ => .list []

end Capability

structure Capabilities where
  value : Capability → Value
  notes : List (String × Value)

namespace Capabilities

def initial : Capabilities := ⟨Capability.initial, []⟩

def readAndSet : List String :=
  ["freq", "split_freq", "mode", "vfo", "ts", "ctcss_tone", "ctcss_sql", "dcs_sql", "split_vfo",
   "rptr_shift", "rptr_offs", "mem", "channel"]

def rangeValue (range : Nat × Nat) : Value := .list [.ofNat range.1, .ofNat range.2]

/-- What the rig of this library declares. -/
def ofRig : Capabilities where
  notes := []
  value
    | .hasGet => Capability.texts (readAndSet ++ ["dcd"])
    | .hasSet => Capability.texts (readAndSet ++ ["ptt"])
    | .modes => Capability.texts (Mode.all.map Mode.name)
    | .vfos => Capability.texts (Band.all.map Band.vfo ++ ["MEM"])
    | .receiveRanges => .list (Frequency.receiveRanges.map rangeValue)
    | .transmitRanges => .list (Frequency.transmitRanges.map rangeValue)
    | .filters => .list (Mode.all.map fun m => .list [.text m.name, .ofNat m.passband])
    | .channelRanges =>
      .list [.list [.ofNat 0, .ofNat 199, .text "mem"], .list [.ofNat 200, .ofNat 219, .text "edge"],
        .list [.ofNat 221, .ofNat 222, .text "call"]]
    | .serialRateMax => .int 57600
    | .targetableFreq => .bool true
    | c => Capability.initial c

def isNote (label : String) : Bool := Text.startsWith "_" label

/-- The note that takes the place of the rules. -/
def rulesLabel : String := "_valid_map"

def assignRuled (c : Capabilities) (label : String) (v : Value) : Except Fault Capabilities :=
  match Capability.ofLabel? label with
  | none => .error (.attribute (.unknown label))
  | some capability =>
    match capability.accepts? v with
    | none => .error .mistyped
    | some false => .error (.ofAttribute (.capability v label))
    | some true => .ok { c with value := fun d => if d = capability then v else c.value d }

def assign (c : Capabilities) (label : String) (v : Value) : Except Fault Capabilities :=
  if isNote label then .ok { c with notes := (label, v) :: c.notes }
  else
    match c.notes.lookup rulesLabel with
    | none => c.assignRuled label v
    | some rules =>
      match rules.hasMember? (.text label) with
      | some false => .error (.attribute (.unknown label))
      | _ => .error .mistyped

def entries (c : Capabilities) : List (String × Value) :=
  Capability.all.map fun capability => (capability.label, c.value capability)

def allEntries (c : Capabilities) : List (String × Value) :=
  let noted := (c.notes.map (·.1)).eraseDups
  c.entries ++ noted.map fun label => (label, (c.notes.lookup label).getD .null)

/-- What no note can hide. -/
def fixedValues (c : Capabilities) : List (String × Value) :=
  [("__class__", .text "RigCaps"), ("__weakref__", .null),
   ("__dict__", .table (c.allEntries.map (·.1)) (c.allEntries.map (·.2)))]

/-- What a declaration says of itself, unless a note hides it. -/
def ownValues : List (String × Value) :=
  [("__doc__", .text "Rig capability declaration"), ("__module__", .text "tmv71rig.rig_common")]

def look? (c : Capabilities) (label : String) : Option Value :=
  if isNote label then
    ((c.fixedValues.lookup label).or (c.notes.lookup label)).or (ownValues.lookup label)
  else (Capability.ofLabel? label).map c.value

def hasMember (collection item : Value) : Except Fault Bool :=
  match collection.hasMember? item with
  | some found => .ok found
  | none => .error .mistyped

def canGet (c : Capabilities) (what : Value) : Except Fault Bool := hasMember (c.value .hasGet) what

def canSet (c : Capabilities) (what : Value) : Except Fault Bool := hasMember (c.value .hasSet) what

end Capabilities

end Transceiver
