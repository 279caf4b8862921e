import Transceiver.Value

/-! The two bands of the radio. Each is kept in memory mode, and one memory channel
stands in for its VFO, so that a VFO can be set to any frequency the radio stores. -/
namespace Transceiver

inductive Band where
  | a
  | b
  deriving DecidableEq, Repr

namespace Band

def all : List Band := [.a, .b]

def index : Band → Fin 2
  | .a => 0
  | .b => 1

def ofIndex : Fin 2 → Band
  | 0 => .a
  | 1 => .b

def vfo : Band → String
  | .a => "VFOA"
  | .b => "VFOB"

/-- The memory channel that stands in for the VFO. -/
def channel : Band → Fin 1000
  | .a => 998
  | .b => 999

def other : Band → Band
  | .a => .b
  | .b => .a

def ofVfo? (name : String) : Option Band := all.find? (·.vfo == name)

def ofChannel? (number : Fin 1000) : Option Band := all.find? (·.channel == number)

def ofValue? (v : Value) : Option Band := (v.below? 2).map ofIndex

@[simp] theorem ofIndex_index (band : Band) : ofIndex band.index = band := by cases band <;> rfl

@[simp] theorem ofVfo?_vfo (band : Band) : ofVfo? band.vfo = some band := by cases band <;> decide

@[simp] theorem ofChannel?_channel (band : Band) : ofChannel? band.channel = some band := by
  cases band <;> decide

@[simp] theorem other_other (band : Band) : band.other.other = band := by cases band <;> rfl

end Band

/-- The names a host may use for a VFO: the two VFOs, the current one, the memory of
the current band, and VFO mode. -/
def vfoNames : List String := ["VFOA", "VFOB", "currVFO", "MEM", "VFO"]

end Transceiver
