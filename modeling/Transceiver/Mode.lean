import Transceiver.Value

/-! Modulation modes. FM is understood as narrow FM. -/
namespace Transceiver

inductive Mode where
  | wide
  | narrow
  | am
  deriving DecidableEq, Repr

namespace Mode

def name : Mode → String
  | .wide => "WFM"
  | .narrow => "NFM"
  | .am => "AM"

def code : Mode → Fin 3
  | .wide => 0
  | .narrow => 1
  | .am => 2

def ofCode : Fin 3 → Mode
  | 0 => .wide
  | 1 => .narrow
  | 2 => .am

/-- Passband in hertz. -/
def passband : Mode → Nat
  | .wide => 15000
  | .narrow => 5000
  | .am => 4000

def ofName? (s : String) : Option Mode :=
  if s = "WFM" then some .wide
  else if s = "NFM" ∨ s = "FM" then some .narrow
  else if s = "AM" then some .am
  else none

def all : List Mode := [.wide, .narrow, .am]

def names : List String := ["WFM", "NFM", "AM", "FM"]

@[simp] theorem ofCode_code (m : Mode) : ofCode m.code = m := by cases m <;> rfl

@[simp] theorem ofName?_name (m : Mode) : ofName? m.name = some m := by cases m <;> decide

end Mode

end Transceiver
