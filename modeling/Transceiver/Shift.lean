import Transceiver.Value

/-! Repeater shift: none, up or down. The radio's records have room for ten codes, of
which three have a meaning. -/
namespace Transceiver

inductive Shift where
  | simplex
  | up
  | down
  deriving DecidableEq, Repr

namespace Shift

def name : Shift → String
  | .simplex => ""
  | .up => "+"
  | .down => "-"

def code : Shift → Fin 10
  | .simplex => 0
  | .up => 1
  | .down => 2

def all : List Shift := [.simplex, .up, .down]

def ofName? (s : String) : Option Shift := all.find? (·.name == s)

def ofCode? (n : Fin 10) : Option Shift := all.find? (·.code == n)

@[simp] theorem ofName?_name (s : Shift) : ofName? s.name = some s := by cases s <;> decide

@[simp] theorem ofCode?_code (s : Shift) : ofCode? s.code = some s := by cases s <;> decide

end Shift

end Transceiver
