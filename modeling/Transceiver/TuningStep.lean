import Transceiver.Value

/-! The tuning steps. A record names a step by its place in the table. -/
namespace Transceiver

open Number (Binary64)

/-- The steps in hundredths of a kilohertz. -/
def stepHundredths : Vector Nat 11 :=
  #v[500, 625, 833, 1000, 1250, 1500, 2000, 2500, 3000, 5000, 10000]

def tuningSteps : Vector Binary64 11 := stepHundredths.map fun (s : Nat) => .round ((s : Rat) / 100)

def stepIndex? (v : Value) : Option (Fin 11) := tuningSteps.findFinIdx? fun s => (Value.float s).same v

end Transceiver
