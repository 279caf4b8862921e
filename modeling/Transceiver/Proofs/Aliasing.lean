import Transceiver.Proofs.Selecting
import Transceiver.Proofs.SideBySide

/-! The current VFO as an alias. Over a quiet line a request about the current VFO is the request about
the VFO of the band in control, with at most one question before it. -/
namespace Transceiver

open Dialogue Record Simulation

/-- What a host may do with a VFO that it names in the call. -/
inductive VfoUse where
  | change (change : Change)
  | query (change : Change)
  | place (number : Value)
  | memory
  | signal

/-- The changes that split directs to a VFO of its own. -/
def Change.directed : Change → Bool
  | .frequency _ _ | .mode _ => true
  | .setting _ _ => false

namespace VfoUse

def request (vfo : Value) : VfoUse → Request
  | .change c => c.request vfo
  | .query c => c.query vfo
  | .place number => .setMemory vfo number
  | .memory => .memory vfo
  | .signal => .hearsSignal vfo

end VfoUse

namespace Change

variable {r : Rig} {session : Session} (opened : r.session = some session) {change : Change}

include opened

end Change

section
variable {α β : Type} {link : Link} (patient : 0 ≤ link.patience) {s : Bench} (quiet : s.Quiet)

include patient quiet

end

namespace Rig

section
variable {radio : Radio} {told : BandControl}
  (control : radio.control = (told.control.index.val : Int))
  (transmit : radio.transmit = (told.transmit.index.val : Int))
  {vfo : Value} (current : vfo ∈ currentVfos)

include control transmit current

end

section
variable {link : Link} (patient : 0 ≤ link.patience) {r : Rig} {session : Session}
  (opened : r.session = some session) {s : Bench} (quiet : s.Quiet) {told : BandControl}
  (control : s.radio.control = (told.control.index.val : Int))
  (transmit : s.radio.transmit = (told.transmit.index.val : Int))
  {vfo : Value} (current : vfo ∈ currentVfos)

include patient quiet control transmit current

include opened

end

end Rig

end Transceiver
