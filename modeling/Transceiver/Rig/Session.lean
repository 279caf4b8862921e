import Transceiver.Fault

/-! A rig and its session. The session holds what the host last asked for: the VFOs that
transmit and receive, and whether they are split. -/
namespace Transceiver

structure Session where
  transmit : Band
  receive : Band
  split : Bool
  deriving DecidableEq, Repr

namespace Session

def initial : Session := ⟨.a, .a, false⟩

def text (s : Session) : String :=
  "<SplitState tx=" ++ s.transmit.vfo ++ " rx=" ++ s.receive.vfo ++ " split=" ++
    (Value.bool s.split).shown ++ ">"

/-- Both VFOs become the selected one, unless split keeps them apart. -/
def select (s : Session) (band : Band) : Session :=
  if s.split then s else { s with transmit := band, receive := band }

/-- Transmits on one band and receives on the other. -/
def splitOn (band : Band) : Session := ⟨band, band.other, true⟩

def splitOff (s : Session) : Session := { s with split := false }

/-- Follows the radio to another transmitting band. -/
def adopt (s : Session) (band : Band) : Session := { s with transmit := band, receive := band.other }

end Session

/-- What to do when the radio transmits on another band than the session says: warn
about it, or warn and follow the radio. -/
inductive Policy where
  | warn
  | adopt
  deriving DecidableEq, Repr

namespace Policy

def all : List Policy := [.warn, .adopt]

def name : Policy → String
  | .warn => "warn"
  | .adopt => "adopt"

/-- The policy that a value stands for. A value that names none only warns. -/
def ofValue (v : Value) : Policy := if v.same (.text "adopt") then .adopt else .warn

def check (v : Value) : Except ArgumentFault Policy :=
  if all.any fun p => v.same (.text p.name) then .ok (ofValue v) else .error (.policy v)

end Policy

/-- A closed rig has no session. -/
structure Rig where
  policy : Policy
  session : Option Session
  deriving DecidableEq, Repr

namespace Rig

def closed (policy : Policy) : Rig := ⟨policy, none⟩

def opened (r : Rig) : Rig := { r with session := some .initial }

def close (r : Rig) : Rig := { r with session := none }

def openSession (r : Rig) : Except RadioFault Session :=
  match r.session with
  | some s => .ok s
  | none => .error .notOpen

end Rig

end Transceiver
