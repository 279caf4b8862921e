import Transceiver.Port

/-! A serial port that plays a script: each read brings what the script says, whatever was
written. -/
namespace Transceiver.Simulation

/-- What a read finds when nothing is left over from the one before. -/
inductive Arrival where
  | data (bytes : List UInt8) (ticks : Nat)
  | failure (why : String)
  deriving DecidableEq, Repr

structure Script where
  arrivals : List Arrival
  rest : List UInt8
  /-- Writes that fail, by their number. -/
  writeErrors : List (Nat × String)
  written : List (List UInt8)
  rate : Rate
  deriving DecidableEq

namespace Script

def ofArrivals (arrivals : List Arrival) (writeErrors : List (Nat × String)) : Script :=
  ⟨arrivals, [], writeErrors, [], .count 9600⟩

def write (bytes : List UInt8) (s : Script) : Except WriteFault Unit × Script :=
  let result :=
    match s.writeErrors.lookup s.written.length with
    | some why => .error (.failed why)
    | none => .ok ()
  (result, { s with written := s.written ++ [bytes] })

def read (s : Script) : Reading × Script :=
  if s.rest.isEmpty then
    match s.arrivals with
    | [] => (.arrived [] 1, s)
    | .failure why :: later => (.failed why, { s with arrivals := later })
    | .data bytes ticks :: later =>
      (.arrived (bytes.take chunkSize) ticks, { s with arrivals := later, rest := bytes.drop chunkSize })
  else (.arrived (s.rest.take chunkSize) 0, { s with rest := s.rest.drop chunkSize })

def pendingIn : List Arrival → Nat
  | [] => 0
  | .data bytes _ :: later => bytes.length + 1 + pendingIn later
  | .failure _ :: later => 1 + pendingIn later

def pending (s : Script) : Nat := s.rest.length + pendingIn s.arrivals

theorem read_pending (s : Script) (bytes : List UInt8) (h : s.read.1 = .arrived bytes 0) :
    s.read.2.pending < s.pending := by
  unfold read at h ⊢
  cases left : s.rest with
  | nil =>
    cases coming : s.arrivals with
    | nil => simp [left, coming] at h
    | cons arrival later =>
      cases arrival with
      | failure why => simp [left, coming] at h
      | data found ticks =>
        simp only [pending, pendingIn, left, coming, List.isEmpty_nil, reduceIte,
          List.length_drop, List.length_nil]
        omega
  | cons b more =>
    simp only [pending, left, chunkSize, List.isEmpty_cons, Bool.false_eq_true, reduceIte,
      List.length_drop, List.length_cons]
    omega

def port : Port Script where
  write := write
  read := read
  setRate baud s := { s with rate := baud }
  pending := pending
  read_pending := read_pending

end Script

end Transceiver.Simulation
