import Transceiver.Port
import Transceiver.Simulation.Radio

/-! A simulated radio at the other end of a serial port, with faults that can be put into
the line: commands that stay unanswered, writes and reads that fail, forced answers, and
a radio that is deaf at all rates but one. -/
namespace Transceiver.Simulation

open Text

/-- What happens to one occurrence of a command. -/
inductive LineFault where
  | silent
  | writeError
  | readError
  | none
  deriving DecidableEq, Repr

structure Bench where
  radio : Radio
  replies : List (String × String)
  faults : List (String × List LineFault)
  onlyRate : Option Rate
  rate : Rate
  readFails : Bool
  /-- Bytes of a command that is not yet ended. -/
  unfinished : List UInt8
  /-- Answers on their way to the host. -/
  queue : List UInt8
  commands : List String
  deriving DecidableEq

namespace Bench

def ofRadio (radio : Radio) : Bench where
  radio
  replies := []
  faults := []
  onlyRate := none
  rate := .count 9600
  readFails := false
  unfinished := []
  queue := []
  commands := []

def initial : Bench := ofRadio .initial

def record (s : Bench) (command : String) : Bench := { s with commands := s.commands ++ [command] }

def queueReply (s : Bench) (reply : String) : Except WriteFault Unit × Bench :=
  match CodePage.encode reply with
  | .ok bytes => (.ok (), { s with queue := s.queue ++ bytes ++ [13] })
  | .error _ => (.error .unspellable, s)

/-- Takes in one command. A forced answer keeps the radio as it is. -/
def takeCommand (s : Bench) (command : String) : Except WriteFault Unit × Bench :=
  let s := s.record command
  match s.replies.lookup command with
  | some reply => s.queueReply reply
  | none =>
    let (reply, radio) := s.radio.answer command
    { s with radio }.queueReply reply

def commandText (bytes : List UInt8) : String := (CodePage.decode bytes).getD ""

/-- Takes in commands one after the other; the last piece is not yet ended. An answer that cannot
be spelled leaves the pieces after its command for later. -/
def takePieces : List (List UInt8) → Bench → Except WriteFault Unit × Bench
  | [], s => (.ok (), s)
  | [unfinished], s => (.ok (), { s with unfinished })
  | piece :: rest, s =>
    match s.takeCommand (commandText piece) with
    | (.ok (), s) => takePieces rest s
    | (.error why, s) => (.error why, { s with unfinished := [13].intercalate rest })

def takeBytes (s : Bench) (bytes : List UInt8) : Except WriteFault Unit × Bench :=
  takePieces ((s.unfinished ++ bytes).splitOn 13) s

/-- The fault that awaits a command, and the faults that remain. -/
def takeFault (command : String) :
    List (String × List LineFault) → LineFault × List (String × List LineFault)
  | [] => (.none, [])
  | (key, faults) :: rest =>
    if key = command then
      match faults with
      | [] => (.none, (key, []) :: rest)
      | fault :: more => (fault, (key, more) :: rest)
    else
      let (fault, rest) := takeFault command rest
      (fault, (key, faults) :: rest)

def write (bytes : List UInt8) (s : Bench) : Except WriteFault Unit × Bench :=
  if s.onlyRate.any (!s.rate.same ·) then (.ok (), s)
  else
    let command := commandText bytes.dropLast
    let (fault, faults) := takeFault command s.faults
    let s := { s with faults }
    match fault with
    | .silent => (.ok (), s.record command)
    | .writeError => (.error (.failed "write failed"), s)
    | .readError => (.ok (), { s.record command with readFails := true })
    | .none => s.takeBytes bytes

/-- An empty read takes one tick. -/
def read (s : Bench) : Reading × Bench :=
  if s.readFails then (.failed "read failed", { s with readFails := false })
  else
    (.arrived (s.queue.take chunkSize) (if s.queue.isEmpty then 1 else 0),
      { s with queue := s.queue.drop chunkSize })

theorem read_pending (s : Bench) (bytes : List UInt8) (h : s.read.1 = .arrived bytes 0) :
    s.read.2.queue.length < s.queue.length := by
  unfold read at h ⊢
  split at h
  · simp at h
  · rename_i healthy
    cases waiting : s.queue with
    | nil => simp [waiting] at h
    | cons b rest =>
      simp only [healthy, Bool.false_eq_true, if_false, List.length_drop, List.length_cons, chunkSize]
      omega

def port : Port Bench where
  write := write
  read := read
  setRate baud s := { s with rate := baud }
  pending s := s.queue.length
  read_pending := read_pending

end Bench

end Transceiver.Simulation
