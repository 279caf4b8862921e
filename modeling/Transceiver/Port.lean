import Transceiver.Log
import Transceiver.Rate

/-! A serial port: a state that bytes are written to and read from. Reading takes time,
counted in ticks of an eighth of a second. -/
namespace Transceiver

inductive Reading where
  | arrived (bytes : List UInt8) (ticks : Nat)
  | failed (why : String)

/-- Why a write fails: the port reports it, or the other end has an answer that the line cannot
spell. -/
inductive WriteFault where
  | failed (why : String)
  | unspellable
  deriving DecidableEq, Repr

/-- Bytes asked for in one read. -/
def chunkSize : Nat := 8

/-- A read that takes no time uses up something that was pending, so only finitely many
of them happen at one instant. -/
structure Port (σ : Type) where
  write : List UInt8 → σ → Except WriteFault Unit × σ
  read : σ → Reading × σ
  setRate : Rate → σ → σ
  pending : σ → Nat
  read_pending : ∀ s bytes, (read s).1 = .arrived bytes 0 → pending (read s).2 < pending s

inductive Event where
  | wrote (bytes : List UInt8)
  | rate (baud : Rate)
  | noted (record : LogRecord)

namespace Event

def bytes? : Event → Option (List UInt8)
  | .wrote bytes => some bytes
  | _ => none

def record? : Event → Option LogRecord
  | .noted record => some record
  | _ => none

def rate? : Event → Option Rate
  | .rate baud => some baud
  | _ => none

end Event

structure Outcome (σ α : Type) where
  result : Except Fault α
  history : List Event
  port : σ

namespace Outcome

variable {σ α : Type}

/-- The writes in order, those that failed included. -/
def writes (o : Outcome σ α) : List (List UInt8) := o.history.filterMap Event.bytes?

def log (o : Outcome σ α) : List LogRecord := o.history.filterMap Event.record?

def rates (o : Outcome σ α) : List Rate := o.history.filterMap Event.rate?

def after (earlier : List Event) (o : Outcome σ α) : Outcome σ α :=
  { o with history := earlier ++ o.history }

end Outcome

end Transceiver
