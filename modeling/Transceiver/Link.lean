import Transceiver.Port
import Transceiver.Record.Field

/-! The request and response link. Every command is a line ended by a carriage return and
is answered by one such line. A command whose answer does not arrive in time is sent
again, a limited number of times; any other failure ends the exchange. -/
namespace Transceiver

variable {σ : Type}

def terminator : Char := '\r'

/-- How long an answer is waited for, in ticks, and how often a command is repeated. -/
structure Link where
  patience : Int
  retries : Int
  /-- The number of repetitions as it was given, for the notes about them. -/
  announced : Rate := .count retries
  deriving DecidableEq

/-- Ticks in the given number of seconds, rounded down. A wait without end is taken to
last a thousand million ticks, which is close to four years. -/
def ticksOfSeconds (seconds : Number.Binary64) : Int :=
  match seconds with
  | .infinite true => -1
  | x =>
    match x.value? with
    | some q => min (q * 8).floor 1000000000
    | none => 1000000000

def noteDebug (message : String) : Event := .noted ⟨Source.link, Level.debug, message⟩

/-- Reads until the text holds a terminator or the time is up. A read that ends too late
counts as too late, whatever it brings. -/
def Port.collect (port : Port σ) (patience : Int) (command : String) (elapsed : Nat)
    (text : String) (s : σ) : Except Fault String × σ :=
  match _ : port.read s with
  | (.failed why, s) => (.error (.radio (.readFailed why)), s)
  | (.arrived bytes ticks, s') =>
    match Text.CodePage.decode bytes with
    | none => (.error .undecodable, s')
    | some more =>
      if patience < (elapsed + ticks : Nat) then (.error (.radio (.timeout command)), s')
      else if Text.contains (text ++ more) terminator then (.ok (text ++ more), s')
      else port.collect patience command (elapsed + ticks) (text ++ more) s'
termination_by ((patience + 1 - elapsed).toNat, port.pending s)
decreasing_by
  rename_i reading late _
  by_cases now : ticks = 0
  · subst now
    have less := port.read_pending s bytes (by rw [reading])
    rw [reading] at less
    simp only [Nat.add_zero]
    exact Prod.Lex.right _ less
  · exact Prod.Lex.left _ _ (by omega)

def answerOf (text : String) : String × List Event :=
  let (front, rest) := Text.cut terminator text
  let extra := rest.getD ""
  let answer := Text.trim front
  (answer,
    (if extra = "" then [] else [noteDebug ("Discarding trailing data " ++ Text.quoted extra)]) ++
      [noteDebug ("RADIO->PC: " ++ Text.quoted answer)])

def WriteFault.fault : WriteFault → Fault
  | .failed why => .radio (.writeFailed why)
  | .unspellable => .unencodable

def Port.attempt (port : Port σ) (patience : Int) (command : String) (s : σ) : Outcome σ String :=
  let sending := noteDebug ("PC->RADIO: " ++ command)
  let text := command ++ terminator.toString
  match Text.CodePage.encode text with
  | .error u => ⟨.error (.argument (.unspellable (Text.trim text) u)), [sending], s⟩
  | .ok bytes =>
    match port.write bytes s with
    | (.error why, s) => ⟨.error why.fault, [sending, .wrote bytes], s⟩
    | (.ok (), s) =>
      match port.collect patience command 0 "" s with
      | (.error why, s) => ⟨.error why, [sending, .wrote bytes], s⟩
      | (.ok text, s) =>
        let (answer, notes) := answerOf text
        ⟨.ok answer, sending :: .wrote bytes :: notes, s⟩

namespace Link

def retryNote (command : String) (repetition : Nat) (retries : String) : Event :=
  .noted ⟨Source.link, Level.warning,
    "No reply to " ++ command ++ ", retrying (" ++ Number.showNat repetition ++ "/" ++ retries ++ ")"⟩

/-- Attempts until one does not end in a timeout; `repetition` is the number that the next repetition
has. Each is announced before it is made, with the number of them all, which has to be written. -/
def attempts (link : Link) (port : Port σ) (command : String) (repetition : Nat) :
    (left : Nat) → σ → Outcome σ String
  | 0, s => port.attempt link.patience command s
  | left + 1, s =>
    let first := port.attempt link.patience command s
    match first.result with
    | .error (.radio (.timeout _)) =>
      match link.announced.value.wholeText with
      | .error why => { first with result := .error why }
      | .ok retries =>
        (link.attempts port command (repetition + 1) left first.port).after
          (first.history ++ [retryNote command repetition retries])
    | _ => first

def accepted (command answer : String) : Except Fault String :=
  if Record.isRefusal answer then .error (.radio (.refused command answer)) else .ok answer

def exchange (link : Link) (port : Port σ) (command : String) (s : σ) : Outcome σ String :=
  let last := link.attempts port command 1 link.retries.toNat s
  { last with result := last.result.bind (accepted command) }

/-- The radio's answer to a value, which has to be a text to be sent. -/
def exchangeValue (link : Link) (port : Port σ) (v : Value) (s : σ) : Outcome σ String :=
  match v with
  | .text command => link.exchange port command s
  | v =>
    if v.isWritable then ⟨.error .mistyped, [noteDebug ("PC->RADIO: " ++ v.shown)], s⟩
    else ⟨.error .notInteger, [], s⟩

end Link

end Transceiver
