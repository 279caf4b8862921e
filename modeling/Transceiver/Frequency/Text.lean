import Transceiver.Number.Numeral
import Transceiver.Text.Fields

/-! Frequencies as text. A frequency is written in megahertz with six places; it is read
in megahertz, with or without the unit, or in whole kilohertz. -/
namespace Transceiver.Frequency

/-- Why a text is no frequency: it has more than six places, or it is no numeral. -/
inductive Unreadable where
  | places (fraction : String)
  | numeral
  deriving DecidableEq, Repr

/-- Hertz as megahertz; the whole part is rounded down, so the places are never negative. -/
def format (hertz : Int) : String :=
  Number.showInt (hertz.fdiv 1000000) ++ "." ++ Number.padded 6 (hertz.fmod 1000000).toNat

def isWritable (hertz : Int) : Bool := Number.isWritable (hertz.fdiv 1000000)

def readWhole (s : String) : Except Unreadable Int :=
  match Number.readInt? s with
  | some n => .ok n
  | none => .error .numeral

/-- Megahertz without a unit. A missing whole part is zero, and missing places are zeros. -/
def readMegahertz (s : String) : Except Unreadable Int :=
  match Text.fields '.' s with
  | [whole] => return (← readWhole whole) * 1000000
  | [whole, fraction] => do
    let fraction := Text.padEnd 6 '0' fraction
    if 6 < fraction.length then throw (.places fraction)
    let mega ← if whole = "" then pure 0 else readWhole whole
    return mega * 1000000 + (← readWhole fraction)
  | _ => throw .numeral

/-- A blank text is zero. Before a unit only the text up to the first space counts. -/
def read (s : String) : Except Unreadable Int :=
  let s := Text.trim s
  if s = "" then .ok 0
  else if Text.endsWith " MHz" s then readMegahertz (Text.trim (Text.cut ' ' s).1)
  else if Text.endsWith " kHz" s then return (← readWhole (Text.cut ' ' s).1) * 1000
  else readMegahertz s

end Transceiver.Frequency
