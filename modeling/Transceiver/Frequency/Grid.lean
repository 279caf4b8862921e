/-! The grids of frequencies that the radio can store: 5 kHz and 6.25 kHz below 470 MHz,
10 kHz from there up. -/
namespace Transceiver.Frequency

/-- The multiple of `grid` nearest to `hertz`; of two the upper one. -/
def nearest (hertz grid : Int) : Int := (hertz + grid.fdiv 2).fdiv grid * grid

def coarseThreshold : Int := 470000000

/-- A storable frequency and the code of the tuning step that it is stored with. -/
structure Snapped where
  hertz : Int
  step : Fin 11
  deriving DecidableEq, Repr

/-- The code of the step of 5 kHz. -/
def fiveStep : Fin 11 := 0

/-- The code of the step of 6.25 kHz. -/
def sixStep : Fin 11 := 1

/-- The code of the step that frequencies on the coarse grid are stored with. -/
def coarseStep : Fin 11 := 4

/-- The closer of the 5 kHz and the 6.25 kHz grid, and 5 kHz if both are equally close. -/
def snapFine (hertz : Int) : Snapped :=
  let five := nearest hertz 5000
  let six := nearest hertz 6250
  if (six - hertz).natAbs < (five - hertz).natAbs then ⟨six, sixStep⟩ else ⟨five, fiveStep⟩

/-- The closest storable frequency. The fine grids decide which side of the threshold
it lies on. -/
def snap (hertz : Int) : Snapped :=
  let fine := snapFine hertz
  if coarseThreshold ≤ fine.hertz then ⟨nearest hertz 10000, coarseStep⟩ else fine

/-- The ranges, in hertz and with both ends, that the receiver covers. -/
def receiveRanges : List (Nat × Nat) :=
  [(118000000, 470000000), (136000000, 174000000), (300000000, 524000000),
   (800000000, 1300000000)]

def transmitRanges : List (Nat × Nat) := [(144000000, 148000000), (430000000, 450000000)]

def receivable (hertz : Int) : Bool := receiveRanges.any fun (low, high) => low ≤ hertz && hertz ≤ high

end Transceiver.Frequency
