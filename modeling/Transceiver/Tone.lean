import Transceiver.Value

/-! The CTCSS tones and DCS codes that the radio can store. A record names a tone or
code by its place in the table. -/
namespace Transceiver

open Number (Binary64)

/-- The tones in tenths of a hertz. -/
def toneTenths : Vector Nat 42 :=
  #v[670, 693, 719, 744, 770, 797, 825, 854, 885, 915, 948, 974, 1000, 1035,
     1072, 1109, 1148, 1188, 1230, 1273, 1318, 1365, 1413, 1462, 1514, 1567,
     1622, 1679, 1738, 1799, 1862, 1928, 2035, 2065, 2107, 2181, 2257, 2291,
     2336, 2418, 2503, 2541]

def tones : Vector Binary64 42 := toneTenths.map fun (t : Nat) => .round ((t : Rat) / 10)

def dcsCodes : Vector Nat 104 :=
  #v[23, 25, 26, 31, 32, 36, 43, 47, 51, 53, 54,
     65, 71, 72, 73, 74, 114, 115, 116, 122, 125, 131,
     132, 134, 143, 145, 152, 155, 156, 162, 165, 172, 174,
     205, 212, 223, 225, 226, 243, 244, 245, 246, 251, 252,
     255, 261, 263, 265, 266, 271, 274, 306, 311, 315, 325,
     331, 332, 343, 346, 351, 356, 364, 365, 371, 411, 412,
     413, 423, 431, 432, 445, 446, 452, 454, 455, 462, 464,
     465, 466, 503, 506, 516, 523, 526, 532, 546, 565, 606,
     612, 624, 627, 631, 632, 654, 662, 664, 703, 712, 723,
     731, 732, 734, 743, 754]

def toneIndex? (v : Value) : Option (Fin 42) := tones.findFinIdx? fun t => (Value.float t).same v

def dcsIndex? (v : Value) : Option (Fin 104) := dcsCodes.findFinIdx? fun c => (Value.ofNat c).same v

/-- A tone that some radio may use: a floating-point value strictly between 50 and 300 Hz. -/
def isToneFrequency : Value → Bool
  | .float (.finite value) => 50 < value && value < 300
  | _ => false

end Transceiver
