/-! Double precision numbers as exact rationals. A finite double is its value, and
rounding a rational to the nearest double (ties to the even significand) is the only
place that knows the format. -/
namespace Transceiver.Number

inductive Binary64 where
  | finite (value : Rat)
  | negativeZero
  | infinite (negative : Bool)
  | nan
  deriving DecidableEq

/-- The integer nearest to a rational; a half goes to the even neighbour. -/
def roundHalfEven (q : Rat) : Int :=
  let n := q.floor
  let rest := q - n
  if rest < 1 / 2 then n
  else if 1 / 2 < rest then n + 1
  else if n % 2 = 0 then n else n + 1

/-- The `k` with `2 ^ k ≤ q < 2 ^ (k + 1)`, for a positive `q`. -/
def binaryExponent (q : Rat) : Int :=
  let k : Int := (Nat.log2 q.num.natAbs : Int) - Nat.log2 q.den
  if q < (2 : Rat) ^ k then k - 1 else k

namespace Binary64

/-- Distance between doubles in the binade of a positive rational. -/
def spacing (q : Rat) : Rat := (2 : Rat) ^ (max (binaryExponent q - 52) (-1074))

def ofPositive (q : Rat) : Binary64 :=
  let unit := spacing q
  let value := roundHalfEven (q / unit) * unit
  if value < (2 : Rat) ^ (1024 : Nat) then .finite value else .infinite false

def neg : Binary64 → Binary64
  | .finite value => if value = 0 then .negativeZero else .finite (-value)
  | .negativeZero => .finite 0
  | .infinite negative => .infinite !negative
  | .nan => .nan

def round (q : Rat) : Binary64 :=
  if q = 0 then .finite 0
  else if 0 < q then ofPositive q
  else (ofPositive (-q)).neg

/-- The double nearest to `m · 10 ^ e`. Outside of 400 decimal places either way the
result is zero or infinite, and no power is computed. -/
def ofScientific (m : Nat) (e : Int) : Binary64 :=
  if m = 0 then .finite 0
  else
    let size : Int := (Nat.toDigits 10 m).length + e
    if size < -400 then .finite 0
    else if 400 < size then .infinite false
    else round (m * (10 : Rat) ^ e)

def value? : Binary64 → Option Rat
  | .finite value => some value
  | .negativeZero => some 0
  | .infinite _ => none
  | .nan => none

def isNegative : Binary64 → Bool
  | .finite value => value < 0
  | .negativeZero => true
  | .infinite negative => negative
  | .nan => false

/-- Equality of numbers: the two zeros are equal, and no NaN equals anything. -/
def same : Binary64 → Binary64 → Bool
  | .infinite a, .infinite b => a == b
  | a, b =>
    match a.value?, b.value? with
    | some x, some y => x == y
    | _, _ => false

end Binary64

def truncate (q : Rat) : Int := if 0 ≤ q then q.floor else -(-q).floor

end Transceiver.Number
