import Transceiver.Number.Binary64

/-! Arithmetic of doubles: each operation rounds its exact result. Division by a positive unit
splits a number into a whole quotient, rounded down, and a rest; either is rounded on the way,
so a tiny negative number has a whole unit as its rest. -/
namespace Transceiver.Number.Binary64

/-- Rounds an exact result; a zero has the given sign. -/
def ofExact (negativeZero : Bool) (q : Rat) : Binary64 :=
  if q = 0 then (if negativeZero then .negativeZero else .finite 0) else round q

/-- The value of the double nearest to a rational, or the rational itself beyond them all. -/
def nearby (q : Rat) : Rat := (round q).value?.getD q

def isNaN : Binary64 → Bool
  | .nan => true
  | _ => false

def add (x y : Binary64) : Binary64 :=
  match x.value?, y.value? with
  | some p, some q => ofExact (x.isNegative && y.isNegative) (p + q)
  | some _, none => y
  | none, some _ => x
  | none, none => if x.isNaN || y.isNaN || x.isNegative != y.isNegative then .nan else x

def sub (x y : Binary64) : Binary64 := x.add y.neg

def mul (x y : Binary64) : Binary64 :=
  let negative := x.isNegative != y.isNegative
  match x.value?, y.value? with
  | some p, some q => ofExact negative (p * q)
  | p, q =>
    if x.isNaN || y.isNaN || p.any (· == 0) || q.any (· == 0) then .nan else .infinite negative

def abs (x : Binary64) : Binary64 := if x.isNegative then x.neg else x

/-- The order of numbers; no NaN is less than anything, nor anything less than it. -/
def less (x y : Binary64) : Bool :=
  match x.value?, y.value? with
  | some p, some q => p < q
  | some _, none => !y.isNaN && !y.isNegative
  | none, some _ => x.isNegative
  | none, none => !y.isNaN && x.isNegative && !y.isNegative

/-- What is left of a rational after whole units are taken away, with its sign. -/
def leftOver (q : Rat) (unit : Nat) : Rat := q - truncate (q / unit) * unit

def floorMod (x : Binary64) (unit : Nat) : Binary64 :=
  match x.value? with
  | none => .nan
  | some q =>
    let rest := leftOver q unit
    ofExact false (if rest < 0 then rest + unit else rest)

/-- The integer that a quotient close to an integer stands for. -/
def snapQuotient (quotient : Rat) : Int :=
  let whole := quotient.floor
  if 1 / 2 < quotient - whole then whole + 1 else whole

def floorDiv (x : Binary64) (unit : Nat) : Binary64 :=
  match x.value? with
  | none => .nan
  | some q =>
    let rest := leftOver q unit
    let quotient := nearby (nearby (q - rest) / unit)
    ofExact x.isNegative (snapQuotient (if rest < 0 then nearby (quotient - 1) else quotient))

end Transceiver.Number.Binary64
