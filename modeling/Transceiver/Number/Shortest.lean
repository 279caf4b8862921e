import Transceiver.Number.Binary64
import Transceiver.Number.Digit

/-! Decimal text of doubles: the fewest digits that read back to the same double,
and the text with a fixed number of places. -/
namespace Transceiver.Number

/-- The `k` with `10 ^ k ≤ q < 10 ^ (k + 1)`, for a positive `q`. -/
def decimalExponent (q : Rat) : Int :=
  if 1 ≤ q then (digits q.floor.toNat).length - 1
  else -((digits ((1 / q).ceil.toNat - 1)).length : Int)

/-- The two neighbours of a positive rational on the grid of `count` significant
digits, the nearer one first; a tie goes to the even digit. -/
def gridNeighbours (q : Rat) (count : Nat) : List (Nat × Int) :=
  let place := decimalExponent q - (count - 1 : Int)
  let scaled := q / (10 : Rat) ^ place
  let near := roundHalfEven scaled
  let far := if near ≤ scaled then near + 1 else near - 1
  [(near.toNat, place), (far.toNat, place)]

/-- The candidates in order: fewer digits first, then the nearer neighbour. -/
def shortestCandidates (q : Rat) : List (Nat × Int) :=
  (List.range 17).flatMap fun i => gridNeighbours q (i + 1)

/-- A number `m · 10 ^ e` with the fewest digits among those that round to the
positive double `q`, and the nearest of these. Seventeen digits always suffice. -/
def shortest (q : Rat) : Nat × Int :=
  let readsBack := fun ((m, e) : Nat × Int) =>
    decide (Binary64.round (m * (10 : Rat) ^ e) = .finite q)
  ((shortestCandidates q).find? readsBack).getD (roundHalfEven q |>.toNat, 0)

def dropTrailingZeros (cs : List Char) : List Char := (cs.reverse.dropWhile (· == '0')).reverse

/-- Where positional notation ends: a number with decimal exponent from `lowest` up to
but not including `limit` is written without an exponent. -/
structure DecimalForm where
  lowest : Int
  limit : Int
  exponentDigits : Nat

/-- Positional from 10^-4 up to 10^16; exponents have a sign and at least two digits. -/
def DecimalForm.general : DecimalForm := ⟨-4, 16, 2⟩

/-- The text of digits `d.ddd · 10 ^ exponent`. -/
def DecimalForm.text (form : DecimalForm) (ds : List Char) (exponent : Int) : List Char :=
  if form.lowest ≤ exponent ∧ exponent < form.limit then
    if exponent < 0 then
      '0' :: '.' :: List.replicate (-exponent - 1).toNat '0' ++ ds
    else
      let whole := exponent.toNat + 1
      let fraction := ds.drop whole
      ds.take whole ++ List.replicate (whole - ds.length) '0' ++ '.' ::
        (if fraction.isEmpty then ['0'] else fraction)
  else
    let fraction := ds.drop 1
    ds.take 1 ++ (if fraction.isEmpty then [] else '.' :: fraction) ++
      'e' :: (if exponent < 0 then '-' else '+') ::
      (padded form.exponentDigits exponent.natAbs).toList

def positiveText (q : Rat) : List Char :=
  let (m, place) := shortest q
  let all := digits m
  DecimalForm.general.text (dropTrailingZeros all) (place + all.length - 1)

namespace Binary64

def text : Binary64 → String
  | .finite value =>
    if value = 0 then "0.0"
    else if value < 0 then .ofList ('-' :: positiveText (-value))
    else .ofList (positiveText value)
  | .negativeZero => "-0.0"
  | .infinite true => "-inf"
  | .infinite false => "inf"
  | .nan => "nan"

/-- The text of a magnitude with a fixed number of places; a half goes to the even digit. -/
def placesText (places : Nat) (magnitude : Rat) : String :=
  let unit := Nat.pow 10 places
  let scaled := (roundHalfEven (magnitude * unit)).toNat
  .ofList (digits (scaled / unit)) ++ "." ++ padded places (scaled % unit)

/-- The text with a fixed, positive number of places. The sign of a negative number
stays when its digits round to zero. -/
def fixedText (places : Nat) (x : Binary64) : String :=
  match x.value? with
  | some value =>
    let magnitude := if value < 0 then -value else value
    (if x.isNegative then "-" else "") ++ placesText places magnitude
  | none => x.text

end Binary64

end Transceiver.Number
