import Transceiver.Number.Binary64
import Transceiver.Number.Numeral

/-! Decimal numerals: outer white space, a sign, digits of any script with single
underscores between them, an optional fraction and exponent, or the words for
infinity and not-a-number in any case. -/
namespace Transceiver.Number

def isNumeralDigit (c : Char) : Bool := (digit? c).isSome || c == '_'

/-- A row of digits that may be absent; underscores stand only between digits. -/
def optionalDigits? (cs : List Char) : Option (List Nat) :=
  if cs.isEmpty then some [] else groupedDigits? cs

/-- The exponent after an e; nothing means zero. -/
def exponent? : List Char → Option Int
  | [] => some 0
  | e :: rest =>
    if e = 'e' ∨ e = 'E' then
      let (negative, body) := splitSign rest
      (groupedDigits? body).map fun ds => if negative then -(ofDigits ds : Int) else ofDigits ds
    else none

/-- An unsigned numeral: whole digits, fraction, exponent, with a digit on at least one
side of the point. -/
def unsigned? (cs : List Char) : Option Binary64 := do
  let whole ← optionalDigits? (cs.takeWhile isNumeralDigit)
  let rest := cs.dropWhile isNumeralDigit
  let (fraction, tail) ←
    match rest with
    | '.' :: more => do
      let ds ← optionalDigits? (more.takeWhile isNumeralDigit)
      pure (ds, more.dropWhile isNumeralDigit)
    | _ => pure ([], rest)
  if whole.isEmpty && fraction.isEmpty then none
  else
    let e ← exponent? tail
    pure (Binary64.ofScientific (ofDigits (whole ++ fraction)) (e - fraction.length))

def word? (cs : List Char) : Option Binary64 :=
  let w := String.ofList (cs.map Char.toLower)
  if w = "inf" ∨ w = "infinity" then some (.infinite false)
  else if w = "nan" then some .nan
  else none

def readDecimal? (s : String) : Option Binary64 :=
  let (negative, body) := splitSign (trimmedChars s)
  ((word? body).or (unsigned? body)).map fun x => if negative then x.neg else x

end Transceiver.Number
