import Transceiver.Number.Digit
import Transceiver.Text.Blank

/-! Whole numerals. The free form allows outer white space, a sign, digits of any
script, and single underscores between digits; the strict form is ASCII digits only. No
form has more than 4300 digits. -/
namespace Transceiver.Number

/-- Digits with single underscores between them. -/
def groupedDigits? : List Char → Option (List Nat)
  | [] => none
  | [c] => (digit? c).map ([·])
  | c :: '_' :: rest => do return (← digit? c) :: (← groupedDigits? rest)
  | c :: rest => do return (← digit? c) :: (← groupedDigits? rest)

/-- Splits off a sign; the first component says that it is a minus. -/
def splitSign : List Char → Bool × List Char
  | '-' :: rest => (true, rest)
  | '+' :: rest => (false, rest)
  | cs => (false, cs)

/-- The characters of a numeral without the white space around them. Information separators
are blanks elsewhere, but not around a numeral. -/
def trimmedChars (s : String) : List Char :=
  ((s.toList.dropWhile Text.isWhiteSpace).reverse.dropWhile Text.isWhiteSpace).reverse

/-- The most digits that a whole numeral may have, zeros in front included. -/
def maxDigits : Nat := 4300

/-- The value of a row of digits, if it is not too long. -/
def ofRow? (digits : List Nat) : Option Nat :=
  if digits.length ≤ maxDigits then some (ofDigits digits) else none

def readInt? (s : String) : Option Int :=
  let (negative, body) := splitSign (trimmedChars s)
  ((groupedDigits? body).bind ofRow?).map fun n => if negative then -(n : Int) else n

/-- Whether an integer has few enough digits to be written. -/
def isWritable (n : Int) : Bool := (digits n.natAbs).length ≤ maxDigits

/-- A text for an integer, given how integers are written. One with too many digits has none. -/
def written? (write : Int → String) (n : Int) : Option String :=
  if isWritable n then some (write n) else none

theorem isWritable_iff {n : Int} : isWritable n = true ↔ (digits n.natAbs).length ≤ maxDigits :=
  decide_eq_true_iff

theorem isWritable_of_lt {n count : Nat} (some : 0 < count) (few : count ≤ maxDigits)
    (below : n < Nat.pow 10 count) : isWritable n = true := by
  rw [isWritable_iff, Int.natAbs_natCast]
  exact Nat.le_trans ((Nat.length_toDigits_le_iff (by decide) some).mpr below) few

theorem pow_le_of_unwritable {n count : Nat} (some : 0 < count) (few : count ≤ maxDigits)
    (long : isWritable n = false) : Nat.pow 10 count ≤ n := by
  refine Nat.le_of_not_lt fun below => ?_
  rw [isWritable_of_lt some few below] at long
  cases long

/-- The first number with so many digits is one digit too long. -/
theorem isWritable_power {count : Nat} (some : 0 < count) (long : maxDigits ≤ count) :
    isWritable (Nat.pow 10 count : Nat) = false := by
  refine Bool.eq_false_iff.mpr fun writable => ?_
  have short := isWritable_iff.mp writable
  rw [Int.natAbs_natCast] at short
  have less := (Nat.length_toDigits_le_iff (by decide) some).mp (Nat.le_trans short long)
  exact Nat.lt_irrefl _ less

theorem written?_eq_some {write : Int → String} {n : Int} {text : String} :
    written? write n = some text ↔ isWritable n = true ∧ write n = text := by
  unfold written?
  split <;> simp [*]

def digitRow? (s : String) : Option (List Nat) :=
  match s.toList with
  | [] => none
  | cs => cs.mapM asciiDigit?

end Transceiver.Number
