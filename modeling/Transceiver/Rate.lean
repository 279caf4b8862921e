import Transceiver.Fault
import Transceiver.Number.Arithmetic

/-! Rates of a serial port. A rate is a number, and a port keeps it in the kind in which it was
given; rates of different kinds may be the same. -/
namespace Transceiver

open Number (Binary64)

def Value.wholePart : Value → Except Fault Int
  | .float (.infinite _) => .error .unbounded
  | .float x =>
    match x.value? with
    | some q => .ok (Number.truncate q)
    | none => .error .notInteger
  | v =>
    match v.int? with
    | some n => .ok n
    | none => .error .mistyped

def Value.wholeText (v : Value) : Except Fault String := do
  match Number.written? Number.showInt (← v.wholePart) with
  | some digits => return digits
  | none => throw .notInteger

theorem Value.wholeText_int (n : Int) : (int n).wholeText =
    if Number.isWritable n then .ok (Number.showInt n) else .error .notInteger := by
  unfold wholeText Number.written?
  by_cases short : Number.isWritable n = true
  · rw [if_pos short]
    dsimp only [wholePart, int?, bind, Except.bind]
    rw [if_pos short]
    rfl
  · rw [if_neg short]
    dsimp only [wholePart, int?, bind, Except.bind]
    rw [if_neg short]
    rfl

inductive Rate where
  | count (n : Int)
  | flag (b : Bool)
  | measure (x : Binary64)
  deriving DecidableEq

namespace Rate

def value : Rate → Value
  | .count n => .int n
  | .flag b => .bool b
  | .measure x => .float x

def ofValue? : Value → Option Rate
  | .int n => some (.count n)
  | .bool b => some (.flag b)
  | .float x => some (.measure x)
  | _ => none

def same (r other : Rate) : Bool := r.value.same other.value

/-- Whether the rate can be written without its fraction. -/
def Writable (r : Rate) : Prop := ∃ digits, r.value.wholeText = .ok digits

instance (n : Nat) : OfNat Rate n := ⟨.count n⟩

@[simp] theorem ofValue?_value (r : Rate) : ofValue? r.value = some r := by cases r <;> rfl

theorem wholeText_overlong {n : Int} (long : Number.isWritable n = false) :
    (count n).value.wholeText = .error .notInteger := by
  refine (Value.wholeText_int n).trans ?_
  rw [long]
  rfl

end Rate

end Transceiver
