import Transceiver.Number.Shortest
import Transceiver.Number.Numeral
import Transceiver.Text.Fields
import Transceiver.Text.Quoted

/-! Loosely typed values, as a host hands them in and a settings dialogue shows them.
Numbers compare by value whatever their kind, and a truth value counts as 0 or 1. What is
none of the kinds of value is a thing, of which only the name is known. A message can name any
value but an integer that is too long to be written, or a collection of such. -/
namespace Transceiver

open Number (Binary64)

inductive Value where
  | null
  | bool (b : Bool)
  | int (n : Int)
  | float (x : Binary64)
  | complex (re im : Binary64)
  | text (s : String)
  | list (items : List Value)
  /-- Values under names, which are all different. -/
  | table (names : List String) (values : List Value)
  | thing (name : String)

/-- The names under which everything answers, mostly with something that cannot be called. -/
def commonNames : List String :=
  ["__class__", "__delattr__", "__dict__", "__dir__", "__doc__", "__eq__", "__format__", "__ge__",
   "__getattribute__", "__getstate__", "__gt__", "__hash__", "__init__", "__init_subclass__",
   "__le__", "__lt__", "__module__", "__ne__", "__new__", "__reduce__", "__reduce_ex__",
   "__repr__", "__setattr__", "__sizeof__", "__str__", "__subclasshook__", "__weakref__"]

namespace Value

instance : Inhabited Value := ⟨.null⟩

def ofNat (n : Nat) : Value := .int n

def int? : Value → Option Int
  | .bool b => some (if b then 1 else 0)
  | .int n => some n
  | _ => none

def text? : Value → Option String
  | .text s => some s
  | _ => none

/-- The real number that a value is or equals, for comparison. -/
def number? : Value → Option Binary64
  | .bool b => some (.finite (if b then 1 else 0))
  | .int n => some (.finite n)
  | .float x => some x
  | .complex re im => if im.same (.finite 0) then some re else none
  | _ => none

def sameNumber (v w : Value) : Bool :=
  match v.number?, w.number? with
  | some x, some y => x.same y
  | _, _ =>
    match v, w with
    | .complex re im, .complex re' im' => re.same re' && im.same im'
    | _, _ => false

mutual

/-- Equality of values. The order in a table does not count, and a thing equals nothing. -/
def same : Value → Value → Bool
  | .null, .null => true
  | .text s, .text t => s == t
  | .list xs, .list ys => sameItems xs ys
  | .table names values, .table others found =>
    names.length == others.length && sameEntries names values (others.zip found)
  | v, w => sameNumber v w

def sameItems : List Value → List Value → Bool
  | [], [] => true
  | x :: xs, y :: ys => same x y && sameItems xs ys
  | _, _ => false

def sameEntries : List String → List Value → List (String × Value) → Bool
  | name :: names, v :: values, found =>
    (match found.lookup name with
    | some w => same v w
    | none => false) && sameEntries names values found
  | _, _, _ => true

end

def truth : Value → Bool
  | .null => false
  | .bool b => b
  | .int n => n != 0
  | .float x => !x.same (.finite 0)
  | .complex re im => !(re.same (.finite 0) && im.same (.finite 0))
  | .text s => s != ""
  | .list items => !items.isEmpty
  | .table names _ => !names.isEmpty
  | .thing _ => true

/-- Whether a value is no complex number. Those compare like numbers, but are not made integers of. -/
def isReal : Value → Bool
  | .complex _ _ => false
  | _ => true

/-- Lists, tables and things are no keys of a look-up table. -/
def isKey : Value → Bool
  | .list _ | .table _ _ | .thing _ => false
  | _ => true

/-- The members of a value that has members: items, characters, or names. -/
def members? : Value → Option (List Value)
  | .list items => some items
  | .text s => some (s.toList.map fun c => .text c.toString)
  | .table names _ => some (names.map .text)
  | _ => none

/-- Whether a collection has a member, or a text a part; nothing if the question makes no sense. -/
def hasMember? (collection item : Value) : Option Bool :=
  match collection, item with
  | .list items, _ => some (items.any item.same)
  | .text s, .text part => some (Text.includes part s)
  | .table names _, _ => if item.isKey then some (item.text?.any names.contains) else none
  | _, _ => none

/-- The natural number below `bound` that a value equals. -/
def below? (bound : Nat) (v : Value) : Option (Fin bound) :=
  match v.number?.bind Binary64.value? with
  | some q =>
    if q.den = 1 ∧ 0 ≤ q.num then
      if h : q.num.toNat < bound then some ⟨q.num.toNat, h⟩ else none
    else none
  | none => none

/-- The natural number below `bound` that an integer or truth value is. -/
def intBelow? (bound : Nat) (v : Value) : Option (Fin bound) :=
  match v.int? with
  | some n => if h : 0 ≤ n ∧ n.toNat < bound then some ⟨n.toNat, h.2⟩ else none
  | none => none

/-- A part of a complex number: a whole one has no places. -/
def partText (x : Binary64) : String :=
  if Text.endsWith ".0" x.text then .ofList (x.text.toList.dropLast.dropLast) else x.text

/-- A complex number as text. A real part of zero is left out, unless it has a sign. -/
def complexText (re im : Binary64) : String :=
  if re = .finite 0 then partText im ++ "j"
  else "(" ++ partText re ++ (if im.isNegative then "" else "+") ++ partText im ++ "j)"

mutual

def quoted : Value → String
  | .null => "None"
  | .bool true => "True"
  | .bool false => "False"
  | .int n => Number.showInt n
  | .float x => x.text
  | .complex re im => complexText re im
  | .text s => Text.quoted s
  | .list items => "[" ++ quotedItems items ++ "]"
  | .table names values => "\x7b" ++ quotedEntries names values ++ "\x7d"
  | .thing name => name

def quotedItems : List Value → String
  | [] => ""
  | [v] => quoted v
  | v :: rest => quoted v ++ ", " ++ quotedItems rest

def quotedEntries : List String → List Value → String
  | name :: names, v :: rest =>
    Text.quoted name ++ ": " ++ quoted v ++ (if rest.isEmpty then "" else ", ") ++ quotedEntries names rest
  | _, _ => ""

end

def shown : Value → String
  | .text s => s
  | v => v.quoted

mutual

def isWritable : Value → Bool
  | .int n => Number.isWritable n
  | .list items => areWritable items
  | .table _ values => areWritable values
  | _ => true

def areWritable : List Value → Bool
  | [] => true
  | v :: rest => v.isWritable && areWritable rest

end

end Value

end Transceiver
