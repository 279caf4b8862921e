import Transceiver.Fault

/-! Reply lines: the two-letter name of the line, a space, and comma-separated fields.
A numeric field is a row of ASCII digits below the number of the field's values. -/
namespace Transceiver.Record

open Number

/-- A numeric field: its name in messages, the digits it is written with, and how many values
it has. -/
structure Format where
  label : String
  width : Nat
  size : Nat
  deriving Repr

def fieldsOf (line reply : String) : Except RadioFault (List String) :=
  if Text.startsWith (line ++ " ") reply then
    .ok (Text.fields ',' (Text.drop (line.length + 1) reply))
  else .error (.unexpectedReply line reply)

/-- The value of a numeric field. A row of digits that is too long is no integer. -/
def number (size : Nat) (reply field : String) : Except Fault (Fin size) :=
  match digitRow? field with
  | none => .error (.radio (.notNumber field reply))
  | some row =>
    match ofRow? row with
    | none => .error .notInteger
    | some n => if h : n < size then .ok ⟨n, h⟩ else .error (.radio (.valueRange n reply))

def bandNumber (reply field : String) : Except Fault Band :=
  return .ofIndex (← number 2 reply field)

/-- A field as it is written, given what a host supplies for its label. Only listed fields can be
written. -/
def suppliedText (line : String) (formats : List Format) (label : String) (v : Value) :
    Except Fault String :=
  match formats.find? (·.label == label) with
  | none => .error .unlistedField
  | some format =>
    match v.intBelow? format.size with
    | some n => .ok (padded format.width n)
    | none => .error (.ofArgument (.field label v line))

def checked (line label : String) (size : Nat) (v : Value) : Except ArgumentFault (Fin size) :=
  match v.intBelow? size with
  | some n => .ok n
  | none => .error (.field label v line)

def checkBand (v : Value) : Except ArgumentFault Band :=
  match Band.ofValue? v with
  | some band => .ok band
  | none => .error (.band v)

def checkChannel (v : Value) : Except ArgumentFault (Fin 1000) :=
  match v.below? 1000 with
  | some n => .ok n
  | none => .error (.channel v)

/-- What a line writes as a whole number has to be real. -/
def checkReal (v : Value) : Except Fault Unit :=
  if v.isReal then .ok () else .error .mistyped

def namedBand (v : Value) : Except Fault Band := do
  let band ← checkBand v
  checkReal v
  return band

def namedChannel (v : Value) : Except Fault (Fin 1000) := do
  let channel ← checkChannel v
  checkReal v
  return channel

def lowest {size : Nat} (h : 0 < size := by decide) : Fin size := ⟨0, h⟩

def isOn (flag : Fin 2) : Bool := flag.val == 1

def fieldTexts (formats : List Format) (values : List Nat) : List String :=
  List.zipWith (fun f n => padded f.width n) formats values

def lineText (line : String) (fields : List String) : String :=
  line ++ " " ++ Text.join "," fields

/-- A refusal, or an answer that the radio did not understand. -/
def isRefusal (reply : String) : Bool := reply == "N" || reply == "?"

end Transceiver.Record
