import Transceiver.Log
import Transceiver.Number.Decimal
import Transceiver.Number.Shortest
import Transceiver.Settings.Grammar
import Transceiver.Value

/-! Typed access to settings. What is not set has a default, and so has what cannot be read
as the wanted kind of number; the latter is logged. -/
namespace Transceiver.Settings

def standard : List (String × Options) :=
  [("serial", [("port", "/dev/ttyUSB0"), ("baudrate", "9600"), ("timeout", "1.0"), ("retries", "3")]),
   ("rig", [("reconcile", "warn")])]

def standardOptions? (name : Value) : Option Options := name.text?.bind fun text => standard.lookup text

def standard? (name key : Value) : Except SettingsFault (Option String) :=
  if name.isKey && key.isKey then
    .ok ((standardOptions? name).bind fun options => key.text?.bind fun text => options.lookup text)
  else .error .mistyped

def standardOf (name key : Value) : Except SettingsFault String :=
  if !name.isKey then .error .mistyped
  else
    match standardOptions? name with
    | none => .error .noDefault
    | some _ => do
      match ← standard? name key with
      | some text => return text
      | none => throw .noDefault

def look (s : Settings) (name key : Value) : Except SettingsFault (Option String) := do
  if ← s.hasOption name key then s.get name key else standard? name key

structure Looked (α : Type) where
  result : Except SettingsFault α
  log : List LogRecord

def warning (message : String) : LogRecord := ⟨Source.settings, Level.warning, message⟩

/-- Loads stored settings; where nothing is stored, nothing is set. Bytes that are no text are
tried once more as they are, to no avail. -/
def load (stored : Option (List UInt8)) : Looked Settings :=
  match stored with
  | none => ⟨.ok .empty, []⟩
  | some bytes =>
    match parseBytes skipOrderMark bytes with
    | .error .undecodable =>
      ⟨parseBytes id bytes, [warning "Failed to read config as UTF-8; falling back to default encoding"]⟩
    | result => ⟨result, []⟩

/-- The default of an option as a kind of number. -/
def standardNumber {α : Type} (read : String → Option α) (name key : Value) : Except SettingsFault α := do
  match read (← standardOf name key) with
  | some n => return n
  | none => throw .notNumeral

/-- A setting as a kind of number; where it is none, the default is taken. -/
def lookNumber {α : Type} (read : String → Option α) (kind : String) (s : Settings) (name key : Value) :
    Looked α :=
  let otherwise : Looked α :=
    ⟨standardNumber read name key, [warning ("Config value " ++ key.shown ++ " is not " ++ kind)]⟩
  match s.look name key with
  | .error .mistyped => otherwise
  | .error why => ⟨.error why, []⟩
  | .ok found =>
    match found.bind read with
    | some n => ⟨.ok n, []⟩
    | none => otherwise

def lookInt (s : Settings) (name key : Value) : Looked Int :=
  lookNumber Number.readInt? "an integer" s name key

def lookFloat (s : Settings) (name key : Value) : Looked Number.Binary64 :=
  lookNumber Number.readDecimal? "a number" s name key

/-- A setting that is on or off; only the text `True` is on. -/
def lookFlag (s : Settings) (name key absent : Value) : Except SettingsFault Value := do
  match ← s.look name key with
  | none => return absent
  | some text => return .bool (text == "True")

/-- Sets an option; its section is added where it is missing, even if the value is refused. -/
def set (s : Settings) (name key v : Value) : Except SettingsFault Unit × Settings :=
  match s.addSection name with
  | .error why => (.error why, s)
  | .ok s =>
    match key, v with
    | .text key, .text text =>
      match s.put name key text with
      | .ok s => (.ok (), s)
      | .error why => (.error why, s)
    | _, _ => (.error .mistyped, s)

def setInt (s : Settings) (name key v : Value) : Except SettingsFault Unit × Settings :=
  match v.int? with
  | some n =>
    match Number.written? Number.showInt n with
    | some text => s.set name key (.text text)
    | none => (.error .notNumeral, s)
  | none => (.error (.wrongKind "an integer"), s)

def setFloat (s : Settings) (name key v : Value) : Except SettingsFault Unit × Settings :=
  match v with
  | .float x => s.set name key (.text (x.fixedText 3))
  | _ => (.error (.wrongKind "a float"), s)

def setFlag (s : Settings) (name key v : Value) : Except SettingsFault Unit × Settings :=
  s.set name key (.text (Value.bool v.truth).shown)

/-- Removes an option, and its section if nothing is set in it any more. -/
def remove (s : Settings) (name key : Value) : Except SettingsFault Unit × Settings :=
  match s.erase name key with
  | .error why => (.error why, s)
  | .ok erased =>
    match erased.dropIfEmpty name with
    | .ok s => (.ok (), s)
    | .error why => (.error why, erased)

end Transceiver.Settings
