import Transceiver.Band
import Transceiver.Frequency.Text
import Transceiver.Text.CodePage

/-! What can go wrong in a session with the radio, by cause. Arguments are refused
before they reach the wire, the radio's side fails in transport, by refusal or by a
reply that makes no sense, and the rest are values of an unsuitable kind. -/
namespace Transceiver

/-- Why the settings of a channel do not fit into a memory record. -/
inductive Unstorable where
  | unknownName (value : Value)
  | notInTable

inductive ArgumentFault where
  | field (label : String) (value : Value) (line : String)
  | band (value : Value)
  | bandMode (value : Value)
  | channel (value : Value)
  | nameLength (name : Value)
  | nameCharacters (name : Value) (bad : String)
  | number
  | reserved (number : Fin 1000) (band : Band)
  | vfo (value : Value)
  | transmitVfo (value : Value)
  | notHertz
  | unreceivable (hertz : Int)
  | mode (value : Value)
  | step (value : Value)
  | shift (value : Value)
  | offset (value : Value)
  | tone (value : Value)
  | dcsCode (value : Value)
  | channelSettings (number : Int) (why : Unstorable)
  | policy (value : Value)
  | frequencyText (text : String)
  | unspellable (command : String) (characters : Text.CodePage.Unspellable)

inductive RadioFault where
  | notOpen
  | noResponse
  | writeFailed (why : String)
  | readFailed (why : String)
  | cannotOpen (port why : String)
  | timeout (command : String)
  | refused (command reply : String)
  | unexpectedReply (line reply : String)
  | fieldCount (line : String) (count expected : Nat) (reply : String)
  | notNumber (field reply : String)
  | valueRange (value : Nat) (reply : String)
  | longName (reply : String)
  | otherChannel (asked answered : Fin 1000)
  | otherBand (asked answered : Band)
  | unexpectedId (reply : String)
  | unknownShift (code : Int)

inductive AttributeFault where
  | unknown (name : String)
  | value (value : Value) (name : String)
  | capability (value : Value) (name : String)

inductive Fault where
  | argument (why : ArgumentFault)
  | radio (why : RadioFault)
  | attribute (why : AttributeFault)
  /-- Received bytes that stand for no character. -/
  | undecodable
  | unencodable
  /-- A value of a kind that the operation has no use for. -/
  | mistyped
  /-- A text or number that no integer can be made of, or an integer that is too long to be written. -/
  | notInteger
  | unbounded
  | missingAttribute
  | unknownField
  | unlistedField
  | unknownLevel

/-- The groups of refused arguments: places that cannot be stored to and tones are told
apart from the rest. -/
inductive ArgumentFault.Kind where
  | plain
  | location
  | tone
  deriving DecidableEq, Repr

/-- The groups of radio faults. A timeout is also a transport fault. -/
inductive RadioFault.Kind where
  | general
  | transport
  | timeout
  | rejected
  | protocol
  deriving DecidableEq, Repr

namespace ArgumentFault

def kind : ArgumentFault → Kind
  | .channel _ | .number | .reserved _ _ => .location
  | .tone _ | .dcsCode _ => .tone
  | _ => .plain

end ArgumentFault

namespace RadioFault

def kind : RadioFault → Kind
  | .notOpen | .noResponse => .general
  | .writeFailed _ | .readFailed _ | .cannotOpen _ _ => .transport
  | .timeout _ => .timeout
  | .unknownShift _ => .protocol
  | _ => .rejected

def reply? : RadioFault → Option String
  | .refused _ reply | .unexpectedReply _ reply | .fieldCount _ _ _ reply | .notNumber _ reply
  | .valueRange _ reply | .longName reply | .unexpectedId reply => some reply
  | _ => none

end RadioFault

def Text.CodePage.Unspellable.report (u : Text.CodePage.Unspellable) : String :=
  let place :=
    match u.run with
    | [c] => "character '" ++ .ofList (Text.escapeCode c) ++ "' in position " ++ Number.showNat u.position
    | run => "characters in position " ++ Number.showNat u.position ++ "-" ++
        Number.showNat (u.position + run.length - 1)
  "'charmap' codec can't encode " ++ place ++ ": character maps to <undefined>"

def Unstorable.message : Unstorable → String
  | .unknownName v => v.quoted
  | .notInTable => "tuple.index(x): x not in tuple"

def ArgumentFault.message : ArgumentFault → String
  | .field label v line => "Invalid " ++ label ++ " value " ++ v.quoted ++ " for " ++ line
  | .band v => "Invalid band " ++ v.quoted
  | .bandMode v => "Invalid band mode " ++ v.quoted
  | .channel v => "Invalid channel " ++ v.quoted
  | .nameLength name => "Name " ++ name.quoted ++ " is too long"
  | .nameCharacters name bad =>
    "Name " ++ name.quoted ++ " contains unsupported characters " ++ Text.quoted bad
  | .number => "Number must be between 0 and 999"
  | .reserved n owner => "Channel " ++ Number.showNat n ++ " is used for " ++ owner.vfo
  | .vfo v => "Unsupported VFO `" ++ v.shown ++ "'"
  | .transmitVfo v => "Unsupported TX VFO `" ++ v.shown ++ "'"
  | .notHertz => "Frequency must be in Hz"
  | .unreceivable hertz => "Frequency " ++ Frequency.format hertz ++ " is out of range"
  | .mode v => "Unsupported mode `" ++ v.shown ++ "'"
  | .step v => "Unsupported tuning step " ++ v.shown
  | .shift v => "Unsupported shift `" ++ v.shown ++ "'"
  | .offset v => "Invalid offset " ++ v.quoted
  | .tone v => "Tone " ++ v.shown ++ " not supported"
  | .dcsCode v => "DCS code " ++ v.shown ++ " not supported"
  | .channelSettings n why => "Channel " ++ Number.showInt n ++ " can not be stored: " ++ why.message
  | .policy v => "Unknown reconcile policy `" ++ v.shown ++ "'"
  | .frequencyText s => "Invalid frequency `" ++ s ++ "'"
  | .unspellable command u =>
    "Command " ++ Text.quoted command ++ " can not be sent: " ++ u.report

def RadioFault.message : RadioFault → String
  | .notOpen => "Rig session is not open"
  | .noResponse => "No response from radio"
  | .writeFailed why => "Failed to write to radio: " ++ why
  | .readFailed why => "Failed to read from radio: " ++ why
  | .cannotOpen port why => "Unable to open " ++ port ++ ": " ++ why
  | .timeout command => "Timeout waiting for reply to " ++ command
  | .refused command _ => "Radio rejected `" ++ command ++ "'"
  | .unexpectedReply line _ => "Expected " ++ line ++ " reply"
  | .fieldCount line count expected _ =>
    line ++ " reply has " ++ Number.showNat count ++ " fields, expected " ++ Number.showNat expected
  | .notNumber field _ => "Field `" ++ field ++ "' is not a number"
  | .valueRange n _ => "Field value " ++ Number.showNat n ++ " out of range"
  | .longName _ => "Name too long"
  | .otherChannel asked answered =>
    "Asked for channel " ++ Number.showNat asked ++ ", got " ++ Number.showNat answered
  | .otherBand asked answered =>
    "Asked for band " ++ Number.showNat asked.index ++ ", got " ++ Number.showNat answered.index
  | .unexpectedId _ => "Unexpected ID reply"
  | .unknownShift code => "Unknown repeater shift " ++ Number.showInt code

def AttributeFault.message : AttributeFault → String
  | .unknown name => "No such attribute `" ++ name ++ "'"
  | .value v name => "`" ++ v.shown ++ "' is not a valid value for `" ++ name ++ "'"
  | .capability v name => "Invalid value " ++ v.quoted ++ " for attribute " ++ Text.quoted name

def Unstorable.isWritable : Unstorable → Bool
  | .unknownName v => v.isWritable
  | .notInTable => true

def ArgumentFault.isWritable : ArgumentFault → Bool
  | .field _ v _ | .band v | .bandMode v | .channel v | .nameLength v | .nameCharacters v _ | .vfo v
  | .transmitVfo v | .mode v | .step v | .shift v | .offset v | .tone v | .dcsCode v | .policy v =>
    v.isWritable
  | .unreceivable hertz => Frequency.isWritable hertz
  | .channelSettings n why => Number.isWritable n && why.isWritable
  | _ => true

def AttributeFault.isWritable : AttributeFault → Bool
  | .value v _ | .capability v _ => v.isWritable
  | .unknown _ => true

/-- A refused argument. A refusal whose message cannot be written fails itself. -/
def Fault.ofArgument (why : ArgumentFault) : Fault :=
  if why.isWritable then .argument why else .notInteger

def Fault.ofAttribute (why : AttributeFault) : Fault :=
  if why.isWritable then .attribute why else .notInteger

def Value.written (v : Value) : Except Fault Value := if v.isWritable then .ok v else .error .notInteger

theorem Value.written_eq_ok {v w : Value} : v.written = .ok w ↔ v.isWritable = true ∧ w = v := by
  unfold written
  by_cases writable : v.isWritable = true
  · simp [writable, eq_comm]
  · simp [writable]

def Fault.message? : Fault → Option String
  | .argument why => some why.message
  | .radio why => some why.message
  | .attribute why => some why.message
  | _ => none

instance : MonadLift (Except ArgumentFault) (Except Fault) := ⟨Except.mapError .ofArgument⟩

instance : MonadLift (Except RadioFault) (Except Fault) := ⟨Except.mapError .radio⟩

end Transceiver
