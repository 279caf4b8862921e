import Transceiver.Dialogue.Records
import Transceiver.Rig.Argument
import Transceiver.Text.LowerCase

/-! Reading and writing records by the name of the operation, for a host that chooses it as it
runs. -/
namespace Transceiver

/-- The kind of record that an operation is about, given what the operation does with it. -/
def RecordKind.named? (action operation : String) : Option RecordKind :=
  all.find? fun kind => action ++ Text.lower kind.line == operation

namespace Dialogue

/-- Reads the record about an argument; the band control is about all. -/
def readAbout (kind : RecordKind) (arguments : List Argument) : Dialogue AnyRecord :=
  match kind, arguments with
  | .control, [] => readAny .control []
  | .control, _ => throw .mistyped
  | _, [about] => do readAny kind [← about.quoted]
  | _, _ => throw .mistyped

def writeGiven (kind : RecordKind) (arguments : List Argument) : Dialogue AnyRecord :=
  match arguments with
  | [.row row] => writeAny kind row
  | [_] => throw .missingAttribute
  | _ => throw .mistyped

/-- How many arguments an operation on texts and rows alone takes besides the first one. A radio
is neither of the two. -/
def offlineArity? (operation : String) : Option Nat :=
  match operation with
  | "check_mn" => some 0
  | "apply_update" | "_expect" => some 1
  | "_split" | "_number" | "_render" => some 2
  | "render_by" => none
  | _ =>
    if (RecordKind.named? "parse_" operation).isSome || (RecordKind.named? "render_" operation).isSome then
      some 0
    else none

/-- What stands beside the operations, and cannot be called with a radio. -/
def constants : List String :=
  ["BAND_A", "BAND_B", "BANDS", "BAND_MODE_VFO", "BAND_MODE_MEMORY", "BAND_MODE_CALL",
   "BAND_MODE_WX", "NAME_LENGTH", "ME_FIELDS", "UPDATE_FIELDS", "FO_FIELDS", "_FLAG", "_ME_FORMAT",
   "_FO_FORMAT", "_numbers", "MemoryRecord", "MemoryUpdate", "VFORecord", "BandControl", "BandMode",
   "MemoryChannel", "MemoryName", "BusyState", "empty_record", "collections", "errors", "rig_common",
   "__name__", "__package__", "__loader__", "__spec__", "__file__", "__cached__", "__builtins__"]

/-- A call of what reads or writes nothing. -/
def misfit (operation : String) (arguments : List Argument) : Fault :=
  if (constants ++ commonNames).contains operation then .mistyped
  else if (offlineArity? operation).any (· != arguments.length) then .mistyped
  else .missingAttribute

def ofCall (operation : String) (arguments : List Argument) : Dialogue (Option AnyRecord) :=
  match operation, arguments with
  | "push_tx", [] => do
    startTransmitting
    return none
  | "push_rx", [] => do
    stopTransmitting
    return none
  | "push_tx", _ | "push_rx", _ => throw .mistyped
  | "push_by", _ => throw .missingAttribute
  | _, _ =>
    match RecordKind.named? "pull_" operation, RecordKind.named? "push_" operation with
    | some kind, _ => some <$> readAbout kind arguments
    | none, some kind => some <$> writeGiven kind arguments
    | none, none => throw (misfit operation arguments)

end Dialogue

end Transceiver
