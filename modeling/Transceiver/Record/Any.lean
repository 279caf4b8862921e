import Transceiver.Command
import Transceiver.Record.Row

/-! The records of all lines as one type, for a host that chooses the line as it runs. -/
namespace Transceiver

inductive RecordKind where
  | memory
  | vfo
  | control
  | tuning
  | selection
  | name
  | busy
  deriving DecidableEq, Repr

inductive AnyRecord where
  | memory (record : MemoryRecord)
  | vfo (record : VfoRecord)
  | control (record : BandControl)
  | tuning (record : BandTuning)
  | selection (record : MemorySelection)
  | name (record : MemoryName)
  | busy (record : BusyState)
  deriving DecidableEq, Repr

namespace RecordKind

def all : List RecordKind := [.memory, .vfo, .control, .tuning, .selection, .name, .busy]

def line : RecordKind → String
  | .memory => "ME"
  | .vfo => "FO"
  | .control => "BC"
  | .tuning => "VM"
  | .selection => "MR"
  | .name => "MN"
  | .busy => "BY"

def ofLine? (line : String) : Option RecordKind := all.find? (·.line == line)

def parse (kind : RecordKind) (reply : String) : Except Fault AnyRecord :=
  match kind with
  | .memory => AnyRecord.memory <$> MemoryRecord.parse reply
  | .vfo => AnyRecord.vfo <$> VfoRecord.parse reply
  | .control => AnyRecord.control <$> BandControl.parse reply
  | .tuning => AnyRecord.tuning <$> BandTuning.parse reply
  | .selection => AnyRecord.selection <$> MemorySelection.parse reply
  | .name => AnyRecord.name <$> MemoryName.parse reply
  | .busy => AnyRecord.busy <$> BusyState.parse reply

def labels : RecordKind → List String
  | .memory => MemoryRecord.labels
  | .vfo => VfoRecord.labels
  | .control => BandControl.formats.map Record.Format.label
  | .tuning => BandTuning.formats.map Record.Format.label
  | .selection => MemorySelection.formats.map Record.Format.label
  | .name => ["channel", "name"]
  | .busy => BusyState.formats.map Record.Format.label

def row? (kind : RecordKind) (values : List Value) : Option Row := Row.ofValues? kind.labels values

/-- A row that has the fields of a memory is written as one; any other is spelled field by field. -/
def writingMemory (row : Row) : Except Fault Command :=
  match if row.labels = MemoryRecord.labels then MemoryDraft.ofValues? row.values else none with
  | some draft => (draft.check.map .writeMemory).mapError .ofArgument
  | none => .spelled <$> row.spelled "ME" MemoryRecord.formats

/-- A VFO line lists all fields of a memory besides its own. -/
def writingVfo (row : Row) : Except Fault Command :=
  match if row.labels = VfoRecord.labels then VfoDraft.ofValues? row.values else none with
  | some draft => (draft.check.map .writeVfo).mapError .ofArgument
  | none => .spelled <$> row.spelled "FO" (VfoRecord.formats ++ MemoryRecord.formats)

open Record in
/-- The command that writes a row as the record of a line. A busy state is only read. -/
def writing (kind : RecordKind) (row : Row) : Except Fault Command :=
  match kind with
  | .memory => writingMemory row
  | .vfo => writingVfo row
  | .control => do
    let ctrl ← row.field "ctrl"
    let control ← checkBand ctrl
    let ptt ← row.field "ptt"
    let transmit ← checkBand ptt
    checkReal ctrl
    checkReal ptt
    return .writeControl { control, transmit }
  | .tuning => do
    let about ← row.field "band"
    let band ← checkBand about
    let mode ← row.field "mode"
    let tuning ← Tuning.check mode
    checkReal about
    checkReal mode
    return .writeTuning { band, tuning }
  | .selection => do
    let about ← row.field "band"
    let band ← checkBand about
    let number ← row.field "channel"
    let channel ← checkChannel number
    checkReal about
    checkReal number
    return .writeSelection { band, channel }
  | .name => do
    let number ← row.field "channel"
    let channel ← checkChannel number
    let name ← checkSentName (← row.field "name")
    checkReal number
    return .writeName channel (← name.written)
  | .busy => .error .missingAttribute

end RecordKind

namespace AnyRecord

def kind : AnyRecord → RecordKind
  | .memory _ => .memory
  | .vfo _ => .vfo
  | .control _ => .control
  | .tuning _ => .tuning
  | .selection _ => .selection
  | .name _ => .name
  | .busy _ => .busy

def values : AnyRecord → List Value
  | .memory record => record.values.map .ofNat
  | .vfo record => record.values.map .ofNat
  | .control record => record.values.map .ofNat
  | .tuning record => record.values.map .ofNat
  | .selection record => record.values.map .ofNat
  | .name record => [.ofNat record.channel, .text record.name]
  | .busy record => record.values.map .ofNat

def row (record : AnyRecord) : Row := ⟨record.kind.labels.zip record.values⟩

def writing (record : AnyRecord) : Except Fault Command := record.kind.writing record.row

end AnyRecord

end Transceiver
