import Transceiver.Record.Memory

/-! Rows: labelled values that a host supplies as a record, or as an update of one. Where a
record is wanted its fields are looked up by label, so a row of another kind may do as well. -/
namespace Transceiver

structure Row where
  entries : List (String × Value)

namespace Row

open Record

def labels (r : Row) : List String := r.entries.map (·.1)

def values (r : Row) : List Value := r.entries.map (·.2)

def ofValues? (labels : List String) (values : List Value) : Option Row :=
  if labels.length = values.length then some ⟨labels.zip values⟩ else none

/-- An update of a memory has all its fields but the channel; those that are not given are null. -/
def ofUpdate? (given : List (String × Value)) : Option Row :=
  let labels := MemoryRecord.labels.tail
  if given.all fun entry => labels.contains entry.1 then
    some ⟨labels.map fun label => (label, (given.lookup label).getD .null)⟩
  else none

def field (r : Row) (label : String) : Except Fault Value :=
  match r.entries.lookup label with
  | some v => .ok v
  | none => .error .missingAttribute

def spelled (r : Row) (line : String) (formats : List Format) : Except Fault String := do
  return lineText line (← r.entries.mapM fun (label, v) => suppliedText line formats label v)

/-- Lays one field over a draft; a null keeps what is there. -/
def overlayField (d : MemoryDraft) (entry : String × Value) : Except Fault MemoryDraft :=
  match entry.2 with
  | .null => .ok d
  | v =>
    match d.set? entry.1 v with
    | some d => .ok d
    | none => .error .unknownField

def overlay (r : Row) (d : MemoryDraft) : Except Fault MemoryDraft := r.entries.foldlM overlayField d

end Row

end Transceiver
