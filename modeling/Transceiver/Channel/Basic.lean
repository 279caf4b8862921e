import Transceiver.Fault
import Transceiver.Mode
import Transceiver.Shift
import Transceiver.Tone
import Transceiver.TuningStep
import Transceiver.Record.Name

/-! Channels as a host sees them: named attributes with loosely typed values. Assigning an
attribute checks the value; the attributes that this radio does not store take any. What is
stored under other labels is kept as a note, and some notes stand in the way of what a channel
does. -/
namespace Transceiver

namespace Channel

/-- A channel is scanned, or locked out of scanning. -/
def skipValues : List String := ["", "L"]

inductive Attribute where
  | number
  | name
  | freq
  | mode
  | width
  | tuningStep
  | duplex
  | offset
  | reverse
  | tone
  | squelchTone
  | dcsCode
  | txFreq
  | txStep
  | skip
  | bank
  | antenna
  | receiveOffset
  | transmitOffset
  | txMode
  | txWidth
  | scanGroup
  deriving DecidableEq, Repr

namespace Attribute

def all : List Attribute :=
  [.number, .name, .freq, .mode, .width, .tuningStep, .duplex, .offset, .reverse, .tone,
   .squelchTone, .dcsCode, .txFreq, .txStep, .skip, .bank, .antenna, .receiveOffset,
   .transmitOffset, .txMode, .txWidth, .scanGroup]

/-- The checked attributes in the order of their labels. -/
def checked : List Attribute :=
  [.squelchTone, .tone, .dcsCode, .duplex, .freq, .mode, .name, .number, .offset, .reverse,
   .skip, .tuningStep, .txFreq, .txStep, .width]

def label : Attribute → String
  | .number => "number"
  | .name => "name"
  | .freq => "freq"
  | .mode => "mode"
  | .width => "width"
  | .tuningStep => "tuning_step"
  | .duplex => "duplex"
  | .offset => "offset"
  | .reverse => "reverse"
  | .tone => "ctcss_tone"
  | .squelchTone => "ctcss_sql"
  | .dcsCode => "dcs_sql"
  | .txFreq => "tx_freq"
  | .txStep => "tx_step"
  | .skip => "skip"
  | .bank => "bank"
  | .antenna => "ant"
  | .receiveOffset => "rit"
  | .transmitOffset => "xit"
  | .txMode => "tx_mode"
  | .txWidth => "tx_width"
  | .scanGroup => "scan_group"

def ofLabel? (s : String) : Option Attribute := all.find? (·.label == s)

/-- An integer, but no truth value, from zero to a greatest one if there is any. -/
def isCount (greatest : Option Int) : Value → Bool
  | .int n => 0 ≤ n && greatest.all (n ≤ ·)
  | _ => false

def isZero (v : Value) : Bool := v.same (.int 0)

def isOneOf (names : List String) (v : Value) : Bool := v.text?.any names.contains

def accepts : Attribute → Value → Bool
  | .number, v => isCount (some 999) v
  | .name, v => v.text?.any isName
  | .freq, v => isCount (some 9999999999) v
  | .mode, v => isOneOf Mode.names v
  | .width, v => isCount none v
  | .tuningStep, v => (stepIndex? v).isSome
  | .duplex, v => isOneOf (Shift.all.map Shift.name) v
  | .offset, v => isCount (some 99999999) v
  | .reverse, v => (v.below? 2).isSome
  | .tone, v => isZero v || isToneFrequency v
  | .squelchTone, v => isZero v || isToneFrequency v
  | .dcsCode, v => isZero v || (dcsIndex? v).isSome
  | .txFreq, v => isCount (some 9999999999) v
  | .txStep, v => isCount (some 9) v
  | .skip, v => isOneOf skipValues v
  | _, _ => true

def initial : Attribute → Value
  | .name | .duplex | .skip | .txMode => .text ""
  | .mode => .text Mode.narrow.name
  | .tuningStep => .float (.finite 5)
  | .reverse => .bool false
  | _ => .int 0

end Attribute

end Channel

structure Channel where
  value : Channel.Attribute → Value
  /-- Values under labels of no attribute, the latest ones first. -/
  notes : List (String × Value)

namespace Channel

def blank : Channel := ⟨Attribute.initial, []⟩

def store (c : Channel) (a : Attribute) (v : Value) : Channel :=
  { c with value := fun b => if b = a then v else c.value b }

def assign (c : Channel) (a : Attribute) (v : Value) : Except AttributeFault Channel :=
  if a.accepts v then .ok (c.store a v) else .error (.value v a.label)

def make (number name : Value) : Except AttributeFault Channel := do
  (← blank.assign .number number).assign .name name

def toneModeLabel : String := "tmode"

/-- Names of the tone modes: none, tone on transmit, tone squelch, and code squelch. -/
def toneModes : List String := ["", "Tone", "TSQL", "DTCS"]

def toneMode (c : Channel) : String :=
  if (c.value .tone).truth then "Tone"
  else if (c.value .squelchTone).truth then "TSQL"
  else if (c.value .dcsCode).truth then "DTCS"
  else ""

/-- The label of the rules by which values are checked. -/
def rulesLabel : String := "_valid_map"

/-- The labels of what a channel does: to list the checked attributes, and to write its
frequency. A note under such a label takes its place, and is nothing that can be done. -/
def accountLabel : String := "debug_dump"

def frequencyLabel : String := "format_freq"

def description : String :=
  "A full memory channel as seen by the host.\n\n" ++
  "    Tone values are in Hz and DCS values are code numbers; zero means the\n" ++
  "    tone or code is not in use.  Fields the TM-V71 does not store (bank,\n" ++
  "    antenna, RIT, XIT, TX mode and width, scan group) are kept at their\n" ++
  "    neutral values so that callers can treat every rig the same way.\n    "

/-- What no note can hide. -/
def fixedValues (c : Channel) : List (String × Value) :=
  [(toneModeLabel, .text c.toneMode), ("__class__", .text "Channel"), ("__weakref__", .null)]

/-- What a channel answers under a label of its kind, unless a note hides it. -/
def ownValues : List (String × Value) :=
  [("__doc__", .text description), ("__module__", .text "tmv71rig.rig_common"), ("__hash__", .null)]

/-- The labels of no attribute to which a channel answers from the start. -/
def ownLabels : List String :=
  [toneModeLabel, rulesLabel, accountLabel, frequencyLabel, "__annotations__"] ++ commonNames

def note? (c : Channel) (label : String) : Option Value := c.notes.lookup label

def knows (c : Channel) (label : String) : Bool :=
  (Attribute.ofLabel? label).isSome || ownLabels.contains label || (c.note? label).isSome

/-- Stores a value unchecked, under an attribute's label or as a note. -/
def storeLabel (c : Channel) (label : String) (v : Value) : Channel :=
  match Attribute.ofLabel? label with
  | some a => c.store a v
  | none => { c with notes := (label, v) :: c.notes }

/-- Assigns by label. Where a note takes the place of the rules, the labels in it cannot be
assigned, and all others take any value. -/
def assignLabel (c : Channel) (label : String) (v : Value) : Except Fault Channel :=
  if !c.knows label then .error (.attribute (.unknown label))
  else
    match c.note? rulesLabel with
    | none =>
      match Attribute.ofLabel? label with
      | some a => (c.assign a v).mapError .ofAttribute
      | none => .ok (c.storeLabel label v)
    | some rules =>
      match rules.hasMember? (.text label) with
      | some false => .ok (c.storeLabel label v)
      | _ => .error .mistyped

/-- A channel with its number and name, then values assigned, then values stored unchecked. -/
def build (number name : Value) (assigned stored : List (String × Value)) : Except Fault Channel := do
  let made ← (make number name).mapError .ofAttribute
  let c ← assigned.foldlM (fun c (label, v) => assignLabel c label v) made
  return stored.foldl (fun c (label, v) => storeLabel c label v) c

def look? (c : Channel) (label : String) : Option Value :=
  match Attribute.ofLabel? label with
  | some a => some (c.value a)
  | none => ((c.fixedValues.lookup label).or (c.note? label)).or (ownValues.lookup label)

def entry (c : Channel) (a : Attribute) : String × Value := (a.label, c.value a)

/-- The attributes that are checked, by a note in place of the rules. -/
def notedEntries (c : Channel) (rules : Value) : Except Fault (List (String × Value)) := do
  match rules.members?.bind fun members => members.mapM Value.text? with
  | none => throw .mistyped
  | some labels =>
    (labels.mergeSort fun a b => !Text.before b a).mapM fun label =>
      match c.look? label with
      | some v => .ok (label, v)
      | none => .error .missingAttribute

def checkedEntries (c : Channel) : Except Fault (List (String × Value)) :=
  if (c.note? accountLabel).isSome then .error .mistyped
  else
    match c.note? rulesLabel with
    | none => .ok (Attribute.checked.map c.entry)
    | some rules => c.notedEntries rules

def entries (c : Channel) : List (String × Value) := Attribute.all.map c.entry

def sameEntries (xs ys : List (String × Value)) : Bool :=
  xs.map (·.1) == ys.map (·.1) && Value.sameItems (xs.map (·.2)) (ys.map (·.2))

/-- Channels are equal if their checked attributes are. -/
def same (c d : Channel) : Except Fault Bool := do
  return sameEntries (← c.checkedEntries) (← d.checkedEntries)

@[simp] theorem value_store (c : Channel) (a b : Attribute) (v : Value) :
    (c.store a v).value b = if b = a then v else c.value b := rfl

end Channel

end Transceiver
