import Transceiver.Record.Field

/-! Memory records: what the radio stores in a memory channel, and the ME line that
carries it. A draft holds what a host wants stored; only a draft whose values all fit
becomes a record. -/
namespace Transceiver

open Record

/-- The contents of a memory channel. Tones, codes, steps, modes and shifts are numbers
of table entries. -/
structure MemoryRecord where
  channel : Fin 1000
  freq : Fin 10000000000
  step : Fin 11
  shift : Fin 10
  reverse : Fin 2
  toneOn : Fin 2
  ctcssOn : Fin 2
  dcsOn : Fin 2
  toneIndex : Fin 42
  ctcssIndex : Fin 42
  dcsIndex : Fin 104
  offset : Fin 100000000
  mode : Fin 3
  txFreq : Fin 10000000000
  txStep : Fin 10
  lockout : Fin 2
  deriving DecidableEq, Repr

structure MemoryDraft where
  channel : Value
  freq : Value
  step : Value
  shift : Value
  reverse : Value
  toneOn : Value
  ctcssOn : Value
  dcsOn : Value
  toneIndex : Value
  ctcssIndex : Value
  dcsIndex : Value
  offset : Value
  mode : Value
  txFreq : Value
  txStep : Value
  lockout : Value

structure MemoryUpdate where
  freq : Option Value := none
  step : Option Value := none
  shift : Option Value := none
  reverse : Option Value := none
  toneOn : Option Value := none
  ctcssOn : Option Value := none
  dcsOn : Option Value := none
  toneIndex : Option Value := none
  ctcssIndex : Option Value := none
  dcsIndex : Option Value := none
  offset : Option Value := none
  mode : Option Value := none
  txFreq : Option Value := none
  txStep : Option Value := none
  lockout : Option Value := none

namespace MemoryRecord

def formats : List Format :=
  [⟨"channel", 3, 1000⟩, ⟨"freq", 10, 10000000000⟩, ⟨"step", 1, 11⟩, ⟨"shift", 1, 10⟩,
   ⟨"reverse", 1, 2⟩, ⟨"tone", 1, 2⟩, ⟨"ct", 1, 2⟩, ⟨"dcs", 1, 2⟩, ⟨"tone_freq", 2, 42⟩,
   ⟨"ct_freq", 2, 42⟩, ⟨"dcs_val", 3, 104⟩, ⟨"offset", 8, 100000000⟩, ⟨"mode", 1, 3⟩,
   ⟨"tx_freq", 10, 10000000000⟩, ⟨"tx_step", 1, 10⟩, ⟨"lockout", 1, 2⟩]

def labels : List String := formats.map Format.label

def values (r : MemoryRecord) : List Nat :=
  [r.channel, r.freq, r.step, r.shift, r.reverse, r.toneOn, r.ctcssOn, r.dcsOn, r.toneIndex,
   r.ctcssIndex, r.dcsIndex, r.offset, r.mode, r.txFreq, r.txStep, r.lockout]

def line (r : MemoryRecord) : String := lineText "ME" (fieldTexts formats r.values)

def parse (reply : String) : Except Fault MemoryRecord := do
  match ← fieldsOf "ME" reply with
  | [channel, freq, step, shift, reverse, toneOn, ctcssOn, dcsOn, toneIndex, ctcssIndex,
      dcsIndex, offset, mode, txFreq, txStep, lockout] =>
    return {
      channel := ← number _ reply channel
      freq := ← number _ reply freq
      step := ← number _ reply step
      shift := ← number _ reply shift
      reverse := ← number _ reply reverse
      toneOn := ← number _ reply toneOn
      ctcssOn := ← number _ reply ctcssOn
      dcsOn := ← number _ reply dcsOn
      toneIndex := ← number _ reply toneIndex
      ctcssIndex := ← number _ reply ctcssIndex
      dcsIndex := ← number _ reply dcsIndex
      offset := ← number _ reply offset
      mode := ← number _ reply mode
      txFreq := ← number _ reply txFreq
      txStep := ← number _ reply txStep
      lockout := ← number _ reply lockout }
  | fields => throw (.radio (.fieldCount "ME" fields.length 16 reply))

/-- The record that an unused channel is provisioned with. -/
def empty (channel : Fin 1000) : MemoryRecord where
  channel
  freq := ⟨146500000, by decide⟩
  step := lowest
  shift := lowest
  reverse := lowest
  toneOn := lowest
  ctcssOn := lowest
  dcsOn := lowest
  toneIndex := lowest
  ctcssIndex := lowest
  dcsIndex := lowest
  offset := lowest
  mode := lowest
  txFreq := lowest
  txStep := lowest
  lockout := lowest

def toDraft (r : MemoryRecord) : MemoryDraft where
  channel := .ofNat r.channel
  freq := .ofNat r.freq
  step := .ofNat r.step
  shift := .ofNat r.shift
  reverse := .ofNat r.reverse
  toneOn := .ofNat r.toneOn
  ctcssOn := .ofNat r.ctcssOn
  dcsOn := .ofNat r.dcsOn
  toneIndex := .ofNat r.toneIndex
  ctcssIndex := .ofNat r.ctcssIndex
  dcsIndex := .ofNat r.dcsIndex
  offset := .ofNat r.offset
  mode := .ofNat r.mode
  txFreq := .ofNat r.txFreq
  txStep := .ofNat r.txStep
  lockout := .ofNat r.lockout

end MemoryRecord

namespace MemoryDraft

def values (d : MemoryDraft) : List Value :=
  [d.channel, d.freq, d.step, d.shift, d.reverse, d.toneOn, d.ctcssOn, d.dcsOn, d.toneIndex,
   d.ctcssIndex, d.dcsIndex, d.offset, d.mode, d.txFreq, d.txStep, d.lockout]

def ofValues? : List Value → Option MemoryDraft
  | [channel, freq, step, shift, reverse, toneOn, ctcssOn, dcsOn, toneIndex, ctcssIndex,
      dcsIndex, offset, mode, txFreq, txStep, lockout] =>
    some ⟨channel, freq, step, shift, reverse, toneOn, ctcssOn, dcsOn, toneIndex, ctcssIndex,
      dcsIndex, offset, mode, txFreq, txStep, lockout⟩
  | _ => none

def empty (channel freq : Value) : MemoryDraft :=
  { (MemoryRecord.empty lowest).toDraft with channel, freq }

/-- The record that a draft describes, or the first field that does not fit. -/
def check (d : MemoryDraft) : Except ArgumentFault MemoryRecord := do
  return {
    channel := ← checked "ME" "channel" _ d.channel
    freq := ← checked "ME" "freq" _ d.freq
    step := ← checked "ME" "step" _ d.step
    shift := ← checked "ME" "shift" _ d.shift
    reverse := ← checked "ME" "reverse" _ d.reverse
    toneOn := ← checked "ME" "tone" _ d.toneOn
    ctcssOn := ← checked "ME" "ct" _ d.ctcssOn
    dcsOn := ← checked "ME" "dcs" _ d.dcsOn
    toneIndex := ← checked "ME" "tone_freq" _ d.toneIndex
    ctcssIndex := ← checked "ME" "ct_freq" _ d.ctcssIndex
    dcsIndex := ← checked "ME" "dcs_val" _ d.dcsIndex
    offset := ← checked "ME" "offset" _ d.offset
    mode := ← checked "ME" "mode" _ d.mode
    txFreq := ← checked "ME" "tx_freq" _ d.txFreq
    txStep := ← checked "ME" "tx_step" _ d.txStep
    lockout := ← checked "ME" "lockout" _ d.lockout }

def overlay (d : MemoryDraft) (u : MemoryUpdate) : MemoryDraft where
  channel := d.channel
  freq := u.freq.getD d.freq
  step := u.step.getD d.step
  shift := u.shift.getD d.shift
  reverse := u.reverse.getD d.reverse
  toneOn := u.toneOn.getD d.toneOn
  ctcssOn := u.ctcssOn.getD d.ctcssOn
  dcsOn := u.dcsOn.getD d.dcsOn
  toneIndex := u.toneIndex.getD d.toneIndex
  ctcssIndex := u.ctcssIndex.getD d.ctcssIndex
  dcsIndex := u.dcsIndex.getD d.dcsIndex
  offset := u.offset.getD d.offset
  mode := u.mode.getD d.mode
  txFreq := u.txFreq.getD d.txFreq
  txStep := u.txStep.getD d.txStep
  lockout := u.lockout.getD d.lockout

def set? (d : MemoryDraft) (label : String) (v : Value) : Option MemoryDraft :=
  match label with
  | "channel" => some { d with channel := v }
  | "freq" => some { d with freq := v }
  | "step" => some { d with step := v }
  | "shift" => some { d with shift := v }
  | "reverse" => some { d with reverse := v }
  | "tone" => some { d with toneOn := v }
  | "ct" => some { d with ctcssOn := v }
  | "dcs" => some { d with dcsOn := v }
  | "tone_freq" => some { d with toneIndex := v }
  | "ct_freq" => some { d with ctcssIndex := v }
  | "dcs_val" => some { d with dcsIndex := v }
  | "offset" => some { d with offset := v }
  | "mode" => some { d with mode := v }
  | "tx_freq" => some { d with txFreq := v }
  | "tx_step" => some { d with txStep := v }
  | "lockout" => some { d with lockout := v }
  | _ => none

end MemoryDraft

end Transceiver
