import Transceiver.Record.Field

/-! VFO records: the settings of a band in VFO mode, and the FO line that carries them. -/
namespace Transceiver

open Record

structure VfoRecord where
  band : Band
  freq : Fin 10000000000
  step : Fin 11
  shift : Fin 10
  reverse : Fin 2
  toneOn : Fin 2
  ctcssOn : Fin 2
  dcsOn : Fin 2
  toneIndex : Fin 42
  ctcssIndex : Fin 42
  dcsIndex : Fin 104
  offset : Fin 100000000
  mode : Fin 3
  deriving DecidableEq, Repr

structure VfoDraft where
  band : Value
  freq : Value
  step : Value
  shift : Value
  reverse : Value
  toneOn : Value
  ctcssOn : Value
  dcsOn : Value
  toneIndex : Value
  ctcssIndex : Value
  dcsIndex : Value
  offset : Value
  mode : Value

namespace VfoRecord

def formats : List Format :=
  [⟨"band", 1, 2⟩, ⟨"freq", 10, 10000000000⟩, ⟨"step", 1, 11⟩, ⟨"shift", 1, 10⟩,
   ⟨"reverse", 1, 2⟩, ⟨"tone", 1, 2⟩, ⟨"ct", 1, 2⟩, ⟨"dcs", 1, 2⟩, ⟨"tone_freq", 2, 42⟩,
   ⟨"ct_freq", 2, 42⟩, ⟨"dcs_val", 3, 104⟩, ⟨"offset", 8, 100000000⟩, ⟨"mode", 1, 3⟩]

def labels : List String := formats.map Format.label

def values (r : VfoRecord) : List Nat :=
  [r.band.index, r.freq, r.step, r.shift, r.reverse, r.toneOn, r.ctcssOn, r.dcsOn, r.toneIndex,
   r.ctcssIndex, r.dcsIndex, r.offset, r.mode]

def line (r : VfoRecord) : String := lineText "FO" (fieldTexts formats r.values)

def parse (reply : String) : Except Fault VfoRecord := do
  match ← fieldsOf "FO" reply with
  | [band, freq, step, shift, reverse, toneOn, ctcssOn, dcsOn, toneIndex, ctcssIndex, dcsIndex,
      offset, mode] =>
    return {
      band := ← bandNumber reply band
      freq := ← number _ reply freq
      step := ← number _ reply step
      shift := ← number _ reply shift
      reverse := ← number _ reply reverse
      toneOn := ← number _ reply toneOn
      ctcssOn := ← number _ reply ctcssOn
      dcsOn := ← number _ reply dcsOn
      toneIndex := ← number _ reply toneIndex
      ctcssIndex := ← number _ reply ctcssIndex
      dcsIndex := ← number _ reply dcsIndex
      offset := ← number _ reply offset
      mode := ← number _ reply mode }
  | fields => throw (.radio (.fieldCount "FO" fields.length 13 reply))

end VfoRecord

namespace VfoDraft

def ofValues? : List Value → Option VfoDraft
  | [band, freq, step, shift, reverse, toneOn, ctcssOn, dcsOn, toneIndex, ctcssIndex, dcsIndex,
      offset, mode] =>
    some ⟨band, freq, step, shift, reverse, toneOn, ctcssOn, dcsOn, toneIndex, ctcssIndex,
      dcsIndex, offset, mode⟩
  | _ => none

/-- The record that a draft describes, or the first field that does not fit. -/
def check (d : VfoDraft) : Except ArgumentFault VfoRecord := do
  return {
    band := .ofIndex (← checked "FO" "band" _ d.band)
    freq := ← checked "FO" "freq" _ d.freq
    step := ← checked "FO" "step" _ d.step
    shift := ← checked "FO" "shift" _ d.shift
    reverse := ← checked "FO" "reverse" _ d.reverse
    toneOn := ← checked "FO" "tone" _ d.toneOn
    ctcssOn := ← checked "FO" "ct" _ d.ctcssOn
    dcsOn := ← checked "FO" "dcs" _ d.dcsOn
    toneIndex := ← checked "FO" "tone_freq" _ d.toneIndex
    ctcssIndex := ← checked "FO" "ct_freq" _ d.ctcssIndex
    dcsIndex := ← checked "FO" "dcs_val" _ d.dcsIndex
    offset := ← checked "FO" "offset" _ d.offset
    mode := ← checked "FO" "mode" _ d.mode }

end VfoDraft

end Transceiver
