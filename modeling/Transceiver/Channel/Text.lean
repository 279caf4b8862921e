import Transceiver.Channel.Basic
import Transceiver.Frequency.Measured
import Transceiver.Rate

/-! Channels as text: the one-line listing, and the full account of the checked attributes.
Unchecked values may make either impossible. -/
namespace Transceiver.Channel

def frequencyText (c : Channel) : Except Fault String :=
  if (c.note? frequencyLabel).isSome then .error .mistyped else Frequency.formatValue (c.value .freq)

def listing (c : Channel) : Except Fault String := do
  let freq ← c.frequencyText
  let offset ← Frequency.formatValue (c.value .offset)
  let number ← (c.value .number).wholeText
  let name ← (c.value .name).written
  let duplex ← if (c.value .duplex).truth then (c.value .duplex).written else pure (.text " ")
  let mode ← (c.value .mode).written
  return Text.padStart 3 number ++ ": " ++ Text.padEnd 8 ' ' name.shown ++ " " ++ freq ++ " " ++
    duplex.shown ++ offset ++ " " ++ mode.shown

def account (c : Channel) : Except Fault String := do
  let entries ← (← c.checkedEntries).mapM fun (label, v) => do return label ++ "=" ++ (← v.written).quoted
  let number ← (c.value .number).wholeText
  return "<Channel " ++ number ++ ": " ++ Text.join "," entries ++ ">"

end Transceiver.Channel
