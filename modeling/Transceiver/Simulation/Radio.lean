import Transceiver.Band
import Transceiver.Command
import Transceiver.Simulation.Table

/-! A radio that answers commands. Memories and names are kept as the text that was
stored, so a radio can also hold what no rig would write. -/
namespace Transceiver.Simulation

open Number

structure PerBand (α : Type) where
  a : α
  b : α
  deriving DecidableEq, Repr

namespace PerBand

variable {α : Type}

def get (p : PerBand α) : Band → α
  | .a => p.a
  | .b => p.b

def set (p : PerBand α) (band : Band) (v : α) : PerBand α :=
  match band with
  | .a => { p with a := v }
  | .b => { p with b := v }

@[simp] theorem get_set (p : PerBand α) (band other : Band) (v : α) :
    (p.set band v).get other = if band = other then v else p.get other := by
  cases band <;> cases other <;> simp [get, set]

end PerBand

structure Radio where
  memories : Table
  names : Table
  control : Int
  transmit : Int
  tuning : PerBand Int
  selection : PerBand Int
  busy : PerBand Int
  vfo : PerBand String
  transmitting : Bool
  deriving DecidableEq, Repr

/-- What the radio stores for a channel that is created without contents. -/
def emptyMemory (channel : Int) : String :=
  paddedInt 3 channel ++ ",0146500000,0,0,0,0,0,0,00,00,000,00000000,0,0000000000,0,0"

namespace Radio

def initial : Radio where
  memories := .empty
  names := .empty
  control := 0
  transmit := 0
  tuning := ⟨1, 1⟩
  selection := ⟨0, 0⟩
  busy := ⟨0, 0⟩
  vfo := ⟨"0146520000,0,0,0,0,0,0,08,08,000,00600000,1", "0446000000,0,0,0,0,0,0,08,08,000,05000000,1"⟩
  transmitting := false

/-- The band of a number; negative numbers count from the last band. -/
def bandOf? (n : Int) : Option Band :=
  if n = 0 ∨ n = -2 then some .a
  else if n = 1 ∨ n = -1 then some .b
  else none

def answerMemory (r : Radio) (args : List String) : Option (String × Radio) := do
  let channel ← readInt? (← args.head?)
  if args.length = 1 then
    match r.memories.get? channel with
    | some payload => return ("ME " ++ payload, r)
    | none => return ("N", r)
  else if args.length = 16 then
    let payload := Text.join "," args
    return ("ME " ++ payload, { r with memories := r.memories.put channel payload })
  else return ("N", r)

def nameReply (r : Radio) (channel : Int) : String :=
  let name := (r.names.get? channel).getD ""
  "MN " ++ paddedInt 3 channel ++ (if name = "" then "" else "," ++ name)

def answerName (r : Radio) (args : List String) : Option (String × Radio) := do
  let channel ← readInt? (← args.head?)
  match args[1]? with
  | some name =>
    let r := { r with names := r.names.put channel name }
    return (r.nameReply channel, r)
  | none => return (r.nameReply channel, r)

def controlReply (r : Radio) : Option String := do
  return "BC " ++ (← written? showInt r.control) ++ "," ++ (← written? showInt r.transmit)

def answerControl (r : Radio) (args : List String) : Option (String × Radio) := do
  if args.isEmpty then return (← r.controlReply, r)
  let control ← readInt? (← args[0]?)
  let transmit ← readInt? (← args[1]?)
  let r := { r with control, transmit }
  return (← r.controlReply, r)

def answerTuning (r : Radio) (args : List String) : Option (String × Radio) := do
  let n ← readInt? (← args.head?)
  let r ←
    match args[1]? with
    | some arg => do
      let mode ← readInt? arg
      pure { r with tuning := r.tuning.set (← bandOf? n) mode }
    | none => pure r
  return ("VM " ++ showInt n ++ "," ++ (← written? showInt (r.tuning.get (← bandOf? n))), r)

def selectionReply (r : Radio) (n : Int) : Option String := do
  return "MR " ++ showInt n ++ "," ++ (← written? (paddedInt 3) (r.selection.get (← bandOf? n)))

def answerSelection (r : Radio) (args : List String) : Option (String × Radio) := do
  let n ← readInt? (← args.head?)
  match args[1]? with
  | some arg =>
    let channel ← readInt? arg
    if (r.memories.get? channel).isNone then return ("N", r)
    let r := { r with selection := r.selection.set (← bandOf? n) channel }
    return (← r.selectionReply n, r)
  | none => return (← r.selectionReply n, r)

def answerBusy (r : Radio) (args : List String) : Option (String × Radio) := do
  let n ← readInt? (← args.head?)
  return ("BY " ++ showInt n ++ "," ++ (← written? showInt (r.busy.get (← bandOf? n))), r)

def answerVfo (r : Radio) (args : List String) : Option (String × Radio) := do
  let n ← readInt? (← args.head?)
  let band ← bandOf? n
  let r := if args.length = 1 then r else { r with vfo := r.vfo.set band (Text.join "," args.tail) }
  return ("FO " ++ showInt n ++ "," ++ r.vfo.get band, r)

def keyReply (r : Radio) (line : String) : String :=
  ((written? showInt r.transmit).map fun transmit => line ++ " " ++ transmit).getD "?"

/-- The answer to the command of a name, if the radio knows it and can make sense of its
arguments. -/
def answerNamed (r : Radio) (name : String) (args : List String) : Option (String × Radio) :=
  match name with
  | "ID" => some ("ID TM-V71", r)
  | "ME" => r.answerMemory args
  | "MN" => r.answerName args
  | "BC" => r.answerControl args
  | "VM" => r.answerTuning args
  | "MR" => r.answerSelection args
  | "BY" => r.answerBusy args
  | "FO" => r.answerVfo args
  | "TX" => some (r.keyReply "TX", { r with transmitting := true })
  | "RX" => some (r.keyReply "RX", { r with transmitting := false })
  | _ => none

def argumentsOf (rest : Option String) : List String :=
  match rest with
  | none => []
  | some text => if text = "" then [] else Text.fields ',' text

def answer (r : Radio) (command : String) : String × Radio :=
  let (name, rest) := Text.cut ' ' command
  (r.answerNamed name (argumentsOf rest)).getD ("?", r)

end Radio

end Transceiver.Simulation
