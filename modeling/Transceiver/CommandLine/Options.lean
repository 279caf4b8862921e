import Transceiver.Band
import Transceiver.CommandLine.Arguments
import Transceiver.Logbook
import Transceiver.Number.Numeral
import Transceiver.Rig.Session

/-! The options of the command line tool. -/
namespace Transceiver.CommandLine

structure Options where
  port : Value
  baud : Value
  rig : Value
  listRigs : Bool
  policy : Value
  vfo : String
  showId : Bool
  showVfo : Bool
  selectVfo : Option String
  showFrequency : Bool
  setFrequency : Option String
  showMode : Bool
  setMode : Option String
  split : Option Bool
  transmitVfo : Option String
  showChannel : Option Value
  transmit : Option Bool
  showSignal : Bool
  log : LogOptions

namespace Options

def initial (port : String) (baud : Int) (policy : String) : Options where
  port := .text port
  baud := .int baud
  rig := .text "Kenwood_TM-V71"
  listRigs := false
  policy := .text policy
  vfo := "currVFO"
  showId := false
  showVfo := false
  selectVfo := none
  showFrequency := false
  setFrequency := none
  showMode := false
  setMode := none
  split := none
  transmitVfo := none
  showChannel := none
  transmit := none
  showSignal := false
  log := .initial

end Options

def toolName : String := "tmv71ctl"

def version : String := "0.1.0dev"

def readVfo (apply : String → Options → Options) : Effect Options :=
  .value fun v o =>
    match v.text?.filter vfoNames.contains with
    | some name => .ok (apply name o)
    | none => .error ("Invalid VFO `" ++ v.shown ++ "' (" ++ Text.join ", " vfoNames ++ ")")

def readOnOff (apply : Bool → Options → Options) : Effect Options :=
  .value fun v o =>
    match v.text?.filter ["on", "off"].contains with
    | some state => .ok (apply (state = "on") o)
    | none => .error ("Expected on or off, not `" ++ v.shown ++ "'")

def readInt (apply : Value → Options → Options) : Effect Options :=
  .value fun v o =>
    match v with
    | .text s =>
      match Number.readInt? s with
      | some n => .ok (apply (.int n) o)
      | none => .error ("invalid int value: " ++ Text.quoted s)
    | v => .ok (apply v o)

def readChoice (choices : List String) (apply : Value → Options → Options) : Effect Options :=
  .value fun v o =>
    match v.text?.filter fun s => !choices.contains s with
    | some other =>
      .error ("invalid choice: " ++ Text.quoted other ++ " (choose from " ++
        Text.join ", " (choices.map Text.quoted) ++ ")")
    | none => .ok (apply v o)

def read {α : Type} (apply : Value → α → α) : Effect α := .value fun v o => .ok (apply v o)

/-- The options about logging, for any program that has them. -/
def logSwitches {α : Type} (change : (LogOptions → LogOptions) → α → α) : List (Switch α) :=
  [{ names := ["-q", "--quiet"], effect := .flag (change fun o => { o with quieter := o.quieter + 1 }) },
   { names := ["-v", "--verbose"], effect := .flag (change fun o => { o with louder := o.louder + 1 }) },
   { names := ["--log"],
     effect := read fun v => change fun o => { o with fileName := v.text?.getD "" } },
   { names := ["--log-level"], effect := read fun v => change fun o => { o with fileLevel := v } }]

def helpSwitch {α : Type} : Switch α := { names := ["-h", "--help"], effect := .finish "" }

def switches : List (Switch Options) :=
  [helpSwitch,
   { names := ["--version"], effect := .finish (toolName ++ " " ++ version ++ "\n") },
   { names := ["-s", "--serial"], effect := read fun v o => { o with port := v } },
   { names := ["--baud"], effect := readInt fun v o => { o with baud := v } },
   { names := ["-r", "--rig"], effect := read fun v o => { o with rig := v } },
   { names := ["--list-rigs"], effect := .flag fun o => { o with listRigs := true } },
   { names := ["--reconcile"],
     effect := readChoice (Policy.all.map Policy.name) fun v o => { o with policy := v } },
   { names := ["--vfo"], effect := readVfo fun name o => { o with vfo := name } },
   { names := ["--id"], effect := .flag fun o => { o with showId := true } },
   { names := ["--get-vfo"], effect := .flag fun o => { o with showVfo := true } },
   { names := ["--set-vfo"], effect := readVfo fun name o => { o with selectVfo := some name } },
   { names := ["--get-freq"], effect := .flag fun o => { o with showFrequency := true } },
   { names := ["--set-freq"], effect := read fun v o => { o with setFrequency := v.text? } },
   { names := ["--get-mode"], effect := .flag fun o => { o with showMode := true } },
   { names := ["--set-mode"], effect := read fun v o => { o with setMode := v.text? } },
   { names := ["--split"], effect := .flag fun o => { o with split := some true }, rival := "--no-split" },
   { names := ["--no-split"], effect := .flag fun o => { o with split := some false }, rival := "--split" },
   { names := ["--tx-vfo"], effect := readVfo fun name o => { o with transmitVfo := some name } },
   { names := ["--get-channel"], effect := readInt fun v o => { o with showChannel := some v } },
   { names := ["--ptt"], effect := readOnOff fun on o => { o with transmit := some on } },
   { names := ["--dcd"], effect := .flag fun o => { o with showSignal := true } }] ++
    logSwitches fun change o => { o with log := change o.log }

end Transceiver.CommandLine
