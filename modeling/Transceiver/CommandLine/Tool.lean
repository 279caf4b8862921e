import Transceiver.Channel.Text
import Transceiver.CommandLine.Options
import Transceiver.Directory
import Transceiver.Files.UserFolder
import Transceiver.Identity
import Transceiver.Rig.Request
import Transceiver.Settings.Access

/-! The command line tool: it reads settings and arguments, opens the port, carries the
requests out in a fixed order, and prints what was asked for. -/
namespace Transceiver.CommandLine

inductive ToolFault where
  | settings (why : SettingsFault)
  | file (why : Files.FileFault)
  | rig (why : Fault)

def ToolFault.ofLog : LogFault → ToolFault
  | .file why => .file why
  | .level why => .rig why

structure Opening where
  port : Value
  baud : Int

structure Report (σ : Type) where
  ending : Except ToolFault Nat
  output : String
  /-- A complaint about the arguments. -/
  complaint : Option String
  book : Logbook
  openings : List Opening
  closed : Bool
  port : σ

/-- A request, or a refusal to make one, and what is printed of the answer. -/
structure Task where
  request : Except ArgumentFault Request
  print : Answer → Except Fault String

def silent (_ : Answer) : Except Fault String := .ok ""

def printValue (text : Value → Except Fault String) : Answer → Except Fault String
  | .value v => (text v).map (· ++ "\n")
  | _ => .ok ""

def printMode : Value → Except Fault String
  | .list [name, width] => .ok (name.shown ++ " " ++ width.shown)
  | v => .ok v.shown

def printChannel : Answer → Except Fault String
  | .channel c => c.listing.map (· ++ "\n")
  | _ => .ok ""

def frequencyRequest (vfo : Value) (text : String) : Except ArgumentFault Request :=
  match Frequency.read text with
  | .ok hertz => .ok (.setFrequency vfo (.int hertz))
  | .error _ => .error (.frequencyText text)

/-- The transmitting VFO, if none is named: the second one to split, the current one to
end it. -/
def transmitVfoFor (o : Options) (split : Bool) : Value :=
  .text (o.transmitVfo.getD (if split then "VFOB" else "currVFO"))

def given (text : Option String) : Option String := text.filter (· != "")

def onOff (v : Value) : Except Fault String := .ok (if v.truth then "on" else "off")

def only (wanted : Bool) (task : Task) : List Task := if wanted then [task] else []

def tasks (o : Options) : List Task :=
  let vfo := Value.text o.vfo
  let just := fun (r : Request) => Task.mk (.ok r) silent
  ((given o.selectVfo).toList.map fun name => just (.selectVfo (.text name))) ++
  (o.split.toList.map fun split => just (.setSplit (.bool split) (transmitVfoFor o split))) ++
  ((given o.setMode).toList.map fun mode => just (.setMode vfo (.text mode))) ++
  ((given o.setFrequency).toList.map fun text => ⟨frequencyRequest vfo text, silent⟩) ++
  (o.transmit.toList.map fun on => just (.setTransmit (.bool on))) ++
  only o.showVfo ⟨.ok .selectedVfo, printValue fun v => .ok v.shown⟩ ++
  only o.showFrequency ⟨.ok (.frequency vfo), printValue Frequency.formatValue⟩ ++
  only o.showMode ⟨.ok (.mode vfo), printValue printMode⟩ ++
  (o.showChannel.toList.map fun n => ⟨.ok (.channel n), printChannel⟩) ++
  only o.showSignal ⟨.ok (.hearsSignal vfo), printValue onOff⟩

variable {σ : Type}

def carryOutTasks (link : Link) (port : Port σ) :
    Rig → List Task → String → List Event → σ → Outcome σ Unit × String
  | _, [], output, history, s => (⟨.ok (), history, s⟩, output)
  | rig, task :: rest, output, history, s =>
    match task.request with
    | .error why => (⟨.error (.ofArgument why), history, s⟩, output)
    | .ok request =>
      let (o, rig) := rig.carryOut link port request s
      match o.result.bind task.print with
      | .error why => (⟨.error why, history ++ o.history, o.port⟩, output)
      | .ok text => carryOutTasks link port rig rest (output ++ text) (history ++ o.history) o.port

def showModel (link : Link) (port : Port σ) (wanted : Bool) (s : σ) : Outcome σ String :=
  if wanted then
    let o := link.model port .null s
    { o with result := o.result.map fun model => "Model: " ++ model ++ "\n" }
  else ⟨.ok "", [], s⟩

def session (link : Link) (port : Port σ) (rig : Rig) (o : Options) (s : σ) : Outcome σ Unit × String :=
  let asked := showModel link port o.showId s
  match asked.result with
  | .error why => (⟨.error why, asked.history, asked.port⟩, "")
  | .ok text => carryOutTasks link port rig.opened (tasks o) text asked.history asked.port

def toolNote (level : Int) (message : String) : LogRecord := ⟨Source.tool, level, message⟩

/-- What is said of a fault of the radio or of an argument, which leads to an exit status. Other
faults end the tool. -/
def expected (why : Fault) : Except Fault String :=
  match why with
  | .argument why => .ok why.message
  | .radio why => .ok why.message
  | why => .error why

def rigList (d : Directory) : String :=
  "Supported Rigs:\n\t " ++ Text.join "\n\t" (d.sortedRegistrations.map (·.1)) ++ "\n"

def rigs : Directory := .initial

/-- What happens at the port: it cannot be opened, or it is there to be used. -/
structure Opener (σ : Type) where
  port : Port σ
  refusal : Option String

/-- A run that ends, with what was logged, before anything was opened. -/
def stopped (ending : Except ToolFault Nat) (book : Logbook) (s : σ) : Report σ :=
  ⟨ending, "", none, book, [], false, s⟩

def usePort (port : Port σ) (settings : Settings) (o : Options) (book : Logbook) (s : σ) : Report σ :=
  let timeout := settings.lookFloat (.text "serial") (.text "timeout")
  let retries := settings.lookInt (.text "serial") (.text "retries")
  match timeout.result, retries.result with
  | .error why, _ => stopped (.error (.settings why)) (book.emitAll timeout.log) s
  | .ok _, .error why =>
    stopped (.error (.settings why)) (book.emitAll (timeout.log ++ retries.log)) s
  | .ok timeout', .ok retries' =>
    let book := book.emitAll (timeout.log ++ retries.log)
    match Policy.check o.policy with
    | .error why =>
      { stopped (.ok 1) (book.emit (toolNote Level.error why.message)) s with closed := true }
    | .ok policy =>
      let link : Link := { patience := ticksOfSeconds timeout', retries := retries' }
      let (done, output) := session link port (.closed policy) o s
      let book := book.emitAll done.log
      let report := { stopped (.ok 0) book done.port with output, closed := true }
      match done.result with
      | .ok () => report
      | .error why =>
        match expected why with
        | .ok message =>
          { report with ending := .ok 1, book := book.emit (toolNote Level.error message) }
        | .error why => { report with ending := .error (.rig why) }

/-- The part of a run that opens the port, at a rate that has to be a number. -/
def openPort (opener : Opener σ) (settings : Settings) (o : Options) (book : Logbook) (s : σ) : Report σ :=
  match o.baud.int? with
  | none => stopped (.error (.rig .mistyped)) book s
  | some baud =>
    let note := "opening " ++ o.port.shown ++ " at " ++ Number.showInt baud
    let book := book.emit (toolNote Level.info note)
    let report :=
      match opener.refusal with
      | some why =>
        let fault := RadioFault.cannotOpen o.port.shown why
        stopped (.ok 1) (book.emit (toolNote Level.error fault.message)) s
      | none => usePort opener.port settings o book s
    { report with openings := [⟨o.port, baud⟩] }

def work (opener : Opener σ) (settings : Settings) (o : Options) (book : Logbook) (s : σ) : Report σ :=
  if o.listRigs then { stopped (.ok 0) book s with output := rigList rigs }
  else
    match rigs.find o.rig with
    | .error why => stopped (.ok 1) (book.emit (toolNote Level.error (why.message?.getD ""))) s
    | .ok _ => openPort opener settings o book s

def runWith (opener : Opener σ) (settings : Settings) (tree : Files.Tree) (book : Logbook)
    (arguments : List String) (s : σ) : Report σ :=
  match settings.look (.text "serial") (.text "port"), settings.look (.text "rig") (.text "reconcile") with
  | .error why, _ | _, .error why => stopped (.error (.settings why)) book s
  | .ok port, .ok policy =>
    let baud := settings.lookInt (.text "serial") (.text "baudrate")
    let book := book.emitAll baud.log
    match baud.result with
    | .error why => stopped (.error (.settings why)) book s
    | .ok baud =>
      match understand switches (.initial (port.getD "") baud (policy.getD "")) arguments with
      | .error (.refused message) =>
        { stopped (.ok 2) book s with complaint := some (toolName ++ ": error: " ++ message) }
      | .error (.ended output) => { stopped (.ok 0) book s with output }
      | .ok options =>
        match book.follow tree options.log with
        | (.error why, book, _) => stopped (.error (.ofLog why)) book s
        | (.ok (), book, _) => work opener settings options book s

def settingsName : String := "tmv71rig.config"

/-- The stored settings as the tool finds them: a log file that takes their place was emptied. -/
def foundSettings (stored : Option (List UInt8)) (host : Files.Host) (folder : String) (book : Logbook) :
    Option (List UInt8) :=
  let place := host.tree.resolve (Files.Path.join folder settingsName)
  if book.file.any (·.location == place) then some [] else stored

/-- A run of the tool. The stored settings are those of the user folder, if there are any. -/
def run (opener : Opener σ) (stored : Option (List UInt8)) (host : Files.Host) (book : Logbook)
    (arguments : List String) (s : σ) : Report σ :=
  match host.userFolder .null with
  | (.error why, _) => stopped (.error (.file why)) book s
  | (.ok folder, host) =>
    let loaded := Settings.load (foundSettings stored host folder book)
    let book := book.emitAll loaded.log
    match loaded.result with
    | .error why => stopped (.error (.settings why)) book s
    | .ok settings => runWith opener settings host.tree book arguments s

end Transceiver.CommandLine
