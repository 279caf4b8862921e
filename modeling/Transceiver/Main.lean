import Transceiver.CommandLine.Tool
import Transceiver.Simulation.Bench

/-! The command line tool at a simulated radio. All that it does to files is to read the
stored settings and to write the log file. -/
namespace Transceiver.CommandLine

def readVariables : IO (List (String × String)) := do
  let names := ["HOME", "PWD", "TMV71RIG_DEBUG", "TMV71RIG_LOG", "TMV71RIG_LOG_LEVEL"]
  let found ← names.mapM fun name => do
    return (← IO.getEnv name).map fun text => (name, text)
  return found.filterMap id

def readStored (path : String) : IO (Option (List UInt8)) :=
  try
    return some (← IO.FS.readBinFile path).toList
  catch _ => return none

def isDirectory (location : Files.Location) : IO Bool :=
  try
    discard (IO.FS.realPath (Files.Path.ofLocation location ++ "/."))
    return true
  catch _ => return false

def knowing (tree : Files.Tree) (path : String) : IO Files.Tree := do
  let location := tree.resolve path
  let onTheWay := (List.range location.length).map fun n => location.take (n + 1)
  let existing ← (onTheWay.filter fun place => (tree.node? place).isNone).filterM isDirectory
  return existing.foldl Files.Tree.addFolder tree

/-- A host that works in one directory, has its home in another, and knows where the paths among
some texts lead. -/
def hostFor (environment : List (String × String)) (texts : List String) : IO Files.Host := do
  let place := fun (name : String) => (environment.lookup name).getD "/"
  let host := Files.Host.ofLocation (Files.Path.moves (place "PWD"))
  let paths := texts.flatMap fun text => text :: (Text.cut '=' text).2.toList
  let tree ← (place "HOME" :: paths).foldlM knowing host.tree
  return { host with tree, environment := [("HOME", place "HOME")] }

def faultText : ToolFault → String
  | .settings why => why.message?.getD "the settings cannot be used"
  | .file _ => "a file or directory cannot be used"
  | .rig why => why.message?.getD "a value is of an unsuitable kind"

def statusOf : Except ToolFault Nat → UInt32
  | .ok status => .ofNat status
  | .error _ => 1

def printReport (report : Report Simulation.Bench) : IO Unit := do
  IO.print report.output
  IO.eprint report.book.console
  match report.complaint with
  | some complaint => IO.eprintln complaint
  | none => pure ()
  match report.ending with
  | .error why => IO.eprintln (faultText why)
  | .ok _ => pure ()
  match report.book.file with
  | some file => IO.FS.writeFile (Files.Path.ofLocation file.location) file.text
  | none => pure ()

def quit (why : ToolFault) : IO UInt32 := do
  IO.eprintln (faultText why)
  return 1

def runAtBench (arguments : List String) : IO UInt32 := do
  let environment ← readVariables
  let host ← hostFor environment (arguments ++ (environment.lookup "TMV71RIG_LOG").toList)
  let opener : Opener Simulation.Bench := ⟨Simulation.Bench.port, none⟩
  match Logbook.start environment host.tree, host.homePath .null with
  | .error why, _ => quit (.ofLog why)
  | _, .error why => quit (.file why)
  | .ok (book, tree), .ok folder =>
    let stored ← readStored (Files.Path.join folder settingsName)
    let report := run opener stored { host with tree } book arguments .initial
    printReport report
    return statusOf report.ending

end Transceiver.CommandLine

def main (arguments : List String) : IO UInt32 := Transceiver.CommandLine.runAtBench arguments
