import Transceiver.Fault
import Transceiver.Files.Tree
import Transceiver.Log.Sources
import Transceiver.Number.Arithmetic
import Transceiver.Text.LowerCase

/-! Where log records go: to the console, to at most one file, each from a level of its own
on, and to those who listen to a part of the program. -/
namespace Transceiver

namespace Level

def names : List (String × Int) :=
  [("critical", critical), ("error", error), ("warn", warning), ("warning", warning),
   ("info", info), ("debug", debug)]

def named? (text : String) : Option Int :=
  match Number.readInt? text with
  | some n => some n
  | none => names.lookup (Text.lower text)

/-- The level that a text names or counts, or else the lowest one; all within the scale. -/
def ofText (text : String) : Int := clamp ((named? text).getD debug)

/-- The number on the scale that is nearest. What is between the ends stays what it is, and
NaN goes to the lower end. -/
def clampValue (v : Value) : Except Fault Value :=
  match v.number? with
  | none => .error .mistyped
  | some x =>
    .ok (if Number.Binary64.less (.finite critical) x then .int critical
      else if Number.Binary64.less (.finite debug) x then v
      else .int debug)

/-- The level that a value stands for; a text that says nothing stands for the other value. -/
def ofValue (v otherwise : Value) : Except Fault Value :=
  match v with
  | .text s =>
    match named? s with
    | some n => .ok (.int (clamp n))
    | none => clampValue otherwise
  | .float (.infinite _) => .error .unbounded
  | .float x =>
    match x.value? with
    | some q => .ok (.int (clamp (Number.truncate q)))
    | none => .error .missingAttribute
  | _ =>
    match v.int? with
    | some n => .ok (.int (clamp n))
    | none => .error .mistyped

def exactNames : List (String × Int) :=
  [("CRITICAL", critical), ("FATAL", critical), ("ERROR", error), ("WARN", warning),
   ("WARNING", warning), ("INFO", info), ("DEBUG", debug), ("NOTSET", 0)]

/-- The level that a value is exactly, by number or by name. A number stays as it is given. -/
def ofExact (v : Value) : Except Fault Value :=
  match v with
  | .text s =>
    match exactNames.lookup s with
    | some n => .ok (.int n)
    | none => .error .unknownLevel
  | _ => if v.int?.isSome then .ok v else .error .mistyped

/-- Whether a level is no lower than another one, which is given as a value. -/
def reaches (level : Int) (least : Value) : Bool := least.int?.all (· ≤ level)

end Level

inductive LogFault where
  | file (why : Files.FileFault)
  | level (why : Fault)

structure LogFile where
  path : String
  location : Files.Location
  level : Value
  /-- A file whose level was refused takes none, nor one that was closed. -/
  takesRecords : Bool
  text : String

structure Logbook where
  consoleLevel : Int
  isOpen : Bool
  console : String
  file : Option LogFile
  /-- Those who said something, or were listened to. -/
  sources : Sources

structure LogOptions where
  quieter : Nat
  louder : Nat
  fileName : String
  fileLevel : Value

namespace LogOptions

def initial : LogOptions := ⟨0, 0, "", .text "debug"⟩

end LogOptions

namespace LogRecord

def consoleLine (r : LogRecord) : String := Level.name r.level ++ ": " ++ r.message ++ "\n"

def fileLine (r : LogRecord) : String :=
  r.source ++ " - " ++ Level.name r.level ++ ": " ++ r.message ++ "\n"

end LogRecord

def LogFile.write (f : LogFile) (r : LogRecord) : LogFile :=
  if f.takesRecords && Level.reaches r.level f.level then { f with text := f.text ++ r.fileLine } else f

namespace Logbook

/-- What a logbook can be asked for by name, and what it has besides. -/
def names : List String :=
  ["set_verbosity", "log_to_file", "remove", "root", "console", "console_level", "logfile",
   "instance"] ++ commonNames

def lowestLevel : Int := Level.debug

/-- Whether nobody takes records, so that grave ones go to the console unadorned. -/
def isAbandoned (book : Logbook) : Bool := !book.isOpen && !book.file.any LogFile.takesRecords

def shown (book : Logbook) (isHeard : Bool) (r : LogRecord) : String :=
  if book.isOpen then if book.consoleLevel ≤ r.level then r.consoleLine else ""
  else if book.isAbandoned && !isHeard && Level.warning ≤ r.level then r.message ++ "\n"
  else ""

def take (book : Logbook) (isHeard : Bool) (r : LogRecord) : Logbook :=
  let book := { book with sources := book.sources.add r.source }
  if r.level < lowestLevel then book
  else
    { book with
      console := book.console ++ book.shown isHeard r
      file := book.file.map fun f => f.write r }

def emit (book : Logbook) (r : LogRecord) : Logbook := book.take false r

def emitAll (book : Logbook) (log : List LogRecord) : Logbook := log.foldl emit book

/-- The logbook after console and file are closed. They show and take no more records, but the file
stays the one that is logged to. -/
def closed (book : Logbook) : Logbook :=
  { book with isOpen := false, file := book.file.map fun f => { f with takesRecords := false } }

def attend (book : Logbook) (part : String) : Logbook :=
  { book with sources := book.sources.add part }

def reaches (book : Logbook) (part : String) (r : LogRecord) : Bool :=
  (book.sources.add r.source).hears part r.source

def heard (book : Logbook) (level : Value) (part : String) : List LogRecord → List LogRecord × Logbook
  | [] => ([], book)
  | r :: rest =>
    let isHeard := book.reaches part r
    let (later, after) := (book.take isHeard r).heard level part rest
    (if isHeard && lowestLevel ≤ r.level && Level.reaches r.level level then r :: later else later, after)

def setVerbosity (book : Logbook) (level : Value) : Except Fault Logbook :=
  match Level.clampValue level with
  | .ok (.int n) => .ok { book with consoleLevel := n }
  | .ok _ => .error .mistyped
  | .error why => .error why

def createFile (tree : Files.Tree) (v : Value) :
    Except Files.FileFault (String × Files.Location × Files.Tree) :=
  match v with
  | .text path => do
    let path := tree.absolute path
    return (path, ← tree.createFile path)
  | _ => .error .mistyped

def logToFile (book : Logbook) (tree : Files.Tree) (path level : Value) :
    Except LogFault Unit × Logbook × Files.Tree :=
  match book.file with
  | some f =>
    (.ok (), book.emit ⟨Source.logbook, Level.error, "Already logging to " ++ f.path⟩, tree)
  | none =>
    match createFile tree path with
    | .error why => (.error (.file why), book, tree)
    | .ok (path, location, tree) =>
      match Level.ofExact level with
      | .ok n => (.ok (), { book with file := some ⟨path, location, n, true, ""⟩ }, tree)
      | .error why =>
        (.error (.level why), { book with file := some ⟨path, location, .int 0, false, ""⟩ }, tree)

def start (environment : List (String × String)) (tree : Files.Tree) :
    Except LogFault (Logbook × Files.Tree) :=
  let setting := fun name => (environment.lookup name).getD ""
  let shown := setting "TMV71RIG_DEBUG"
  let book : Logbook := ⟨if shown = "" then Level.warning else Level.ofText shown, true, "", none, []⟩
  let path := setting "TMV71RIG_LOG"
  if path = "" then .ok (book, tree)
  else
    let level := Level.ofText ((environment.lookup "TMV71RIG_LOG_LEVEL").getD "debug")
    let (done, book, tree) := book.logToFile tree (.text path) (.int level)
    done.map fun _ => (book, tree)

def askedLevel (book : Logbook) (options : LogOptions) : Int :=
  if options.quieter = 0 ∧ options.louder = 0 then book.consoleLevel
  else Level.clamp (Level.warning + 10 * ((options.quieter : Int) - options.louder))

def follow (book : Logbook) (tree : Files.Tree) (options : LogOptions) :
    Except LogFault Unit × Logbook × Files.Tree :=
  let book := { book with consoleLevel := book.askedLevel options }
  if options.fileName = "" then (.ok (), book, tree)
  else
    match Level.ofValue options.fileLevel (.int Level.debug) with
    | .error why => (.error (.level why), book, tree)
    | .ok level => book.logToFile tree (.text options.fileName) level

end Logbook

end Transceiver
