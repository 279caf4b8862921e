import Transceiver.Text.Fields

/-! A tree of directories and files, and paths into it. The root always exists. Going
through a path needs every directory on the way to exist, and names of a bearable length. -/
namespace Transceiver.Files

/-- The names on the way from the root. -/
abbrev Location := List String

inductive FileFault where
  | notFound
  | exists
  | notDirectory
  | isDirectory
  | tooLong
  | tooDeep
  /-- A text that can be no path or name because of a character in it. -/
  | badCharacter
  | nameless
  | homeless
  | mistyped
  deriving DecidableEq, Repr

inductive Node where
  | file
  | directory (entries : List (String × Node))
  deriving Repr

structure Tree where
  top : Node
  /-- Where relative paths start. -/
  here : Location
  deriving Repr

def longestName : Nat := 255

def longestPath : Nat := 4095

/-- How many directories, one above the other, can be made at once. -/
def deepestMaking : Nat := 991

def hasNull (text : String) : Bool := Text.contains text '\x00'

namespace Path

/-- What a path starts with: nothing, a slash, or two slashes where there is no third. -/
def root (path : String) : String :=
  match path.toList.takeWhile (· == '/') with
  | [] => ""
  | ['/', '/'] => "//"
  | _ => "/"

def isAbsolute (path : String) : Bool := Text.startsWith "/" path

/-- The steps of a path. A dot stays where it is, and two dots lead one step up. -/
def steps (path : String) : List String := (Text.fields '/' path).filter (· != "")

def moves (path : String) : List String := (steps path).filter (· != ".")

/-- A path below another one. An absolute path stands for itself. -/
def join (base path : String) : String :=
  if isAbsolute path then path
  else if base = "" || Text.endsWith "/" base then base ++ path
  else base ++ "/" ++ path

def tidy (path : String) : String :=
  let tidied := root path ++ Text.join "/" (moves path)
  if tidied = "" then "." else tidied

def ofLocation (location : Location) : String := "/" ++ Text.join "/" location

def next (place : Location) (step : String) : Location :=
  if step = "." then place
  else if step = ".." then place.dropLast
  else place ++ [step]

/-- Takes steps in name only: a step up undoes the step before it. -/
def resolve (start : Location) (steps : List String) : Location := steps.foldl next start

end Path

namespace Node

/-- The node with another one put at a location. Directories on the way are made. -/
def put : Node → Location → Node → Node
  | _, [], new => new
  | .file, _ :: _, _ => .file
  | .directory entries, name :: rest, new =>
    let old := (entries.lookup name).getD (.directory [])
    .directory ((name, old.put rest new) :: entries.filter (·.1 != name))

mutual

def folders : Node → List Location
  | .file => []
  | .directory entries => foldersOf entries

def foldersOf : List (String × Node) → List Location
  | [] => []
  | (_, .file) :: rest => foldersOf rest
  | (name, .directory entries) :: rest =>
    ([name] :: (foldersOf entries).map (name :: ·)) ++ foldersOf rest

end

end Node

structure Place where
  node? : Option Node
  /-- The steps from the top, each with the directory it was taken in, the last one first. -/
  way : List (String × Node)

namespace Place

def location (p : Place) : Location := (p.way.map (·.1)).reverse

def up (p : Place) : Place :=
  match p.way with
  | [] => p
  | (_, above) :: way => ⟨some above, way⟩

def next (p : Place) (step : String) : Except FileFault Place :=
  match p.node? with
  | none => .error .notFound
  | some .file => .error .notDirectory
  | some (.directory entries) =>
    if longestName < step.utf8ByteSize then .error .tooLong
    else if step = "." then .ok p
    else if step = ".." then .ok p.up
    else .ok ⟨entries.lookup step, (step, .directory entries) :: p.way⟩

end Place

namespace Tree

def usualFolders : List Location :=
  [["bin"], ["boot"], ["dev"], ["dev", "pts"], ["dev", "shm"], ["etc"], ["home"], ["lib"], ["media"],
   ["mnt"], ["opt"], ["proc"], ["root"], ["run"], ["sbin"], ["srv"], ["sys"], ["tmp"], ["usr"],
   ["usr", "bin"], ["usr", "lib"], ["usr", "local"], ["usr", "sbin"], ["usr", "share"], ["var"],
   ["var", "lib"], ["var", "log"], ["var", "tmp"]]

/-- What else a system has, and can be written to as a file. -/
def usualFiles : List Location :=
  [["dev", "null"], ["dev", "zero"], ["dev", "full"], ["dev", "random"], ["dev", "urandom"],
   ["etc", "passwd"], ["etc", "group"], ["etc", "hosts"], ["etc", "hostname"]]

/-- What a system has before anything is made. -/
def usual : Node :=
  let folders := usualFolders.foldl (fun top location => top.put location (.directory [])) (.directory [])
  usualFiles.foldl (fun top location => top.put location .file) folders

def add (t : Tree) (location : Location) (node : Node) : Tree :=
  { t with top := t.top.put location node }

def addFolder (t : Tree) (location : Location) : Tree := t.add location (.directory [])

def go (t : Tree) (steps : List String) : Except FileFault Place :=
  steps.foldlM Place.next ⟨some t.top, []⟩

def node? (t : Tree) (location : Location) : Option Node :=
  match t.go location with
  | .ok place => place.node?
  | .error _ => none

/-- The tree of a system with one place to work in. -/
def ofLocation (here : Location) : Tree :=
  let tree : Tree := ⟨usual, here⟩
  if (tree.node? here).isSome then tree else tree.addFolder here

def start (t : Tree) (path : String) : Location := if Path.isAbsolute path then [] else t.here

def resolve (t : Tree) (path : String) : Location := Path.resolve (t.start path) (Path.steps path)

def absolute (t : Tree) (path : String) : String :=
  (if Path.isAbsolute path then Path.root path else "/") ++ Text.join "/" (t.resolve path)

def checkPath (path : String) : Except FileFault Unit :=
  if path = "" then .error .notFound
  else if hasNull path then .error .badCharacter
  else if longestPath < path.utf8ByteSize then .error .tooLong
  else .ok ()

def locate (t : Tree) (path : String) : Except FileFault Place := do
  checkPath path
  t.go (t.start path ++ Path.steps path)

/-- A failure to make what is above hinders, unless it is already there as something else. -/
def hinders : Except FileFault Unit → Bool
  | .error .exists => false
  | .error _ => true
  | .ok () => false

def holds (t : Tree) (path : String) : Bool :=
  match t.locate path with
  | .ok place => place.node?.isSome
  | .error _ => false

/-- Nothing can be made in the directory of processes. -/
def isSealed (location : Location) : Bool := location.head? == some "proc"

def makeDirectory (t : Tree) (path : String) : Except FileFault Tree := do
  let place ← t.locate path
  match place.node? with
  | some (.directory _) => return t
  | some .file => throw .exists
  | none => if isSealed place.location then throw .notFound else return t.addFolder place.location

/-- Makes sure that a directory and those above it exist, within a number of levels. The steps
are given from the last one to the first. What is above is made first unless it exists already;
it may turn out to be a file, and a final dot does not mind. Directories stay where they were
made before a failure. -/
def makeUpwards (t : Tree) (root : String) : Nat → List String → Except FileFault Unit × Tree
  | _, [] => (.ok (), t)
  | 0, _ :: _ => (.error .tooDeep, t)
  | levels + 1, last :: above =>
    let path := fun (upwards : List String) => root ++ Text.join "/" upwards.reverse
    let isThere := above.isEmpty || t.holds (path above)
    let (made, t) := if isThere then (.ok (), t) else t.makeUpwards root levels above
    if hinders made then (made, t)
    else if !isThere && last = "." then (.ok (), t)
    else
      match t.makeDirectory (path (last :: above)) with
      | .ok t => (.ok (), t)
      | .error why => (.error why, t)

def makeDirectories (t : Tree) (path : String) : Except FileFault Unit × Tree :=
  t.makeUpwards (Path.root path) deepestMaking (Path.steps path).reverse

/-- Makes sure that a file can be written, and creates it. A slash at the end asks for a
directory. -/
def createFile (t : Tree) (path : String) : Except FileFault (Location × Tree) := do
  checkPath path
  let steps := t.start path ++ Path.steps path
  if Text.endsWith "/" path then
    discard (t.go (steps.dropLast ++ ["."]))
    throw .isDirectory
  let place ← t.go steps
  match place.node? with
  | some (.directory _) => throw .isDirectory
  | some .file => return (place.location, t)
  | none =>
    if isSealed place.location then throw .notFound
    else return (place.location, t.add place.location .file)

/-- The path below the working place of what lies there. -/
def relative? (t : Tree) (location : Location) : Option String :=
  if t.here.isPrefixOf location && location != t.here then
    some (Text.join "/" (location.drop t.here.length))
  else none

def directories (t : Tree) : List String :=
  let found := ((t.node? t.here).map Node.folders).getD []
  (found.map (Text.join "/")).mergeSort fun a b => !Text.before b a

end Tree

end Transceiver.Files
