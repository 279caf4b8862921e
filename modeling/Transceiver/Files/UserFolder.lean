import Transceiver.Files.Tree
import Transceiver.Value

/-! Where a user's own files are kept: a hidden folder in the home directory, or on
another kind of system a folder beside those of other programs. The folder is made when
it is first asked for. -/
namespace Transceiver.Files

/-- A file tree with the variables that tell where things are. -/
structure Host where
  tree : Tree
  environment : List (String × String)
  /-- The user folder, once it was chosen. -/
  chosen : Option String
  deriving Repr

namespace Host

def ofLocation (home : Location) : Host := ⟨.ofLocation home, [("HOME", Path.ofLocation home)], none⟩

def setVariable (h : Host) (name text : String) : Except FileFault Host :=
  if hasNull name || hasNull text || Text.contains name '=' then .error .badCharacter
  else if name = "" then .error .nameless
  else .ok { h with environment := (name, text) :: h.environment }

def lookVariable (h : Host) (name : String) : String := (h.environment.lookup name).getD ""

/-- The home directory. A tilde in front would stand for a user that cannot be looked up. -/
def home (h : Host) : Except FileFault String :=
  let path := h.lookVariable "HOME"
  if Text.startsWith "~" path then .error .homeless
  else .ok (Path.tidy (if path.toList.all (· == '/') then "/" else path))

def askedPath (v : Value) : Except FileFault (Option String) :=
  match v with
  | .text path => .ok (if path = "" then none else some path)
  | v => if v.truth then .error .mistyped else .ok none

/-- The path of the folder in the home directory, unless another one is asked for. -/
def homePath (h : Host) (asked : Value) : Except FileFault String := do
  match ← askedPath asked with
  | some path => return path
  | none => return Path.join (← h.home) ".tmv71rig"

/-- The folder in the home directory, unless a path is asked for. Its parent must exist. -/
def homeFolder (h : Host) (asked : Value) : Except FileFault String × Host :=
  let made := do
    let path ← h.homePath asked
    return (path, ← h.tree.makeDirectory (Path.tidy path))
  match made with
  | .ok (path, tree) => (.ok path, { h with tree })
  | .error why => (.error why, h)

/-- The folder beside those of other programs, unless a path is asked for. -/
def sharedFolder (h : Host) (asked : Value) : Except FileFault String × Host :=
  let base := h.lookVariable "APPDATA"
  let usual := h.tree.absolute (Path.join (if base = "" then "C:\\" else base) "tmv71rig")
  match askedPath asked with
  | .error why => (.error why, h)
  | .ok path =>
    let path := path.getD usual
    let (made, tree) := h.tree.makeDirectories path
    (made.map fun _ => path, { h with tree })

/-- The user folder. Once chosen it stays the same. -/
def userFolder (h : Host) (asked : Value) : Except FileFault String × Host :=
  match h.chosen with
  | some chosen => (.ok chosen, h)
  | none =>
    match h.homeFolder asked with
    | (.ok path, h) => (.ok path, { h with chosen := some path })
    | failed => failed

def addFile (h : Host) (path : String) : Except FileFault Host := do
  let (_, tree) ← h.tree.createFile path
  return { h with tree }

end Host

end Transceiver.Files
