import Transceiver.Log
import Transceiver.Text.Fields

/-! The sources of log records that are known so far. They are parts of each other by the
dots in their names, and a record is heard by its source and by those above it. -/
namespace Transceiver

/-- The known sources, each with the one right above it. -/
abbrev Sources := List (String × String)

namespace Sources

/-- The source above all others. It needs no entry of its own. -/
def top : String := "root"

/-- The beginnings of a reversed name that end before a dot, the longest first. Of two dots in a
row only the last one counts, and none at the start. -/
def beginnings (isCut : Bool) : List Char → List (List Char)
  | [] => []
  | c :: rest =>
    if c = '.' && !isCut then
      if rest.isEmpty then [] else rest :: beginnings true rest
    else beginnings false rest

/-- The names that a name is a part of, the nearest one first. -/
def wholes (name : String) : List String :=
  (beginnings false name.toList.reverse).map fun cs => .ofList cs.reverse

def isKnown (s : Sources) (name : String) : Bool := name == top || s.any (·.1 == name)

def nearest (s : Sources) (name : String) : String := ((wholes name).find? s.isKnown).getD top

/-- Makes a source known. It comes between its known parts and what was right above them, unless
the name of the latter begins like its own. -/
def add (s : Sources) (name : String) : Sources :=
  if s.isKnown name then s
  else
    let below := s.map fun (part, above) =>
      if (wholes part).contains name && !Text.startsWith name above then (part, name) else (part, above)
    below ++ [(name, s.nearest name)]

def isWithin (s : Sources) (other : String) : Nat → String → Bool
  | 0, name => name == other
  | levels + 1, name => name == other || ((s.lookup name).any fun above => s.isWithin other levels above)

def hears (s : Sources) (other name : String) : Bool := s.isWithin other s.length name

end Sources

end Transceiver
