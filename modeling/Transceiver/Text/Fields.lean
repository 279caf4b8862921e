/-! Cutting a text at a separator and joining the pieces again. -/
namespace Transceiver.Text

/-- The pieces between the separators; there is one more piece than separators. -/
def fields (separator : Char) (s : String) : List String :=
  (s.toList.splitOn separator).map String.ofList

/-- The text before the first separator, and what follows it if there is one. -/
def cut (separator : Char) (s : String) : String × Option String :=
  let front := s.toList.takeWhile (· != separator)
  match s.toList.dropWhile (· != separator) with
  | [] => (.ofList front, none)
  | _ :: rest => (.ofList front, some (.ofList rest))

def join (separator : String) : List String → String
  | [] => ""
  | [s] => s
  | s :: rest => s ++ separator ++ join separator rest

def startsWith (start s : String) : Bool := start.toList.isPrefixOf s.toList

def endsWith (ending s : String) : Bool := ending.toList.isSuffixOf s.toList

def drop (n : Nat) (s : String) : String := .ofList (s.toList.drop n)

def contains (s : String) (c : Char) : Bool := s.toList.contains c

def includesList (part : List Char) : List Char → Bool
  | [] => part.isEmpty
  | c :: rest => part.isPrefixOf (c :: rest) || includesList part rest

def includes (part s : String) : Bool := includesList part.toList s.toList

def replaceChar (old : Char) (new : String) (s : String) : String :=
  .ofList (s.toList.flatMap fun c => if c = old then new.toList else [c])

/-- Blanks are put in front until the text is `width` long. -/
def padStart (width : Nat) (s : String) : String :=
  .ofList (List.replicate (width - s.length) ' ' ++ s.toList)

def padEnd (width : Nat) (filler : Char) (s : String) : String :=
  .ofList (s.toList ++ List.replicate (width - s.length) filler)

def before (s t : String) : Bool := s.toList.map Char.toNat < t.toList.map Char.toNat

end Transceiver.Text
