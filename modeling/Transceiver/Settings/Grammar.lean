import Transceiver.Settings.Store
import Transceiver.Text.Blank
import Transceiver.Text.Lines

/-! The text form of settings: section headers in brackets, options with `=` or `:` and a
value that more deeply indented lines continue, and comment lines. A text is read line by
line; malformed lines are reported when all others have been read. -/
namespace Transceiver.Settings

open Text

/-- Options while they are read, each with the lines of its value. -/
abbrev Lines := List (String × List String)

structure Draft where
  defaults : Lines
  sections : List (String × Lines)
  current : Option String
  option : Option String
  indent : Nat
  malformed : Bool
  deriving Repr

def Draft.empty : Draft := ⟨[], [], none, none, 0, false⟩

namespace Draft

def linesOf (d : Draft) (name : String) : Lines :=
  match d.sections.lookup name with
  | some lines => lines
  | none => if name = defaultSection then d.defaults else []

def setLines (d : Draft) (name : String) (lines : Lines) : Draft :=
  if d.sections.any (·.1 == name) then
    { d with sections := d.sections.map fun entry => if entry.1 = name then (name, lines) else entry }
  else { d with defaults := lines }

def continueValue (d : Draft) (line : String) : Draft :=
  match d.current, d.option with
  | some name, some option =>
    d.setLines name ((d.linesOf name).map fun entry =>
      if entry.1 = option then (option, entry.2 ++ [line]) else entry)
  | _, _ => d

def inValue (d : Draft) : Bool := d.current.isSome && d.option.any (· != "")

/-- Starts a section. The default section may be started again, others may not. -/
def startSection (d : Draft) (name : String) : Except SettingsFault Draft :=
  if d.sections.any (·.1 == name) then .error (.sectionTwice name)
  else
    let d := { d with current := some name, option := none }
    if name = defaultSection then .ok d else .ok { d with sections := d.sections ++ [(name, [])] }

/-- Starts an option of the current section. An option without a name is malformed. -/
def startOption (d : Draft) (name option value : String) : Except SettingsFault Draft :=
  let lines := d.linesOf name
  if lines.any (·.1 == option) then .error (.optionTwice name option)
  else
    let d := d.setLines name (lines ++ [(option, [value])])
    .ok { d with option := some option, malformed := d.malformed || option == "" }

end Draft

/-- The name in a header: all between the opening bracket and the last closing one. -/
def headerName? (line : String) : Option String :=
  match line.toList with
  | '[' :: rest =>
    match rest.reverse.dropWhile (· != ']') with
    | ']' :: name => if name.isEmpty then none else some (.ofList name.reverse)
    | _ => none
  | _ => none

def isDelimiter (c : Char) : Bool := c == '=' || c == ':'

def option? (line : String) : Option (String × String) :=
  match line.toList.dropWhile (!isDelimiter ·) with
  | [] => none
  | _ :: value =>
    some (optionName (trimEnd (.ofList (line.toList.takeWhile (!isDelimiter ·)))), trim (.ofList value))

def isComment (line : String) : Bool := startsWith "#" line || startsWith ";" line

def indentOf (line : String) : Nat := (line.toList.takeWhile isBlank).length

def readEntry (d : Draft) (line : String) : Except SettingsFault Draft :=
  match headerName? line, d.current with
  | some name, _ => d.startSection name
  | none, none => .error .headerMissing
  | none, some name =>
    match option? line with
    | some (option, value) => d.startOption name option value
    | none => .ok { d with malformed := true }

def readLine (d : Draft) (line : String) : Except SettingsFault Draft :=
  let content := trim line
  if isComment content then .ok d
  else if content = "" then .ok (if d.inValue then d.continueValue "" else d)
  else if d.inValue && d.indent < indentOf line then .ok (d.continueValue content)
  else readEntry { d with indent := indentOf line } content

def joinValue (lines : List String) : String := trimEnd (join "\n" lines)

def optionsOf (lines : Lines) : Options := lines.map fun entry => (entry.1, joinValue entry.2)

def parse (text : String) : Except SettingsFault Settings := do
  let d ← (storedLines text).foldlM readLine .empty
  if d.malformed then throw .malformed
  return ⟨optionsOf d.defaults, d.sections.map fun entry => (entry.1, optionsOf entry.2)⟩

def text? (bytes : List UInt8) : Option String := String.fromUTF8? ⟨bytes.toArray⟩

/-- Whether bytes are the first, but not all, of those of one character. A surrogate counts as
one until its bytes are complete. -/
def isBrokenOff (bytes : List UInt8) : Bool :=
  match bytes with
  | [0xED, second] => 0x80 ≤ second && second ≤ 0xBF
  | _ =>
    [1, 2, 3].any fun missing => ([0x80, 0xBF] : List UInt8).any fun byte =>
      (text? (bytes ++ List.replicate missing byte)).any (·.length == 1)

/-- The text of bytes as far as they came: a last character that is broken off is left out. -/
def textSoFar? (bytes : List UInt8) : Option String :=
  match text? bytes with
  | some text => some text
  | none =>
    match [1, 2, 3].find? fun n => isBrokenOff (bytes.drop (bytes.length - n)) with
    | some n => text? (bytes.take (bytes.length - n))
    | none => none

/-- The lines that are complete in a text that may go on. A CR at its end may yet be half of a
CR LF. -/
def completeLines (text : String) : List String :=
  let cs := text.toList
  let cs := if cs.getLast? = some '\r' then cs.dropLast else cs
  ((normalizeEndings cs).splitOn '\n').dropLast.map String.ofList

def pieceSize : Nat := 8192

def orderMark : List UInt8 := [0xEF, 0xBB, 0xBF]

/-- The bytes without a byte order mark, or what there is of one, in front. -/
def skipOrderMark (bytes : List UInt8) : List UInt8 :=
  if bytes.isPrefixOf orderMark then []
  else if orderMark.isPrefixOf bytes then bytes.drop orderMark.length
  else bytes

/-- The text of the whole pieces that come before the first byte that cannot be read. -/
def readableText (skip : List UInt8 → List UInt8) (bytes : List UInt8) : String :=
  let pieces := bytes.length / pieceSize + 1
  let texts := (List.range (pieces + 1)).map fun n => textSoFar? (skip (bytes.take (n * pieceSize)))
  ((texts.takeWhile Option.isSome).getLast?.join).getD ""

/-- Reads bytes, piece by piece. If not all are text, the complete lines of the pieces before
are read first. What is skipped in front counts as a part of the first piece. -/
def parseBytes (skip : List UInt8 → List UInt8) (bytes : List UInt8) : Except SettingsFault Settings :=
  match text? (skip bytes) with
  | some text => parse text
  | none => do
    discard ((completeLines (readableText skip bytes)).foldlM readLine .empty)
    throw .undecodable

def optionText (entry : String × String) : String :=
  entry.1 ++ " = " ++ replaceChar '\n' "\n\t" entry.2 ++ "\n"

def sectionText (name : String) (options : Options) : String :=
  "[" ++ name ++ "]\n" ++ join "" (options.map optionText) ++ "\n"

/-- The text that settings are stored as. -/
def text (s : Settings) : String :=
  (if s.defaults.isEmpty then "" else sectionText defaultSection s.defaults) ++
    join "" (s.sections.map fun entry => sectionText entry.1 entry.2)

end Transceiver.Settings
