import Transceiver.Text.LowerCase
import Transceiver.Text.Fields
import Transceiver.Value

/-! Settings: options with text values, kept in named sections. The default section shows
through in every other one. Option names are not case sensitive. A host may name sections and
options by any value; only texts name something, and a value that is no key names nothing that
could even be looked for. -/
namespace Transceiver

abbrev Options := List (String × String)

namespace Options

def put (options : Options) (key text : String) : Options :=
  if options.any (·.1 == key) then options.map fun entry => if entry.1 = key then (key, text) else entry
  else options ++ [(key, text)]

def erase (options : Options) (key : String) : Options := options.filter (·.1 != key)

def has (options : Options) (key : String) : Bool := options.any (·.1 == key)

end Options

structure Settings where
  defaults : Options
  sections : List (String × Options)
  deriving DecidableEq, Repr

inductive SettingsFault where
  | noSection
  | reservedSection
  | headerMissing
  | sectionTwice (name : String)
  | optionTwice (sectionName option : String)
  | malformed
  | undecodable
  | noDefault
  | notNumeral
  /-- A setting that takes only integers, or only floating-point values. -/
  | wrongKind (wanted : String)
  | mistyped
  | missingAttribute
  deriving DecidableEq, Repr

namespace SettingsFault

def message? : SettingsFault → Option String
  | .wrongKind wanted => some ("Value is not " ++ wanted)
  | _ => none

end SettingsFault

namespace Settings

def empty : Settings := ⟨[], []⟩

def defaultSection : String := "DEFAULT"

def optionName (key : String) : String := Text.lower key

/-- The default section has a name; a name that is nothing also means it. -/
def isDefault (name : Value) : Bool := !name.truth || name.same (.text defaultSection)

def nameOf (key : Value) : Except SettingsFault String :=
  match key.text? with
  | some key => .ok (optionName key)
  | none => .error .missingAttribute

def section? (s : Settings) (name : Value) : Except SettingsFault (Option Options) :=
  if name.isKey then .ok (name.text?.bind fun text => s.sections.lookup text) else .error .mistyped

def setSection (s : Settings) (name : Value) (options : Options) : Settings :=
  { s with
    sections := s.sections.map fun entry => if name.same (.text entry.1) then (entry.1, options) else entry }

def hasOption (s : Settings) (name key : Value) : Except SettingsFault Bool := do
  if isDefault name then return s.defaults.has (← nameOf key)
  match ← s.section? name with
  | none => return false
  | some options =>
    let key ← nameOf key
    return options.has key || s.defaults.has key

/-- The value of an option. A section without a name can be asked only if it was added. -/
def get (s : Settings) (name key : Value) : Except SettingsFault (Option String) := do
  match ← s.section? name with
  | some options =>
    let key ← nameOf key
    return (options.lookup key).or (s.defaults.lookup key)
  | none =>
    if name.same (.text defaultSection) then return s.defaults.lookup (← nameOf key)
    throw .noSection

/-- Makes sure that there is a section of that name. The default section cannot be added. -/
def addSection (s : Settings) (name : Value) : Except SettingsFault Settings := do
  if (← s.section? name).isSome then return s
  match name.text? with
  | none => throw .mistyped
  | some text =>
    if text = defaultSection then throw .reservedSection
    return { s with sections := s.sections ++ [(text, [])] }

/-- Changes the options of a section that exists, or of the default section. -/
def change (s : Settings) (name : Value) (f : Options → Except SettingsFault Options) :
    Except SettingsFault Settings := do
  if isDefault name then return { s with defaults := ← f s.defaults }
  match ← s.section? name with
  | some options => return s.setSection name (← f options)
  | none => throw .noSection

def put (s : Settings) (name : Value) (key text : String) : Except SettingsFault Settings :=
  s.change name fun options => .ok (options.put (optionName key) text)

def erase (s : Settings) (name key : Value) : Except SettingsFault Settings :=
  s.change name fun options => return options.erase (← nameOf key)

/-- Drops a section in which nothing is set, the default options included. -/
def dropIfEmpty (s : Settings) (name : Value) : Except SettingsFault Settings := do
  match ← s.section? name with
  | none => if name.same (.text defaultSection) then return s else throw .noSection
  | some options =>
    if s.defaults.isEmpty && options.isEmpty then
      return { s with sections := s.sections.filter fun entry => !name.same (.text entry.1) }
    return s

end Settings

end Transceiver
