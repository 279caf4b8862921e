import Transceiver.Settings.Access

/-! Access to settings by the name of the operation, for a host that chooses it as it runs. A host
has a section of its own, which an operation is about unless it names another one. -/
namespace Transceiver.Settings

def sectionOf (own : Value) (named : List Value) : Value :=
  match named with
  | name :: _ => if name.truth then name else own
  | [] => own

def looking (s : Settings) (found : Looked Value) : Looked Value × Settings := (found, s)

def finding (s : Settings) (result : Except SettingsFault Value) : Looked Value × Settings :=
  (⟨result, []⟩, s)

def changing (change : Except SettingsFault Unit × Settings) : Looked Value × Settings :=
  (⟨change.1.map fun _ => .null, []⟩, change.2)

namespace Looked

def map {α β : Type} (f : α → β) (found : Looked α) : Looked β := ⟨found.result.map f, found.log⟩

end Looked

/-- The operations, with the least and the greatest number of arguments that they take. -/
def operations : List (String × Nat × Nat) :=
  [("get", 1, 2), ("get_int", 1, 2), ("get_float", 1, 2), ("get_bool", 1, 3), ("is_defined", 1, 2),
   ("set", 2, 3), ("set_int", 2, 3), ("set_float", 2, 3), ("set_bool", 2, 3), ("remove_option", 2, 2)]

/-- What a host has besides operations, and cannot be called. -/
def fields : List String := ["_config", "_section"]

def perform (s : Settings) (own : Value) (operation : String) (key : Value) (rest : List Value) :
    Looked Value × Settings :=
  match operation, rest with
  | "get", _ => s.finding ((s.look (sectionOf own rest) key).map fun text => (text.map .text).getD .null)
  | "get_int", _ => s.looking ((s.lookInt (sectionOf own rest) key).map .int)
  | "get_float", _ => s.looking ((s.lookFloat (sectionOf own rest) key).map .float)
  | "get_bool", _ => s.finding (s.lookFlag (sectionOf own rest) key (rest[1]?.getD (.bool false)))
  | "is_defined", _ => s.finding ((s.hasOption (sectionOf own rest) key).map .bool)
  | "set", v :: rest => changing (s.set (sectionOf own rest) key v)
  | "set_int", v :: rest => changing (s.setInt (sectionOf own rest) key v)
  | "set_float", v :: rest => changing (s.setFloat (sectionOf own rest) key v)
  | "set_bool", v :: rest => changing (s.setFlag (sectionOf own rest) key v)
  | "remove_option", [name] => changing (s.remove name key)
  | _, _ => s.finding (.error .mistyped)

def call (s : Settings) (own : Value) (operation : String) (arguments : List Value) :
    Looked Value × Settings :=
  match operations.lookup operation, arguments with
  | none, _ =>
    let isField := (fields ++ commonNames).contains operation
    s.finding (.error (if isField then .mistyped else .missingAttribute))
  | some _, [] => s.finding (.error .mistyped)
  | some (least, greatest), key :: rest =>
    if least ≤ arguments.length ∧ arguments.length ≤ greatest then s.perform own operation key rest
    else s.finding (.error .mistyped)

/-- Settings in their place: the bytes that are stored, and what was loaded of them. -/
structure Desk where
  stored : Option (List UInt8)
  loaded : Option Settings

namespace Desk

def opened (d : Desk) : Looked Settings :=
  match d.loaded with
  | some s => ⟨.ok s, []⟩
  | none => load d.stored

/-- The result of an operation on the settings in their place. Saving answers with the text that
is stored; reloading forgets what was loaded. -/
def call (d : Desk) (own : Value) (operation : String) (arguments : List Value) : Looked Value × Desk :=
  if operation = "reload" then (⟨.ok .null, []⟩, { d with loaded := none })
  else
    let found := d.opened
    match found.result with
    | .error why => (⟨.error why, found.log⟩, d)
    | .ok s =>
      if operation = "save" then
        (⟨.ok (.text s.text), found.log⟩, ⟨some s.text.toUTF8.toList, some s⟩)
      else
        let (answer, s) := s.call own operation arguments
        (⟨answer.result, found.log ++ answer.log⟩, { d with loaded := some s })

end Desk

end Transceiver.Settings
