import Transceiver.Number.Digit
import Transceiver.Text.Fields
import Transceiver.Text.Quoted
import Transceiver.Value

/-! Command line arguments. Options have short and long names; long ones may be
abbreviated as far as that is clear, a value may be attached, and short options without a
value may share one dash. An attached double dash leaves an option with no value at all.
What belongs to no option is not accepted. -/
namespace Transceiver.CommandLine

open Text

inductive Halt where
  | refused (message : String)
  | ended (output : String)
  deriving DecidableEq, Repr

inductive Effect (α : Type) where
  | flag (apply : α → α)
  /-- Takes a value, and may object to it. -/
  | value (apply : Value → α → Except String α)
  | finish (output : String)

structure Switch (α : Type) where
  names : List String
  effect : Effect α
  /-- The name of an option that this one cannot be combined with. -/
  rival : Option String := none

namespace Switch

variable {α : Type}

def title (s : Switch α) : String := join "/" s.names

def takesValue (s : Switch α) : Bool :=
  match s.effect with
  | .value _ => true
  | _ => false

def objection (s : Switch α) (message : String) : Halt :=
  .refused ("argument " ++ s.title ++ ": " ++ message)

end Switch

inductive Token (α : Type) where
  | plain (text : String)
  /-- All after this mark is plain, but the mark cannot be a value. -/
  | mark
  | option (switch : Switch α) (name : String) (attached : Option String)
  | unknown (text : String)

variable {α : Type}

def named? (switches : List (Switch α)) (name : String) : Option (Switch α) :=
  switches.find? (·.names.contains name)

/-- A minus and a number, which is no option. The end of a line may follow. -/
def isNegativeNumber (text : String) : Bool :=
  let isDigit := fun (c : Char) => (Number.digit? c).isSome
  match text.toList with
  | '-' :: rest =>
    let number := if rest.getLast? = some '\n' then rest.dropLast else rest
    match number.dropWhile isDigit with
    | [] => !number.isEmpty
    | '.' :: places => !places.isEmpty && places.all isDigit
    | _ => false
  | _ => false

def candidates (switches : List (Switch α)) (text : String) :
    List (Switch α × String × Option String) :=
  if startsWith "--" text then
    let (start, value) := cut '=' text
    switches.flatMap fun s => (s.names.filter (startsWith start)).map fun name => (s, name, value)
  else
    let short := String.ofList (text.toList.take 2)
    switches.flatMap fun s => (s.names.filter (· == short)).map fun name => (s, name, some (drop 2 text))

/-- What an argument that starts with a dash and is no option's full name means. -/
def classifyDashed (switches : List (Switch α)) (text : String) : Except Halt (Token α) :=
  match candidates switches text with
  | [(s, name, attached)] => .ok (.option s name attached)
  | [] => .ok (if isNegativeNumber text || contains text ' ' then .plain text else .unknown text)
  | several =>
    .error (.refused ("ambiguous option: " ++ text ++ " could match " ++
      join ", " (several.map fun (_, name, _) => name)))

def classify (switches : List (Switch α)) (text : String) : Except Halt (Token α) :=
  if !startsWith "-" text then .ok (.plain text)
  else
    match named? switches text with
    | some s => .ok (.option s text none)
    | none =>
      if text = "-" then .ok (.plain text)
      else
        match cut '=' text with
        | (name, some value) =>
          match named? switches name with
          | some s => .ok (.option s name (some value))
          | none => classifyDashed switches text
        | (_, none) => classifyDashed switches text

def tokens (switches : List (Switch α)) : List String → Except Halt (List (Token α))
  | [] => .ok []
  | text :: rest =>
    if text = "--" then .ok (.mark :: rest.map .plain)
    else do return (← classify switches text) :: (← tokens switches rest)

structure Progress (α : Type) where
  result : α
  extras : List String
  seen : List String

def Progress.apply (p : Progress α) (s : Switch α) (value : Value) : Except Halt (Progress α) :=
  let p := { p with seen := p.seen ++ s.names }
  match s.rival with
  | some rival =>
    if p.seen.contains rival then .error (s.objection ("not allowed with argument " ++ rival))
    else done p
  | none => done p
where
  done (p : Progress α) : Except Halt (Progress α) :=
    match s.effect with
    | .flag apply => .ok { p with result := apply p.result }
    | .value apply =>
      match apply value p.result with
      | .ok result => .ok { p with result }
      | .error message => .error (s.objection message)
    | .finish output => .error (.ended output)

def noValue : Value := .list []

/-- The value that an attached text stands for. -/
def attachedValue (text : String) : Value := if text = "--" then noValue else .text text

/-- The options that one argument stands for, with their values, and the last one of them if
it still needs a value. -/
structure Cluster (α : Type) where
  options : List (Switch α × Value)
  pending : Option (Switch α)

def Cluster.ofSwitch (s : Switch α) : Cluster α :=
  if s.takesValue then ⟨[], some s⟩ else ⟨[(s, noValue)], none⟩

/-- An attached text that an option has no use for. -/
def ignored (s : Switch α) (text : List Char) : Halt :=
  s.objection ("ignored explicit argument " ++ quoted (.ofList text))

/-- Resolves an option and the text that is attached to it. An option with a value takes all of
the text. Behind one dash, each of the characters attached to another option is an option
again. -/
def cluster (switches : List (Switch α)) (isShort : Bool) :
    Switch α → List Char → Except Halt (Cluster α)
  | s, [] => if s.takesValue then .ok ⟨[(s, attachedValue "")], none⟩ else .error (ignored s [])
  | s, c :: rest =>
    if s.takesValue then .ok ⟨[(s, attachedValue (.ofList (c :: rest)))], none⟩
    else
      match (named? switches (.ofList ['-', c])).filter fun _ => isShort with
      | none => .error (ignored s (c :: rest))
      | some next => do
        let more ← if rest.isEmpty then pure (.ofSwitch next) else cluster switches isShort next rest
        return { more with options := (s, noValue) :: more.options }

def applyAll (p : Progress α) : List (Switch α × Value) → Except Halt (Progress α)
  | [] => .ok p
  | (s, value) :: rest => do applyAll (← p.apply s value) rest

def isShortName (name : String) : Bool := !startsWith "--" name

def clusterOf (switches : List (Switch α)) (s : Switch α) (name : String) (attached : Option String) :
    Except Halt (Cluster α) :=
  match attached with
  | some text => cluster switches (isShortName name) s text.toList
  | none => .ok (.ofSwitch s)

def needsValue (s : Switch α) : Halt := s.objection "expected one argument"

def follow (switches : List (Switch α)) : Progress α → List (Token α) → Except Halt (Progress α)
  | p, [] => .ok p
  | p, .plain text :: rest => follow switches { p with extras := p.extras ++ [text] } rest
  | p, .unknown text :: rest => follow switches { p with extras := p.extras ++ [text] } rest
  | p, .mark :: rest => follow switches { p with extras := p.extras ++ ["--"] } rest
  | p, .option s name attached :: rest => do
    let c ← clusterOf switches s name attached
    match c.pending with
    | none => follow switches (← applyAll p c.options) rest
    | some last =>
      match rest with
      | .plain value :: rest =>
        follow switches (← applyAll p (c.options ++ [(last, .text value)])) rest
      | _ => throw (needsValue last)

def understand (switches : List (Switch α)) (initial : α) (arguments : List String) : Except Halt α := do
  let p ← follow switches ⟨initial, [], []⟩ (← tokens switches arguments)
  if p.extras.isEmpty then return p.result
  else throw (.refused ("unrecognized arguments: " ++ join " " p.extras))

end Transceiver.CommandLine
