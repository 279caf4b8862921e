import Transceiver.Value

/-! The directory of rig kinds. A kind may be registered under an identifier that is made
from its vendor, model and variant; no identifier is given twice. -/
namespace Transceiver

/-- A kind of rig. It may be derived from another kind, which has a smaller number. -/
structure RigKind where
  vendor : Value
  model : Value
  variant : Value
  parent : Option Nat

/-- What a derived kind says of itself; the rest it takes from its parent. -/
structure RigKind.Changes where
  vendor : Option Value
  model : Option Value
  variant : Option Value

/-- Rig kinds by number, and two tables of the registered ones: the kinds under their
identifiers, in the order of their registration, and the identifiers under their kinds. -/
structure Directory where
  kinds : List RigKind
  registrations : List (String × Nat)
  identifiers : List (Nat × String)

inductive DirectoryFault where
  | taken (identifier : String)
  | unknownIdentifier (identifier : Value)
  | unknownKind (kind : Nat)
  | unknownModel (model : Value)
  /-- A value that nothing can be found under. -/
  | noKey (v : Value)
  | modelNotText

namespace RigKind

def plainIdentifier (k : RigKind) : String :=
  k.vendor.shown ++ "_" ++ k.model.shown ++ (if k.variant.truth then "_" ++ k.variant.shown else "")

/-- Slashes and spaces become underscores, and parentheses are left out. -/
def identifier (k : RigKind) : String :=
  Text.replaceChar ')' "" (Text.replaceChar '(' "" (Text.replaceChar ' ' "_"
    (Text.replaceChar '/' "_" k.plainIdentifier)))

def name (k : RigKind) : String := k.vendor.shown ++ " " ++ k.model.shown

/-- The kind that others are derived from. -/
def general : RigKind := ⟨.text "Unknown", .text "Unknown", .text "", none⟩

/-- The kind of rig that this library drives. -/
def driven : RigKind := ⟨.text "Kenwood", .text "TM-V71", .text "", some 0⟩

def derive (parent : RigKind) (number : Nat) (changes : Changes) : RigKind where
  vendor := changes.vendor.getD parent.vendor
  model := changes.model.getD parent.model
  variant := changes.variant.getD parent.variant
  parent := some number

end RigKind

namespace DirectoryFault

/-- The message of a fault; an unknown kind has no name to report. -/
def message? : DirectoryFault → Option String
  | .taken identifier => some ("Duplicate rig driver id `" ++ identifier ++ "'")
  | .unknownIdentifier v => some ("Unknown rig type `" ++ v.shown ++ "'")
  | .unknownModel v => some ("No driver for model `" ++ v.shown ++ "'")
  | .noKey (.table _ _) => some "unhashable type: 'dict'"
  | .noKey _ => some "unhashable type: 'list'"
  | .unknownKind _ | .modelNotText => none

end DirectoryFault

namespace Directory

section Tables

variable {α β : Type} [BEq α]

/-- Files a value under a key: in place of the value that is there, or else behind all others. -/
def filed (key : α) (v : β) : List (α × β) → List (α × β)
  | [] => [(key, v)]
  | (k, old) :: rest => if k == key then (k, v) :: rest else (k, old) :: filed key v rest

theorem lookup_filed [LawfulBEq α] (key other : α) (v : β) (entries : List (α × β)) :
    (filed key v entries).lookup other = if other == key then some v else entries.lookup other := by
  induction entries with
  | nil => by_cases same : other == key <;> simp [filed, List.lookup_cons, same]
  | cons entry rest ih =>
    obtain ⟨k, old⟩ := entry
    by_cases here : k = key
    · subst here
      by_cases same : other == k <;> simp [filed, List.lookup_cons, same]
    · by_cases found : other = k
      · subst found
        simp [filed, here]
      · have passed : (other == k) = false := beq_eq_false_iff_ne.mpr found
        simp only [filed, beq_eq_false_iff_ne.mpr here, Bool.false_eq_true, if_false, List.lookup_cons,
          passed, ih]

end Tables

def empty : Directory := ⟨[], [], []⟩

def kindOf? (d : Directory) (identifier : String) : Option Nat := d.registrations.lookup identifier

def identifierOf? (d : Directory) (kind : Nat) : Option String := d.identifiers.lookup kind

/-- Adds a kind; its number is the number of kinds before it. -/
def define (d : Directory) (k : RigKind) : Directory := { d with kinds := d.kinds ++ [k] }

/-- Files a kind under an identifier, and then the identifier under the kind. -/
def file (d : Directory) (identifier : String) (kind : Nat) : Directory :=
  let d := { d with registrations := filed identifier kind d.registrations }
  { d with identifiers := filed kind identifier d.identifiers }

@[simp] theorem kinds_file (d : Directory) (identifier : String) (kind : Nat) :
    (d.file identifier kind).kinds = d.kinds := rfl

@[simp] theorem kindOf?_file (d : Directory) (identifier other : String) (kind : Nat) :
    (d.file identifier kind).kindOf? other = if other = identifier then some kind else d.kindOf? other := by
  simp [file, kindOf?, lookup_filed]

@[simp] theorem identifierOf?_file (d : Directory) (identifier : String) (kind other : Nat) :
    (d.file identifier kind).identifierOf? other =
      if other = kind then some identifier else d.identifierOf? other := by
  simp [file, identifierOf?, lookup_filed]

/-- Registers a kind under its identifier, unless the identifier is taken. What is left behind
comes beside the result, also where that is a fault. -/
def enter (d : Directory) (kind : Nat) : Except DirectoryFault Unit × Directory :=
  match d.kinds[kind]? with
  | none => (.error (.unknownKind kind), d)
  | some k =>
    if (d.kindOf? k.identifier).isSome then (.error (.taken k.identifier), d)
    else (.ok (), d.file k.identifier kind)

def register (d : Directory) (kind : Nat) : Except DirectoryFault Directory :=
  (d.enter kind).1.map fun _ => (d.enter kind).2

def initial : Directory := (((empty.define .general).define .driven).enter 1).2

def find (d : Directory) (identifier : Value) : Except DirectoryFault Nat :=
  if !identifier.isKey then .error (.noKey identifier)
  else
    match identifier.text?.bind d.kindOf? with
    | some kind => .ok kind
    | none => .error (.unknownIdentifier identifier)

/-- The identifier of a kind, or of the kind that it is directly derived from. -/
def driverOf (d : Directory) (kind : Nat) : Except DirectoryFault String :=
  match d.identifierOf? kind with
  | some identifier => .ok identifier
  | none =>
    match (d.kinds[kind]?.bind RigKind.parent).bind d.identifierOf? with
    | some identifier => .ok identifier
    | none => .error (.unknownKind kind)

def firstOfModel (d : Directory) (model : Value) : List Nat → Except DirectoryFault Nat
  | [] => .error (.unknownModel model)
  | kind :: rest =>
    match (d.kinds[kind]?.map RigKind.model).bind Value.text? with
    | some text =>
      if model.text? = some (Text.cut ' ' text).1 then .ok kind else d.firstOfModel model rest
    | none => .error .modelNotText

/-- The first registered kind whose model, up to the first space, is the given one. -/
def findModel (d : Directory) (model : Value) : Except DirectoryFault Nat :=
  d.firstOfModel model (d.registrations.map (·.2))

def sortedRegistrations (d : Directory) : List (String × Nat) :=
  d.registrations.mergeSort fun a b => !Text.before b.1 a.1

end Directory

end Transceiver
