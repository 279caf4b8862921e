import Transceiver.Record.Field

/-! Memory names and the MN line that carries them. The radio takes names of at most
eight printable ASCII characters without a comma. -/
namespace Transceiver

open Record

def nameLength : Nat := 8

def isNameCharacter (c : Char) : Bool := 0x20 ≤ c.toNat && c.toNat ≤ 0x7E && c != ','

/-- Printable ASCII from the space to the tilde. -/
def asciiCharacters : String := .ofList ((List.range 95).map fun i => Char.ofNat (0x20 + i))

def nameCharacters : String := .ofList (asciiCharacters.toList.filter isNameCharacter)

def isName (s : String) : Bool := s.length ≤ nameLength && s.toList.all isNameCharacter

def StorableName := { s : String // isName s = true }

/-- A memory's name as the radio reports it. -/
structure MemoryName where
  channel : Fin 1000
  name : String
  deriving DecidableEq, Repr

namespace MemoryName

/-- The first comma ends the channel; without one the name is empty. -/
def parse (reply : String) : Except Fault MemoryName := do
  if !Text.startsWith "MN " reply then throw (.radio (.unexpectedReply "MN" reply))
  let (field, rest) := Text.cut ',' (Text.drop 3 reply)
  let channel ← number 1000 reply field
  let name := rest.getD ""
  if nameLength < name.length then throw (.radio (.longName reply))
  return { channel, name }

end MemoryName

def channelDigits (channel : Fin 1000) : String := Number.padded 3 channel

/-- A name as it is sent: one that the radio can store, or a host's own collection of pieces, each
of which stands somewhere in the row of name characters. -/
inductive SentName where
  | storable (name : StorableName)
  | pieces (name : Value)

def SentName.text : SentName → String
  | .storable name => name.val
  | .pieces name => name.quoted

def SentName.written : SentName → Except Fault SentName
  | .storable name => .ok (.storable name)
  | .pieces name => .pieces <$> name.written

theorem SentName.of_written {name sent : SentName} (h : name.written = .ok sent) : sent = name := by
  cases name with
  | storable name =>
      cases h
      rfl
  | pieces name =>
      change SentName.pieces <$> name.written = _ at h
      cases written : name.written with
      | error why =>
          rw [written] at h
          cases h
      | ok same =>
          rw [written, (Value.written_eq_ok.mp written).2] at h
          cases h
          rfl

theorem SentName.fault_of_written {name : SentName} {why : Fault} (h : name.written = .error why) :
    why = .notInteger := by
  cases name with
  | storable name => cases h
  | pieces name =>
      change SentName.pieces <$> name.written = _ at h
      unfold Value.written at h
      split at h <;> cases h
      rfl

def checkName (name : String) : Except ArgumentFault StorableName :=
  if h : isName name = true then .ok ⟨name, h⟩
  else if nameLength < name.length then .error (.nameLength (.text name))
  else .error (.nameCharacters (.text name) (.ofList (name.toList.filter (!isNameCharacter ·))))

/-- A collection of texts, if there are few enough of them and all are pieces of names. -/
def checkPieces (name : Value) (pieces : List Value) : Except Fault SentName :=
  if nameLength < pieces.length then .error (.ofArgument (.nameLength name))
  else
    match pieces.mapM Value.text? with
    | none => .error .mistyped
    | some texts =>
      let bad := texts.filter fun text => !Text.includes text nameCharacters
      if bad.isEmpty then .ok (.pieces name)
      else .error (.ofArgument (.nameCharacters name (Text.join "" bad)))

def checkSentName (name : Value) : Except Fault SentName :=
  match name with
  | .text s => ((checkName s).map .storable).mapError .ofArgument
  | _ =>
    match name.members? with
    | some pieces => checkPieces name pieces
    | none => .error .mistyped

end Transceiver
