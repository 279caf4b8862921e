/-! Code page 1252, the character set of the serial line. It spells U+0000 to
U+007F and U+00A0 to U+00FF as themselves and gives 27 of the bytes between to
other characters; the five bytes left over stand for nothing. -/
namespace Transceiver.Text.CodePage

def highCharacters : List (Option Char) :=
  [some '€', none, some '‚', some 'ƒ', some '„', some '…', some '†', some '‡',
   some 'ˆ', some '‰', some 'Š', some '‹', some 'Œ', none, some 'Ž', none,
   none, some '‘', some '’', some '“', some '”', some '•', some '–', some '—',
   some '˜', some '™', some 'š', some '›', some 'œ', none, some 'ž', some 'Ÿ']

def decodeByte (b : UInt8) : Option Char :=
  if 0x80 ≤ b.toNat ∧ b.toNat < 0xA0 then (highCharacters[b.toNat - 0x80]?).join
  else some (Char.ofNat b.toNat)

def encodeChar (c : Char) : Option UInt8 :=
  if c.toNat < 0x80 ∨ (0xA0 ≤ c.toNat ∧ c.toNat < 0x100) then some (UInt8.ofNat c.toNat)
  else (highCharacters.findIdx? (· == some c)).map fun i => UInt8.ofNat (0x80 + i)

/-- The text of a run of bytes, if every byte stands for a character. -/
def decode (bytes : List UInt8) : Option String := (bytes.mapM decodeByte).map String.ofList

/-- The first run of characters that the code page cannot spell. -/
structure Unspellable where
  position : Nat
  run : List Char
  deriving Repr, DecidableEq

def encodeFrom (position : Nat) : List Char → Except Unspellable (List UInt8)
  | [] => .ok []
  | c :: rest =>
    match encodeChar c with
    | none => .error ⟨position, c :: rest.takeWhile fun d => (encodeChar d).isNone⟩
    | some b => (encodeFrom (position + 1) rest).map (b :: ·)

def encode (s : String) : Except Unspellable (List UInt8) := encodeFrom 0 s.toList

theorem decodeByte_of_ascii {b : UInt8} (h : b.toNat < 0x80) :
    decodeByte b = some (Char.ofNat b.toNat) := by
  have : ¬ 0x80 ≤ b.toNat := by omega
  simp [decodeByte, this]

theorem encodeChar_of_ascii {c : Char} (h : c.toNat < 0x80) :
    encodeChar c = some (UInt8.ofNat c.toNat) := by
  simp [encodeChar, h]

end Transceiver.Text.CodePage
