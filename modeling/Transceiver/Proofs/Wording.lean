import Transceiver.Proofs.Permission
import Transceiver.Proofs.Spelling

/-! The wording of commands. Whatever a request is given, each line that it sends is one of twelve
forms, printable throughout, so that the carriage return after it is the only one. -/
namespace Transceiver

open Record

def Digits (count : Nat) (s : String) : Prop :=
  s.toList.length = count ∧ ∀ c ∈ s.toList, c.isDigit = true

/-- Every character is from the space to the tilde. -/
def IsPrintable (s : String) : Prop := ∀ c ∈ s.toList, 0x20 ≤ c.toNat ∧ c.toNat ≤ 0x7E

-- Decided over the text: there are too many characters to go through them all.
instance (s : String) : Decidable (IsPrintable s) :=
  List.decidableBAll (fun c : Char => 0x20 ≤ c.toNat ∧ c.toNat ≤ 0x7E) s.toList

def bandTexts : List String := ["0", "1"]

def tuningTexts : List String := ["0", "1", "2", "3"]

/-- The lines that the operations of a rig are carried out with. -/
inductive Wording : String → Prop
  | control : Wording "BC"
  | setControl {a b} : a ∈ bandTexts → b ∈ bandTexts → Wording (lineText "BC" [a, b])
  | setTuning {band tuning} : band ∈ bandTexts → tuning ∈ tuningTexts →
      Wording (lineText "VM" [band, tuning])
  | selection {band} : band ∈ bandTexts → Wording (lineText "MR" [band])
  | setSelection {band number} : band ∈ bandTexts → Digits 3 number →
      Wording (lineText "MR" [band, number])
  | memory {number} : Digits 3 number → Wording (lineText "ME" [number])
  | setMemory {fields : List String} : fields.length = 16 →
      (∀ field ∈ fields, ∃ count, 0 < count ∧ Digits count field) → Wording (lineText "ME" fields)
  | name {number} : Digits 3 number → Wording (lineText "MN" [number])
  | setName {number name} : Digits 3 number → isName name = true →
      Wording (lineText "MN" [number, name])
  | busy {band} : band ∈ bandTexts → Wording (lineText "BY" [band])
  | transmit : Wording "TX"
  | receive : Wording "RX"

theorem digits_channel (channel : Fin 1000) : Digits 3 (channelDigits channel) := by
  have short : (Number.digits channel.val).length ≤ 3 :=
    (Nat.length_toDigits_le_iff (by decide) (by decide)).mpr channel.isLt
  exact ⟨Number.length_padded short, fun _ => Number.isDigit_of_mem_padded⟩

theorem readInt?_channel (channel : Fin 1000) :
    Number.readInt? (Number.padded 3 channel.val) = some (channel.val : Int) := by
  have three : (Number.padded 3 channel.val).toList.length = 3 := (digits_channel channel).1
  refine Number.readInt?_padded ?_
  rw [three]
  decide

theorem mem_bandTexts (band : Band) : Number.padded 1 band.index ∈ bandTexts := by
  cases band <;> decide

theorem mem_tuningTexts (tuning : Tuning) : Number.padded 1 tuning.code ∈ tuningTexts := by
  cases tuning <;> decide

theorem wording_writeMemory (record : MemoryRecord) : Wording record.line := by
  refine .setMemory rfl fun field member => ?_
  obtain ⟨width, n, rfl⟩ := mem_fieldTexts member
  exact ⟨_, List.length_pos_iff.mpr (Number.padded_ne_nil width n), rfl,
    fun _ => Number.isDigit_of_mem_padded⟩

theorem Command.IsQuery.wording {command : Command} (h : command.IsQuery) : Wording command.line := by
  cases h with
  | control => exact .control
  | memory channel => exact .memory (digits_channel channel)
  | selection band => exact .selection (mem_bandTexts band)
  | name channel => exact .name (digits_channel channel)
  | busy band => exact .busy (mem_bandTexts band)

theorem wording_writeControl (control : BandControl) : Wording control.line :=
  .setControl (mem_bandTexts control.control) (mem_bandTexts control.transmit)

theorem wording_writeSelection (selection : MemorySelection) : Wording selection.line :=
  .setSelection (mem_bandTexts selection.band) (digits_channel selection.channel)

theorem wording_writeTuning (tuning : BandTuning) : Wording tuning.line :=
  .setTuning (mem_bandTexts tuning.band) (mem_tuningTexts tuning.tuning)

theorem wording_writeName {number : Fin 1000} {given : String} {name : SentName}
    (h : checkSentName (.text given) = .ok name) : Wording (Command.writeName number name).line := by
  change ((checkName given).map SentName.storable).mapError Fault.ofArgument = .ok name at h
  cases checked : checkName given with
  | error why =>
      rw [checked] at h
      cases h
  | ok storable =>
      rw [checked] at h
      cases h
      exact .setName (digits_channel number) storable.property

/-- The name of a channel to store is a text. -/
def Request.NamesText : Request → Prop
  | .setChannel c => ∃ name, c.value .name = .text name
  | _ => True

/-- Every command but one that names a channel is worded like this, whatever the host gives. -/
theorem Request.May.wording_or_name {request : Request} {command : Command}
    (may : request.May command) : Wording command.line ∨
      ∃ c number name, request = .setChannel c ∧ command = .writeName number name ∧
        checkSentName (c.value .name) = .ok name := by
  cases may with
  | ask query => exact .inl query.wording
  | storeChannel free own => exact .inl (wording_writeMemory _)
  | nameChannel free checked => exact .inr ⟨_, _, _, rfl, rfl, checked⟩
  | tuneVfo selects => exact .inl (wording_writeTuning _)
  | provisionVfo selects => exact .inl (wording_writeMemory _)
  | placeVfo selects => exact .inl (wording_writeSelection _)
  | controlVfo selects => exact .inl (wording_writeControl _)
  | tuneMemory band => exact .inl (wording_writeTuning _)
  | controlSplit band => exact .inl (wording_writeControl _)
  | change same own => exact .inl (wording_writeMemory _)
  | placeMemory band free => exact .inl (wording_writeSelection _)
  | transmit on => exact .inl .transmit
  | receive off => exact .inl .receive
  | fill record => exact .inl (wording_writeMemory _)

theorem Request.May.wording {request : Request} {command : Command} (may : request.May command)
    (named : request.NamesText) : Wording command.line := by
  rcases may.wording_or_name with worded | ⟨c, number, name, rfl, rfl, checked⟩
  · exact worded
  · obtain ⟨given, same⟩ := named
    rw [same] at checked
    exact wording_writeName checked

theorem mem_lineText {name : String} {fields : List String} {c : Char}
    (h : c ∈ (lineText name fields).toList) :
    c ∈ name.toList ∨ c = ' ' ∨ c = ',' ∨ ∃ field ∈ fields, c ∈ field.toList := by
  simp only [lineText, String.toList_append, List.mem_append] at h
  rcases h with (here | blank) | there
  · exact .inl here
  · exact .inr (.inl (List.mem_singleton.mp blank))
  · rcases Text.mem_join there with comma | inside
    · exact .inr (.inr (.inl (List.mem_singleton.mp comma)))
    · exact .inr (.inr (.inr inside))

theorem isPrintable_lineText {name : String} {fields : List String} (front : IsPrintable name)
    (rest : ∀ field ∈ fields, IsPrintable field) : IsPrintable (lineText name fields) := by
  intro c member
  rcases mem_lineText member with here | rfl | rfl | ⟨field, inside, found⟩
  · exact front c here
  · decide
  · decide
  · exact rest field inside c found

/-- Printable, and nothing that ends a field. -/
def IsField (s : String) : Prop := ∀ c ∈ s.toList, (0x20 ≤ c.toNat ∧ c.toNat ≤ 0x7E) ∧ c ≠ ','

instance (s : String) : Decidable (IsField s) :=
  List.decidableBAll (fun c : Char => (0x20 ≤ c.toNat ∧ c.toNat ≤ 0x7E) ∧ c ≠ ',') s.toList

theorem isField_digits {count : Nat} {s : String} (h : Digits count s) : IsField s := by
  intro c member
  have digit := Number.isDigit_iff.mp (h.2 c member)
  refine ⟨by omega, ?_⟩
  rintro rfl
  exact absurd digit (by decide)

theorem isField_band {s : String} (h : s ∈ bandTexts) : IsField s := by
  have digits : ∀ t ∈ bandTexts, IsField t := by decide
  exact digits s h

theorem isField_tuning {s : String} (h : s ∈ tuningTexts) : IsField s := by
  have digits : ∀ t ∈ tuningTexts, IsField t := by decide
  exact digits s h

theorem isField_name {s : String} (h : isName s = true) : IsField s := by
  intro c member
  have character : isNameCharacter c = true :=
    List.all_eq_true.mp ((Bool.and_eq_true _ _).mp h).2 c member
  simpa [isNameCharacter, and_assoc] using character

def fieldedNames : List String := ["BC", "VM", "MR", "ME", "MN", "BY"]

theorem Wording.shape {line : String} (h : Wording line) :
    line ∈ ["BC", "TX", "RX"] ∨
      ∃ name ∈ fieldedNames, ∃ fields, fields ≠ [] ∧ (∀ field ∈ fields, IsField field) ∧
        line = lineText name fields := by
  cases h with
  | control => exact .inl (by decide)
  | transmit => exact .inl (by decide)
  | receive => exact .inl (by decide)
  | setControl a b =>
      refine .inr ⟨"BC", by decide, _, by simp, ?_, rfl⟩
      simp [isField_band a, isField_band b]
  | setTuning band tuning =>
      refine .inr ⟨"VM", by decide, _, by simp, ?_, rfl⟩
      simp [isField_band band, isField_tuning tuning]
  | selection band =>
      refine .inr ⟨"MR", by decide, _, by simp, ?_, rfl⟩
      simp [isField_band band]
  | setSelection band number =>
      refine .inr ⟨"MR", by decide, _, by simp, ?_, rfl⟩
      simp [isField_band band, isField_digits number]
  | memory number =>
      refine .inr ⟨"ME", by decide, _, by simp, ?_, rfl⟩
      simp [isField_digits number]
  | setMemory sixteen numbers =>
      refine .inr ⟨"ME", by decide, _, ?_, ?_, rfl⟩
      · rintro rfl
        cases sixteen
      · intro field member
        obtain ⟨count, -, digits⟩ := numbers field member
        exact isField_digits digits
  | name number =>
      refine .inr ⟨"MN", by decide, _, by simp, ?_, rfl⟩
      simp [isField_digits number]
  | setName number name =>
      refine .inr ⟨"MN", by decide, _, by simp, ?_, rfl⟩
      simp [isField_digits number, isField_name name]
  | busy band =>
      refine .inr ⟨"BY", by decide, _, by simp, ?_, rfl⟩
      simp [isField_band band]

theorem Wording.isPrintable {line : String} (h : Wording line) : IsPrintable line := by
  rcases h.shape with bare | ⟨name, known, fields, -, inside, rfl⟩
  · have names : ∀ name ∈ ["BC", "TX", "RX"], IsPrintable name := by decide
    exact names line bare
  · have names : ∀ name ∈ fieldedNames, IsPrintable name := by decide
    exact isPrintable_lineText (names name known) fun field member c found =>
      (inside field member c found).1

def asciiBytes (s : String) : List UInt8 := s.toList.map fun c => UInt8.ofNat c.toNat

theorem encodeFrom_ascii {cs : List Char} (h : ∀ c ∈ cs, c.toNat < 0x80) (position : Nat) :
    Text.CodePage.encodeFrom position cs = .ok (cs.map fun c => UInt8.ofNat c.toNat) := by
  induction cs generalizing position with
  | nil => rfl
  | cons c rest ih =>
      have later := ih (fun d member => h d (List.mem_cons_of_mem c member)) (position + 1)
      simp only [Text.CodePage.encodeFrom, Text.CodePage.encodeChar_of_ascii (h c List.mem_cons_self),
        later]
      rfl

/-- A printable line goes out as its ASCII bytes and a carriage return. -/
theorem encode_line {s : String} (h : IsPrintable s) :
    Text.CodePage.encode (s ++ terminator.toString) = .ok (asciiBytes s ++ [13]) := by
  have ascii : ∀ c ∈ (s ++ terminator.toString).toList, c.toNat < 0x80 := by
    intro c member
    rw [String.toList_append] at member
    rcases List.mem_append.mp member with inside | ending
    · have range := h c inside
      omega
    · rw [List.mem_singleton.mp ending]
      decide
  rw [Text.CodePage.encode, encodeFrom_ascii ascii, String.toList_append, List.map_append]
  rfl

theorem encode_printable {s : String} (h : IsPrintable s) :
    Text.CodePage.encode s = .ok (asciiBytes s) :=
  encodeFrom_ascii (fun c member => Nat.lt_of_le_of_lt (h c member).2 (by decide)) 0

theorem not_mem_asciiBytes {s : String} (h : IsPrintable s) : (13 : UInt8) ∉ asciiBytes s := by
  intro ending
  obtain ⟨c, member, same⟩ := List.mem_map.mp ending
  have range := h c member
  have code := congrArg UInt8.toNat same
  simp only [UInt8.toNat_ofNat'] at code
  have thirteen : (13 : UInt8).toNat = 13 := rfl
  omega

theorem lineText_ne {name s : String} {fields : List String} (bare : ' ' ∉ s.toList) :
    lineText name fields ≠ s := by
  rintro rfl
  exact bare (by simp [lineText])

/-- A command with a bare line is the one command that has it. -/
theorem Command.eq_of_line {request : Request} {command : Command} (may : request.May command) :
    (command.line = "TX" → command = .transmit) ∧ (command.line = "RX" → command = .receive) := by
  have fielded : ∀ name fields, lineText name fields ≠ "TX" ∧ lineText name fields ≠ "RX" :=
    fun name fields => ⟨lineText_ne (by decide), lineText_ne (by decide)⟩
  cases may with
  | ask query =>
      cases query with
      | control => exact ⟨fun h => absurd h (by decide), fun h => absurd h (by decide)⟩
      | _ => exact ⟨fun h => absurd h (fielded _ _).1, fun h => absurd h (fielded _ _).2⟩
  | transmit on => exact ⟨fun _ => rfl, fun h => absurd h (by decide)⟩
  | receive off => exact ⟨fun h => absurd h (by decide), fun _ => rfl⟩
  | _ => exact ⟨fun h => absurd h (fielded _ _).1, fun h => absurd h (fielded _ _).2⟩

/-- Only keying the transmitter sends the line that does it, and likewise for releasing it. -/
theorem Request.May.keying {request : Request} {command : Command} (may : request.May command) :
    (command.line = "TX" → ∃ on, request = .setTransmit on ∧ on.truth = true) ∧
      (command.line = "RX" → ∃ on, request = .setTransmit on ∧ on.truth = false) := by
  obtain ⟨keyed, released⟩ := Command.eq_of_line may
  constructor
  · intro line
    obtain rfl := keyed line
    cases may with
    | ask query => cases query
    | transmit on => exact ⟨_, rfl, on⟩
  · intro line
    obtain rfl := released line
    cases may with
    | ask query => cases query
    | receive off => exact ⟨_, rfl, off⟩

end Transceiver
