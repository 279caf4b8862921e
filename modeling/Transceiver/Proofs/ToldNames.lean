import Transceiver.Proofs.Copying

/-! Names that a radio tells. A reply may give a memory any name that is short enough, but only a name
of name characters can be stored, and only for such a name is a channel made of the memory. -/
namespace Transceiver

open Dialogue Record

namespace Dialogue

variable {α β : Type} {turns : List Turn} {result : Except Fault β}

theorem conversation_settled {e : Except Fault α} {value : α} {next : α → Dialogue β}
    (known : e = .ok value) :
    (ofExcept e >>= next).Conversation turns result ↔ (next value).Conversation turns result := by
  rw [settled_eq known]

/-- What follows on a command, once its answer makes sense. -/
theorem conversation_told {d : Dialogue α} {command : Command} {meaning : String → Except Fault α}
    {next : α → Dialogue β} {reply : String} {value : α} (asked : d = inquiry command meaning)
    (told : meaning reply = .ok value) :
    (d >>= next).Conversation (⟨command, .ok reply⟩ :: turns) result ↔
      (next value).Conversation turns result := by
  subst asked
  have sent : (inquiry command meaning >>= next) =
      .send command fun answer => ofExcept (answer.bind meaning) >>= next := rfl
  rw [sent, conversation_send]
  constructor
  · rintro ⟨_, _, ⟨⟩, said⟩
    exact (conversation_settled told).mp said
  · exact fun said => ⟨.ok reply, turns, rfl, (conversation_settled told).mpr said⟩

theorem readName_eq (channel : Fin 1000) :
    readName channel = inquiry (.readName channel) MemoryName.parse :=
  ask_bind_eq (.readName channel) MemoryName.parse

end Dialogue

theorem isName_iff_of_short {name : String} (short : name.length ≤ nameLength) :
    isName name = true ↔ ∀ c ∈ name.toList, isNameCharacter c = true := by
  rw [isName, decide_eq_true short, Bool.true_and, List.all_eq_true]

namespace MemoryName

theorem length_of_parse {reply : String} {told : MemoryName} (h : MemoryName.parse reply = .ok told) :
    told.name.length ≤ nameLength := by
  unfold MemoryName.parse at h
  dsimp only at h
  split at h
  · cases h
  · obtain ⟨channel, -, h⟩ := bind_eq_ok.mp h
    split at h
    · cases h
    · rename_i short
      cases h
      exact Nat.le_of_not_lt short

/-- What is told is written back if its name is one, and is refused for its characters if not. -/
theorem writing_told {told : MemoryName} (short : told.name.length ≤ nameLength) :
    (AnyRecord.name told).writing =
      if valid : isName told.name = true then .ok (.writeName told.channel (.storable ⟨told.name, valid⟩))
      else .error (.argument (.nameCharacters (.text told.name)
        (.ofList (told.name.toList.filter (!isNameCharacter ·))))) := by
  have numbered : checkChannel (.ofNat told.channel) = .ok told.channel :=
    checkChannel_eq_ok.mpr (Value.below?_ofNat _)
  have checks : (AnyRecord.name told).writing =
      (checkChannel (.ofNat told.channel)).mapError Fault.ofArgument >>= fun channel =>
        ((checkName told.name).map SentName.storable).mapError .ofArgument >>= fun name =>
          name.written >>= fun sent => .ok (.writeName channel sent) := rfl
  rw [checks, numbered, checkName]
  split
  · rfl
  · rw [if_neg (Nat.not_lt.mpr short)]
    rfl

end MemoryName

/-- What comes of the two replies that a channel is made of. -/
theorem Rig.conversation_getChannel {number : Fin 1000} {content reply : String} {record : MemoryRecord}
    {shift : Shift} {told : MemoryName} (held : MemoryRecord.parse content = .ok record)
    (own : record.channel = number) (shifted : Shift.ofRecord record = .ok shift)
    (named : MemoryName.parse reply = .ok told) {result : Except Fault Channel} :
    (getChannel (.ofNat number)).Conversation
        [⟨.readMemory number, .ok content⟩, ⟨.readName number, .ok reply⟩] result ↔
      result = if isName told.name then .ok (.recalled (.ofNat number) record shift told.name)
        else .error (.attribute (.value (.text told.name) "name")) := by
  have numbered : checkNumber (.ofNat number) = .ok number := checkNumber_eq_ok.mpr rfl
  refine (conversation_settled (mapError_eq_ok.mpr numbered)).trans ?_
  refine (conversation_told (readMemory_eq number) (ownRecord_eq_ok.mpr ⟨held, own⟩)).trans ?_
  refine (conversation_settled (mapError_eq_ok.mpr (Channel.make_eq number (by decide)))).trans ?_
  refine (conversation_settled (mapError_eq_ok.mpr shifted)).trans ?_
  refine (conversation_told (readName_eq number) named).trans ?_
  refine conversation_ofExcept.trans ?_
  rw [Channel.assign_name_eq]
  split <;> exact and_iff_right rfl

namespace MemoryName

/-- A told name that has no other characters is written, read back, and taken for a channel's. Any
other is refused by all three: by the record for its characters, by the channel for its value, and so
in place of the channel that is asked for. -/
theorem usable_by_characters {reply : String} {told : MemoryName}
    (named : MemoryName.parse reply = .ok told) :
    (isName told.name = true ↔ ∀ c ∈ told.name.toList, isNameCharacter c = true) ∧
      Channel.Attribute.name.accepts (.text told.name) = isName told.name ∧
      (isName told.name = true → ∃ command, (AnyRecord.name told).writing = .ok command ∧
        RecordKind.name.parse command.line = .ok (.name told)) ∧
      (isName told.name = false → (AnyRecord.name told).writing = .error (.argument
        (.nameCharacters (.text told.name) (.ofList (told.name.toList.filter (!isNameCharacter ·)))))) ∧
      ∀ content record, MemoryRecord.parse content = .ok record → record.shift.val ≤ 2 →
        ∃ shift, Shift.ofRecord record = .ok shift ∧ ∀ result : Except Fault Channel,
          (Rig.getChannel (.ofNat record.channel)).Conversation
              [⟨.readMemory record.channel, .ok content⟩, ⟨.readName record.channel, .ok reply⟩] result ↔
            result =
              if isName told.name then .ok (.recalled (.ofNat record.channel) record shift told.name)
              else .error (.attribute (.value (.text told.name) "name")) := by
  have short := length_of_parse named
  refine ⟨isName_iff_of_short short, rfl, fun valid => ?_, fun invalid => ?_,
    fun content record held meant => ?_⟩
  · refine ⟨.writeName told.channel (.storable ⟨told.name, valid⟩), ?_, ?_⟩
    · rw [writing_told short, dif_pos valid]
    · exact functor_map_eq_ok.mpr ⟨told, MemoryName.parse_line told.channel ⟨told.name, valid⟩, rfl⟩
  · rw [writing_told short, dif_neg (Bool.eq_false_iff.mp invalid)]
  · obtain ⟨shift, shifted⟩ := Shift.exists_ofRecord meant
    exact ⟨shift, shifted, fun result => Rig.conversation_getChannel held rfl shifted named⟩

theorem usable_by_characters_plain : ∃ told, MemoryName.parse "MN 005,HOME" = .ok told ∧
    ∃ command, (AnyRecord.name told).writing = .ok command ∧
      RecordKind.name.parse command.line = .ok (.name told) := by
  have named : MemoryName.parse "MN 005,HOME" = .ok ⟨⟨5, by decide⟩, "HOME"⟩ := by rfl
  exact ⟨_, named, (usable_by_characters named).2.2.1 (by decide)⟩

/-- Only the first comma separates, so that a name with another one is told, but cannot be written,
and stands in the way of the channel. -/
theorem comma_told_in_name : ∃ told content, MemoryName.parse "MN 005,A,B" = .ok told ∧
    MemoryRecord.parse content = .ok (.empty told.channel) ∧
    (AnyRecord.name told).writing = .error (.argument (.nameCharacters (.text "A,B") ",")) ∧
    (Rig.getChannel (.int 5)).Conversation
      [⟨.readMemory told.channel, .ok content⟩, ⟨.readName told.channel, .ok "MN 005,A,B"⟩]
      (.error (.attribute (.value (.text "A,B") "name"))) := by
  have named : MemoryName.parse "MN 005,A,B" = .ok ⟨⟨5, by decide⟩, "A,B"⟩ := by rfl
  have held := (MemoryRecord.empty ⟨5, by decide⟩).parse_line
  exact ⟨_, _, named, held, by rfl, (Rig.conversation_getChannel held rfl rfl named).mpr rfl⟩

end MemoryName

end Transceiver
