import Transceiver.Proofs.ReadModifyWrite
import Transceiver.Proofs.Reservation
import Transceiver.Proofs.RoundTrip
import Transceiver.Proofs.Talking

/-! The memory behind a VFO, as a simulated radio keeps it: which band has control, and what comes
of reading a stored record and of storing one. -/
namespace Transceiver

open Record Simulation Dialogue

/-- Printable and without blanks. -/
def IsSolid (s : String) : Prop := ∀ c ∈ s.toList, 0x21 ≤ c.toNat ∧ c.toNat ≤ 0x7E

instance (s : String) : Decidable (IsSolid s) :=
  List.decidableBAll (fun c : Char => 0x21 ≤ c.toNat ∧ c.toNat ≤ 0x7E) s.toList

theorem IsSolid.isPrintable {s : String} (h : IsSolid s) : IsPrintable s :=
  fun c member => ⟨Nat.le_of_succ_le (h c member).1, (h c member).2⟩

/-- A reply of a name and a text without blanks is printable, and is left alone where replies are
trimmed. -/
theorem clear_reply {name text : String} (front : IsSolid name) (some : name ≠ "")
    (rest : IsSolid text) (more : text ≠ "") :
    IsPrintable (name ++ " " ++ text) ∧ Text.trim (name ++ " " ++ text) = name ++ " " ++ text := by
  have spelled : (name ++ " " ++ text).toList = name.toList ++ ' ' :: text.toList := by
    simp
  constructor
  · intro c member
    rw [spelled] at member
    rcases List.mem_append.mp member with before | after
    · exact front.isPrintable c before
    · rcases List.mem_cons.mp after with rfl | inside
      · decide
      · exact rest.isPrintable c inside
  · refine Text.trim_eq_self ?_ ?_
    · rw [spelled]
      cases first : name.toList with
      | nil => exact absurd (String.toList_eq_nil_iff.mp first) some
      | cons c others =>
          have solid := isBlank_of_solid (front c (by rw [first]; exact List.mem_cons_self))
          simp [solid]
    · rw [spelled]
      cases last : text.toList with
      | nil => exact absurd (String.toList_eq_nil_iff.mp last) more
      | cons c others =>
          have final := List.getLast_mem (List.cons_ne_nil c others)
          have solid := isBlank_of_solid (rest _ (by rw [last]; exact final))
          have ending : (name.toList ++ ' ' :: c :: others).getLast? =
              Option.some ((c :: others).getLast (List.cons_ne_nil c others)) := by
            rw [List.getLast?_append, List.getLast?_cons_cons,
              List.getLast?_eq_some_getLast (List.cons_ne_nil c others), Option.some_or]
          rw [ending]
          simp [solid]

theorem accepted_reply (command name text : String) :
    Link.accepted command (name ++ " " ++ text) = .ok (name ++ " " ++ text) := by
  have blank : ' ' ∈ (name ++ " " ++ text).toList := by simp
  have kept : isRefusal (name ++ " " ++ text) = false := by
    simp only [isRefusal, Bool.or_eq_false_iff, beq_eq_false_iff_ne]
    constructor
    · intro same
      rw [same] at blank
      exact absurd blank (by decide)
    · intro same
      rw [same] at blank
      exact absurd blank (by decide)
  rw [Link.accepted, kept]
  rfl

theorem talks_reply {α : Type} {command : Command} {meaning : String → Except Fault α}
    {r r' : Radio} {name text : String} (worded : IsPrintable command.line)
    (replied : r.answer command.line = (name ++ " " ++ text, r')) (front : IsSolid name)
    (some : name ≠ "") (rest : IsSolid text) (more : text ≠ "") :
    (inquiry command meaning).Talks r (meaning (name ++ " " ++ text)) r' := by
  obtain ⟨clear, whole⟩ := clear_reply front some rest more
  have talks : (inquiry command meaning).Talks r
      ((Link.accepted command.line (name ++ " " ++ text)).bind meaning) r' :=
    Talks.inquiry worded replied clear whole
  rwa [accepted_reply] at talks

namespace Simulation.Radio

/-- The band that has control, as far as the radio tells; else the first. -/
def controlBand (r : Radio) : Band :=
  if r.control = 1 ∧ (r.transmit = 0 ∨ r.transmit = 1) then .b else .a

end Simulation.Radio

theorem isSolid_showInt (n : Int) : IsSolid (Number.showInt n) := by
  intro c member
  rcases Number.mem_showInt member with rfl | digit
  · decide
  · exact Number.solid_of_isDigit digit

theorem comma_not_mem_showInt (n : Int) : ',' ∉ (Number.showInt n).toList := by
  intro comma
  rcases Number.mem_showInt comma with sign | digit
  · cases sign
  · cases digit

/-- An integer that is written in a field for bands is a band, or the radio is at fault. -/
theorem bandNumber_showInt (reply : String) {n : Int}
    (few : (Number.digits n.natAbs).length ≤ Number.maxDigits) :
    n = 0 ∧ bandNumber reply (Number.showInt n) = .ok .a ∨
      n = 1 ∧ bandNumber reply (Number.showInt n) = .ok .b ∨
      n ≠ 0 ∧ n ≠ 1 ∧ ∃ fault, bandNumber reply (Number.showInt n) = .error (.radio fault) := by
  cases n with
  | ofNat n =>
      have short : (Number.padded 0 n).toList.length ≤ Number.maxDigits := by
        rw [Number.toList_padded, List.length_append, List.length_replicate]
        have few' : (Number.digits n).length ≤ Number.maxDigits := few
        omega
      have read : bandNumber reply (Number.showInt (.ofNat n)) =
          (if h : n < 2 then .ok (Band.ofIndex ⟨n, h⟩)
            else .error (.radio (.valueRange n reply))) := by
        rw [Number.showInt, Number.showNat_eq_padded, bandNumber,
          number_of_isNumeral reply (Number.isNumeral_padded 0 n) fun _ => short]
        split <;> rfl
      by_cases zero : n = 0
      · subst zero
        exact .inl ⟨rfl, read⟩
      · by_cases one : n = 1
        · subst one
          exact .inr (.inl ⟨rfl, read⟩)
        · rw [dif_neg (by omega)] at read
          exact .inr (.inr ⟨fun h => zero (Int.ofNat.inj h), fun h => one (Int.ofNat.inj h), _, read⟩)
  | negSucc n =>
      have unread : Number.digitRow? (Number.showInt (.negSucc n)) = none := by
        have spelled : (Number.showInt (.negSucc n)).toList =
            '-' :: (Number.showNat (n + 1)).toList := by
          rw [Number.showInt, String.toList_append]
          rfl
        rw [Number.digitRow?, spelled]
        rfl
      refine .inr (.inr ⟨by omega, by omega, .notNumber (Number.showInt (.negSucc n)) reply, ?_⟩)
      rw [bandNumber, number, unread]
      rfl

namespace Simulation.Radio

theorem answer_control (r : Radio) : r.answer "BC" = (r.controlReply.getD "?", r) := by
  rw [r.answer_bare (by decide)]
  change ((r.controlReply >>= fun reply => some (reply, r)).getD ("?", r)) = _
  cases r.controlReply with
  | none => rfl
  | some reply => rfl

theorem controlReply_eq_some {r : Radio} {reply : String} (h : r.controlReply = some reply) :
    (Number.digits r.control.natAbs).length ≤ Number.maxDigits ∧
      (Number.digits r.transmit.natAbs).length ≤ Number.maxDigits ∧
      reply = lineText "BC" [Number.showInt r.control, Number.showInt r.transmit] := by
  obtain ⟨control, first, rest⟩ := Option.bind_eq_some_iff.mp h
  obtain ⟨transmit, second, same⟩ := Option.bind_eq_some_iff.mp rest
  obtain ⟨short, rfl⟩ := Number.written?_eq_some.mp first
  obtain ⟨short', rfl⟩ := Number.written?_eq_some.mp second
  cases same
  refine ⟨Number.isWritable_iff.mp short, Number.isWritable_iff.mp short', ?_⟩
  simp only [lineText, Text.join, String.append_assoc]
  rfl

theorem parse_control {control transmit : String} (front : ',' ∉ control.toList)
    (back : ',' ∉ transmit.toList) :
    BandControl.parse (lineText "BC" [control, transmit]) = do
      let first ← bandNumber (lineText "BC" [control, transmit]) control
      let second ← bandNumber (lineText "BC" [control, transmit]) transmit
      return ⟨first, second⟩ := by
  have fields : fieldsOf "BC" (lineText "BC" [control, transmit]) = .ok [control, transmit] :=
    fieldsOf_lineText (by simp) (by simp [front, back])
  unfold BandControl.parse
  rw [fields]
  rfl

/-- A radio that cannot spell its band control has no band in control that is one. -/
theorem controlBand_of_none {r : Radio} (h : r.controlReply = none) : r.controlBand = .a := by
  refine if_neg ?_
  rintro ⟨control, transmit⟩
  unfold controlReply at h
  rw [control] at h
  rcases transmit with zero | one
  · rw [zero] at h
    exact absurd h (by decide)
  · rw [one] at h
    exact absurd h (by decide)

theorem isSolid_control (control transmit : Int) :
    IsSolid (Text.join "," [Number.showInt control, Number.showInt transmit]) ∧
      Text.join "," [Number.showInt control, Number.showInt transmit] ≠ "" := by
  constructor
  · intro c member
    rcases Text.mem_join member with comma | ⟨field, inside, found⟩
    · rw [List.mem_singleton.mp comma]
      decide
    · rcases List.mem_cons.mp inside with rfl | last
      · exact isSolid_showInt control c found
      · rw [List.mem_singleton.mp last] at found
        exact isSolid_showInt transmit c found
  · intro empty
    have none := congrArg String.toList empty
    rw [Text.toList_join_cons _ _ (by simp)] at none
    have comma := (List.append_eq_nil_iff.mp (List.append_eq_nil_iff.mp none).1).2
    cases comma

/-- A reply about the band control tells the bands, or that the radio is at fault. -/
theorem parse_controlReply {r : Radio}
    (short : (Number.digits r.control.natAbs).length ≤ Number.maxDigits)
    (short' : (Number.digits r.transmit.natAbs).length ≤ Number.maxDigits) :
    (∃ transmit,
        BandControl.parse (lineText "BC" [Number.showInt r.control, Number.showInt r.transmit]) =
          .ok ⟨r.controlBand, transmit⟩) ∨
      r.controlBand = .a ∧ ∃ fault,
        BandControl.parse (lineText "BC" [Number.showInt r.control, Number.showInt r.transmit]) =
          .error (.radio fault) := by
  rw [parse_control (comma_not_mem_showInt _) (comma_not_mem_showInt _)]
  generalize lineText "BC" [Number.showInt r.control, Number.showInt r.transmit] = reply
  -- A second number that is no band hides the first one, also where that one is a band.
  rcases bandNumber_showInt reply short with ⟨zero, first⟩ | ⟨one, first⟩ | ⟨-, other, fault, first⟩
  · have lower : r.controlBand = .a := if_neg fun both => by omega
    rw [first, lower]
    rcases bandNumber_showInt reply short' with ⟨-, second⟩ | ⟨-, second⟩ | ⟨-, -, fault, second⟩
    · rw [second]
      exact .inl ⟨.a, rfl⟩
    · rw [second]
      exact .inl ⟨.b, rfl⟩
    · rw [second]
      exact .inr ⟨rfl, fault, rfl⟩
  · rw [first]
    rcases bandNumber_showInt reply short' with ⟨zero, second⟩ | ⟨one', second⟩ |
      ⟨no, no', fault, second⟩
    · have upper : r.controlBand = .b := if_pos ⟨one, .inl zero⟩
      rw [second, upper]
      exact .inl ⟨.a, rfl⟩
    · have upper : r.controlBand = .b := if_pos ⟨one, .inr one'⟩
      rw [second, upper]
      exact .inl ⟨.b, rfl⟩
    · have lower : r.controlBand = .a := if_neg fun both => by omega
      rw [second]
      exact .inr ⟨lower, fault, rfl⟩
  · have lower : r.controlBand = .a := if_neg fun both => other both.1
    rw [first]
    exact .inr ⟨lower, fault, rfl⟩

theorem talks_readControl (r : Radio) :
    (∃ transmit, readControl.Talks r (.ok ⟨r.controlBand, transmit⟩) r) ∨
      r.controlBand = .a ∧ ∃ fault, readControl.Talks r (.error (.radio fault)) r := by
  have worded : IsPrintable Command.readControl.line := Wording.control.isPrintable
  have asked : readControl = inquiry .readControl BandControl.parse := ask_bind_eq _ _
  have replied : r.answer Command.readControl.line = (r.controlReply.getD "?", r) := r.answer_control
  rw [asked]
  cases given : r.controlReply with
  | none =>
      rw [given, Option.getD_none] at replied
      have refused : (inquiry .readControl BandControl.parse).Talks r
          ((Link.accepted "BC" "?").bind BandControl.parse) r :=
        Talks.inquiry worded replied (by decide) (by decide)
      exact .inr ⟨controlBand_of_none given, _, refused⟩
  | some reply =>
      obtain ⟨short, short', rfl⟩ := controlReply_eq_some given
      rw [given, Option.getD_some] at replied
      obtain ⟨solid, more⟩ := isSolid_control r.control r.transmit
      have talks : (inquiry .readControl BandControl.parse).Talks r
          (BandControl.parse (lineText "BC" [Number.showInt r.control, Number.showInt r.transmit])) r :=
        talks_reply worded replied (by decide) (by decide) solid more
      rcases parse_controlReply short short' with ⟨transmit, told⟩ | ⟨first, fault, failed⟩
      · exact .inl ⟨transmit, told ▸ talks⟩
      · exact .inr ⟨first, fault, failed ▸ talks⟩

theorem talks_currentBandOrFirst (r : Radio) :
    Rig.currentBandOrFirst.Talks r (.ok r.controlBand) r := by
  rcases r.talks_readControl with ⟨transmit, told⟩ | ⟨first, fault, failed⟩
  · exact Talks.rescue_ok (Talks.map told)
  · rw [first]
    exact Talks.rescue_error (Talks.bind_error failed) (.note (.done _ _))

end Simulation.Radio

/-- What a radio stores of a record: the fields of its line. -/
def MemoryRecord.payload (record : MemoryRecord) : String :=
  Text.join "," (fieldTexts formats record.values)

theorem MemoryRecord.parse_payload (record : MemoryRecord) :
    MemoryRecord.parse ("ME " ++ record.payload) = .ok record := by
  have line : "ME " ++ record.payload = record.line := by
    rw [line_front]
    rfl
  rw [line, record.parse_line]

theorem isSolid_payload {payload : String} {record : MemoryRecord}
    (h : MemoryRecord.parse ("ME " ++ payload) = .ok record) : IsSolid payload ∧ payload ≠ "" := by
  obtain ⟨some, characters⟩ := MemoryRecord.characters_of_parse h
  refine ⟨fun c member => ?_, some⟩
  rcases characters c member with digit | rfl
  · exact Number.solid_of_isDigit digit
  · decide

namespace Simulation.Radio

/-- The channel of a band holds a text that is read as the record. -/
def Holds (r : Radio) (band : Band) (record : MemoryRecord) : Prop :=
  ∃ payload, r.memories.get? band.channel.val = some payload ∧
    ownRecord band.channel ("ME " ++ payload) = .ok record

theorem Holds.channel_eq {r : Radio} {band : Band} {record : MemoryRecord} (held : r.Holds band record) :
    record.channel = band.channel := by
  obtain ⟨payload, -, known⟩ := held
  exact (ownRecord_eq_ok.mp known).2

/-- The radio with a record stored in the channel of a band. -/
def store (r : Radio) (band : Band) (record : MemoryRecord) : Radio :=
  { r with memories := r.memories.put band.channel.val record.payload }

theorem holds_store (r : Radio) {band : Band} {record : MemoryRecord}
    (own : record.channel = band.channel) : (r.store band record).Holds band record := by
  refine ⟨record.payload, ?_, ownRecord_eq_ok.mpr ⟨record.parse_payload, own⟩⟩
  rw [store, Table.get?_put_self]

/-- The radio with a record stored in the channel that it names. -/
def keep (r : Radio) (record : MemoryRecord) : Radio :=
  { r with memories := r.memories.put record.channel.val record.payload }

theorem keep_eq_store (r : Radio) {band : Band} {record : MemoryRecord}
    (own : record.channel = band.channel) : r.keep record = r.store band record := by
  rw [keep, own]
  rfl

theorem answerMemory_query (r : Radio) (channel : Fin 1000) :
    r.answer (Command.readMemory channel).line =
      match r.memories.get? channel.val with
      | some payload => ("ME" ++ " " ++ payload, r)
      | none => ("N", r) := by
  have asked : (Command.readMemory channel).line = lineText "ME" [Number.padded 3 channel.val] := rfl
  have named : r.answerNamed "ME" [Number.padded 3 channel.val] =
      r.answerMemory [Number.padded 3 channel.val] := rfl
  rw [asked, r.answer_numbers (by decide) (by simp) fun _ => one_number, named]
  simp only [answerMemory, List.head?_cons, Option.bind_eq_bind, Option.bind_some,
    readInt?_channel, List.length_singleton, if_true]
  cases r.memories.get? channel.val with
  | none => rfl
  | some payload =>
      dsimp only
      rw [Option.pure_def, Option.getD_some, line_front]

theorem answer_readMemory {r : Radio} {channel : Fin 1000} {payload : String}
    (held : r.memories.get? channel.val = some payload) :
    r.answer (Command.readMemory channel).line = ("ME" ++ " " ++ payload, r) := by
  rw [answerMemory_query, held]

theorem answer_readMemory_empty {r : Radio} {channel : Fin 1000}
    (empty : r.memories.get? channel.val = none) :
    r.answer (Command.readMemory channel).line = ("N", r) := by
  rw [answerMemory_query, empty]

theorem talks_readChannel {r : Radio} {channel : Fin 1000} {payload : String} {record : MemoryRecord}
    (held : r.memories.get? channel.val = some payload)
    (known : ownRecord channel ("ME " ++ payload) = .ok record) :
    (readMemory channel).Talks r (.ok record) r := by
  obtain ⟨solid, more⟩ := isSolid_payload (ownRecord_eq_ok.mp known).1
  have worded := (Wording.memory (digits_channel channel)).isPrintable
  have talks : (inquiry (.readMemory channel) (ownRecord channel)).Talks r
      (ownRecord channel ("ME" ++ " " ++ payload)) r :=
    talks_reply worded (answer_readMemory held) (by decide) (by decide) solid more
  rw [← line_front, known] at talks
  rw [readMemory_eq]
  exact talks

theorem talks_readMemory {r : Radio} {band : Band} {record : MemoryRecord} (h : r.Holds band record) :
    (readMemory band.channel).Talks r (.ok record) r := by
  obtain ⟨payload, held, known⟩ := h
  exact talks_readChannel held known

theorem speaks_readMemory {r r' : Radio} {channel : Fin 1000} {result : Except Fault MemoryRecord}
    (h : (readMemory channel).Talks r result r') :
    (readMemory channel).Speaks r [.readMemory channel] result r' := by
  rw [readMemory_eq] at h ⊢
  exact Speaks.inquiry h

/-- A channel without a record is refused. -/
theorem talks_readMemory_empty {r : Radio} {channel : Fin 1000}
    (empty : r.memories.get? channel.val = none) :
    (readMemory channel).Talks r
      (.error (.radio (.refused (Command.readMemory channel).line "N"))) r := by
  have worded := (Wording.memory (digits_channel channel)).isPrintable
  have talks : (inquiry (.readMemory channel) (ownRecord channel)).Talks r
      ((Link.accepted (Command.readMemory channel).line "N").bind (ownRecord channel)) r :=
    Talks.inquiry worded (answer_readMemory_empty empty) (by decide) (by decide)
  rw [readMemory_eq]
  exact talks

theorem answer_writeMemory (r : Radio) (record : MemoryRecord) :
    r.answer (Command.writeMemory record).line =
      ("ME" ++ " " ++ record.payload, r.keep record) := by
  have told : (Command.writeMemory record).line =
      lineText "ME" (fieldTexts MemoryRecord.formats record.values) := rfl
  have named : r.answerNamed "ME" (fieldTexts MemoryRecord.formats record.values) =
      r.answerMemory (fieldTexts MemoryRecord.formats record.values) := rfl
  have front : (fieldTexts MemoryRecord.formats record.values).head? =
      some (Number.padded 3 record.channel.val) := rfl
  have sixteen : (fieldTexts MemoryRecord.formats record.values).length = 16 := rfl
  have some : fieldTexts MemoryRecord.formats record.values ≠ [] := nofun
  rw [told, r.answer_numbers (by decide) some fun _ => mem_fieldTexts, named]
  simp only [answerMemory, front, Option.bind_eq_bind, Option.bind_some, readInt?_channel, sixteen,
    if_true]
  rw [if_neg (by decide), Option.pure_def, Option.getD_some, line_front]
  rfl

theorem talks_writeMemory (r : Radio) (record : MemoryRecord) :
    (writeMemory record).Talks r (.ok record) (r.keep record) := by
  obtain ⟨solid, more⟩ := isSolid_payload record.parse_payload
  have worded := (wording_writeMemory record).isPrintable
  have talks : (inquiry (.writeMemory record) MemoryRecord.parse).Talks r
      (MemoryRecord.parse ("ME" ++ " " ++ record.payload)) (r.keep record) :=
    talks_reply worded (r.answer_writeMemory record) (by decide) (by decide) solid more
  rw [← line_front, record.parse_payload] at talks
  rw [writeMemory_eq]
  exact talks

theorem speaks_writeMemory (r : Radio) (record : MemoryRecord) :
    (writeMemory record).Speaks r [.writeMemory record] (.ok record) (r.keep record) := by
  have talks := r.talks_writeMemory record
  rw [writeMemory_eq] at talks ⊢
  exact Speaks.inquiry talks

theorem talks_changeMemory_told {r : Radio} {channel : Fin 1000} {old new : MemoryRecord}
    {u : MemoryUpdate} (told : (readMemory channel).Talks r (.ok old) r)
    (fits : (old.toDraft.overlay u).check = .ok new) :
    (changeMemory channel u).Talks r (.ok new) (r.keep new) := by
  have checked : (Dialogue.ofExcept ((old.toDraft.overlay u).check.mapError Fault.ofArgument)).Talks r
      (.ok new) r := by
    rw [fits]
    exact .done new r
  exact Talks.bind told (Talks.bind checked (r.talks_writeMemory new))

/-- An update that does not fit the record is refused after the record was read. -/
theorem talks_changeMemory_refused {r : Radio} {channel : Fin 1000} {old : MemoryRecord}
    {u : MemoryUpdate} {why : ArgumentFault} (told : (readMemory channel).Talks r (.ok old) r)
    (unfit : (old.toDraft.overlay u).check = .error why) :
    (changeMemory channel u).Talks r (.error (.ofArgument why)) r := by
  have checked : (Dialogue.ofExcept ((old.toDraft.overlay u).check.mapError Fault.ofArgument)).Talks r
      (.error (.ofArgument why)) r := by
    rw [unfit]
    exact .fail _ r
  exact Talks.bind told checked.bind_error

theorem talks_changeMemory {r : Radio} {band : Band} {old new : MemoryRecord} {u : MemoryUpdate}
    (held : r.Holds band old) (fits : (old.toDraft.overlay u).check = .ok new) :
    (changeMemory band.channel u).Talks r (.ok new) (r.store band new) := by
  have own : new.channel = band.channel := (check_overlay.mp fits).1.trans held.channel_eq
  rw [← r.keep_eq_store own]
  exact talks_changeMemory_told (talks_readMemory held) fits

end Simulation.Radio

namespace VfoChoice

def band (choice : VfoChoice) (r : Radio) : Band :=
  match choice with
  | .named band => band
  | .current => r.controlBand

end VfoChoice

namespace Rig

theorem bandOf_vfo (band : Band) : bandOf (.text band.vfo) = pure band := by
  cases band <;> rfl

theorem channelOf_vfo (band : Band) : channelOf (.text band.vfo) = pure band.channel := by
  cases band <;> rfl

theorem talks_channelOf {vfo : Value} {choice : VfoChoice}
    (chosen : VfoChoice.ofValue vfo = .ok choice) (r : Radio) :
    (channelOf vfo).Talks r (.ok (choice.band r).channel) r := by
  unfold channelOf
  rw [chosen]
  cases choice with
  | named band => exact .done _ _
  | current => exact Talks.map r.talks_currentBandOrFirst

theorem talks_readVfoMemory {vfo : Value} {choice : VfoChoice}
    (chosen : VfoChoice.ofValue vfo = .ok choice) {r : Radio} {record : MemoryRecord}
    (held : r.Holds (choice.band r) record) : (readVfoMemory vfo).Talks r (.ok record) r :=
  Talks.bind (talks_channelOf chosen r) (Radio.talks_readMemory held)

theorem talks_changeVfo {vfo : Value} {choice : VfoChoice}
    (chosen : VfoChoice.ofValue vfo = .ok choice) {r : Radio} {old new : MemoryRecord}
    {u : MemoryUpdate} (held : r.Holds (choice.band r) old)
    (fits : (old.toDraft.overlay u).check = .ok new) :
    (changeVfo vfo u).Talks r (.ok ()) (r.store (choice.band r) new) :=
  Talks.bind (talks_channelOf chosen r) (Talks.map (Radio.talks_changeMemory held fits))

theorem talks_changeVfo_refused {vfo : Value} {choice : VfoChoice}
    (chosen : VfoChoice.ofValue vfo = .ok choice) {r : Radio} {old : MemoryRecord} {u : MemoryUpdate}
    {why : ArgumentFault} (held : r.Holds (choice.band r) old)
    (unfit : (old.toDraft.overlay u).check = .error why) :
    (changeVfo vfo u).Talks r (.error (.ofArgument why)) r :=
  Talks.bind (talks_channelOf chosen r)
    (Radio.talks_changeMemory_refused (Radio.talks_readMemory held) unfit).bind_error

end Rig

end Transceiver
