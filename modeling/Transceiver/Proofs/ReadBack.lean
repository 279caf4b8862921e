import Transceiver.Proofs.RoundTrip
import Transceiver.Record.Any

/-! Reading back. A record that a host supplies is read back from its line with the values that were
supplied. A reply may spell a record in many ways; the record has one line, and that stays. -/
namespace Transceiver

open Record

namespace Number

theorem Binary64.same_finite {q : Rat} {x : Binary64} (h : x.value? = some q) :
    (Binary64.finite q).same x = true := by
  cases x with
  | finite p =>
      cases h
      simp [Binary64.same, Binary64.value?]
  | negativeZero =>
      cases h
      simp [Binary64.same, Binary64.value?]
  | infinite negative => cases h
  | nan => cases h

end Number

namespace Value

theorem same_ofNat {v : Value} {n : Nat}
    (h : v.number?.bind Number.Binary64.value? = some (n : Rat)) : (ofNat n).same v = true := by
  obtain ⟨x, number, value⟩ := Option.bind_eq_some_iff.mp h
  have numbers : sameNumber (.int n) v = true := by
    have own : number? (.int n) = some (.finite (n : Rat)) := rfl
    unfold sameNumber
    rw [own, number]
    exact Number.Binary64.same_finite value
  unfold ofNat same
  cases v with
  | null => cases number
  | _ => exact numbers

theorem same_of_int? {v : Value} {n : Nat} (h : v.int? = some (n : Int)) :
    (ofNat n).same v = true := by
  refine same_ofNat ?_
  cases v with
  | bool b =>
      cases b <;> cases h <;> rfl
  | int m =>
      cases h
      rfl
  | _ => cases h

theorem value_of_below? {size : Nat} {v : Value} {n : Fin size} (h : v.below? size = some n) :
    v.number?.bind Number.Binary64.value? = some (n.val : Rat) := by
  unfold below? at h
  split at h
  · rename_i q value
    split at h
    · rename_i whole
      split at h
      · cases h
        have numerator : ((q.num.toNat : Rat)).num = q.num := by
          simp only [Rat.num_natCast]
          exact Int.toNat_of_nonneg whole.2
        rw [value]
        exact congrArg some (Rat.ext numerator.symm whole.1)
      · cases h
    · cases h
  · cases h

theorem same_of_below? {size : Nat} {v : Value} {n : Fin size} (h : v.below? size = some n) :
    (ofNat n.val).same v = true :=
  same_ofNat (value_of_below? h)

theorem below?_ofNat {size : Nat} (n : Fin size) : (ofNat n.val).below? size = some n := by
  have value : (ofNat n.val).number?.bind Number.Binary64.value? = some (n.val : Rat) := rfl
  unfold below?
  rw [value]
  simp

theorem sameItems_of_ints {numbers : List Nat} {values : List Value}
    (h : values.map Value.int? = numbers.map fun n : Nat => some (n : Int)) :
    sameItems (numbers.map ofNat) values = true := by
  induction numbers generalizing values with
  | nil =>
      obtain rfl := List.map_eq_nil_iff.mp h
      simp [sameItems]
  | cons n rest ih =>
      obtain ⟨v, others, rfl, here, later⟩ := List.map_eq_cons_iff.mp h
      rw [List.map_cons, sameItems, same_of_int? here, ih later]
      rfl

theorem int?_ofNat (numbers : List Nat) :
    (numbers.map ofNat).map Value.int? = numbers.map fun n : Nat => some (n : Int) := by
  rw [List.map_map]
  rfl

end Value

/-- A name has no comma, so the first one ends the channel. -/
theorem MemoryName.parse_line (channel : Fin 1000) (name : StorableName) :
    MemoryName.parse (Command.writeName channel (.storable name)).line = .ok ⟨channel, name.val⟩ := by
  have short : ¬ nameLength < name.val.length := by
    have fits : name.val.length ≤ nameLength :=
      of_decide_eq_true ((Bool.and_eq_true _ _).mp name.property).1
    omega
  have line : (Command.writeName channel (.storable name)).line =
      "MN " ++ (channelDigits channel ++ ','.toString ++ name.val) := by
    simp only [Command.line, lineText, Text.join, SentName.text, String.append_assoc]
    rfl
  have front : Text.startsWith "MN " ("MN " ++ (channelDigits channel ++ ','.toString ++ name.val)) =
      true := by
    simp [Text.startsWith]
  have rest : Text.drop 3 ("MN " ++ (channelDigits channel ++ ','.toString ++ name.val)) =
      channelDigits channel ++ ','.toString ++ name.val := by
    simp [Text.drop, String.append_assoc]
  have parted : Text.cut ',' (channelDigits channel ++ ','.toString ++ name.val) =
      (channelDigits channel, some name.val) := by
    refine Text.cut_append name.val fun comma => ?_
    cases Number.isDigit_of_mem_padded comma
  have read : ∀ reply, number 1000 reply (channelDigits channel) = .ok channel :=
    fun reply => number_padded reply channel (by decide) (by decide)
  rw [line]
  unfold MemoryName.parse
  simp only [front, rest, parted, read, Bool.not_true, Bool.false_eq_true, if_false, Option.getD_some,
    if_neg short]
  rfl

namespace VfoDraft

def values (d : VfoDraft) : List Value :=
  [d.band, d.freq, d.step, d.shift, d.reverse, d.toneOn, d.ctcssOn, d.dcsOn, d.toneIndex,
   d.ctcssIndex, d.dcsIndex, d.offset, d.mode]

theorem check_eq_ok {d : VfoDraft} {r : VfoRecord} :
    d.check = .ok r ↔ d.values.map Value.int? = r.values.map fun n : Nat => some (n : Int) := by
  simp only [check, bind_eq_ok, checked_eq_ok, pure, Except.pure, Except.ok.injEq, values,
    VfoRecord.values, List.map_cons, List.map_nil, List.cons.injEq, and_true]
  constructor
  · rintro ⟨band, h1, _, h2, _, h3, _, h4, _, h5, _, h6, _, h7, _, h8, _, h9, _, h10, _, h11, _, h12,
      _, h13, rfl⟩
    refine ⟨?_, h2, h3, h4, h5, h6, h7, h8, h9, h10, h11, h12, h13⟩
    rw [h1, Band.index_ofIndex]
  · rintro ⟨h1, h2, h3, h4, h5, h6, h7, h8, h9, h10, h11, h12, h13⟩
    refine ⟨_, h1, _, h2, _, h3, _, h4, _, h5, _, h6, _, h7, _, h8, _, h9, _, h10, _, h11, _, h12,
      _, h13, ?_⟩
    rw [Band.ofIndex_index]

end VfoDraft

theorem checkBand_eq_ok {v : Value} {band : Band} :
    checkBand v = .ok band ↔ v.below? 2 = some band.index := by
  unfold checkBand Band.ofValue?
  cases v.below? 2 with
  | none => simp
  | some n =>
      simp only [Option.map_some, Except.ok.injEq, Option.some.injEq]
      constructor
      · rintro rfl
        rw [Band.index_ofIndex]
      · rintro rfl
        rw [Band.ofIndex_index]

theorem checkChannel_eq_ok {v : Value} {n : Fin 1000} :
    checkChannel v = .ok n ↔ v.below? 1000 = some n := by
  unfold checkChannel
  cases v.below? 1000 <;> simp

theorem checkReal_eq_ok {v : Value} : checkReal v = .ok () ↔ v.isReal = true := by
  unfold checkReal
  split
  · rename_i real
    exact ⟨fun _ => real, fun _ => rfl⟩
  · rename_i imaginary
    exact ⟨fun same => (nomatch same), fun real => absurd real imaginary⟩

/-- A value that is checked and has to be real as well. -/
theorem named_eq_ok {α : Type} {check : Except ArgumentFault α} {v : Value} {a : α} :
    (do
      let found ← check
      checkReal v
      return found : Except Fault α) = .ok a ↔ check = .ok a ∧ v.isReal = true := by
  rw [← checkReal_eq_ok]
  refine bind_eq_ok.trans ⟨?_, fun ⟨valid, real⟩ => ⟨a, mapError_eq_ok.mpr valid, bind_eq_ok.mpr
    ⟨_, real, rfl⟩⟩⟩
  rintro ⟨found, valid, later⟩
  obtain ⟨⟨⟩, real, same⟩ := bind_eq_ok.mp later
  obtain rfl := Except.ok.inj same
  exact ⟨mapError_eq_ok.mp valid, real⟩

theorem namedBand_eq_ok {v : Value} {band : Band} :
    namedBand v = .ok band ↔ v.below? 2 = some band.index ∧ v.isReal = true := by
  rw [← checkBand_eq_ok]
  exact named_eq_ok

theorem namedChannel_eq_ok {v : Value} {n : Fin 1000} :
    namedChannel v = .ok n ↔ v.below? 1000 = some n ∧ v.isReal = true := by
  rw [← checkChannel_eq_ok]
  exact named_eq_ok

theorem Tuning.check_eq_ok {v : Value} {tuning : Tuning} :
    Tuning.check v = .ok tuning ↔ v.below? 4 = some tuning.code := by
  unfold Tuning.check
  cases v.below? 4 with
  | none => simp
  | some n =>
      simp only [Except.ok.injEq, Option.some.injEq]
      constructor
      · rintro rfl
        rw [Tuning.code_ofCode]
      · rintro rfl
        rw [Tuning.ofCode_code]

theorem checkName_eq_ok {name : String} {storable : StorableName} :
    checkName name = .ok storable ↔ storable.val = name := by
  unfold checkName
  split
  · constructor
    · rintro ⟨⟩
      rfl
    · rintro rfl
      rfl
  · rename_i unfit
    have other : storable.val ≠ name := fun same => unfit (same ▸ storable.property)
    split <;> simp [other]

theorem Row.ofValues?_eq_some {labels : List String} {values : List Value} {row : Row} :
    Row.ofValues? labels values = some row ↔
      labels.length = values.length ∧ row = ⟨labels.zip values⟩ := by
  unfold Row.ofValues?
  split
  · rename_i paired
    simp [paired, eq_comm]
  · rename_i unpaired
    simp [unpaired]

theorem Row.labels_zip {labels : List String} {values : List Value}
    (paired : labels.length = values.length) : Row.labels ⟨labels.zip values⟩ = labels :=
  List.map_fst_zip (Nat.le_of_eq paired)

theorem Row.values_zip {labels : List String} {values : List Value}
    (paired : labels.length = values.length) : Row.values ⟨labels.zip values⟩ = values :=
  List.map_snd_zip (Nat.le_of_eq paired.symm)

theorem exists_pair {values : List Value} (paired : 2 = values.length) :
    ∃ first second, values = [first, second] := by
  match values, paired with
  | [first, second], _ => exact ⟨first, second, rfl⟩

theorem MemoryDraft.exists_ofValues? {values : List Value}
    (paired : MemoryRecord.labels.length = values.length) :
    ∃ d, MemoryDraft.ofValues? values = some d ∧ d.values = values := by
  match values, paired with
  | [_, _, _, _, _, _, _, _, _, _, _, _, _, _, _, _], _ => exact ⟨_, rfl, rfl⟩

theorem VfoDraft.exists_ofValues? {values : List Value}
    (paired : VfoRecord.labels.length = values.length) :
    ∃ d, VfoDraft.ofValues? values = some d ∧ d.values = values := by
  match values, paired with
  | [_, _, _, _, _, _, _, _, _, _, _, _, _], _ => exact ⟨_, rfl, rfl⟩

namespace RecordKind

theorem writingMemory_eq_ok {values : List Value} {command : Command}
    (paired : MemoryRecord.labels.length = values.length) :
    writingMemory ⟨MemoryRecord.labels.zip values⟩ = .ok command ↔
      ∃ record : MemoryRecord, Command.writeMemory record = command ∧
        values.map Value.int? = record.values.map fun n : Nat => some (n : Int) := by
  obtain ⟨d, drafted, rfl⟩ := MemoryDraft.exists_ofValues? paired
  unfold writingMemory
  rw [Row.labels_zip paired, Row.values_zip paired, if_pos rfl, drafted]
  simp only [mapError_eq_ok, map_eq_ok, MemoryDraft.check_eq_ok, and_comm]

theorem writingVfo_eq_ok {values : List Value} {command : Command}
    (paired : VfoRecord.labels.length = values.length) :
    writingVfo ⟨VfoRecord.labels.zip values⟩ = .ok command ↔
      ∃ record : VfoRecord, Command.writeVfo record = command ∧
        values.map Value.int? = record.values.map fun n : Nat => some (n : Int) := by
  obtain ⟨d, drafted, rfl⟩ := VfoDraft.exists_ofValues? paired
  unfold writingVfo
  rw [Row.labels_zip paired, Row.values_zip paired, if_pos rfl, drafted]
  simp only [mapError_eq_ok, map_eq_ok, VfoDraft.check_eq_ok, and_comm]

/-- Two checks, one after the other, and what is made of both values, which have to be real. -/
theorem pair_eq_ok {α β γ : Type} {first : Except Fault α} {second : Except Fault β} {v w : Value}
    {make : α → β → γ} {result : γ} :
    (do
      let a ← first
      let b ← second
      checkReal v
      checkReal w
      return make a b) = .ok result ↔
    (checkReal v = .ok () ∧ checkReal w = .ok ()) ∧
      ∃ a b, make a b = result ∧ first = .ok a ∧ second = .ok b := by
  simp only [bind_eq_ok, pure, Except.pure, Except.ok.injEq]
  constructor
  · rintro ⟨a, here, b, there, _, real, _, real', same⟩
    exact ⟨⟨real, real'⟩, a, b, same, here, there⟩
  · rintro ⟨⟨real, real'⟩, a, b, same, here, there⟩
    exact ⟨a, here, b, there, _, real, _, real', same⟩

theorem writing_control_eq_ok {control transmit : Value} {command : Command} :
    writing .control ⟨(labels .control).zip [control, transmit]⟩ = .ok command ↔
      (checkReal control = .ok () ∧ checkReal transmit = .ok ()) ∧
      ∃ band band' : Band, Command.writeControl ⟨band, band'⟩ = command ∧
        control.below? 2 = some band.index ∧ transmit.below? 2 = some band'.index := by
  refine pair_eq_ok.trans ?_
  simp only [liftM, monadLift, MonadLift.monadLift, mapError_eq_ok, checkBand_eq_ok]

theorem writing_tuning_eq_ok {band tuning : Value} {command : Command} :
    writing .tuning ⟨(labels .tuning).zip [band, tuning]⟩ = .ok command ↔
      (checkReal band = .ok () ∧ checkReal tuning = .ok ()) ∧
      ∃ (band' : Band) (tuning' : Tuning), Command.writeTuning ⟨band', tuning'⟩ = command ∧
        band.below? 2 = some band'.index ∧ tuning.below? 4 = some tuning'.code := by
  refine pair_eq_ok.trans ?_
  simp only [liftM, monadLift, MonadLift.monadLift, mapError_eq_ok, checkBand_eq_ok,
    Tuning.check_eq_ok]

theorem writing_selection_eq_ok {band channel : Value} {command : Command} :
    writing .selection ⟨(labels .selection).zip [band, channel]⟩ = .ok command ↔
      (checkReal band = .ok () ∧ checkReal channel = .ok ()) ∧
      ∃ (band' : Band) (number : Fin 1000), Command.writeSelection ⟨band', number⟩ = command ∧
        band.below? 2 = some band'.index ∧ channel.below? 1000 = some number := by
  refine pair_eq_ok.trans ?_
  simp only [liftM, monadLift, MonadLift.monadLift, mapError_eq_ok, checkBand_eq_ok,
    checkChannel_eq_ok]

theorem of_writing_name {channel : Value} {name : String} {command : Command}
    (written : writing .name ⟨(labels .name).zip [channel, .text name]⟩ = .ok command) :
    ∃ (number : Fin 1000) (storable : StorableName),
      Command.writeName number (.storable storable) = command ∧
      channel.below? 1000 = some number ∧ storable.val = name := by
  obtain ⟨_, ⟨⟩, written⟩ := bind_eq_ok.mp written
  obtain ⟨number, first, written⟩ := bind_eq_ok.mp written
  obtain ⟨_, ⟨⟩, written⟩ := bind_eq_ok.mp written
  obtain ⟨sent, second, written⟩ := bind_eq_ok.mp written
  obtain ⟨storable, accepted, rfl⟩ := map_eq_ok.mp (mapError_eq_ok.mp second)
  obtain ⟨_, -, written⟩ := bind_eq_ok.mp written
  cases written
  exact ⟨number, storable, rfl, checkChannel_eq_ok.mp (mapError_eq_ok.mp first),
    checkName_eq_ok.mp accepted⟩

/-- The line that the record of a reply is written as. -/
def normal (kind : RecordKind) (reply : String) : Except Fault String := do
  let record ← kind.parse reply
  let command ← record.writing
  return command.line

theorem kind_of_parse {kind : RecordKind} {reply : String} {record : AnyRecord}
    (h : kind.parse reply = .ok record) : record.kind = kind := by
  cases kind <;> obtain ⟨_, -, rfl⟩ := functor_map_eq_ok.mp h <;> rfl

theorem normal_of_parse {kind : RecordKind} {reply : String} {record : AnyRecord} {command : Command}
    (parsed : kind.parse reply = .ok record) (written : record.writing = .ok command) :
    kind.normal reply = .ok command.line := by
  unfold normal
  exact bind_eq_ok.mpr ⟨record, parsed, bind_eq_ok.mpr ⟨command, written, rfl⟩⟩

/-- Values that are accepted for a record are read back from its line. -/
theorem parse_written {kind : RecordKind} {values : List Value} {row : Row} {command : Command}
    (listed : kind.row? values = some row)
    (texts : kind = .name → ∃ channel name, values = [channel, .text name])
    (written : kind.writing row = .ok command) :
    ∃ record, kind.parse command.line = .ok record ∧
      Value.sameItems record.values values = true := by
  obtain ⟨paired, rfl⟩ := Row.ofValues?_eq_some.mp listed
  cases kind with
  | memory =>
      obtain ⟨record, rfl, integers⟩ := (writingMemory_eq_ok paired).mp written
      exact ⟨.memory record, functor_map_eq_ok.mpr ⟨record, record.parse_line, rfl⟩,
        Value.sameItems_of_ints integers⟩
  | vfo =>
      obtain ⟨record, rfl, integers⟩ := (writingVfo_eq_ok paired).mp written
      exact ⟨.vfo record, functor_map_eq_ok.mpr ⟨record, record.parse_line, rfl⟩,
        Value.sameItems_of_ints integers⟩
  | control =>
      obtain ⟨control, transmit, rfl⟩ := exists_pair paired
      obtain ⟨-, _, _, rfl, first, second⟩ := writing_control_eq_ok.mp written
      refine ⟨_, functor_map_eq_ok.mpr ⟨_, BandControl.parse_line _, rfl⟩, ?_⟩
      simp [AnyRecord.values, BandControl.values, Value.sameItems, Value.same_of_below? first,
        Value.same_of_below? second]
  | tuning =>
      obtain ⟨band, tuning, rfl⟩ := exists_pair paired
      obtain ⟨-, _, _, rfl, first, second⟩ := writing_tuning_eq_ok.mp written
      refine ⟨_, functor_map_eq_ok.mpr ⟨_, BandTuning.parse_line _, rfl⟩, ?_⟩
      simp [AnyRecord.values, BandTuning.values, Value.sameItems, Value.same_of_below? first,
        Value.same_of_below? second]
  | selection =>
      obtain ⟨band, channel, rfl⟩ := exists_pair paired
      obtain ⟨-, _, _, rfl, first, second⟩ := writing_selection_eq_ok.mp written
      refine ⟨_, functor_map_eq_ok.mpr ⟨_, MemorySelection.parse_line _, rfl⟩, ?_⟩
      simp [AnyRecord.values, MemorySelection.values, Value.sameItems, Value.same_of_below? first,
        Value.same_of_below? second]
  | name =>
      obtain ⟨channel, name, rfl⟩ := texts rfl
      obtain ⟨number, storable, rfl, first, rfl⟩ := of_writing_name written
      refine ⟨.name ⟨number, storable.val⟩, functor_map_eq_ok.mpr ⟨_, MemoryName.parse_line _ _, rfl⟩, ?_⟩
      simp [AnyRecord.values, Value.sameItems, Value.same_of_below? first, Value.same]
  | busy => cases written

/-- A record that is read is also accepted, and read back from its own line. -/
theorem parse_of_parse {kind : RecordKind} {reply : String} {record : AnyRecord}
    (written : kind ≠ .name ∧ kind ≠ .busy) (parsed : kind.parse reply = .ok record) :
    ∃ command, record.writing = .ok command ∧ kind.parse command.line = .ok record := by
  obtain rfl := kind_of_parse parsed
  -- What was read is in range, so that the same checks accept it.
  cases record with
  | memory record =>
      exact ⟨.writeMemory record, (writingMemory_eq_ok rfl).mpr ⟨record, rfl, Value.int?_ofNat _⟩,
        functor_map_eq_ok.mpr ⟨record, record.parse_line, rfl⟩⟩
  | vfo record =>
      exact ⟨.writeVfo record, (writingVfo_eq_ok rfl).mpr ⟨record, rfl, Value.int?_ofNat _⟩,
        functor_map_eq_ok.mpr ⟨record, record.parse_line, rfl⟩⟩
  | control record =>
      exact ⟨.writeControl record,
        writing_control_eq_ok.mpr
          ⟨⟨rfl, rfl⟩, _, _, rfl, Value.below?_ofNat _, Value.below?_ofNat _⟩,
        functor_map_eq_ok.mpr ⟨record, record.parse_line, rfl⟩⟩
  | tuning record =>
      exact ⟨.writeTuning record,
        writing_tuning_eq_ok.mpr
          ⟨⟨rfl, rfl⟩, _, _, rfl, Value.below?_ofNat _, Value.below?_ofNat _⟩,
        functor_map_eq_ok.mpr ⟨record, record.parse_line, rfl⟩⟩
  | selection record =>
      exact ⟨.writeSelection record,
        writing_selection_eq_ok.mpr
          ⟨⟨rfl, rfl⟩, _, _, rfl, Value.below?_ofNat _, Value.below?_ofNat _⟩,
        functor_map_eq_ok.mpr ⟨record, record.parse_line, rfl⟩⟩
  | name record => cases written.1 rfl
  | busy record => cases written.2 rfl

/-- Reading undoes writing: a line that is written is read with the values that it was written from,
and a reply that is read has a line of its own, which is read as the same record and is its own
line. -/
theorem reading_undoes_writing (kind : RecordKind) :
    (∀ values row command, kind.row? values = some row →
      (kind = .name → ∃ channel name, values = [channel, .text name]) →
      kind.writing row = .ok command →
      ∃ record, kind.parse command.line = .ok record ∧
        Value.sameItems record.values values = true) ∧
    (kind ≠ .name ∧ kind ≠ .busy → ∀ reply record, kind.parse reply = .ok record →
      ∃ line, kind.normal reply = .ok line ∧ kind.parse line = .ok record ∧
        kind.normal line = .ok line) := by
  refine ⟨fun values row command => parse_written, fun both reply record parsed => ?_⟩
  obtain ⟨command, written, again⟩ := parse_of_parse both parsed
  exact ⟨command.line, normal_of_parse parsed written, again, normal_of_parse again written⟩

theorem reading_undoes_writing_selection :
    (∃ record, RecordKind.selection.parse "MR 1,007" = .ok record ∧
      Value.sameItems record.values [.bool true, .int 7] = true) ∧
    ∃ line, RecordKind.selection.normal "MR 01,00007" = .ok line ∧
      RecordKind.selection.parse line = .ok (.selection ⟨.b, ⟨7, by decide⟩⟩) ∧
      RecordKind.selection.normal line = .ok line := by
  have read : RecordKind.selection.parse "MR 01,00007" =
      .ok (.selection ⟨.b, ⟨7, by decide⟩⟩) := by rfl
  have written : writing .selection ⟨[("band", .bool true), ("channel", .int 7)]⟩ =
      .ok (.writeSelection ⟨.b, ⟨7, by decide⟩⟩) := by rfl
  have line : Command.line (.writeSelection ⟨.b, ⟨7, by decide⟩⟩) = "MR 1,007" := by rfl
  have back := (reading_undoes_writing .selection).1 [.bool true, .int 7] _ _ rfl nofun written
  rw [line] at back
  exact ⟨back, (reading_undoes_writing .selection).2 ⟨nofun, nofun⟩ _ _ read⟩

end RecordKind

end Transceiver
