import Transceiver.Proofs.Storing

/-! Copying a memory. A channel that is read from one memory and stored under another number is the
record that it was read from, except that the place of a tone that is off is forgotten. -/
namespace Transceiver

open Record Simulation Dialogue

theorem Mode.code_ofCode (n : Fin 3) : (Mode.ofCode n).code = n := by
  revert n
  decide

theorem Shift.code_of_ofRecord {record : MemoryRecord} {shift : Shift}
    (h : Shift.ofRecord record = .ok shift) : shift.code = record.shift := by
  unfold Shift.ofRecord at h
  cases found : Shift.ofCode? record.shift with
  | none =>
      rw [found] at h
      cases h
  | some known =>
      rw [found] at h
      cases h
      have same : (shift.code == record.shift) = true :=
        List.find?_some (p := fun s : Shift => s.code == record.shift) found
      exact beq_iff_eq.mp same

theorem Shift.exists_ofRecord {record : MemoryRecord} (meant : record.shift.val ≤ 2) :
    ∃ shift, Shift.ofRecord record = .ok shift := by
  have known : ∀ code : Fin 10, code.val ≤ 2 → (Shift.ofCode? code).isSome = true := by decide
  obtain ⟨shift, found⟩ := Option.isSome_iff_exists.mp (known record.shift meant)
  refine ⟨shift, ?_⟩
  rw [Shift.ofRecord, found]

theorem toneIndex?_get (i : Fin 42) : toneIndex? (.float (tones.get i)) = some i := by
  revert i
  decide +kernel

theorem dcsIndex?_get (i : Fin 104) : dcsIndex? (.ofNat (dcsCodes.get i)) = some i := by
  revert i
  decide +kernel

theorem stepIndex?_get (i : Fin 11) : stepIndex? (.float (tuningSteps.get i)) = some i := by
  revert i
  decide +kernel

namespace MemoryRecord

/-- The place of a tone, or the first one where the tone is off. -/
def placeIfOn {n : Nat} (flag : Fin 2) (place : Fin (n + 1)) : Fin (n + 1) :=
  if isOn flag then place else lowest n.succ_pos

/-- The record for another channel, without the places of tones that are off. -/
def copiedTo (r : MemoryRecord) (channel : Fin 1000) : MemoryRecord :=
  { r with
    channel
    toneIndex := placeIfOn r.toneOn r.toneIndex
    ctcssIndex := placeIfOn r.ctcssOn r.ctcssIndex
    dcsIndex := placeIfOn r.dcsOn r.dcsIndex }

end MemoryRecord

namespace Channel

theorem recalled_store_number (number other : Value) (record : MemoryRecord) (shift : Shift)
    (name : String) :
    (recalled number record shift name).store .number other = recalled other record shift name := by
  have values : ((recalled number record shift name).store .number other).value =
      (recalled other record shift name).value := by
    funext a
    cases a <;> rfl
  exact congrArg (Channel.mk · []) values

/-- A channel does not show the places of tones that are off. -/
theorem recalled_copiedTo (number : Value) (record : MemoryRecord) (channel : Fin 1000) (shift : Shift)
    (name : String) :
    recalled number (record.copiedTo channel) shift name = recalled number record shift name := by
  have values : ∀ a, recordValue (record.copiedTo channel) shift a = recordValue record shift a := by
    have same : ∀ {n : Nat} (flag : Fin 2) (place : Fin (n + 1)) (shown : Fin (n + 1) → Value),
        (if isOn flag then some (shown (MemoryRecord.placeIfOn flag place)) else none) =
          if isOn flag then some (shown place) else none := by
      intro n flag place shown
      unfold MemoryRecord.placeIfOn
      cases isOn flag <;> rfl
    intro a
    cases a with
    | tone => exact same record.toneOn record.toneIndex fun i => .float (tones.get i)
    | squelchTone => exact same record.ctcssOn record.ctcssIndex fun i => .float (tones.get i)
    | dcsCode => exact same record.dcsOn record.dcsIndex fun i => .ofNat (dcsCodes.get i)
    | _ => rfl
  unfold recalled withRecord
  simp only [values]

/-- What a tone reads as where it is on, and where it is off. -/
theorem placeInUse_recalled {n : Nat} {place? : Value → Option (Fin (n + 1))} (flag : Fin 2)
    (place : Fin (n + 1)) {shown : Fin (n + 1) → Value} (found : ∀ i, place? (shown i) = some i)
    (yes : ∀ i, (shown i).truth = true) :
    placeInUse place? ((if isOn flag then some (shown place) else none).getD (.int 0)) =
      .ok (MemoryRecord.placeIfOn flag place) := by
  unfold MemoryRecord.placeIfOn
  rw [placeInUse_eq_ok]
  cases isOn flag with
  | true =>
      have counts : ((if true then some (shown place) else none).getD (.int 0)).truth = true := yes place
      rw [if_pos counts]
      exact found place
  | false => exact if_neg (by decide)

theorem truth_recalled (flag : Fin 2) {shown : Value} (yes : shown.truth = true) :
    ((if isOn flag then some shown else none).getD (.int 0)).truth = isOn flag := by
  cases isOn flag with
  | true => exact yes
  | false => rfl

/-- The flags of a record that has at most one tone on are those of the tone in use. -/
theorem toneInUse_recalled {record : MemoryRecord} (single : record.Exclusive) (number : Value)
    (shift : Shift) (name : String) :
    isOn record.toneOn = decide ((recalled number record shift name).toneInUse = some .tone) ∧
      isOn record.ctcssOn =
        decide ((recalled number record shift name).toneInUse = some .squelchTone) ∧
      isOn record.dcsOn = decide ((recalled number record shift name).toneInUse = some .dcsCode) := by
  have first : ((recalled number record shift name).value .tone).truth = isOn record.toneOn :=
    truth_recalled _ (tones_truth _)
  have second : ((recalled number record shift name).value .squelchTone).truth = isOn record.ctcssOn :=
    truth_recalled _ (tones_truth _)
  have third : ((recalled number record shift name).value .dcsCode).truth = isOn record.dcsOn :=
    truth_recalled _ (dcsCodes_truth _)
  simp only [toneInUse, toneSources, List.find?_cons, List.find?_nil, first, second, third]
  unfold MemoryRecord.Exclusive at single
  clear first second third
  generalize record.toneOn = tone at single ⊢
  generalize record.ctcssOn = squelch at single ⊢
  generalize record.dcsOn = code at single ⊢
  revert tone squelch code
  decide

/-- A channel that was read from a record with at most one tone on is stored as that record again. -/
theorem recalled_storedAs {record : MemoryRecord} {shift : Shift}
    (shifted : Shift.ofRecord record = .ok shift) (single : record.Exclusive) (channel : Fin 1000)
    (name : String) :
    (recalled (.ofNat channel) record shift name).StoredAs (record.copiedTo channel) := by
  obtain ⟨toneOn, ctcssOn, dcsOn⟩ := toneInUse_recalled single (.ofNat channel) shift name
  constructor
  case number => rfl
  case freq => rfl
  case offset => rfl
  case txFreq => rfl
  case txStep => rfl
  case step => exact placeOf_eq_ok.mpr (stepIndex?_get record.step)
  case mode =>
    refine codeOf_eq_ok.mpr ?_
    have coded : (Mode.ofName? (Mode.ofRecord record).name).map Mode.code = some record.mode := by
      rw [Mode.ofName?_name, Option.map_some, Mode.ofRecord, Mode.code_ofCode]
    exact coded
  case shift =>
    refine codeOf_eq_ok.mpr ?_
    have coded : (Shift.ofName? shift.name).map Shift.code = some record.shift := by
      rw [Shift.ofName?_name, Option.map_some, Shift.code_of_ofRecord shifted]
    exact coded
  case reverse =>
    have turned : ∀ flag : Fin 2, (Value.bool (isOn flag)).below? 2 = some flag := by decide +kernel
    exact flagValue_of_below? (turned record.reverse) rfl
  case toneIndex => exact placeInUse_recalled record.toneOn record.toneIndex toneIndex?_get tones_truth
  case ctcssIndex =>
    exact placeInUse_recalled record.ctcssOn record.ctcssIndex toneIndex?_get tones_truth
  case dcsIndex => exact placeInUse_recalled record.dcsOn record.dcsIndex dcsIndex?_get dcsCodes_truth
  case toneOn => exact toneOn
  case ctcssOn => exact ctcssOn
  case dcsOn => exact dcsOn
  case lockout =>
    have locked : ∀ flag : Fin 2,
        isOn flag = (Value.text (if isOn flag then "L" else "")).same (.text "L") := by decide
    exact locked record.lockout

end Channel

namespace Rig

/-- A channel that was read, with another number: stored as the record that it was read from. -/
theorem speaks_setChannel_recalled (r : Rig) (radio : Radio) {record : MemoryRecord} {shift : Shift}
    (shifted : Shift.ofRecord record = .ok shift) (single : record.Exclusive) {target : Fin 1000}
    (free : ∀ band : Band, target ≠ band.channel) (name : StorableName) :
    (r.perform (.setChannel (Channel.recalled (.ofNat target) record shift name.val))).Speaks radio
      [.writeMemory (record.copiedTo target), .writeName target (.storable name)] (.ok (.nothing, r))
      (radio.enter (record.copiedTo target) name.val) := by
  have unreserved : Unreserved (.ofNat target) target := by
    refine ⟨rfl, fun first => free .a (Fin.ext first), fun second => free .b (Fin.ext second)⟩
  exact r.speaks_setChannel radio unreserved (Channel.recalled_storedAs shifted single target name.val)
    rfl

/-- Reading a channel, numbering it anew and storing it copies a memory: the record for the new channel
is the old one without the places of tones that are off. The channel that is then read is the one that
was stored, and the memory that was copied stays what it was. -/
theorem copy_then_find {link : Link} (patient : 0 ≤ link.patience) (r : Rig) {s : Bench}
    (quiet : s.Quiet) {source target : Fin 1000} (free : ∀ band : Band, target ≠ band.channel)
    {payload : String} (held : s.radio.memories.get? source.val = some payload)
    {record : MemoryRecord} (known : ownRecord source ("ME " ++ payload) = .ok record)
    (meant : record.shift.val ≤ 2) (single : record.Exclusive)
    (named : isName ((s.radio.names.get? source.val).getD "") = true) :
    ∃ (found copy : Channel) (name : StorableName) (radio : Radio),
      r.Achieves link (.channel (.ofNat source)) s [.readMemory source, .readName source]
        (.channel found) r s.radio ∧
      found.assign .number (.ofNat target) = .ok copy ∧
      (∀ t : Bench, t.Quiet → t.radio = s.radio →
        r.Achieves link (.setChannel copy) t
          [.writeMemory (record.copiedTo target), .writeName target (.storable name)] .nothing r radio) ∧
      radio.memories.get? target.val = some (record.copiedTo target).payload ∧
      (∀ t : Bench, t.Quiet → t.radio = radio →
        r.Achieves link (.channel (.ofNat target)) t [.readMemory target, .readName target]
          (.channel copy) r radio) ∧
      (target ≠ source →
        radio.memories.get? source.val = some payload ∧
        radio.names.get? source.val = s.radio.names.get? source.val) := by
  obtain ⟨shift, shifted⟩ := Shift.exists_ofRecord meant
  obtain ⟨name, trimmed⟩ : ∃ name : StorableName,
      name.val = Text.trimEnd ((s.radio.names.get? source.val).getD "") :=
    ⟨⟨_, isName_trimEnd named⟩, rfl⟩
  have renamed : Text.trimEnd name.val = name.val := by
    rw [trimmed, Text.trimEnd_trimEnd]
  have told : (readName source).Speaks s.radio [.readName source] (.ok ⟨source, name.val⟩) s.radio :=
    trimmed ▸ Radio.speaks_readName rfl named
  refine ⟨Channel.recalled (.ofNat source) record shift name.val,
    Channel.recalled (.ofNat target) record shift name.val, name,
    s.radio.enter (record.copiedTo target) name.val, ?_, ?_, ?_, ?_, ?_, ?_⟩
  · have read := Radio.speaks_readMemory (Radio.talks_readChannel held known)
    exact achieves_of_speaks patient quiet (r.speaks_getChannel read shifted told name.property)
  · rw [← Channel.recalled_store_number (.ofNat source) (.ofNat target)]
    exact Channel.assign_number target
  · intro t calm same
    refine achieves_of_speaks patient calm ?_
    rw [same]
    exact r.speaks_setChannel_recalled s.radio shifted single free name
  · exact Table.get?_put_self _ _ _
  · intro t calm same
    refine achieves_of_speaks patient calm ?_
    rw [same, ← Channel.recalled_copiedTo _ record target]
    have stored := s.radio.speaks_readMemory_enter (record.copiedTo target) name.val
    have labelled := s.radio.speaks_readName_enter (record.copiedTo target) name.property
    rw [renamed] at labelled
    exact r.speaks_getChannel stored shifted labelled name.property
  · intro other
    have apart : ¬ (target.val : Int) = source.val := fun same => other (Fin.ext (Int.ofNat_inj.mp same))
    constructor
    · exact (Table.get?_put _ _ _ _).trans ((if_neg apart).trans held)
    · exact (Table.get?_put _ _ _ _).trans (if_neg apart)

theorem copy_then_find_coded :
    ∃ (record : MemoryRecord) (found copy : Channel) (radio : Radio),
      record.dcsOn = 1 ∧ record.toneIndex = 8 ∧ (record.copiedTo 11).toneIndex = 0 ∧
      (closed .warn).opened.Achieves ⟨8, 3, 3⟩ (.channel (.int 10))
        (Bench.ofRadio (Radio.initial.enter record "HOME")) [.readMemory 10, .readName 10]
        (.channel found) (closed .warn).opened (Radio.initial.enter record "HOME") ∧
      found.assign .number (.int 11) = .ok copy ∧
      radio.memories.get? 11 = some (record.copiedTo 11).payload ∧
      (closed .warn).opened.Achieves ⟨8, 3, 3⟩ (.channel (.int 11)) (Bench.ofRadio radio)
        [.readMemory 11, .readName 11] (.channel copy) (closed .warn).opened radio := by
  obtain ⟨record, own, shift, single, code, place, cleared⟩ : ∃ record : MemoryRecord,
      record.channel = 10 ∧ record.shift.val ≤ 2 ∧ record.Exclusive ∧ record.dcsOn = 1 ∧
        record.toneIndex = 8 ∧ (record.copiedTo 11).toneIndex = 0 :=
    ⟨{ MemoryRecord.empty 10 with dcsOn := 1, dcsIndex := 5, toneIndex := 8, shift := 1 }, by decide⟩
  have patient : 0 ≤ (⟨8, 3, 3⟩ : Link).patience := by decide
  have free : ∀ band : Band, (11 : Fin 1000) ≠ band.channel := by
    intro band
    cases band <;> decide
  have held : (Radio.initial.enter record "HOME").memories.get? (10 : Fin 1000).val =
      some record.payload := by
    rw [← own]
    exact Table.get?_put_self _ _ _
  have named : (Radio.initial.enter record "HOME").names.get? (10 : Fin 1000).val = some "HOME" := by
    rw [← own]
    exact Table.get?_put_self _ _ _
  have valid : isName (((Radio.initial.enter record "HOME").names.get? (10 : Fin 1000).val).getD "") =
      true := by
    rw [named]
    decide
  obtain ⟨found, copy, name, radio, told, numbered, -, stored, read, -⟩ :=
    copy_then_find patient (closed .warn).opened
      (Bench.quiet_ofRadio (Radio.initial.enter record "HOME")) free held
      (ownRecord_eq_ok.mpr ⟨record.parse_payload, own⟩) shift single valid
  exact ⟨record, found, copy, radio, code, place, cleared, told, numbered, stored,
    read (Bench.ofRadio radio) (Bench.quiet_ofRadio radio) rfl⟩

end Rig

end Transceiver
