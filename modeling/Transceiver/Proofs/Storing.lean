import Transceiver.Proofs.Recording

/-! Storing channels over a quiet line. A channel is stored in its own memory and under its own name,
and the channel that is found there afterwards is the one that was stored. -/
namespace Transceiver

open Dialogue Record Simulation

namespace Simulation.Radio

/-- The radio with a channel stored: its record, and its name. -/
def enter (r : Radio) (record : MemoryRecord) (name : String) : Radio :=
  (r.keep record).label record.channel name

theorem speaks_readMemory_enter (r : Radio) (record : MemoryRecord) (name : String) :
    (readMemory record.channel).Speaks (r.enter record name) [.readMemory record.channel] (.ok record)
      (r.enter record name) := by
  have held : (r.enter record name).memories.get? record.channel.val = some record.payload :=
    Table.get?_put_self _ _ _
  exact speaks_readMemory (talks_readChannel held (ownRecord_eq_ok.mpr ⟨record.parse_payload, rfl⟩))

theorem speaks_readName_enter (r : Radio) (record : MemoryRecord) {name : String}
    (valid : isName name = true) :
    (readName record.channel).Speaks (r.enter record name) [.readName record.channel]
      (.ok ⟨record.channel, Text.trimEnd name⟩) (r.enter record name) := by
  refine speaks_readName ?_ valid
  have named : (r.enter record name).names.get? record.channel.val = some name :=
    Table.get?_put_self _ _ _
  rw [named]
  rfl

end Simulation.Radio

theorem checkSentName_text (name : StorableName) :
    checkSentName (.text name.val) = .ok (.storable name) := by
  unfold checkSentName
  rw [mapError_eq_ok, map_eq_ok]
  exact ⟨name, checkName_eq_ok.mpr rfl, rfl⟩

theorem Channel.Attribute.exists_name {v : Value} (h : Attribute.name.accepts v = true) :
    ∃ name : StorableName, v = .text name.val := by
  cases v with
  | text s => exact ⟨⟨s, h⟩, rfl⟩
  | _ => cases h

theorem Channel.assign_name_eq (c : Channel) (name : String) :
    c.assign .name (.text name) =
      if isName name then .ok (c.store .name (.text name)) else .error (.value (.text name) "name") := rfl

theorem Channel.assign_name {c : Channel} {name : String} (valid : isName name = true) :
    c.assign .name (.text name) = .ok (c.store .name (.text name)) := by
  rw [assign_name_eq, if_pos valid]

theorem Channel.assign_number {c : Channel} (n : Fin 1000) :
    c.assign .number (.ofNat n) = .ok (c.store .number (.ofNat n)) := by
  have range : Attribute.number.accepts (.ofNat n) = true := by
    have small := n.isLt
    simp only [Attribute.accepts, Attribute.isCount, Value.ofNat, Option.all_some, Bool.and_eq_true,
      decide_eq_true_eq]
    omega
  exact if_pos range

theorem Channel.make_eq (n : Fin 1000) {name : String} (valid : isName name = true) :
    Channel.make (.ofNat n) (.text name) =
      .ok ((blank.store .number (.ofNat n)).store .name (.text name)) := by
  rw [make, assign_number]
  exact assign_name valid

/-- A channel that has a number and a name can be stored. -/
theorem Channel.exists_storedAs_make (n : Fin 1000) {name : String} (valid : isName name = true) :
    ∃ record, ((blank.store .number (.ofNat n)).store .name (.text name)).StoredAs record := by
  have validated : Validated ((blank.store .number (.ofNat n)).store .name (.text name)) := by
    refine ⟨.ofNat n, .text name, [], ?_, fun entry member => absurd member List.not_mem_nil⟩
    rw [build, make_eq n valid]
    rfl
  have none : HasPlace toneIndex? (.int 0) := .inl (by decide)
  exact validated.inOrder.exists_storedAs rfl none none

theorem Channel.StoredAs.channel_eq {c : Channel} {record : MemoryRecord} {number : Fin 1000}
    (h : c.StoredAs record) (numbered : (c.value .number).int? = some (number.val : Int)) :
    record.channel = number := by
  have same : (record.channel.val : Int) = number.val := by
    rw [← Option.some_inj, ← h.number, numbered]
  exact Fin.ext (Int.ofNat_inj.mp same)

theorem Channel.StoredAs.rename {c : Channel} {record : MemoryRecord} (h : c.StoredAs record) (v : Value) :
    (c.store .name v).StoredAs record :=
  ⟨h.number, h.freq, h.offset, h.txFreq, h.txStep, h.step, h.mode, h.shift, h.reverse, h.toneIndex,
    h.ctcssIndex, h.dcsIndex, h.toneOn, h.ctcssOn, h.dcsOn, h.lockout⟩

namespace Rig

/-- Whatever is sent to store a channel, its number, its values and its name were accepted before. -/
theorem asks_setChannel_accepted (c : Channel) :
    (setChannel c).Asks (fun command => ∃ number record name, Unreserved (c.value .number) number ∧
      c.StoredAs record ∧ checkSentName (c.value .name) = .ok name ∧
      (command = .writeMemory record ∨ command = .writeName number name)) fun _ => True := by
  refine Asks.bind (Asks.ofExcept fun number free => free) fun number free => ?_
  have unreserved := checkUnreserved_eq_ok.mp (mapError_eq_ok.mp free)
  refine Asks.bind (Asks.ofExcept fun draft drafted => drafted) fun draft drafted => ?_
  refine Asks.bind (Asks.ofExcept fun name fits => fits) fun name named => ?_
  refine Asks.bind (Asks.ofExcept fun record fits => fits) fun record fits => ?_
  have stored : c.StoredAs record :=
    Channel.storedAs_iff.mp ⟨draft, drafted, mapError_eq_ok.mp fits⟩
  refine Asks.seq (Asks.discard (asks_parsed ?_)) fun _ => ?_
  · exact ⟨number, record, name, unreserved, stored, named, .inl rfl⟩
  · refine Asks.bind (Asks.ofExcept fun sent same => SentName.of_written same) fun sent same => ?_
    rw [same]
    exact Asks.discard (asks_parsed ⟨number, record, name, unreserved, stored, named, .inr rfl⟩)

/-- Of a channel whose number, values and name are accepted, the record and the name are stored. -/
theorem setChannel_eq {c : Channel} {number : Fin 1000} {record : MemoryRecord} {name : SentName}
    (free : Unreserved (c.value .number) number) (stored : c.StoredAs record)
    (named : checkSentName (c.value .name) = .ok name) :
    setChannel c = discard (writeMemory record) >>= fun _ =>
      Dialogue.ofExcept name.written >>= fun sent => discard (writeName number sent) := by
  obtain ⟨draft, drafted, fits⟩ := Channel.storedAs_iff.mpr stored
  refine (Dialogue.settled_eq (mapError_eq_ok.mpr (checkUnreserved_eq_ok.mpr free))).trans ?_
  refine (Dialogue.settled_eq drafted).trans ?_
  refine (Dialogue.settled_eq named).trans ?_
  exact Dialogue.settled_eq (mapError_eq_ok.mpr fits)

theorem perform_setChannel_eq (r : Rig) {c : Channel} {number : Fin 1000} {record : MemoryRecord}
    {name : SentName} (free : Unreserved (c.value .number) number) (stored : c.StoredAs record)
    (named : checkSentName (c.value .name) = .ok name) (written : name.written = .ok name) :
    r.perform (.setChannel c) = writeMemory record >>= fun _ =>
      inquiry (.writeName number name) MemoryName.parse >>= fun _ => pure (.nothing, r) := by
  have alone {α β : Type} (d : Dialogue α) (next : Unit → Dialogue β) :
      (discard d >>= next) = d >>= fun _ => next () := LawfulMonad.bind_assoc d _ next
  rw [perform_setChannel, setChannel_eq free stored named, written, LawfulMonad.bind_assoc, alone,
    ← ask_bind_eq]
  exact congrArg _ (funext fun _ => alone (writeName number name) _)

theorem speaks_setChannel (r : Rig) (radio : Radio) {c : Channel} {record : MemoryRecord}
    {name : StorableName} (free : Unreserved (c.value .number) record.channel)
    (stored : c.StoredAs record) (named : c.value .name = .text name.val) :
    (r.perform (.setChannel c)).Speaks radio
      [.writeMemory record, .writeName record.channel (.storable name)] (.ok (.nothing, r))
      (radio.enter record name.val) := by
  have sent : checkSentName (c.value .name) = .ok (.storable name) := by
    rw [named, checkSentName_text]
  have written : (discard (writeMemory record)).Speaks radio [.writeMemory record] (.ok ())
      (radio.keep record) := Speaks.map (radio.speaks_writeMemory record)
  have labelled : (discard (writeName record.channel (.storable name))).Speaks (radio.keep record)
      [.writeName record.channel (.storable name)] (.ok ()) (radio.enter record name.val) :=
    Speaks.map (Radio.speaks_writeName _ _ name)
  have said : (setChannel c).Speaks radio
      [.writeMemory record, .writeName record.channel (.storable name)] (.ok ())
      (radio.enter record name.val) := by
    rw [setChannel_eq free stored sent]
    exact Speaks.bind written labelled
  rw [perform_setChannel]
  exact Speaks.map said

/-- A channel is made of a record and a name that the radio tells. -/
theorem speaks_getChannel (r : Rig) {radio : Radio} {number : Fin 1000} {record : MemoryRecord}
    {shift : Shift} {name : String}
    (told : (readMemory number).Speaks radio [.readMemory number] (.ok record) radio)
    (shifted : Shift.ofRecord record = .ok shift)
    (named : (readName number).Speaks radio [.readName number] (.ok ⟨number, name⟩) radio)
    (valid : isName name = true) :
    (r.perform (.channel (.ofNat number))).Speaks radio [.readMemory number, .readName number]
      (.ok (.channel (Channel.recalled (.ofNat number) record shift name), r)) radio := by
  have numbered : checkNumber (.ofNat number) = .ok number := checkNumber_eq_ok.mpr rfl
  have said : (getChannel (.ofNat number)).Speaks radio [.readMemory number, .readName number]
      (.ok (Channel.recalled (.ofNat number) record shift name)) radio := by
    refine Speaks.settled (mapError_eq_ok.mpr numbered) ?_
    refine Speaks.bind told ?_
    refine Speaks.settled (mapError_eq_ok.mpr (Channel.make_eq number (by decide))) ?_
    refine Speaks.settled (mapError_eq_ok.mpr shifted) ?_
    refine Speaks.bind named ?_
    rw [Channel.assign_name valid]
    exact .done _ _
  rw [perform_channel]
  exact Speaks.map said

theorem stores_and_finds {link : Link} (patient : 0 ≤ link.patience) (r : Rig) {s : Bench}
    (quiet : s.Quiet) {c : Channel} {number : Fin 1000} {record : MemoryRecord} {name : StorableName}
    {shift : Shift} (free : Unreserved (c.value .number) number) (stored : c.StoredAs record)
    (named : c.value .name = .text name.val) (shifted : Shift.ofRecord record = .ok shift) :
    r.Achieves link (.setChannel c) s [.writeMemory record, .writeName number (.storable name)]
        .nothing r (s.radio.enter record name.val) ∧
      ∀ t : Bench, t.Quiet → t.radio = s.radio.enter record name.val →
        r.Achieves link (.channel (.ofNat number)) t [.readMemory number, .readName number]
          (.channel (.recalled (.ofNat number) record shift (Text.trimEnd name.val))) r
          (s.radio.enter record name.val) := by
  obtain rfl : record.channel = number := stored.channel_eq free.1
  constructor
  · exact achieves_of_speaks patient quiet (r.speaks_setChannel s.radio free stored named)
  · intro t calm left
    refine achieves_of_speaks patient calm ?_
    rw [left]
    exact r.speaks_getChannel (s.radio.speaks_readMemory_enter record name.val) shifted
      (s.radio.speaks_readName_enter record name.property) (isName_trimEnd name.property)

/-- A channel whose reverse flag is a complex number is not stored, and nothing is said to the radio. -/
theorem carryOut_setChannel_unreal {σ : Type} (link : Link) (port : Port σ) (r : Rig) {c : Channel}
    (order : c.InOrder) {number : Fin 1000} (free : Unreserved (c.value .number) number)
    (tone : Channel.HasPlace toneIndex? (c.value .tone))
    (squelchTone : Channel.HasPlace toneIndex? (c.value .squelchTone))
    (unreal : (c.value .reverse).isReal = false) (s : σ) :
    r.carryOut link port (.setChannel c) s = (⟨.error .mistyped, [], s⟩, r) := by
  have unflagged : Channel.flagValue (c.value .reverse) = .error .mistyped := by
    cases turned : c.value .reverse with
    | complex re im => rfl
    | _ =>
        rw [turned] at unreal
        cases unreal
  obtain ⟨codes, coded⟩ := order.exists_codes tone squelchTone
  have undrafted : c.toDraft = .error .mistyped := by
    unfold Channel.toDraft Channel.storableCodes
    rw [coded, unflagged]
    rfl
  have unsaid : r.perform (.setChannel c) = .fail .mistyped := by
    rw [perform_setChannel]
    unfold setChannel
    rw [checkUnreserved_eq_ok.mpr free, undrafted]
    rfl
  rw [carryOut_eq, unsaid]
  rfl

/-- Storing a validated channel whose tones the radio knows takes one record and one name, and leaves
everything else on the radio alone. The channel that is then read has what was stored. Only where the
reverse flag is a complex number, which equals a flag but cannot be made one, the channel is validated
and not stored. -/
theorem store_then_find {link : Link} (patient : 0 ≤ link.patience) (r : Rig) {s : Bench}
    (quiet : s.Quiet) {c : Channel} (validated : c.Validated) {number : Fin 1000}
    (free : Unreserved (c.value .number) number)
    (tone : Channel.HasPlace toneIndex? (c.value .tone))
    (squelchTone : Channel.HasPlace toneIndex? (c.value .squelchTone)) :
    ((c.value .reverse).isReal = true →
      ∃ (record : MemoryRecord) (name : StorableName) (found : Channel),
        record.channel = number ∧ c.value .name = .text name.val ∧
        r.Achieves link (.setChannel c) s [.writeMemory record, .writeName number (.storable name)]
          .nothing r (s.radio.enter record name.val) ∧
        (∀ t : Bench, t.Quiet → t.radio = s.radio.enter record name.val →
          r.Achieves link (.channel (c.value .number)) t [.readMemory number, .readName number]
            (.channel found) r (s.radio.enter record name.val)) ∧
        c.FoundAs found) ∧
    ((c.value .reverse).isReal = false →
      r.carryOut link Bench.port (.setChannel c) s = (⟨.error .mistyped, [], s⟩, r)) := by
  have order := validated.inOrder
  refine ⟨fun real => ?_, fun unreal => ?_⟩
  · obtain ⟨record, stored⟩ := order.exists_storedAs real tone squelchTone
    obtain ⟨shift, shifted, -⟩ := stored.shift_eq
    have given : .ofNat number = c.value .number :=
      Channel.Attribute.int_of_isCount (order.accepted .number) free.1
    obtain ⟨name, named⟩ := Channel.Attribute.exists_name (order.accepted .name)
    obtain ⟨stores, finds⟩ := stores_and_finds patient r quiet free stored named shifted
    rw [given] at finds
    exact ⟨record, name, _, stored.channel_eq free.1, named, stores, finds,
      stored.foundAs order shifted (Text.trimEnd name.val)⟩
  · exact r.carryOut_setChannel_unreal link Bench.port order free tone squelchTone unreal s

theorem store_then_find_toned :
    ∃ c found radio, Channel.build (.int 5) (.text "HOME")
        [("freq", .int 146520000), ("mode", .text "FM"), ("ctcss_tone", .float (.finite 100))]
        [] = .ok c ∧
      (∃ commands, (closed .warn).opened.Achieves ⟨8, 3, 3⟩ (.setChannel c) (Bench.ofRadio .initial)
        commands .nothing (closed .warn).opened radio) ∧
      (closed .warn).opened.Achieves ⟨8, 3, 3⟩ (.channel (.int 5)) (Bench.ofRadio radio)
        [.readMemory 5, .readName 5] (.channel found) (closed .warn).opened radio ∧
      c.FoundAs found := by
  have patient : 0 ≤ (⟨8, 3, 3⟩ : Link).patience := by decide
  have built : Channel.build (.int 5) (.text "HOME")
      [("freq", .int 146520000), ("mode", .text "FM"), ("ctcss_tone", .float (.finite 100))]
      [] = .ok ((((Channel.blank.store .number (.int 5)).store .name (.text "HOME")).store .freq
        (.int 146520000) |>.store .mode (.text "FM")).store .tone (.float (.finite 100))) := rfl
  have free : Unreserved (.int 5) 5 := ⟨rfl, by decide⟩
  have tone : Channel.HasPlace toneIndex? (.float (.finite 100)) := .inr (by decide +kernel)
  have none : Channel.HasPlace toneIndex? (.int 0) := .inl (by decide)
  have validated : Channel.Validated _ := ⟨_, _, _, built, by decide⟩
  obtain ⟨record, name, found, own, -, stored, read, same⟩ :=
    (store_then_find patient (closed .warn).opened (Bench.quiet_ofRadio .initial) validated free tone
      none).1 rfl
  refine ⟨_, found, _, built, ⟨_, stored⟩, read (Bench.ofRadio _) (Bench.quiet_ofRadio _) rfl, same⟩

/-- One and no imaginary part is accepted as a reverse flag, and the channel is not stored. -/
theorem complex_flag_unstored :
    ∃ c : Channel, Channel.build (.int 5) (.text "HOME")
        [("reverse", .complex (.finite 1) (.finite 0))] [] = .ok c ∧
      c.Validated ∧ Unreserved (c.value .number) 5 ∧
      Channel.HasPlace toneIndex? (c.value .tone) ∧ Channel.HasPlace toneIndex? (c.value .squelchTone) ∧
      (Bench.ofRadio .initial).Quiet ∧
      (closed .warn).opened.carryOut ⟨8, 3, 3⟩ Bench.port (.setChannel c) (Bench.ofRadio .initial) =
        (⟨.error .mistyped, [], Bench.ofRadio .initial⟩, (closed .warn).opened) := by
  have built : Channel.build (.int 5) (.text "HOME") [("reverse", .complex (.finite 1) (.finite 0))] [] =
      .ok (((Channel.blank.store .number (.int 5)).store .name (.text "HOME")).store .reverse
        (.complex (.finite 1) (.finite 0))) := by rfl
  have validated : Channel.Validated _ := ⟨_, _, _, built, by decide⟩
  have free : Unreserved (.int 5) 5 := ⟨rfl, by decide⟩
  have none : Channel.HasPlace toneIndex? (.int 0) := .inl (by decide)
  exact ⟨_, built, validated, free, none, none, Bench.quiet_ofRadio _,
    carryOut_setChannel_unreal _ _ _ validated.inOrder free none none rfl _⟩

/-- A name is found without the blanks at its end, so it is found as it was stored exactly if it ends
in no space. -/
theorem store_then_find_name {link : Link} (patient : 0 ≤ link.patience) (r : Rig) {s : Bench}
    (quiet : s.Quiet) {c : Channel} {number : Fin 1000} (free : Unreserved (c.value .number) number)
    {name : String} (named : c.value .name = .text name) (valid : isName name = true)
    {draft : MemoryDraft} {record : MemoryRecord} (drafted : c.toDraft = .ok draft)
    (fits : draft.check = .ok record) :
    ∃ radio found,
      r.Achieves link (.setChannel c) s
        [.writeMemory record, .writeName number (.storable ⟨name, valid⟩)] .nothing r radio ∧
      (∀ t : Bench, t.Quiet → t.radio = radio →
        r.Achieves link (.channel (.ofNat number)) t [.readMemory number, .readName number]
          (.channel found) r radio) ∧
      found.value .name = .text (Text.trimEnd name) ∧
      (found.value .name = .text name ↔ name.toList.getLast? ≠ some ' ') := by
  have stored : c.StoredAs record := Channel.storedAs_iff.mp ⟨draft, drafted, fits⟩
  obtain ⟨shift, shifted, -⟩ := stored.shift_eq
  obtain ⟨storable, rfl⟩ : ∃ storable : StorableName, storable.val = name := ⟨⟨name, valid⟩, rfl⟩
  obtain ⟨stores, finds⟩ := stores_and_finds patient r quiet free stored named shifted
  refine ⟨_, _, stores, finds, rfl, ?_⟩
  rw [← trimEnd_name valid]
  exact ⟨Value.text.inj, congrArg Value.text⟩

theorem store_then_find_name_plain :
    ∃ c radio found, Channel.build (.int 5) (.text " A") [] [] = .ok c ∧
      (∃ commands, (closed .warn).opened.Achieves ⟨8, 3, 3⟩ (.setChannel c) (Bench.ofRadio .initial)
        commands .nothing (closed .warn).opened radio) ∧
      (closed .warn).opened.Achieves ⟨8, 3, 3⟩ (.channel (.int 5)) (Bench.ofRadio radio)
        [.readMemory 5, .readName 5] (.channel found) (closed .warn).opened radio ∧
      found.value .name = .text " A" := by
  have patient : 0 ≤ (⟨8, 3, 3⟩ : Link).patience := by decide
  have free : Unreserved (.int 5) 5 := ⟨rfl, by decide⟩
  have valid : isName " A" = true := by decide
  obtain ⟨record, stored⟩ := Channel.exists_storedAs_make 5 valid
  obtain ⟨draft, drafted, fits⟩ := Channel.storedAs_iff.mpr stored
  obtain ⟨radio, found, stores, finds, -, kept⟩ := store_then_find_name patient (closed .warn).opened
    (Bench.quiet_ofRadio .initial) free rfl valid drafted fits
  exact ⟨_, radio, found, rfl, ⟨_, stores⟩, finds _ (Bench.quiet_ofRadio radio) rfl,
    kept.mpr (by decide)⟩

/-- A space at the end of a name is lost. -/
theorem last_space_lost :
    ∃ c radio found, Channel.build (.int 5) (.text "A ") [] [] = .ok c ∧
      (∃ commands, (closed .warn).opened.Achieves ⟨8, 3, 3⟩ (.setChannel c) (Bench.ofRadio .initial)
        commands .nothing (closed .warn).opened radio) ∧
      (closed .warn).opened.Achieves ⟨8, 3, 3⟩ (.channel (.int 5)) (Bench.ofRadio radio)
        [.readMemory 5, .readName 5] (.channel found) (closed .warn).opened radio ∧
      c.value .name = .text "A " ∧ found.value .name = .text "A" := by
  have patient : 0 ≤ (⟨8, 3, 3⟩ : Link).patience := by decide
  have free : Unreserved (.int 5) 5 := ⟨rfl, by decide⟩
  have valid : isName "A " = true := by decide
  obtain ⟨record, stored⟩ := Channel.exists_storedAs_make 5 valid
  obtain ⟨shift, shifted, -⟩ := stored.shift_eq
  obtain ⟨name, named⟩ : ∃ name : StorableName, Value.text "A " = .text name.val := ⟨⟨"A ", valid⟩, rfl⟩
  have trimmed : Text.trimEnd name.val = "A" := by
    rw [← Value.text.inj named]
    decide
  obtain ⟨stores, finds⟩ := stores_and_finds patient (closed .warn).opened
    (Bench.quiet_ofRadio .initial) free stored named shifted
  refine ⟨_, _, _, rfl, ⟨_, stores⟩, finds _ (Bench.quiet_ofRadio _) rfl, rfl, ?_⟩
  exact congrArg Value.text trimmed

end Rig

end Transceiver
