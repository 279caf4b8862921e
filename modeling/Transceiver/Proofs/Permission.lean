import Transceiver.Proofs.ReadModifyWrite

/-! Which commands a request may send. The table is read off the requests alone: it does not depend
on answers, on the session, or on whether the request succeeds. -/
namespace Transceiver

open Dialogue

/-- A command that changes nothing on the radio. -/
inductive Command.IsQuery : Command → Prop
  | control : IsQuery .readControl
  | memory (channel : Fin 1000) : IsQuery (.readMemory channel)
  | selection (band : Band) : IsQuery (.readSelection band)
  | name (channel : Fin 1000) : IsQuery (.readName channel)
  | busy (band : Band) : IsQuery (.readBusy band)

/-- The value names the VFO of a band; VFO mode alone means the first one. -/
def Selects (vfo : Value) (band : Band) : Prop :=
  vfo = .text band.vfo ∨ (vfo = .text "VFO" ∧ band = .a)

/-- The value is the number of a memory that stands in for no VFO. -/
def Unreserved (v : Value) (number : Fin 1000) : Prop :=
  v.int? = some (number.val : Int) ∧ number.val ≠ 998 ∧ number.val ≠ 999

/-- The commands that a request may send: any may ask, and those that change something on the radio
are named here. -/
inductive Request.May : Request → Command → Prop
  | ask {request command} : command.IsQuery → May request command
  | storeChannel {c number} {record : MemoryRecord} : Unreserved (c.value .number) number →
      record.channel = number → May (.setChannel c) (.writeMemory record)
  | nameChannel {c number name} : Unreserved (c.value .number) number →
      checkSentName (c.value .name) = .ok name → May (.setChannel c) (.writeName number name)
  | tuneVfo {vfo band} : Selects vfo band → May (.selectVfo vfo) (.writeTuning ⟨band, .memory⟩)
  | provisionVfo {vfo band} : Selects vfo band →
      May (.selectVfo vfo) (.writeMemory (.empty band.channel))
  | placeVfo {vfo band} : Selects vfo band →
      May (.selectVfo vfo) (.writeSelection ⟨band, band.channel⟩)
  | controlVfo {vfo band} : Selects vfo band → May (.selectVfo vfo) (.writeControl ⟨band, band⟩)
  | tuneMemory (band) : May (.selectVfo (.text "MEM")) (.writeTuning ⟨band, .memory⟩)
  | controlSplit {on vfo} (band) : May (.setSplit on vfo) (.writeControl ⟨band, band⟩)
  | change {request change vfo} {record : MemoryRecord} : request = Change.request vfo change →
      record.channel = 998 ∨ record.channel = 999 → May request (.writeMemory record)
  | placeMemory {vfo v number} (band) : Unreserved v number →
      May (.setMemory vfo v) (.writeSelection ⟨band, number⟩)
  | transmit {on} : on.truth = true → May (.setTransmit on) .transmit
  | receive {on} : on.truth = false → May (.setTransmit on) .receive
  | fill {number row} (record) : May (.fillMemory number row) (.writeMemory record)

theorem Band.ofChannel?_eq_none {n : Fin 1000} :
    Band.ofChannel? n = none ↔ n.val ≠ 998 ∧ n.val ≠ 999 := by
  simp only [Band.ofChannel?, Band.all, Band.channel, List.find?_eq_none, List.mem_cons,
    List.not_mem_nil, or_false, forall_eq_or_imp, forall_eq, beq_iff_eq, Fin.ext_iff, ne_eq]
  constructor
  · rintro ⟨a, b⟩
    exact ⟨fun same => a same.symm, fun same => b same.symm⟩
  · rintro ⟨a, b⟩
    exact ⟨fun same => a same.symm, fun same => b same.symm⟩

theorem checkNumber_eq_ok {v : Value} {number : Fin 1000} :
    checkNumber v = .ok number ↔ v.int? = some (number.val : Int) := by
  rw [← Value.intBelow?_eq_some]
  unfold checkNumber
  cases v.intBelow? 1000 <;> simp

theorem checkUnreserved_eq_ok {v : Value} {number : Fin 1000} :
    checkUnreserved v = .ok number ↔ Unreserved v number := by
  unfold checkUnreserved Unreserved
  rw [bind_eq_ok, ← Band.ofChannel?_eq_none]
  constructor
  · rintro ⟨n, checked, free⟩
    cases reserved : Band.ofChannel? n with
    | none =>
        rw [reserved] at free
        cases free
        exact ⟨checkNumber_eq_ok.mp checked, reserved⟩
    | some band =>
        rw [reserved] at free
        cases free
  · rintro ⟨value, free⟩
    refine ⟨number, checkNumber_eq_ok.mpr value, ?_⟩
    rw [free]
    rfl

theorem Band.ofVfo?_eq_some {name : String} {band : Band} :
    Band.ofVfo? name = some band ↔ name = band.vfo := by
  constructor
  · intro h
    have found : (band.vfo == name) = true :=
      List.find?_some (p := fun other : Band => other.vfo == name) h
    exact (beq_iff_eq.mp found).symm
  · rintro rfl
    exact Band.ofVfo?_vfo band

namespace Rig.SelectionChoice

theorem ofValue_eq_named {vfo : Value} {band : Band}
    (h : SelectionChoice.ofValue vfo = .ok (.named band)) : Selects vfo band := by
  unfold SelectionChoice.ofValue at h
  split at h
  · split at h
    · cases h
      exact .inr ⟨by congr, rfl⟩
    · split at h
      · cases h
        exact .inl (congrArg Value.text (Band.ofVfo?_eq_some.mp ‹_›))
      · split at h <;> cases h
  · cases h

theorem ofValue_eq_memory {vfo : Value} (h : SelectionChoice.ofValue vfo = .ok .memory) :
    vfo = .text "MEM" := by
  unfold SelectionChoice.ofValue at h
  split at h
  · split at h
    · cases h
    · split at h
      · cases h
      · split at h
        · congr
        · cases h
  · cases h

end Rig.SelectionChoice

namespace Channel

theorem toDraft_channel {c : Channel} {d : MemoryDraft} (h : c.toDraft = .ok d) :
    d.channel = c.value .number := by
  unfold toDraft at h
  obtain ⟨codes, -, h⟩ := bind_eq_ok.mp h
  obtain ⟨reverse, -, h⟩ := bind_eq_ok.mp h
  cases h
  rfl

end Channel

namespace Rig

theorem asks_of_queries {α : Type} {request : Request} {d : Dialogue α} {Yields : α → Prop}
    (h : d.Asks Command.IsQuery Yields) : d.Asks request.May Yields :=
  h.weaken (fun _ query => .ask query) fun _ value => value

theorem asks_readMemory {May : Command → Prop} {channel : Fin 1000}
    (may : May (.readMemory channel)) :
    (readMemory channel).Asks May fun record => record.channel = channel := by
  rw [readMemory_eq]
  refine ⟨may, fun answer => Asks.ofExcept fun record came => ?_⟩
  cases answer with
  | error why => cases came
  | ok reply => exact (ownRecord_eq_ok.mp came).2

theorem asks_selectedVfo : selectedVfo.Asks Command.IsQuery fun _ => True := by
  refine Asks.bind (asks_currentBand .control) fun band _ => ?_
  exact Asks.bind (asks_parsed (.selection band)) fun selection _ => trivial

theorem asks_bandOf (vfo : Value) : (bandOf vfo).Asks Command.IsQuery fun _ => True := by
  refine Asks.bind (Asks.ofExcept fun _ _ => trivial) fun choice _ => ?_
  cases choice with
  | named band => trivial
  | current => exact asks_currentBand .control

theorem asks_transmitChoice (vfo : Value) :
    (transmitChoice vfo).Asks Command.IsQuery fun _ => True := by
  unfold transmitChoice
  cases vfo with
  | null => exact asks_currentBand .control
  | text name =>
      dsimp only
      split
      · exact asks_currentBand .control
      · cases Band.ofVfo? name <;> trivial
  | _ => trivial

theorem asks_readVfoMemory (vfo : Value) :
    (readVfoMemory vfo).Asks Command.IsQuery fun _ => True :=
  Asks.bind (asks_channelOf .control vfo) fun channel _ =>
    (asks_readMemory (.memory channel)).weaken (fun _ may => may) fun _ _ => trivial

theorem asks_changeMemory {May : Command → Prop} {channel : Fin 1000} {u : MemoryUpdate}
    (read : May (.readMemory channel))
    (write : ∀ record : MemoryRecord, record.channel = channel → May (.writeMemory record)) :
    (changeMemory channel u).Asks May fun _ => True := by
  refine Asks.bind (asks_readMemory read) fun old own => ?_
  refine Asks.bind (Asks.ofExcept fun new fits => ?_) fun new own' => asks_parsed (write new own')
  rw [(check_overlay.mp (mapError_eq_ok.mp fits)).1, own]

theorem asks_change (r : Rig) (vfo : Value) (change : Change) :
    (r.perform (change.request vfo)).Asks (change.request vfo).May fun _ => True := by
  rw [Change.perform_request]
  refine Asks.seq (Asks.ofExcept fun _ _ => trivial) fun p => ?_
  refine Asks.seq (Asks.bind (asks_channelOf (.ask .control) p.1) fun channel virtual => ?_)
    fun _ => trivial
  refine Asks.discard (asks_changeMemory (.ask (.memory channel)) fun record own => ?_)
  exact .change rfl (own ▸ virtual)

theorem asks_provision {May : Command → Prop} {channel : Fin 1000}
    (read : May (.readMemory channel)) (write : May (.writeMemory (.empty channel))) :
    (provision channel).Asks May fun _ => True := by
  refine Asks.rescue (Asks.discard ((asks_readMemory read).weaken
    (fun _ may => may) fun _ _ => trivial)) fun why => ?_
  cases why with
  | radio fault =>
      dsimp only
      split
      · refine Asks.seq (Asks.say _ _) fun _ => ?_
        exact Asks.discard (asks_parsed write)
      · trivial
  | _ => trivial

theorem asks_selectBand {vfo : Value} {band : Band} (selects : Selects vfo band) :
    (selectBand band).Asks (Request.selectVfo vfo).May fun _ => True := by
  refine Asks.seq (Asks.discard (asks_parsed (.tuneVfo selects))) fun _ => ?_
  refine Asks.seq (asks_provision (.ask (.memory band.channel)) (.provisionVfo selects)) fun _ => ?_
  refine Asks.seq (Asks.discard (asks_parsed (.placeVfo selects))) fun _ => ?_
  exact Asks.discard (asks_parsed (.controlVfo selects))

theorem asks_selecting (r : Rig) (vfo : Value) :
    (r.selecting vfo).Asks (Request.selectVfo vfo).May fun _ => True := by
  refine Asks.seq (Asks.ofExcept fun _ _ => trivial) fun written => ?_
  refine Asks.seq (Asks.say _ _) fun _ => ?_
  refine Asks.seq (Asks.ofExcept fun _ _ => trivial) fun session => ?_
  refine Asks.bind (Asks.ofExcept fun choice chosen => chosen) fun choice chosen => ?_
  cases choice with
  | named band =>
      exact Asks.seq (asks_selectBand (SelectionChoice.ofValue_eq_named chosen)) fun _ => trivial
  | memory =>
      obtain rfl := SelectionChoice.ofValue_eq_memory chosen
      refine Asks.seq (asks_of_queries (asks_currentBand .control)) fun band => ?_
      exact Asks.seq (Asks.discard (asks_parsed (.tuneMemory band))) fun _ => trivial

theorem asks_splitting (r : Rig) (on transmit : Value) :
    (r.splitting on transmit).Asks (Request.setSplit on transmit).May fun _ => True := by
  refine Asks.seq (Asks.ofExcept fun _ _ => trivial) fun session => ?_
  refine Asks.seq (asks_of_queries (asks_transmitChoice transmit)) fun band => ?_
  refine Asks.seq (Asks.discard (asks_parsed (.controlSplit band))) fun _ => ?_
  split
  · exact Asks.seq (Asks.say _ _) fun _ => trivial
  · trivial

theorem asks_reconciling (r : Rig) : r.reconciling.Asks Command.IsQuery fun _ => True := by
  refine Asks.seq (Asks.ofExcept fun _ _ => trivial) fun session => ?_
  refine Asks.seq (asks_parsed .control) fun control => ?_
  dsimp only
  split
  · trivial
  · refine Asks.seq (Asks.say _ _) fun _ => ?_
    cases r.policy with
    | warn => trivial
    | adopt => exact Asks.seq (Asks.say _ _) fun _ => trivial

theorem asks_setMemory (vfo number : Value) :
    (setMemory vfo number).Asks (Request.setMemory vfo number).May fun _ => True := by
  refine Asks.bind (Asks.ofExcept fun channel free => free) fun channel free => ?_
  have unreserved := checkUnreserved_eq_ok.mp (mapError_eq_ok.mp free)
  refine Asks.seq (asks_of_queries (asks_bandOf vfo)) fun band => ?_
  exact Asks.discard (asks_parsed (.placeMemory band unreserved))

theorem asks_memory (vfo : Value) : (memory vfo).Asks Command.IsQuery fun _ => True := by
  refine Asks.seq (asks_bandOf vfo) fun band => ?_
  exact Asks.seq (asks_parsed (.selection band)) fun _ => trivial

theorem asks_getChannel (number : Value) :
    (getChannel number).Asks Command.IsQuery fun _ => True := by
  refine Asks.seq (Asks.ofExcept fun _ _ => trivial) fun n => ?_
  refine Asks.bind (asks_readMemory (.memory n)) fun record _ => ?_
  refine Asks.seq (Asks.ofExcept fun _ _ => trivial) fun numbered => ?_
  refine Asks.seq (Asks.ofExcept fun _ _ => trivial) fun shift => ?_
  exact Asks.seq (asks_parsed (.name n)) fun _ => Asks.ofExcept fun _ _ => trivial

/-- Both lines of a channel go to the number that the channel has, which is checked before. -/
theorem asks_setChannel (c : Channel) :
    (setChannel c).Asks (Request.setChannel c).May fun _ => True := by
  refine Asks.bind (Asks.ofExcept fun number free => free) fun number free => ?_
  have unreserved := checkUnreserved_eq_ok.mp (mapError_eq_ok.mp free)
  refine Asks.bind (Asks.ofExcept fun draft drafted => drafted) fun draft drafted => ?_
  refine Asks.bind (Asks.ofExcept fun name fits => fits) fun name named => ?_
  refine Asks.bind (Asks.ofExcept fun record fits => fits) fun record fits => ?_
  -- The record holds the number that was checked, as both come from the same value.
  have own : record.channel = number := by
    have same := MemoryDraft.check_eq_ok.mp (mapError_eq_ok.mp fits)
    have held : draft.channel.int? = some (record.channel.val : Int) := (List.cons.inj same).1
    rw [Channel.toDraft_channel drafted, unreserved.1, Option.some.injEq] at held
    omega
  refine Asks.seq (Asks.discard (asks_parsed (.storeChannel unreserved own))) fun _ => ?_
  refine Asks.bind (Asks.ofExcept fun sent same => SentName.of_written same) fun sent same => ?_
  rw [same]
  exact Asks.discard (asks_parsed (.nameChannel unreserved named))

theorem asks_setTransmit (on : Value) :
    (setTransmit on).Asks (Request.setTransmit on).May fun _ => True := by
  unfold setTransmit
  split
  · rename_i keyed
    exact Asks.ask_then (.transmit keyed) fun _ => Asks.ofExcept fun _ _ => trivial
  · rename_i released
    have no : on.truth = false := by simpa using released
    exact Asks.ask_then (.receive no) fun _ => Asks.ofExcept fun _ _ => trivial

theorem asks_readBusy (band : Band) : (readBusy band).Asks Command.IsQuery fun _ => True := by
  refine Asks.ask_then (.busy band) fun reply => ?_
  refine Asks.seq (Asks.ofExcept fun _ _ => trivial) fun state => ?_
  split <;> trivial

theorem asks_hearsSignal (vfo : Value) : (hearsSignal vfo).Asks Command.IsQuery fun _ => True := by
  refine Asks.seq (asks_bandOf vfo) fun band => ?_
  exact Asks.seq (asks_readBusy band) fun _ => trivial

theorem asks_fillMemory {number : Value} {row : Option Row} (channel : Fin 1000) :
    (fillMemory channel row).Asks (Request.fillMemory number row).May fun _ => True := by
  refine Asks.bind (asks_readMemory (.ask (.memory channel))) fun old _ => ?_
  cases row with
  | none => trivial
  | some row =>
      refine Asks.seq (Asks.ofExcept fun _ _ => trivial) fun draft => ?_
      exact Asks.seq (Asks.ofExcept fun _ _ => trivial) fun changed => asks_parsed (.fill changed)

theorem asks_get (setting : Setting) (vfo : Value) :
    (get setting vfo).Asks Command.IsQuery fun _ => True :=
  Asks.seq (asks_readVfoMemory vfo) fun _ => Asks.ofExcept fun _ _ => trivial

theorem asks_redirected {α : Type} (target : Except RadioFault Value) (f : MemoryRecord → α) :
    (Dialogue.ofExcept (target.mapError .radio) >>= fun vfo =>
      readVfoMemory vfo >>= fun record => pure (f record)).Asks Command.IsQuery fun _ => True :=
  Asks.seq (Asks.ofExcept fun _ _ => trivial) fun vfo =>
    Asks.seq (asks_readVfoMemory vfo) fun _ => trivial

theorem asks_answering {May : Command → Prop} {d : Rig → Dialogue Value} {r : Rig}
    (h : (d r).Asks May fun _ => True) : ((answering d).dialogue r).Asks May fun _ => True := by
  rw [dialogue_answering]
  exact Asks.seq h fun _ => trivial

theorem asks_doing {May : Command → Prop} {d : Rig → Dialogue Unit} {r : Rig}
    (h : (d r).Asks May fun _ => True) : ((doing d).dialogue r).Asks May fun _ => True := by
  rw [dialogue_doing]
  exact Asks.seq h fun _ => trivial

theorem asks_perform (r : Rig) (request : Request) :
    (r.perform request).Asks request.May fun _ => True := by
  cases request with
  | start => trivial
  | finish => trivial
  | session => exact asks_answering (Asks.seq (Asks.ofExcept fun _ _ => trivial) fun _ => trivial)
  | capabilities => trivial
  | name => trivial
  | selectVfo vfo =>
      rw [perform_selectVfo]
      exact Asks.seq (r.asks_selecting vfo) fun _ => trivial
  | selectedVfo =>
      exact asks_answering (Asks.seq (asks_of_queries asks_selectedVfo) fun _ => trivial)
  | setSplit on transmit =>
      rw [perform_setSplit]
      exact Asks.seq (r.asks_splitting on transmit) fun _ => trivial
  | split =>
      rw [perform_split]
      exact Asks.seq (asks_of_queries r.asks_reconciling) fun _ => trivial
  | setFrequency vfo hertz => exact r.asks_change vfo (.frequency .receiving hertz)
  | frequency vfo =>
      exact asks_answering (Asks.seq (asks_of_queries (asks_redirected _ _)) fun _ => trivial)
  | setSplitFrequency vfo hertz => exact r.asks_change vfo (.frequency .transmitting hertz)
  | splitFrequency vfo =>
      exact asks_answering (Asks.seq (asks_of_queries (asks_redirected _ _)) fun _ => trivial)
  | setMode vfo mode => exact r.asks_change vfo (.mode mode)
  | mode vfo =>
      exact asks_answering (Asks.seq (asks_of_queries (asks_redirected _ _)) fun _ => trivial)
  | set which vfo v => exact r.asks_change vfo (.setting which v)
  | get which vfo => exact asks_answering (asks_of_queries (asks_get which vfo))
  | setMemory vfo number => exact asks_doing (asks_setMemory vfo number)
  | memory vfo =>
      exact asks_answering (Asks.seq (asks_of_queries (asks_memory vfo)) fun _ => trivial)
  | setChannel c => exact asks_doing (asks_setChannel c)
  | channel number =>
      rw [perform_channel]
      exact Asks.seq (asks_of_queries (asks_getChannel number)) fun _ => trivial
  | setTransmit on => exact asks_doing (asks_setTransmit on)
  | hearsSignal vfo =>
      exact asks_answering (Asks.seq (asks_of_queries (asks_hearsSignal vfo)) fun _ => trivial)
  | channelOf vfo =>
      exact asks_answering (Asks.seq ((asks_channelOf (.ask .control) vfo).weaken
        (fun _ may => may) fun _ _ => trivial) fun _ => trivial)
  | fillMemory number row =>
      rw [perform_fillMemory]
      refine Asks.seq (Asks.ofExcept fun _ _ => trivial) fun channel => ?_
      exact Asks.seq (asks_fillMemory channel) fun _ => trivial

end Rig

end Transceiver
